/-
  Log lines.

  A log record has a logger, a level and a message, and may have more fields.
  The relay writes the records of its own loggers that reach the threshold of
  the settings, one JSON object each.  Every object names the service and the
  environment; a field of the record may replace these two, but not what the
  record itself says.  A message that is an object is no text but adds its
  fields, which may replace all of that.

  * `threshold` is the threshold of the settings, `Record.read` reads a record;
  * `write` gives the line of a record, if one is written;
  * `startup` and `shutdown` are what the service logs of its own accord.
-/
import ChatRelay.Failure
import ChatRelay.Log.Timestamp
import ChatRelay.Settings
import ChatRelay.Text.Case

namespace ChatRelay.Log

/-! ## Levels -/

/-- The level of an ordinary report. -/
def info : Int := 20

/-- The level of a warning, which is also the threshold where none is set. -/
def warning : Int := 30

/-- The levels that have a name. -/
def levels : List (String × Int) := [
  ("CRITICAL", 50), ("ERROR", 40), ("WARNING", warning), ("INFO", info), ("DEBUG", 10),
  ("NOTSET", 0)]

/-- Second names of levels. -/
def otherNames : List (String × Int) := [("FATAL", 50), ("WARN", warning)]

/-- A level in words. -/
def levelText (n : Int) : String :=
  match levels.find? (·.2 = n) with
  | some l => l.1
  | none => "Level " ++ Number.intText n

/-- The level that a name stands for, in any case. -/
def levelOf (name : String) : Except Failure Int :=
  let name := Text.Case.upper name
  match (levels ++ otherNames).lookup name with
  | some n => .ok n
  | none => .error (.unknownLevel name)

/-- The threshold of the settings. -/
def threshold (s : Settings) : Except Failure Int :=
  if s.debug then .ok 10 else levelOf s.logLevel

/-! ## Records -/

/-- A log record. -/
structure Record where
  logger : String
  level : Int
  message : Json
  extra : Fields := []

/-- The message as a text; an object has none. -/
def Record.text (r : Record) : String :=
  match r.message with
  | .object _ => ""
  | v => v.display

/-- The fields that the message adds. -/
def Record.added (r : Record) : Fields := r.message.fields?.getD []

/-- A record of which each part is given as a value of any sort.  What counts as
    nothing names no logger, and a flag is a level. -/
def Record.read (logger level message extra : Json) : Except Failure Record := do
  if logger.isTruthy && logger.text?.isNone then throw (.misused .logger)
  let level ← match level with
    | .number (.int n) => pure n
    | .bool b => pure (if b then 1 else 0)
    | _ => throw (.misused .level)
  return {
    logger := logger.text?.getD ""
    level
    message
    extra := extra.fields?.getD [] }

/-- The logger above all loggers of the relay. -/
def root : String := "cobalt_hub"

/-- The logger is the one named, or stands below it. -/
def isWithin (top logger : String) : Bool := logger == top || logger.startsWith (top ++ ".")

/-- The threshold of a logger, given that of the relay; a threshold of zero
    leaves it open. -/
def thresholdOf (own : Int) (logger : String) : Int :=
  if isWithin root logger then if own = 0 then warning else own
  else if isWithin "uvicorn" logger then info
  else warning

/-- The names that a field of a record cannot have. -/
def reserved : List String := [
  "name", "msg", "args", "levelname", "levelno", "pathname", "filename", "module", "exc_info",
  "exc_text", "stack_info", "lineno", "funcName", "created", "msecs", "relativeCreated", "thread",
  "threadName", "processName", "process", "message", "asctime"]

/-- The fields that a line shows; a name that begins with an underscore stays
    inside. -/
def shown (extra : Fields) : Fields := extra.filter fun f => !f.1.startsWith "_"

/-- Sets fields one after the other. -/
def putAll (fs added : Fields) : Fields := added.foldl (fun fs f => Json.put f.1 f.2 fs) fs

/-- Gives a field another name, under which no other field is left. -/
def renamed (old new : String) (fs : Fields) : Fields :=
  match Json.get? fs old with
  | some v => (Json.put new v fs).filter (·.1 != old)
  | none => fs

/-- The line of a record, written at a moment.  Level and time are renamed last,
    so that no field of the record takes their place. -/
def line (s : Settings) (seconds : Nat) (r : Record) : Fields :=
  let named : Fields := [
    ("asctime", .text (timestamp seconds)), ("name", .text r.logger),
    ("levelname", .text (levelText r.level)), ("message", .text r.text),
    ("service", .text "cobalt-hub"), ("env", .text s.environment)]
  renamed "asctime" "timestamp" (renamed "levelname" "level"
    (putAll (putAll named r.added) (shown r.extra)))

/-- The line of a record, if it reaches the threshold of its logger and the
    logger is one of the relay. -/
def write (s : Settings) (own : Int) (seconds : Nat) (r : Record) :
    Except Failure (Option Fields) :=
  if r.level < thresholdOf own r.logger then .ok none
  else match r.extra.find? fun f => reserved.contains f.1 with
    | some f => .error (.misused (.logField f.1))
    | none => .ok (if isWithin root r.logger then some (line s seconds r) else none)

/-! ## The service itself -/

/-- What is logged when the service starts. -/
def startup (s : Settings) : Record where
  logger := root
  level := info
  message := .text "Application starting up"
  extra := [("env", .text s.environment), ("connector", .text s.connectorUrl)]

/-- What is logged when the service ends. -/
def shutdown : Record where
  logger := root
  level := info
  message := .text "Application shutting down"

end ChatRelay.Log

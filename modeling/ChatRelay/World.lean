/-
  What the relay does, and what it does it under.

  The relay posts to a connector, waits between attempts, logs events and
  counts.  All of this is one trace, in the order in which it happens.  What
  the outside decides stands in `Conditions`: the settings, the answers of the
  connector, the client that calls it, the clock and the random source.

  * `Event`, `Count`: what is logged and counted, `Entry` an entry of the
    trace;
  * `Relay` are the computations that leave a trace and may fail.
-/
import ChatRelay.Connector.Http
import ChatRelay.Content.Normalize
import ChatRelay.Failure
import ChatRelay.Settings
import ChatRelay.Survey.Compile

namespace ChatRelay

/-! ## The trace -/

/-- What kind of message was built. -/
inductive MessageKind where
  | text
  | survey
  | splash
deriving DecidableEq

/-- The name of a kind. -/
def MessageKind.name : MessageKind → String
  | text => "text"
  | survey => "survey"
  | splash => "splash"

/-- How the call of a tool ended. -/
inductive ToolStatus where
  | success
  | missingSession
  | invalidInput
  | failure
deriving DecidableEq

/-- The name of a status. -/
def ToolStatus.name : ToolStatus → String
  | success => "success"
  | missingSession => "missing_session"
  | invalidInput => "invalid_input"
  | failure => "failure"

/-- What is counted. -/
inductive Count where
  | built (kind : MessageKind)
  | dropped (reason : String) (n : Nat)
  | delivered (path : String) (success : Bool)
  | triggered (path : String)
  | toolCalled (name : String) (status : ToolStatus)
  | requested (method endpoint : String) (status : Nat)
deriving DecidableEq

/-- The name of an outcome. -/
def outcomeName (success : Bool) : String := if success then "success" else "failure"

/-- What is logged. -/
inductive Event where
  | delivered (session : Json) (path : String) (millis : Nat)
  | failed (session : Json) (path : String) (u : Undelivered)
  | received (session : Json) (path node : String) (query : Json)
deriving DecidableEq

/-- An entry of the trace. -/
inductive Entry where
  | call (c : Call)
  | pause (seconds : Number)
  | event (e : Event)
  | count (c : Count)
deriving DecidableEq

/-! ## Computations -/

/-- What the relay works under. -/
structure Conditions where
  settings : Settings
  connector : Connector
  /-- where in its range a random delay falls, by the number of the attempt -/
  jitter : Nat → Number
  /-- milliseconds of the clock -/
  millis : Nat
  /-- milliseconds that a delivery or a request takes -/
  elapsed : Nat
  /-- a random identifier: groups of hexadecimal digits between dashes -/
  identifier : String
  limits : Limits := {}
  /-- what calls the connector -/
  http : HttpClient := .usual limits

/-- The stamp of a survey made under the conditions: the first eight digits of
    the identifier. -/
def Conditions.stamp (c : Conditions) : Survey.Stamp where
  millis := c.millis
  random := String.ofList ((c.identifier.toList.filter (· != '-')).take 8)

/-- What has happened: the number of attempts that reached the connector, and
    the trace. -/
structure History where
  sent : Nat := 0
  trace : List Entry := []

/-- A computation that leaves a trace and may fail. -/
abbrev Relay := ExceptT Failure (StateM History)

namespace Relay

/-- Adds an entry to the trace. -/
def record (e : Entry) : Relay Unit := modify fun h => { h with trace := h.trace ++ [e] }

/-- Adds to a count. -/
def count (c : Count) : Relay Unit := record (.count c)

/-- Logs an event. -/
def log (e : Event) : Relay Unit := record (.event e)

/-- The counts of what was left out. -/
def dropCounts (d : Content.Drops) : List Count :=
  [.dropped "malformed" d.malformed, .dropped "unknown_kind" d.unknownKind,
    .dropped "empty" d.empty].filter fun
    | .dropped _ n => n != 0
    | _ => true

/-- Reads content and counts what is left out, also when the reading ends in an
    error. -/
def ofContent {α : Type} (m : Content.Normalizing α) : Relay α := do
  let (result, drops) := m.run.run {}
  for c in dropCounts drops do count c
  match result with
  | .ok a => return a
  | .error e => throw (.content e)

end Relay

end ChatRelay

/-
  State flags sent alongside a message.

  Twelve flags have a meaning to the front end.  Each may be given under its
  own name or under one with underscores; on the wire it has its own name.
  Other fields go along as they are, null for a number that is not finite.  A
  flag that is null counts as unset.

  * `Meta` holds what was given, `Meta.check` reads it, `Meta.wire` writes it;
  * `Meta.isWritable` bounds the levels of the other fields.
-/
import ChatRelay.Schema.Reading

namespace ChatRelay

open Schema

/-- The flags that are set, by their names on the wire, and the other
    fields. -/
structure Meta where
  flags : List (String × Bool) := []
  others : Fields := []
deriving DecidableEq

namespace Meta

/-- The flags: the name on the wire and the other name. -/
def flagNames : List (String × String) := [
  ("chatEnded", "chat_ended"),
  ("startSurvey", "start_survey"),
  ("liveAgentRequested", "live_agent_requested"),
  ("liveAgentInQueue", "live_agent_in_queue"),
  ("lockInput", "lock_input"),
  ("liveAgentUnavailable", "live_agent_unavailable"),
  ("livechatIssue", "livechat_issue"),
  ("getLocation", "get_location"),
  ("emailRequested", "email_requested"),
  ("emailSent", "email_sent"),
  ("agentTyping", "agent_typing"),
  ("applePay", "apple_pay")]

/-- A flag, if it is set. -/
def flagCheck (names : String × String) (fs : Fields) : Reading (Option Bool) :=
  fieldOr [names.1, names.2] none (orNull asFlag) fs

/-- The flags that are set. -/
def flagsCheck (fs : Fields) : List (String × String) → Reading (List (String × Bool))
  | [] => .fits []
  | names :: rest =>
    (fun b more => (b.map fun b => (names.1, b)).toList ++ more)
      <$> flagCheck names fs <*> flagsCheck fs rest

/-- The names under which the flags are read. -/
def readNames (fs : Fields) : List String :=
  flagNames.filterMap fun names => (named? [names.1, names.2] fs).map (·.1)

/-- The fields that no flag is read from. -/
def othersOf (fs : Fields) : Fields := fs.filter fun f => !(readNames fs).contains f.1

/-- Reads the flags and the other fields. -/
def check : Json → Reading Meta :=
  asRecord fun fs => (fun flags => { flags, others := othersOf fs }) <$> flagsCheck fs flagNames

/-- The flags that are set and the other fields that are not null. -/
def wire (m : Meta) : Fields :=
  m.flags.map (fun f => (f.1, .bool f.2)) ++
    Json.fieldsFinitePart (m.others.filter fun f => f.2 != .null)

/-- No other field has too many levels. -/
def isWritable (m : Meta) (limits : Limits) : Bool := Json.fieldsWithin m.others limits.levels

/-- What goes along with a message: nothing if there is no field. -/
def wire? (m : Meta) : Option Fields := if m.wire.isEmpty then none else some m.wire

end Meta

/-- The flags given with a message: a value of any sort, or read already. -/
inductive MetaInput where
  | raw (v : Json)
  | read (m : Meta)

/-- The flags that are given; null stands for none. -/
def MetaInput.flags : MetaInput → Reading Meta
  | raw .null => .fits {}
  | raw v => Meta.check v
  | read m => .fits m

end ChatRelay

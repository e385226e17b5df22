/-
  Building messages from parameters of any sort.

  Parameters come from outside and may be anything.  A text that counts as
  nothing is the empty one; of what does not fit, the content is reported
  before the session.  Every message built is counted.

  * `buildMessage`, `buildSurvey`, `buildHtml` and `buildEscalation` build the
    messages of the four sorts;
  * `readSession` and `readText` read the parameters they share, `readCleanText`
    cleans a text.
-/
import ChatRelay.Envelope.Basic

namespace ChatRelay

open Schema

/-- The value that fits, or the failure that lists the faults. -/
def Schema.Reading.get {α : Type} : Reading α → Except Failure α
  | fits a => .ok a
  | faulty fs => .error (.invalid fs)

/-- The session that a message is for. -/
def readSession (session : Json) : Reading String := (asText session).under (.key "session_id")

/-- A message text; what counts as nothing is the empty one. -/
def readText (v : Json) : Except Failure String :=
  match v.textOrEmpty? with
  | some s => .ok s
  | none => .error (.misused .messageText)

/-- A limit to the characters of a text: a count, or null for none.  A number
    that is not whole limits nothing that it is not below. -/
def readLimit (s : String) : Json → Except Failure (Option Int)
  | .null => .ok none
  | .bool b => .ok (some (if b then 1 else 0))
  | .number (.int n) => .ok (some n)
  | .number x => if x.isBelow (.int s.length) then .error (.misused .number) else .ok none
  | _ => .error (.misused .number)

/-- A message text without stray controls, cut to a limit. -/
def readCleanText (content limit : Json) : Except Failure String := do
  let s ← readText content
  if s.isEmpty then return ""
  return Text.cleanWithin (← readLimit s limit) s

/-- Counts a message. -/
def built (e : Envelope) : Relay Envelope := do
  Relay.count (.built e.kind)
  return e

/-- The session and the participant of a message. -/
def readParties (session participant : Json) : Reading (String × Option String) :=
  Prod.mk <$> readSession session <*> (orNull asText participant).under (.key "participant")

/-- The flags that go along with a message, which have to be writable. -/
def writeFlags (m : Meta) (limits : Limits) : Except Failure (Option Fields) :=
  if m.isWritable limits then .ok m.wire? else .error .tooManyLevels

/-- Builds the message that carries content. -/
def buildMessage (session : Json) (b : Content.Bundle) (flags : MetaInput) (participant : Json)
    (limits : Limits := {}) : Relay Envelope := do
  let flags ← writeFlags (← flags.flags.get) limits
  let (session, participant) ← (readParties session participant).get
  built (.ofBundle session b flags participant)

/-- The survey item for a session of any sort, its title of any sort. -/
def readSurveyItem (session : Json) (stamp : Survey.Stamp) (title : Json)
    (pages : List Survey.Page) : Except Failure Survey.Item := do
  let title ← ((asText title).under (.key "title")).get
  return Survey.item session.display stamp title pages

/-- Builds the message that carries a survey. -/
def buildSurvey (c : Conditions) (session title : Json) (pages : List Survey.Page) :
    Relay Envelope := do
  let item ← readSurveyItem session c.stamp title pages
  let session ← (readSession session).get
  built (.ofSurvey session c.stamp item.title pages)

/-- Builds the message that shows HTML. -/
def buildHtml (session html : Json) : Relay Envelope := do
  let html ← readText html
  let session ← (readSession session).get
  built (.ofHtml session html)

/-- Builds the message that asks for a live agent. -/
def buildEscalation (session text reason : Json) (limits : Limits := {}) : Relay Envelope := do
  let text ← readText text
  let _ ← writeFlags (Envelope.escalationMeta reason) limits
  let session ← (readSession session).get
  built (.ofEscalation session text reason)

end ChatRelay

/-
  Messages as they are posted to the connector.

  An envelope carries the content of one message to one session, with a plain
  text for front ends that show nothing else.  A splash stands at the top of
  the envelope, its parts beside the content.

  * `Envelope.ofBundle`, `Envelope.ofSurvey`, `Envelope.ofHtml` and
    `Envelope.ofEscalation` make envelopes;
  * `Envelope.wire` is the body that is posted.
-/
import ChatRelay.Content.Bundle
import ChatRelay.Envelope.Meta
import ChatRelay.World

namespace ChatRelay

/-- Rich content of a message. -/
inductive RichContent where
  | item (i : Content.Item)
  | survey (s : Survey.Item)
deriving DecidableEq

/-- Rich content on the wire. -/
def RichContent.wire : RichContent → Json
  | item i => i.wire
  | survey s => s.wire

/-- A message to a session. -/
structure Envelope where
  session : String
  kind : MessageKind
  plainText : String
  text : Option String := none
  content : List RichContent := []
  flags : Option Fields := none
  participant : Option String := none
  title : Option String := none
  buttons : Option (List Content.Button) := none
deriving DecidableEq

namespace Envelope

/-- The plain text of a message without any. -/
def placeholder : String := "Rich Content"

/-- Who speaks in messages of the relay itself. -/
def bot : String := "bot"

/-- The text of an escalation without any. -/
def escalationText : String := "Connecting you to a live agent..."

/-- The plain text of a message: of its first text item that has one, of its
    splash, or the placeholder. -/
def plainTextOf (b : Content.Bundle) : String :=
  match b.plainText?, b.splash with
  | some s, _ => s
  | none, some splash => if splash.text.isEmpty then placeholder else splash.text
  | none, none => placeholder

/-- The message that carries content. -/
def ofBundle (session : String) (b : Content.Bundle) (flags : Option Fields)
    (participant : Option String) : Envelope where
  session
  kind := if b.splash.isSome then .splash else .text
  plainText := plainTextOf b
  text := b.splash.map (·.text)
  content := b.items.map .item
  flags
  participant
  title := b.splash.map (·.title)
  buttons := b.splash.map (·.buttons)

/-- The message that carries a survey. -/
def ofSurvey (session : String) (stamp : Survey.Stamp) (title : String)
    (pages : List Survey.Page) : Envelope where
  session
  kind := .survey
  plainText := title
  content := [.survey (Survey.item session stamp title pages)]
  flags := some Survey.expiration

/-- The message that shows HTML. -/
def ofHtml (session html : String) : Envelope where
  session
  kind := .text
  plainText := Text.stripTags (Text.clean html)
  text := some (Text.clean html)
  participant := some bot

/-- The flags of an escalation, with its reason if there is one. -/
def escalationMeta (reason : Json) : Meta where
  flags := [("liveAgentRequested", true)]
  others := if reason.isTruthy then [("escalationReason", reason)] else []

/-- The message that asks for a live agent. -/
def ofEscalation (session text : String) (reason : Json) : Envelope :=
  let cleaned := Text.clean text
  let shown := if cleaned.isEmpty then escalationText else cleaned
  { session
    kind := .text
    plainText := shown
    text := some shown
    flags := some (escalationMeta reason).wire
    participant := some bot }

/-- The body that is posted. -/
def wire (e : Envelope) : Fields :=
  present [
    ("sessionId", some (.text e.session)),
    ("type", some (.text e.kind.name)),
    ("plainText", some (.text e.plainText)),
    ("text", e.text.map .text),
    ("richContent", some (.array (e.content.map RichContent.wire))),
    ("meta", e.flags.map .object),
    ("participant", e.participant.map .text),
    ("title", e.title.map .text),
    ("buttons", e.buttons.map fun bs => .array (bs.map Content.Button.wire))]

end Envelope

end ChatRelay

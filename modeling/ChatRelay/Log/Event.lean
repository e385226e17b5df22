/-
  Events as log records.

  An event has a type and a status, and may have a session, a target, a
  duration and a payload.  It is a report if its status is success, and a
  warning otherwise.

  * `Notice` is an event as it is logged, `Notice.fields` its fields;
  * `Event.notice` is the notice of an event of the relay.
-/
import ChatRelay.Log.Line
import ChatRelay.World

namespace ChatRelay

namespace Log

/-- An event as it is logged. -/
structure Notice where
  type : Json
  session : Json := .null
  status : Json := .text (outcomeName true)
  target : Json := .null
  millis : Json := .null
  payload : Json := .null
deriving DecidableEq

namespace Notice

/-- The fields of a notice; a payload that counts as nothing is the empty
    one. -/
def fields (n : Notice) : Fields := [
  ("event_type", n.type),
  ("session_id", n.session),
  ("status", n.status),
  ("target", n.target),
  ("latency_ms", n.millis),
  ("payload", if n.payload.isTruthy then n.payload else .object [])]

/-- The level of a notice. -/
def level (n : Notice) : Int :=
  if n.status = .text (outcomeName true) then info else warning

/-- The log record of a notice. -/
def record (n : Notice) : Record where
  logger := root ++ ".events"
  level := n.level
  message := n.type
  extra := n.fields

end Notice

end Log

/-- The status that a failed delivery was answered with, or null. -/
def Undelivered.statusJson (u : Undelivered) : Json :=
  match u.status? with
  | some code => .int code
  | none => .null

/-- The notice of an event. -/
def Event.notice : Event → Log.Notice
  | delivered session path millis => {
      type := .text "message_delivered"
      session
      target := .text path
      millis := .int millis }
  | failed session path u => {
      type := .text "delivery_failed"
      session
      status := .text (outcomeName false)
      target := .text path
      payload := .object [("error", .text u.message), ("status_code", u.statusJson)] }
  | received session path node query => {
      type := .text "webhook_received"
      session
      target := .text path
      payload := .object [("node", .text node), ("query", query)] }

end ChatRelay

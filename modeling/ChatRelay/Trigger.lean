/-
  Events that trigger a workflow.

  Each trigger has a path under which it is called and a node that emits what
  it was called with, unchanged, as its only record.

  * `nodes` lists the triggers;
  * `TriggerEvent.receive` counts and logs a call and gives what the node
    emits.
-/
import ChatRelay.Session
import ChatRelay.World

namespace ChatRelay

/-- The triggers: the path and the node. -/
def nodes : List (String × String) := [
  ("cobalt-start", "Cobalt Trigger"),
  ("timeout", "Cobalt Timeout Trigger"),
  ("end-chat", "Cobalt End Chat Trigger"),
  ("live-agent-queue", "Cobalt Live Agent Queue Trigger"),
  ("live-agent-active", "Cobalt Live Agent Active Trigger"),
  ("analytics", "Cobalt Analytics Trigger"),
  ("email-transcript", "Cobalt Email Transcript Trigger"),
  ("transcript", "Cobalt Transcript Trigger"),
  ("greeting", "Cobalt Greeting Trigger"),
  ("llm", "Cobalt LLM Trigger")]

/-- The node of the trigger with a path. -/
def triggerNode? (path : String) : Option String := nodes.lookup path

/-- A call of a trigger. -/
structure TriggerEvent where
  path : String
  body : Json
  /-- the names and values of the query -/
  query : Json := .object []

namespace TriggerEvent

/-- The node of the trigger. -/
def node? (e : TriggerEvent) : Option String := triggerNode? e.path

/-- The session that the body names, null if it names none. -/
def session (e : TriggerEvent) : Json :=
  match e.body with
  | .object fs => (Json.get? fs Session.idField).getD .null
  | _ => .null

/-- What the node emits: one list with one record, which wraps the body. -/
def workflowData (e : TriggerEvent) : Json :=
  .array [.array [.object [("json", e.body)]]]

/-- Counts and logs the call; the path is counted before it is looked up. -/
def receive (e : TriggerEvent) : Relay Json := do
  Relay.count (.triggered e.path)
  match e.node? with
  | none => throw (.misused (.trigger e.path))
  | some node =>
    Relay.log (.received e.session e.path node e.query)
    return e.workflowData

end TriggerEvent

end ChatRelay

/-
  Calling a tool.

  A language model calls a tool and reads the text that comes back.  What the
  model can do something about is told in that text: a missing session,
  arguments that do not fit, a message that is not delivered.

  * `Tool.perform` does what the tool is for;
  * `Tool.execute` calls a tool by its name and counts the call.
-/
import ChatRelay.Connector.Delivery
import ChatRelay.Control
import ChatRelay.Tool.Definition

namespace ChatRelay.Tool

/-- What the model reads when there is no session. -/
def missingSession : String :=
  "Error: Could not determine Session ID. " ++
  "Please ensure the Session ID parameter is set in the tool node."

/-- What a tool sends. -/
def cargo : Tool → String
  | richContent => "rich content"
  | html => "HTML content"
  | escalate | requestAgent => "escalation request"

/-- What the model reads when the tool did what it is for. -/
def confirmation : Tool → String
  | richContent => "Rich content sent."
  | html => "HTML content sent successfully to the user."
  | escalate =>
    "Escalation request sent successfully. The user has been notified. " ++
    "Do not generate any further text response."
  | requestAgent => "Escalation requested successfully. A live agent has been notified."

/-- Sends a message. -/
def sendEnvelope (c : Conditions) (client : Client) (e : Envelope) : Relay Unit := do
  let _ ← deliver c client messagePath (.object e.wire) (.text e.session)

/-- The text argument of a name, or null. -/
def argument (fs : Fields) (name : String) : Json := (Json.get? fs name).getD .null

/-- Does what the tool is for. -/
def perform (c : Conditions) (client : Client) (session args : Json) (t : Tool) : Relay Unit := do
  match t with
  | richContent =>
    let fs ← (richContentForm.read args).get
    let bundle ← Relay.ofContent (Content.Bundle.ofRecords .lenient [.object fs])
    sendEnvelope c client
      (← buildMessage session bundle (.raw .null) (.text Envelope.bot) c.limits)
  | html =>
    let fs ← (htmlForm.read args).get
    sendEnvelope c client (← buildHtml session (argument fs "html"))
  | escalate =>
    let fs ← (escalationForm.read args).get
    sendEnvelope c client
      (← buildEscalation session (argument fs "text") (argument fs "reason") c.limits)
  | requestAgent =>
    let raw := match args with
      | .object fs => argument fs "input"
      | v => v
    let request ← datastoreEscalation session raw c.limits
    let _ ← deliver c client (statePath request.path) (.object request.body)
      (.text request.session)

/-- Counts the call of a tool and gives what the model reads. -/
def finish (t : Tool) (status : ToolStatus) (text : String) : Relay String := do
  Relay.count (.toolCalled t.name status)
  return text

/-- Calls a tool for a session. -/
def call (c : Conditions) (client : Client) (session args : Json) (t : Tool) : Relay String := do
  if !session.isTruthy then finish t .missingSession missingSession
  else
    let args := if args.isTruthy then args else .object []
    let failed ← (try
        t.perform c client session args
        return none
      catch
        | .invalid faults => return some (ToolStatus.invalidInput,
            s!"Error: invalid input for {t.name}: {faults.length} validation error(s)")
        | .undelivered u => return some (ToolStatus.failure,
            s!"Error sending {t.cargo} to {client.address}: {u.message}")
        | f => throw f : Relay (Option (ToolStatus × String)))
    match failed with
    | some (status, text) => finish t status text
    | none => finish t .success t.confirmation

/-- The tool of a name given as a value of any sort; what has parts is no name. -/
def named (name : Json) : Except Failure Tool :=
  match name with
  | .array _ | .object _ => .error (.misused .tool)
  | v => match v.text?.bind ofName? with
    | some t => .ok t
    | none => .error (.unknownTool v)

/-- Calls the tool of a name. -/
def execute (c : Conditions) (client : Client) (name session args : Json) : Relay String := do
  (← named name).call c client session args

end ChatRelay.Tool

/-
  Changes of the state of a session.

  A session is handed to the bot or to an agent, ended, mailed, or given data;
  asking for a live agent is data as well.  Mails and data carry a payload,
  which is an object or the text of one.

  * `parseObject` reads a payload, `escalationReason` the reason in the input
    of a tool;
  * `ControlRequest.build` makes a request, `ControlRequest.body` is what is
    posted.
-/
import ChatRelay.Envelope.Build

namespace ChatRelay

/-! ## Payloads -/

/-- What a value is, in one word. -/
def Json.sortName : Json → String
  | .null => "NoneType"
  | .bool _ => "bool"
  | .number (.int _) => "int"
  | .number (.real _) => "float"
  | .text _ => "str"
  | .array _ => "list"
  | .object _ => "dict"

/-- Reads the payload `field`: an object, or the text of one, or nothing. -/
def parseObject (field value : Json) (limits : Limits := {}) : Except Failure Fields :=
  match value with
  | .null => .ok []
  | .object fs => .ok fs
  | .text s =>
    if s.isEmpty then .ok []
    else match Json.read limits.payload s with
      | .ok (.object fs) => .ok fs
      | .ok _ => .error (.malformed field .notObject)
      | .error (.flawed f p) => .error (.malformed field (.unread f p))
      | .error (.numeral e) => .error (.numeral e)
      | .error .deep => .error .tooDeep
      | .error .half => .error (.incident .half)
  | v => .error (.malformed field (.unsupported v.sortName))

/-- Reads the payload `field`; what is malformed counts as empty. -/
def parseObjectLeniently (field value : Json) (limits : Limits := {}) : Except Failure Fields :=
  match parseObject field value limits with
  | .error (.malformed ..) => .ok []
  | result => result

/-! ## Requests -/

/-- What may be asked of a session. -/
inductive Operation where
  | bot
  | agent
  | finish
  | email
  | datastore
  | liveAgentRequested
deriving DecidableEq

namespace Operation

/-- The name of an operation. -/
def name : Operation → String
  | bot => "bot"
  | agent => "agent"
  | finish => "end"
  | email => "email"
  | datastore => "datastore"
  | liveAgentRequested => "liveAgentRequested"

/-- The operations by their names. -/
def names : List (String × Operation) :=
  [bot, agent, finish, email, datastore, liveAgentRequested].map fun o => (o.name, o)

/-- The operation whose path a request is posted to. -/
def target : Operation → Operation
  | liveAgentRequested => datastore
  | o => o

/-- The operation of a name, given as a value of any sort. -/
def read (v : Json) : Except Failure Operation :=
  match v.text?.bind fun s => names.lookup s with
  | some o => .ok o
  | none => .error (.unknownOperation v)

end Operation

/-- A request to change the state of a session. -/
structure ControlRequest where
  operation : Operation
  session : String
  payload : Option Fields
deriving DecidableEq

namespace ControlRequest

/-- The name under which the request is posted. -/
def path (r : ControlRequest) : String := r.operation.target.name

/-- What is posted. -/
def body (r : ControlRequest) : Fields :=
  present [("sessionId", some (.text r.session)), ("payload", r.payload.map .object)]

/-- The payload of an operation; `value` is the flag of a request for a live
    agent. -/
def payloadFor (o : Operation) (payload value : Json) (limits : Limits) :
    Except Failure (Option Fields) :=
  match o with
  | .liveAgentRequested => .ok (some [("liveAgentRequested", .bool value.isTruthy)])
  | .email | .datastore => (parseObjectLeniently (.text "payload") payload limits).map some
  | .bot | .agent | .finish => .ok none

/-- Makes a request from parameters of any sort. -/
def build (operation session payload value : Json) (limits : Limits := {}) :
    Except Failure ControlRequest := do
  let operation ← Operation.read operation
  let payload ← payloadFor operation payload value limits
  let session ← (readSession session).get
  return { operation, session, payload }

end ControlRequest

/-! ## Escalation -/

/-- The reason of an escalation that gives none. -/
def defaultReason : String := "User requested escalation"

/-- The reason in the input of a tool: the field `reason` of a JSON object, or
    the text itself if it is no JSON. -/
def escalationReason (raw : Json) (limits : Limits := {}) : Except Failure String :=
  if !raw.isTruthy then .ok defaultReason
  else match raw with
    | .text s =>
      if (Text.trimBlank s).isEmpty then .ok defaultReason
      else match Json.read limits.reason s with
        | .error (.flawed ..) => .ok s
        | .error (.numeral e) => .error (.numeral e)
        | .error .deep => .error .tooDeep
        | .error .half => .error (.incident .half)
        | .ok (.object fs) =>
          let reason := (Json.get? fs "reason").getD .null
          .ok (if reason.isTruthy then reason.display else defaultReason)
        | .ok _ => .ok defaultReason
    | _ => .error (.misused .trimmable)

/-- The request that keeps an escalation in the data of a session. -/
def datastoreEscalation (session raw : Json) (limits : Limits := {}) :
    Except Failure ControlRequest := do
  let reason ← escalationReason raw limits
  let session ← (readSession session).get
  return {
    operation := .datastore
    session
    payload := some [("liveAgentRequested", .bool true), ("escalationReason", .text reason)] }

end ChatRelay

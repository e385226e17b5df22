/-
  Answering requests.

  Every route answers with a value; null stands for a number that is not
  finite.  A failure of the relay is answered by its category, a complaint
  about a value in a batch as a bad request; any other failure leaves the
  request without an answer, and so do faults that cannot be shown.

  * `Collapse` is why a request gets no answer, `Serving` the computations
    that may end so;
  * `Failure.answer?` answers a failure, `batchAnswer`, `toolAnswer` and
    `webhookAnswer` the requests that do something;
  * `Route.serve` answers the requests of a route.
-/
import ChatRelay.Gateway.Form
import ChatRelay.Gateway.Route
import ChatRelay.Gateway.Submission
import ChatRelay.Metric
import ChatRelay.Tool.Execute
import ChatRelay.Trigger

namespace ChatRelay.Gateway

open Schema

/-! ## Requests without an answer -/

/-- Why a request gets no answer. -/
inductive Collapse where
  /-- a time limit ran out inside -/
  | overdue
  | crash
deriving DecidableEq

/-- Computations that leave a trace and may end without an answer. -/
abbrev Serving := ExceptT Collapse (StateM History)

/-! ## Failures -/

/-- The status for a category. -/
def categoryStatus : Category → Nat
  | .validation => 400
  | .content => 422
  | .network | .connector => 502
  | .unknown => 500

/-- Answers a failure by its category. -/
def Failure.answer? (f : Failure) : Option Response :=
  f.category?.map fun k => Response.json (categoryStatus k) (.object [
    ("detail", .text f.message), ("category", .text k.name)])

/-- How a failure without a category ends a request. -/
def Failure.collapse : Failure → Collapse
  | .incident i => if i.sort = .timeout then .overdue else .crash
  | _ => .crash

/-- Answers with what a computation of the relay gives, as far as it can be
    written: what stands below the first `frame` levels may be a value of any
    shape, but not of any number of levels. -/
def Serving.ofRelay (limits : Limits) (frame : Nat) (m : Relay Response) : Serving Response := do
  match ← ExceptT.lift m.run with
  | .ok r =>
    if r.isWithin (frame + limits.levels) then return r.finitePart else throw .crash
  | .error f => match Failure.answer? f with
    | some r => return r
    | none => throw (Failure.collapse f)

/-! ## Requests that do something -/

/-- Works off a batch; a complaint about a value is a bad request. -/
def batchAnswer (c : Conditions) (job : Job) (b : BatchRequest) : Relay Response := do
  try
    let results ← runBatch c (b.context c.settings) job b.records
    return Response.json 200 (.object [
      ("results", .array (results.map .object)), ("count", .int results.length)])
  catch f =>
    match f.complaint? with
    | some complaint => return Response.detail 400 complaint
    | none => throw f

/-- Calls a tool. -/
def toolAnswer (c : Conditions) (name : String) (i : Invocation) : Relay Response := do
  if (Tool.ofName? name).isNone then return Response.detail 404 s!"Unknown tool: {name}"
  else
    let text ← Tool.execute c (i.client c.settings) (.text name) (.ofText? i.session)
      (.object i.arguments)
    return Response.json 200 (.object [("tool", .text name), ("response", .text text)])

/-- What a trigger is called with: nothing is the empty object, and what is no
    JSON is a text. -/
def eventBody (limits : Limits) (octets : List UInt8) : Except Failure Json :=
  if octets.isEmpty then .ok (.object [])
  else match Json.readBytes limits.event octets with
    | .ok v => .ok v
    | .error (.unread .deep) => .error .tooDeep
    | .error (.unread .half) => .error (.incident .half)
    | .error _ => .ok (.text (Text.Utf8.decodeLossy octets))

/-- Receives the call of a trigger. -/
def webhookAnswer (path : String) (octets : List UInt8) (query : Json) (limits : Limits := {}) :
    Relay Response := do
  match triggerNode? path with
  | none => return Response.detail 404 s!"Unknown trigger: {path}"
  | some node =>
    let event : TriggerEvent := { path, body := ← eventBody limits octets, query }
    let data ← event.receive
    return Response.json 200 (.object [
      ("status", .text "received"), ("trigger", .text node), ("workflowData", data)])

/-! ## Reports -/

/-- The service is there. -/
def healthReport : Response :=
  Response.json 200 (.object [
    ("status", .text "ok"), ("service", .text "cobalt-hub"), ("version", .text "1.0.0")])

/-- The service runs. -/
def liveReport : Response := Response.json 200 (.object [("status", .text "alive")])

/-- What the service works with. -/
def readyReport (s : Settings) : Response :=
  Response.json 200 (.object [
    ("status", .text "ready"),
    ("connector", .text (normalizeAddress s.connectorUrl)),
    ("content_policy", .text s.policy.name)])

/-- The metrics that the service publishes. -/
def metricsReport : Response where
  status := 200
  headers := [(Response.typeField, "text/plain; version=0.0.4; charset=utf-8")]
  body := .families Family.listing

/-! ## Routes -/

/-- Answers with what a form asks for, or with its faults. -/
def serveForm {α : Type} (limits : Limits) (form : Submission → Reading α)
    (answer : α → Relay Response) (s : Submission) : Serving Response :=
  match form s with
  | .fits a => Serving.ofRelay limits 3 (answer a)
  | .faulty fs => match faultsAnswer? limits s fs with
    | some response => pure response
    | none => throw .crash

/-- Answers with what is done with a submission, unless it is not read. -/
def serveSubmission (limits : Limits) (r : Request) (serve : Submission → Serving Response) :
    Serving Response :=
  match r.submission limits with
  | .ok s => serve s
  | .error flaw => pure flaw.answer

/-- What is submitted, the answers to its questions in one place; none if the
    answers of one cannot be gone through. -/
def Submission.unwrapped? : Submission → Option Submission
  | .value v => (unwrappedBody? v).map .value
  | s => some s

/-- What is submitted for a message, ready to be read. -/
def Submission.prepared? (m : MessageJob) (s : Submission) : Option Submission :=
  if m = .survey then s.unwrapped? else some s

/-- Answers what is submitted for messages. -/
def serveMessages (c : Conditions) (m : MessageJob) (s : Submission) : Serving Response :=
  match s.prepared? m with
  | some s => serveForm c.limits (Submission.read (messageForm m)) (batchAnswer c (.message m)) s
  | none => throw .crash

/-- Reads a change of state: the operation stands in the path, the rest is
    submitted. -/
def readControl (operation : String) (s : Submission) : Reading BatchRequest :=
  (fun _ b => b)
    <$> ((asWord Operation.names (.text operation)).under (.key "operation")).under (.key "path")
    <*> s.read (controlForm operation)

/-- Answers a request of a route. -/
def Route.serve (c : Conditions) (r : Request) : Route → Serving Response
  | .webhook path =>
    Serving.ofRelay c.limits 4 (webhookAnswer path r.body (.object r.target.fields) c.limits)
  | .message m => serveSubmission c.limits r (serveMessages c m)
  | .control operation =>
    serveSubmission c.limits r
      (serveForm c.limits (readControl operation) (batchAnswer c .control))
  | .invoke name =>
    serveSubmission c.limits r
      (serveForm c.limits (Submission.read Invocation.check) (toolAnswer c name))
  | .tools => pure (Response.json 200 (.array Tool.definitions))
  | .health => pure healthReport
  | .live => pure liveReport
  | .ready => pure (readyReport c.settings)
  | .metrics => pure metricsReport

end ChatRelay.Gateway

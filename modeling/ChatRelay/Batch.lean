/-
  Batches: one message or request for each input record.

  The records of a batch are worked off in order.  Each finds its own session;
  a record without a usable one gives an error record if the batch goes on
  after failures, and ends the batch otherwise.  A message that is not
  delivered gives an error record in either case, a request for a change of
  state only if the batch goes on.

  * `Job` is what a batch does, `Params` and `Context` what it does it with;
  * `Job.run` works off one record, `runBatch` a batch.
-/
import ChatRelay.Connector.Delivery
import ChatRelay.Control
import ChatRelay.Session

namespace ChatRelay

/-- The messages that a batch can send. -/
inductive MessageJob where
  | reply
  | survey
  | html
  | escalation
deriving DecidableEq

/-- What a batch does with every record: it sends a message or changes the
    state of the session. -/
inductive Job where
  | message (m : MessageJob)
  | control
deriving DecidableEq

/-- The jobs by their names. -/
def Job.names : List (String × Job) :=
  [("reply", .message .reply), ("survey", .message .survey), ("html", .message .html),
    ("escalation", .message .escalation), ("control", .control)]

/-- Questions given for a survey: values of any sort, or read already. -/
inductive QuestionInput where
  | raw (v : Json)
  | read (qs : List Survey.Question)

/-- The parameters of a job; each job has its own. -/
structure Params where
  content : Json := .null
  flags : MetaInput := .raw .null
  title : Json := .null
  questions : QuestionInput := .raw .null
  completionMessage : Json := .null
  completionDescription : Json := .null
  html : Json := .null
  text : Json := .null
  reason : Json := .null
  operation : Json := .text Operation.bot.name
  payload : Json := .null
  value : Json := .bool true

/-- Parameters given as fields. -/
def Params.ofFields (fs : Fields) : Params :=
  let given (name : String) : Json := (Json.get? fs name).getD .null
  { content := given "content"
    flags := .raw (given "meta")
    title := given "title"
    questions := .raw (given "questions")
    completionMessage := given "completion_message"
    completionDescription := given "completion_description"
    html := given "html"
    text := given "text"
    reason := given "reason"
    operation := (Json.get? fs "operation").getD (.text Operation.bot.name)
    payload := given "payload"
    value := (Json.get? fs "value").getD (.bool true) }

/-- What every record of a batch shares. -/
structure Context where
  client : Client
  session : Json := .null
  outputs : Json := .null
  continueOnFail : Bool := false
  policy : Policy := .lenient
  params : Params := {}

/-! ## One record -/

/-- The session of a record. -/
def Context.resolveSession (ctx : Context) (s : Settings) (record : Json) :
    Except Failure String := do
  let id ← Session.resolve ctx.session ctx.outputs record (some s.triggerNode)
  Session.validate id
  return id

/-- The text, or the empty one for a value that counts as nothing. -/
def orEmpty (v : Json) : Json := if v.isTruthy then v else .text ""

/-- The elements of a parameter, none for one that counts as nothing. -/
def listed (v : Json) : Except Failure (List Json) :=
  match v.elementsOrNone? with
  | some vs => .ok vs
  | none => .error (.misused .sequence)

/-- The pages of the survey that the parameters describe. -/
def Params.pages (p : Params) : Except Failure (List Survey.Page) := do
  let message := orEmpty p.completionMessage
  let description := orEmpty p.completionDescription
  match p.questions with
  | .raw v => Survey.readPages (← listed v) message description
  | .read qs =>
    let (message, description) ← (Survey.readCompletion message description).get
    return Survey.compile qs message description

/-- Builds the message that a job sends to a session. -/
def MessageJob.build (c : Conditions) (ctx : Context) (session : Json) (m : MessageJob) :
    Relay Envelope := do
  let p := ctx.params
  match m with
  | .survey =>
    let pages ← p.pages
    buildSurvey c session (orEmpty p.title) pages
  | .html => buildHtml session p.html
  | .escalation => buildEscalation session p.text p.reason c.limits
  | .reply =>
    let records ← listed p.content
    let bundle ← Relay.ofContent (Content.Bundle.ofRecords ctx.policy records)
    buildMessage session bundle p.flags .null c.limits

/-- A record that tells an error. -/
def errorRecord (message : String) : Fields := [("error", .text message)]

/-- Sends a message.  The result is its body, marked as sent, or an error
    record, which keeps the body unless the batch goes on after failures. -/
def sendMessage (c : Conditions) (ctx : Context) (e : Envelope) : Relay Fields := do
  let body := e.wire
  try
    let _ ← deliver c ctx.client messagePath (.object body) (.text e.session)
    return Json.put "sent" (.bool true) body
  catch
    | .undelivered u =>
      if ctx.continueOnFail then return errorRecord u.message
      else return errorRecord u.message ++ [("body", .object body)]
    | f => throw f

/-- Sends a request for a change of state.  The result is what the connector
    answers. -/
def sendRequest (c : Conditions) (ctx : Context) (r : ControlRequest) : Relay Fields := do
  try
    deliver c ctx.client (statePath r.path) (.object r.body) (.text r.session)
  catch
    | .undelivered u =>
      if ctx.continueOnFail then return errorRecord u.message else throw (.undelivered u)
    | f => throw f

/-- Works off one record. -/
def Job.run (c : Conditions) (ctx : Context) (job : Job) (record : Json) : Relay Fields := do
  let session ← ctx.resolveSession c.settings record
  match job with
  | .control =>
    let p := ctx.params
    let request ← ControlRequest.build p.operation (.text session) p.payload p.value c.limits
    sendRequest c ctx request
  | .message m =>
    let message ← m.build c ctx (.text session)
    sendMessage c ctx message

/-! ## The batch -/

/-- The failure concerns the session of a record. -/
def Failure.isSessionFailure : Failure → Bool
  | .missingSession | .invalidSession _ => true
  | _ => false

/-- Works off one record of a batch.  What is no object counts as one without
    fields. -/
def runItem (c : Conditions) (ctx : Context) (job : Job) (item : Json) : Relay Fields := do
  let record := if item.isObject then item else .object []
  try
    job.run c ctx record
  catch f =>
    if f.isSessionFailure && ctx.continueOnFail then return errorRecord f.message
    else throw f

/-- The records of a batch; one without records has a single empty one. -/
def batchItems (items : Json) : Except Failure (List Json) :=
  if items.isTruthy then listed items else .ok [.object []]

/-- Works off a batch. -/
def runBatch (c : Conditions) (ctx : Context) (job : Job) (items : Json) :
    Relay (List Fields) := do
  (← batchItems items).mapM (runItem c ctx job)

end ChatRelay

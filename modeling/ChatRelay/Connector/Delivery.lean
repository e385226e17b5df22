/-
  Delivering to the connector.

  A body is posted to a path below the address of the connector, again and
  again while the failure is worth another attempt and retries are left.  The
  delivery is counted and logged once, by how it ended.

  * `post` has the client post a call, `send` makes one attempt;
  * `deliver` makes a delivery.
-/
import ChatRelay.Connector.Classify
import ChatRelay.Connector.Client
import ChatRelay.World

namespace ChatRelay

/-- The path that messages are posted to. -/
def messagePath : String := "/api/internal/message"

/-- The path that changes of state are posted to. -/
def statePath (operation : String) : String := "/api/state/" ++ operation

/-- The answer is a success. -/
def isSuccess (status : Nat) : Bool := 200 ≤ status && status < 300

/-- What an answer comes to, as an object: no content is the empty one, and what is no object
    stands under `response`.  What is no JSON is a text. -/
def Reply.fields (r : Reply) : Except Mishap Fields :=
  if r.isEmpty then .ok []
  else do
    match ← r.json with
    | some (.object fs) => return fs
    | some v => return [("response", v)]
    | none => return [("response", .text (← r.text))]

/-- Posts a call.  A call that the client does not send does not reach the connector. -/
def post (c : Conditions) (call : Call) : Relay Posted := do
  match c.http.refusal? call.url call.body with
  | some m => return .mishap m
  | none =>
    let h ← get
    set { h with sent := h.sent + 1 }
    return c.http.take call.url (c.connector h.sent call)

/-- The failure after an exchange that broke off. -/
def unanswered (call : Call) (retryable : Bool) (reason : String) : Failure :=
  .undelivered { cause := .unanswered call.url reason, body := call.body, retryable }

/-- The failure after an answer that is no success. -/
def rejection (path : String) (call : Call) (status : Nat) (hint : Option String) : Failure :=
  match classifyStatus status hint with
  | .error e => .numeral e
  | .ok k => .undelivered {
      cause := .rejected status path
      body := call.body
      retryable := k.retryable
      retryAfter := k.after }

/-- The failure after a mishap instead of an answer.  What is no error of an exchange is passed
    on. -/
def breakdown (path : String) (call : Call) : Mishap → Failure
  | .incident i => match i.sort with
    | .status code hint => rejection path call code hint
    | .transport => unanswered call true i.message
    | .exchange => unanswered call false i.message
    | _ => .incident i
  | m => m.failure

/-- Makes one attempt and reads what comes of it. -/
def send (c : Conditions) (path : String) (call : Call) : Relay Fields := do
  Relay.record (.call call)
  match ← post c call with
  | .reply r =>
    if isSuccess r.status then r.fields.mapError Mishap.failure
    else throw (rejection path call r.status r.hint)
  | .mishap m => throw (breakdown path call m)

/-- What a failure says about another attempt. -/
def prospect (f : Failure) : Except Failure (Prospect Number) :=
  match f.classify with
  | .ok k => .ok ⟨k.retryable, k.after⟩
  | .error e => .error (.numeral e)

/-- The failure is a failed delivery. -/
def Failure.isUndelivered : Failure → Bool
  | .undelivered _ => true
  | _ => false

/-- The pauses between the attempts of a delivery. -/
def deliveryBackoff (client : Client) : Backoff Number where
  maxRetries := client.maxRetries
  initialDelay := .real (.ofDecimal false 5 (-1))
  maxDelay := .real (.ofInt 5)
  base := .real (.ofInt 2)

/-- The attempts of a delivery. -/
def deliveryAttempts (c : Conditions) (client : Client) (path : String) (body : Json) :
    Attempts (StateM History) Failure Number Fields where
  backoff := deliveryBackoff client
  jitter := c.jitter
  action n := (send c path { url := client.address ++ path, body, attempt := n }).run
  handles := Failure.isUndelivered
  prospect := prospect
  overflow := .endlessDelay
  notify _ _ := pure ()
  pause d := modify fun h => { h with trace := h.trace ++ [.pause d] }

/-- Delivers a body for a session. -/
def deliver (c : Conditions) (client : Client) (path : String) (body : Json) (session : Json) :
    Relay Fields := do
  match ← ExceptT.lift (deliveryAttempts c client path body).run with
  | .ok fs =>
    Relay.count (.delivered path true)
    Relay.log (.delivered session path c.elapsed)
    return fs
  | .error f =>
    if let .undelivered u := f then
      Relay.count (.delivered path false)
      Relay.log (.failed session path u)
    throw f

end ChatRelay

/-
  The gateway: from a request to its response.

  A request passes through layers.  From the outside in: a request that ends
  without an answer gets one that says so; a body that is too large is turned
  away; a question asked in advance is answered, and responses are marked for
  pages; a request that takes too long is given up; a response names its
  request; a request is counted and timed; a route answers it.

  * `Gateway` is what is fixed when the service starts;
  * `Gateway.handle` answers a request.
-/
import ChatRelay.Gateway.Answer
import ChatRelay.Gateway.Origin

namespace ChatRelay

namespace Gateway

/-! ## Routes -/

/-- Answers a request by its route. -/
def dispatch (c : Conditions) (r : Request) : Resolution → Serving Response
  | .found route => route.serve c r
  | .refused _ => pure (Response.detail 405 "Method Not Allowed")
  | .unknown => pure (Response.detail 404 "Not Found")
  | .moved path =>
    let base := r.scheme ++ "://" ++ Text.Utf8.spread ((r.header? "host").getD "")
    pure {
      status := 307
      headers := [("location", { r.target with path }.location base)]
      body := .text "" }

/-! ## Counting and naming -/

/-- Counts a request. -/
def countRequest (r : Request) (resolution : Resolution) (status : Nat) : Serving Unit :=
  let entry := Entry.count (.requested r.method (resolution.label r.target.path) status)
  modify fun h => { h with trace := h.trace ++ [entry] }

/-- Answers a request, counts it by the status of its response and names the
    time that it took; one without an answer counts as a server error. -/
def serveCounted (c : Conditions) (r : Request) : Serving Response := do
  let resolution := resolve r.method r.target.path
  try
    let response ← dispatch c r resolution
    countRequest r resolution response.status
    return response.withFields [(elapsedField, toString c.elapsed)]
  catch e =>
    countRequest r resolution 500
    throw e

/-- Answers a request and names it: as its sender did, or at random. -/
def serveNamed (c : Conditions) (r : Request) : Serving Response := do
  let response ← serveCounted c r
  return response.withFields [(requestIdField, (r.filled? requestIdField).getD c.identifier)]

/-! ## Limits -/

/-- The answer to a request that is given up after a number of seconds. -/
def givenUp (seconds : Number) : Response :=
  Response.detail 504 s!"Request timeout after {seconds.text} seconds"

/-- The time limit leaves no time at all. -/
def leavesNoTime (seconds : Number) : Bool := seconds.isZero || seconds.isBelow (.int 0)

/-- What is answered within a time limit; the response is none if it does not
    come in time. -/
def withinLimit (seconds : Number) (response : Option Response) : Response :=
  if leavesNoTime seconds then givenUp seconds else response.getD (givenUp seconds)

/-- The body is larger than the settings allow; its length is what the request
    says it is in digits, which need not make a numeral. -/
def isTooLarge (s : Settings) (r : Request) : Except NumeralError Bool :=
  match (r.filled? "content-length").filter (·.toList.all Text.isDigit) with
  | some digits => (readInteger digits).map (s.maxRequestBytes < ·)
  | none => .ok false

/-- The answer to a body that is too large. -/
def tooLarge (s : Settings) : Response :=
  Response.detail 413
    s!"Request too large. Maximum size: {Number.intText s.maxRequestBytes} bytes"

/-- The answer to a request without an answer. -/
def crashed : Response := Response.text 500 "Internal Server Error"

end Gateway

/-! ## The gateway -/

/-- What is fixed when the service starts. -/
structure Gateway where
  origins : Gateway.Origins
  /-- seconds until a request is given up -/
  timeLimit : Number

namespace Gateway

/-- The gateway that the settings describe. -/
def ofSettings (s : Settings) : Gateway where
  origins := ⟨allowedOrigins s⟩
  timeLimit := s.requestTimeout

/-- Answers a request within the time limit. -/
def serveInTime (g : Gateway) (c : Conditions) (r : Request) : Serving Response := do
  if leavesNoTime g.timeLimit then return givenUp g.timeLimit
  else
    try serveNamed c r
    catch
      | .overdue => return givenUp g.timeLimit
      | .crash => throw .crash

/-- Answers a request that is not too large. -/
def serveOrigins (g : Gateway) (c : Conditions) (r : Request) : Serving Response := do
  match g.origins.answerInAdvance? r with
  | some response => return response
  | none => return g.origins.mark r (← serveInTime g c r)

/-- Answers a request. -/
def serve (g : Gateway) (c : Conditions) (r : Request) : Serving Response := do
  match isTooLarge c.settings r with
  | .error _ => throw .crash
  | .ok true => return tooLarge c.settings
  | .ok false => serveOrigins g c r

/-- Answers a request; the response to a request for the header fields alone
    has no body. -/
def handle (g : Gateway) (c : Conditions) (r : Request) : StateM History Response := do
  let response := match ← (serve g c r).run with
    | .ok response => response
    | .error _ => crashed
  return if r.method = "HEAD" then response.withoutBody else response

end Gateway

end ChatRelay

/-
  Requests and responses.

  The names of header fields are compared without regard to case.  A response
  carries a JSON value, a text, or the list of metrics.

  * `Request.header?` looks up a field of a request;
  * `Response.json`, `Response.detail` and `Response.text` make responses,
    `Response.withFields` adds header fields;
  * `Response.finitePart` can be written.
-/
import ChatRelay.Gateway.Target

namespace ChatRelay.Gateway

/-- A request.  Its body is octets. -/
structure Request where
  scheme : String := "http"
  method : String
  target : Target
  headers : List (String × String) := []
  body : List UInt8 := []

/-- The value of a header field, the first of that name. -/
def Request.header? (r : Request) (name : String) : Option String :=
  (r.headers.find? fun h => Text.lowerCased h.1 = Text.lowerCased name).map (·.2)

/-- The value of a header field, unless it is empty. -/
def Request.filled? (r : Request) (name : String) : Option String :=
  (r.header? name).filter (!·.isEmpty)

/-- What a response carries. -/
inductive Body where
  | json (v : Json)
  | text (s : String)
  | families (names : List String)
deriving DecidableEq

/-- A response. -/
structure Response where
  status : Nat
  headers : List (String × String)
  body : Body
deriving DecidableEq

namespace Response

/-- The name of the field that names the type of a body. -/
def typeField : String := "content-type"

/-- The type of a JSON body. -/
def jsonType : String := "application/json"

/-- A response that carries a value. -/
def json (status : Nat) (v : Json) : Response where
  status
  headers := [(typeField, jsonType)]
  body := .json v

/-- A response that carries a text. -/
def text (status : Nat) (s : String) : Response where
  status
  headers := [(typeField, "text/plain; charset=utf-8")]
  body := .text s

/-- A response that says what is wrong. -/
def detail (status : Nat) (s : String) : Response := json status (.object [("detail", .text s)])

/-- The response with header fields added. -/
def withFields (fs : List (String × String)) (r : Response) : Response :=
  { r with headers := r.headers ++ fs }

/-- The response with null for every number that is not finite. -/
def finitePart (r : Response) : Response :=
  match r.body with
  | .json v => { r with body := .json v.finitePart }
  | _ => r

/-- The value that the response carries has at most `n` levels. -/
def isWithin (r : Response) (n : Nat) : Bool :=
  match r.body with
  | .json v => v.isWithin n
  | _ => true

/-- The response without its body. -/
def withoutBody (r : Response) : Response := { r with body := .text "" }

end Response

end ChatRelay.Gateway

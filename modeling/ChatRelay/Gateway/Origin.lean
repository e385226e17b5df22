/-
  Which origins may call.

  A browser names the origin of a page that calls, and asks in advance whether
  a call with a method and header fields is allowed.  The answer names the
  origin if it is one of the allowed ones; if all are, it is named only where
  a credential is at stake.

  * `allowedOrigins` are the origins that the settings list;
  * `Origins.answerInAdvance?` answers the question asked in advance;
  * `Origins.mark` adds to a response what a browser has to know.
-/
import ChatRelay.Gateway.Message
import ChatRelay.Settings

namespace ChatRelay.Gateway

/-- The environment in which any origin may call. -/
def development : String := "development"

/-- The origin that stands for all. -/
def anyOrigin : String := "*"

/-- The origins of a list with commas. -/
def listedOrigins (s : String) : List String :=
  ((Text.splitAt ',' s).map Text.trimBlank).filter (!·.isEmpty)

/-- The origins that may call: those of the settings, of which the one for all
    counts only in development, or all in development and none elsewhere. -/
def allowedOrigins (s : Settings) : List String :=
  let open' := s.environment = development
  match s.origins.filter (!·.isEmpty) with
  | some list => (listedOrigins list).filter fun o => open' || o != anyOrigin
  | none => if open' then [anyOrigin] else []

/-- The methods of a call. -/
def allowedMethods : List String := ["GET", "POST", "OPTIONS"]

/-- The field that names the request. -/
def requestIdField : String := "X-Request-ID"

/-- The field that names the milliseconds a response took. -/
def elapsedField : String := "X-Response-Time-Ms"

/-- The fields of a response that a page may read. -/
def exposedFields : List String := [requestIdField, elapsedField]

/-- The seconds that an answer given in advance holds. -/
def maxAge : Nat := 600

/-- Origins that may call. -/
structure Origins where
  allowed : List String

namespace Origins

/-- All origins may call. -/
def all (o : Origins) : Bool := o.allowed.contains anyOrigin

/-- The origin may call. -/
def allows (o : Origins) (origin : String) : Bool := o.all || o.allowed.contains origin

/-- The field that names an allowed origin. -/
def originField (origin : String) : String × String := ("access-control-allow-origin", origin)

/-- The field that allows credentials. -/
def credentialsField : String × String := ("access-control-allow-credentials", "true")

/-- The field that says that the response depends on the origin. -/
def varyField : String × String := ("vary", "Origin")

/-- What a response without an explicit origin says to a page. -/
def openFields (o : Origins) : List (String × String) :=
  (if o.all then [originField anyOrigin] else []) ++
    [credentialsField, ("access-control-expose-headers", ", ".intercalate exposedFields)]

/-- What a response to a request from an origin says to a page. -/
def fieldsFor (o : Origins) (origin : String) (r : Request) : List (String × String) :=
  let named := if o.all then (r.header? "cookie").isSome else o.allows origin
  if named then
    (o.openFields.filter (·.1 != (originField origin).1)) ++ [originField origin, varyField]
  else o.openFields

/-- Adds to a response what a page has to know. -/
def mark (o : Origins) (r : Request) (response : Response) : Response :=
  match r.header? "origin" with
  | some origin => response.withFields (o.fieldsFor origin r)
  | none => response

/-- What is wrong with a call that is asked about. -/
def faults (o : Origins) (origin method : String) : List String :=
  (if o.allows origin then [] else ["origin"]) ++
    (if allowedMethods.contains method then [] else ["method"])

/-- What an answer given in advance says. -/
def fieldsInAdvance (o : Origins) (origin : String) (r : Request) : List (String × String) :=
  [varyField, ("access-control-allow-methods", ", ".intercalate allowedMethods),
    ("access-control-max-age", toString maxAge), credentialsField] ++
    (if o.allows origin then [originField origin] else []) ++
    ((r.header? "access-control-request-headers").map
      fun wanted => ("access-control-allow-headers", wanted)).toList

/-- Answers the question asked in advance, if the request is one. -/
def answerInAdvance? (o : Origins) (r : Request) : Option Response := do
  guard (r.method = "OPTIONS")
  let origin ← r.header? "origin"
  let method ← r.header? "access-control-request-method"
  let fields := o.fieldsInAdvance origin r
  match o.faults origin method with
  | [] => return (Response.text 200 "OK").withFields fields
  | fs => return (Response.text 400 ("Disallowed CORS " ++ ", ".intercalate fs)).withFields fields

end Origins

end ChatRelay.Gateway

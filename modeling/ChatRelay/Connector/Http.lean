/-
  The client that the relay is usually run with.

  It checks the address and the body of a call, undoes the codings of an answer,
  and looks where an answer leads that redirects.  It reads the content as JSON, or as
  a text in the charset of its media type.

  * `HttpClient.usual` is this client.
-/
import ChatRelay.Coding.Basic
import ChatRelay.Connector.Exchange
import ChatRelay.Connector.MediaType
import ChatRelay.Json.Bytes
import ChatRelay.Url.Redirect

namespace ChatRelay

namespace Http

/-- Why a body is not sent to an address: the address is none, or the body holds a number that is
    not finite or stands too deep, or the host has no name. -/
def refusal? (depth : Nat) (url : String) (body : Json) : Option Mishap :=
  match Url.parse url with
  | .error flaw => some (.address flaw)
  | .ok u =>
    if !body.isFinite then some .unencodable
    else if !body.nestsWithin depth then some .tooDeep
    else match u.hostName with
      | .error flaw => some (.host flaw)
      | .ok _ => none

/-- The status leads to another address. -/
def isRedirect (status : Nat) : Bool := [301, 302, 303, 307, 308].contains status

/-- Follows the location of an answer as far as to see where it leads. -/
def checkLocation (url : Url) (location : String) : Except Mishap Unit :=
  match url.redirect location with
  | .ok _ => .ok ()
  | .error (.location flaw) => .error (.incident {
      name := "RemoteProtocolError"
      sort := .transport
      message := s!"Invalid URL in location header: {flaw.message}." })
  | .error (.target flaw) => .error (.address flaw)
  | .error (.host flaw) => .error (.host flaw)

/-- The content of an answer without its codings. -/
def decoded (a : Answer) : Except Mishap (List UInt8) :=
  (Coding.undoAll (Coding.ofHeader (a.header? "content-encoding")) a.body).mapError fun flaw =>
    .incident {
      name := "DecodingError"
      sort := .exchange
      message := s!"Error -3 while decompressing data: {flaw.message}" }

/-- The content of an answer, of which the address, the codings and the location
    are in order. -/
def content (url : Url) (a : Answer) : Except Mishap (List UInt8) := do
  let content ← decoded a
  if !url.isAbsolute then throw (.hostless ("/" ++ (url.target.dropWhile (· == '/')).toString))
  if isRedirect a.status then
    if let some location := a.header? "location" then checkLocation url location
  return content

/-- The content as a JSON document, if it is one. -/
def document? (depth : Nat) (content : List UInt8) : Except Mishap (Option Json) :=
  match Json.readBytes depth content with
  | .ok v => .ok (some v)
  | .error (.unread .deep) => .error .tooDeep
  | .error (.unread .half) => .error (.incident .half)
  | .error _ => .ok none

/-- An answer with its content. -/
def reply (depth : Nat) (a : Answer) (content : List UInt8) : Reply where
  status := a.status
  hint := a.header? "retry-after"
  isEmpty := content.isEmpty
  json := document? depth content
  text := (MediaType.decode (a.header? "content-type") content).mapError .undecodable

/-- What is made of an answer from an address. -/
def receive (depth : Nat) (url : String) (a : Answer) : Posted :=
  match ((Url.parse url).mapError Mishap.address).bind fun u => content u a with
  | .ok content => .reply (reply depth a content)
  | .error m => .mishap m

theorem not_isHttp_of_refusal {depth : Nat} {url : String} {body : Json} {m : Mishap}
    (h : refusal? depth url body = some m) : m.isHttp = false := by
  unfold refusal? at h
  split at h
  · cases h
    rfl
  · split at h
    · cases h
      rfl
    · split at h
      · cases h
        rfl
      · split at h <;> cases h
        rfl

end Http

/-- The client that the relay is usually run with. -/
def HttpClient.usual (limits : Limits) : HttpClient where
  refusal? := Http.refusal? limits.call
  receive := Http.receive limits.reply
  not_isHttp_of_refusal := Http.not_isHttp_of_refusal

end ChatRelay

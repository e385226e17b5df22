/-
  What a request submits.

  A body is read as JSON if its type is JSON or not named; otherwise it stays
  octets, which fit no form.  What does not fit is answered with all its
  faults, those of the path before those of the body.

  * `Request.submission` is what a request submits, or why it is not read;
  * `Submission.read` reads it into a form;
  * `faultsAnswer?` answers the faults.
-/
import ChatRelay.Gateway.Message
import ChatRelay.Json.Bytes
import ChatRelay.Schema.Reading

namespace ChatRelay.Gateway

open Schema

/-! ## Reading a body -/

/-- What a request submits. -/
inductive Submission where
  | nothing
  | value (v : Json)
  | octets (bs : List UInt8)

/-- Why a body is not read. -/
inductive SubmissionFlaw where
  /-- it is no JSON from the given character on -/
  | flawed (offset : Nat)
  | unreadable

/-- The type without its parameters, in lower case; its octets are read one by
    one. -/
def bareType (contentType : String) : String :=
  let octets := Text.Utf8.spread contentType
  Text.lowerCased (Text.trimBlank (String.ofList (octets.toList.takeWhile (· != ';'))))

/-- The type is JSON, or based on JSON. -/
def isJsonType (contentType : String) : Bool :=
  match Text.splitAt '/' (bareType contentType) with
  | ["application", subtype] => subtype == "json" || subtype.endsWith "+json"
  | _ => false

/-- What a request submits. -/
def Request.submission (r : Request) (limits : Limits) : Except SubmissionFlaw Submission :=
  if r.body.isEmpty then .ok .nothing
  else if (r.filled? Response.typeField).all isJsonType then
    match Json.readBytes limits.submission r.body with
    | .ok v => .ok (.value v)
    | .error (.unread (.flawed _ p)) => .error (.flawed p.offset)
    | .error _ => .error .unreadable
  else .ok (.octets r.body)

/-- Answers a body that is not read. -/
def SubmissionFlaw.answer : SubmissionFlaw → Response
  | flawed offset => Response.json 422 (.object [("detail", .array [.object [
      ("type", .text "json_invalid"),
      ("loc", .array [.text "body", .int offset]),
      ("msg", .text "JSON decode error")]])])
  | unreadable => Response.detail 400 "There was an error parsing the body"

/-- Reads what is submitted into a form; null counts as nothing. -/
def Submission.read {α : Type} (form : Json → Reading α) (s : Submission) : Reading α :=
  Reading.under (.key "body") <| match s with
    | nothing | value .null => .fault .missing
    | value v => form v
    | octets _ => .fault .record

/-! ## Answering faults -/

/-- The code of a cause; an object of known fields may be given in more than
    one way. -/
def causeCode : Cause → String
  | .record => "model_attributes_type"
  | c => c.code

/-- A step as a value. -/
def stepJson : Step → Json
  | .key name => .text name
  | .index n => .int n

/-- A fault as a value. -/
def faultJson (f : Fault) : Json :=
  .object [
    ("type", .text (causeCode f.cause)),
    ("loc", .array (f.path.map stepJson)),
    ("msg", .text f.cause.message)]

/-- The part of a value at the end of a way, as far as it leads. -/
def partAt (v : Json) : List Step → Json
  | [] => v
  | s :: rest => match v, s with
    | .object fs, .key name => partAt ((Json.get? fs name).getD .null) rest
    | .array vs, .index n => partAt (vs.getD n .null) rest
    | v, _ => v

/-- The way to what a fault complains about: a missing field is a fault of its
    record. -/
def Fault.place (f : Fault) : List Step :=
  if f.cause = .missing then f.path.dropLast else f.path

/-- A value can be shown: it is finite and has not too many levels. -/
def canShow (limits : Limits) (v : Json) : Bool := v.isFinite && v.isWithin limits.shown

/-- What a fault complains about can be shown. -/
def isShowable (limits : Limits) (s : Submission) (f : Fault) : Bool :=
  match s, Fault.place f with
  | .value v, .key "body" :: rest => canShow limits (partAt v rest)
  | .octets bs, .key "body" :: _ => (Text.Utf8.decode? bs).isSome
  | _, _ => true

/-- Answers the faults; there is no answer if one cannot be shown. -/
def faultsAnswer? (limits : Limits) (s : Submission) (fs : List Fault) : Option Response :=
  if fs.all (isShowable limits s) then
    some (Response.json 422 (.object [("detail", .array (fs.map faultJson))]))
  else none

end ChatRelay.Gateway

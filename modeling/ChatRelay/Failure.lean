/-
  Why the relay could not do what it was asked.

  A failure names its cause.  The failures of the relay itself have a category,
  which tells the caller whose fault it is, and may be worth another attempt;
  others are complaints about a value, or a value used as what it is not, or
  came from outside.

  * `Failure` are the causes, `Failure.message` puts them into words;
  * `Failure.category?` is the category of a failure of the relay;
  * `Incident` is an error from outside, `Undelivered` a delivery that failed.
-/
import ChatRelay.Charset.Basic
import ChatRelay.Content.Normalize
import ChatRelay.Json.Display
import ChatRelay.Json.Reader
import ChatRelay.Schema.Fault
import ChatRelay.Settings
import ChatRelay.Url.Basic

namespace ChatRelay

/-- Whose fault a failure is. -/
inductive Category where
  | network
  | connector
  | validation
  | content
  | unknown
deriving DecidableEq

/-- The name of a category. -/
def Category.name : Category → String
  | network => "network"
  | connector => "api_error"
  | validation => "validation"
  | content => "content"
  | unknown => "unknown"

/-- The category of a name. -/
def Category.ofName? (s : String) : Option Category :=
  [network, connector, validation, content, unknown].find? (·.name = s)

/-! ## Session ids and payloads -/

/-- The greatest number of characters of a session id. -/
def maxSessionLength : Nat := 256

/-- Why a session id is not accepted. -/
inductive SessionFlaw where
  | empty
  | tooLong
  | control
deriving DecidableEq

/-- The flaw in words. -/
def SessionFlaw.message : SessionFlaw → String
  | empty => "Session ID cannot be empty."
  | tooLong => s!"Session ID exceeds {maxSessionLength} characters."
  | control => "Session ID contains control characters."

/-- Why a value is no payload. -/
inductive PayloadFlaw where
  /-- a text that is no JSON document -/
  | unread (flaw : Json.Flaw) (position : Json.Position)
  /-- a document that is no object -/
  | notObject
  /-- neither an object nor a text; `sort` names what it is -/
  | unsupported (sort : String)
deriving DecidableEq

/-- The flaw of the payload `field` in words. -/
def PayloadFlaw.message (field : String) : PayloadFlaw → String
  | unread f p => s!"{field} is not valid JSON: {(Json.ReadError.flawed f p).message}"
  | notObject => s!"{field} must be a JSON object"
  | unsupported sort => s!"{field} has unsupported type {sort}"

/-! ## Errors from outside -/

/-- What an error from outside says about another attempt. -/
inductive IncidentSort where
  /-- an answer with a status that is no success; the hint is the header that
      says when to come back -/
  | status (code : Nat) (hint : Option String)
  /-- the connector was not reached, or the connection broke -/
  | transport
  /-- the exchange with the connector went wrong in another way -/
  | exchange
  /-- a connection broke, or something took too long -/
  | connection
  | timeout
  /-- a value was refused, or was used as what it is not -/
  | value
  | misuse
  /-- the error says itself what it is -/
  | reported (category : Category) (retryable : Bool) (after : Option Number)
  | other
deriving DecidableEq

/-- An error from outside, by name. -/
structure Incident where
  name : String
  sort : IncidentSort
  message : String
deriving DecidableEq

/-- The error about half a character, which can be written in no encoding. -/
def Incident.half : Incident where
  name := "UnicodeEncodeError"
  sort := .value
  message := "surrogates not allowed"

/-- Why a delivery failed. -/
inductive DeliveryCause where
  /-- the connector answered with a status that is no success -/
  | rejected (code : Nat) (path : String)
  /-- the connector gave no answer -/
  | unanswered (url : String) (reason : String)
deriving DecidableEq

/-- A delivery that failed, with the body that was not delivered. -/
structure Undelivered where
  cause : DeliveryCause
  body : Json
  retryable : Bool
  retryAfter : Option Number := none
deriving DecidableEq

/-- The status that the connector answered with, if it answered. -/
def Undelivered.status? (u : Undelivered) : Option Nat :=
  match u.cause with
  | .rejected code _ => some code
  | .unanswered .. => none

/-- The failed delivery in words. -/
def Undelivered.message (u : Undelivered) : String :=
  match u.cause with
  | .rejected code path => s!"Connector returned {code} for {path}"
  | .unanswered url reason => s!"Connector request to {url} failed: {reason}"

/-- The category of a failed delivery. -/
def Undelivered.category (u : Undelivered) : Category :=
  if u.status?.isSome then .connector else .network

/-! ## Failures -/

/-- What a value cannot be used as. -/
inductive Misuse where
  /-- something to go through -/
  | sequence
  /-- a message text -/
  | messageText
  /-- a text around which blanks are dropped -/
  | trimmable
  /-- the name of a trigger -/
  | trigger (path : String)
  /-- the name of a field of a log record -/
  | logField (name : String)
  /-- the name of a logger -/
  | logger
  /-- the level of a log record -/
  | level
  /-- a number -/
  | number
  /-- the name of a tool -/
  | tool
deriving DecidableEq

/-- Why the relay could not do what it was asked. -/
inductive Failure where
  /-- no session id is given anywhere -/
  | missingSession
  | invalidSession (flaw : SessionFlaw)
  | content (e : Content.ContentError)
  | malformed (field : Json) (flaw : PayloadFlaw)
  | undelivered (u : Undelivered)
  /-- a value does not fit its form -/
  | invalid (faults : List Schema.Fault)
  | unknownOperation (v : Json)
  | unknownTool (name : Json)
  | unknownLevel (name : String)
  | numeral (e : NumeralError)
  | settings (flaw : Settings.Flaw)
  /-- a number that is not finite cannot be sent -/
  | unencodable
  /-- a value has parts too deep inside one another to be read or written -/
  | tooDeep
  /-- a value has too many levels to be written -/
  | tooManyLevels
  /-- the address of the connector, or one to which it redirects, is none -/
  | address (flaw : Url.Flaw)
  /-- the name of a host in such an address is none -/
  | host (flaw : Host.Flaw)
  /-- the address of the connector names no host -/
  | hostless (target : String)
  /-- the charset of an answer does not read it -/
  | undecodable (refusal : Charset.Refusal)
  /-- the delay before another attempt is too large for a number -/
  | endlessDelay
  | misused (use : Misuse)
  | incident (i : Incident)
deriving DecidableEq

namespace Failure

/-- The category of a failure of the relay; the others have none. -/
def category? : Failure → Option Category
  | missingSession | invalidSession _ => some .validation
  | content _ | malformed .. => some .content
  | undelivered u => some u.category
  | _ => none

/-- The text of a failure that complains about a value. -/
def complaint? : Failure → Option String
  | invalid fs => some (Schema.Fault.summary fs)
  | unknownOperation v => some s!"{v.literal} is not a valid ControlOperation"
  | unknownTool name => some s!"Unknown chat tool: {name.display}"
  | unknownLevel name => some s!"Unknown level: {Text.quoted name}"
  | numeral e => some e.message
  | settings flaw => some flaw.message
  | unencodable => some "Out of range float values are not JSON compliant"
  | tooManyLevels => some "Circular reference detected (depth exceeded)"
  | host flaw => some flaw.message
  | hostless target => some s!"unknown url type: {Text.quoted target}"
  | undecodable refusal => refusal.complaint?
  | incident i => if i.sort = .value then some i.message else none
  | _ => none

/-- The failure in words; none for a value that was misused. -/
def message : Failure → String
  | missingSession => "Session ID is missing."
  | invalidSession f => f.message
  | content e => e.message
  | malformed field f => f.message field.display
  | undelivered u => u.message
  | incident i => i.message
  | f => f.complaint?.getD ""

end Failure

end ChatRelay

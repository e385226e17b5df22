/-
  Exchanges with the connector.

  The relay does not speak to the connector itself: it has a client do so.  The
  client sends a call, or says why not, and hands over what the connector
  answers, or says why not.  What it makes of a call and of an answer is its own
  affair, so the relay is told for any client (`HttpClient`); it only relies on
  this, that an error of an exchange comes from an exchange.

  * `Call`, `Outcome`: an attempt to deliver and what the connector makes of it;
  * `Reply`: an answer as the client hands it over, `Mishap` why there is none;
  * `HttpClient`: what a client does.
-/
import ChatRelay.Failure
import ChatRelay.Text.Case

namespace ChatRelay

/-! ## The connector -/

/-- An attempt to deliver: the attempts of one delivery are numbered from
    zero. -/
structure Call where
  url : String
  body : Json
  attempt : Nat
deriving DecidableEq

/-- The value of a header, in the name of which case does not count; several
    values are listed one after the other. -/
def headerValue? (headers : List (String × String)) (name : String) : Option String :=
  match headers.filter fun h => Text.lowerCased h.1 = name with
  | [] => none
  | hs => some (", ".intercalate (hs.map (·.2)))

/-- An answer of the connector. -/
structure Answer where
  status : Nat
  headers : List (String × String) := []
  /-- the octets as they are sent -/
  body : List UInt8 := []

/-- The value of a header. -/
def Answer.header? (a : Answer) (name : String) : Option String := headerValue? a.headers name

/-- What the connector makes of an attempt. -/
inductive Outcome where
  | answer (a : Answer)
  /-- an error instead of an answer -/
  | error (i : Incident)

/-- The answers of a connector; the first argument is the number of attempts
    it saw before. -/
abbrev Connector := Nat → Call → Outcome

/-- A connector that gives the listed outcomes one after the other, and `last`
    from then on. -/
def Connector.ofList (outcomes : List Outcome) (last : Outcome) : Connector :=
  fun n _ => outcomes.getD n last

/-! ## The client -/

/-- Why a client hands over no answer, or not the value or the text of one. -/
inductive Mishap where
  /-- the address, or one to which an answer leads, is none -/
  | address (flaw : Url.Flaw)
  /-- the name of a host in such an address is none -/
  | host (flaw : Host.Flaw)
  /-- the address names no host -/
  | hostless (target : String)
  /-- a number that is not finite cannot be written -/
  | unencodable
  /-- parts stand too deep inside one another to be written or read -/
  | tooDeep
  /-- the charset does not read the text -/
  | undecodable (refusal : Charset.Refusal)
  /-- any other error -/
  | incident (i : Incident)
deriving DecidableEq

namespace Mishap

/-- The mishap as a failure. -/
def failure : Mishap → Failure
  | address flaw => .address flaw
  | host flaw => .host flaw
  | hostless target => .hostless target
  | unencodable => .unencodable
  | tooDeep => .tooDeep
  | undecodable refusal => .undecodable refusal
  | incident i => .incident i

/-- The mishap is an error of an exchange. -/
def isHttp : Mishap → Bool
  | incident ⟨_, .status .., _⟩ | incident ⟨_, .transport, _⟩ | incident ⟨_, .exchange, _⟩ => true
  | _ => false

end Mishap

/-- An answer as a client hands it over. -/
structure Reply where
  status : Nat
  /-- the header that says when to come back -/
  hint : Option String
  /-- it has no content -/
  isEmpty : Bool
  /-- the content as a JSON document, if it is one -/
  json : Except Mishap (Option Json)
  /-- the content as a text -/
  text : Except Mishap String

/-- What comes of an attempt to post. -/
inductive Posted where
  | reply (r : Reply)
  | mishap (m : Mishap)

/-- What a client does.  It does not know of the number of an attempt. -/
structure HttpClient where
  /-- why a body is not sent to an address -/
  refusal? (url : String) (body : Json) : Option Mishap
  /-- what it makes of an answer from an address -/
  receive (url : String) (a : Answer) : Posted
  /-- without an exchange, there is no error of one -/
  not_isHttp_of_refusal {url : String} {body : Json} {m : Mishap} :
    refusal? url body = some m → m.isHttp = false

/-- What the client makes of an outcome. -/
def HttpClient.take (k : HttpClient) (url : String) : Outcome → Posted
  | .answer a => k.receive url a
  | .error i => .mishap (.incident i)

end ChatRelay

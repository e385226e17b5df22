/-
  Which failures are worth another attempt.

  An answer of the connector is, if it says that there were too many requests
  or that the server failed; it may then say after how many seconds to come
  back.  A connector that was not reached is, and so is a lost connection or a
  time limit that ran out.  Whatever else is wrong stays wrong.

  * `hintSeconds` reads the seconds;
  * `Incident.classify` and `Failure.classify` give the category of a failure
    and its prospect.
-/
import ChatRelay.Connector.Retry
import ChatRelay.Failure
import ChatRelay.Number.Numeral

namespace ChatRelay

/-- The category of a failure and what it says about another attempt. -/
structure Classification where
  category : Category
  retryable : Bool
  after : Option Number
deriving DecidableEq

/-- The seconds that a header asks for.  A header that is not made of digits
    asks for nothing; digits that make no numeral are an error. -/
def hintSeconds (header : Option String) : Except NumeralError (Option Number) :=
  match header.map Text.trimBlank with
  | none => .ok none
  | some s =>
    if !s.isEmpty && s.toList.all Text.isDigit then (readReal s).map fun x => some (.real x)
    else .ok none

/-- An answer with the status is worth another attempt. -/
def retryableStatus (status : Nat) : Bool := status == 429 || 500 ≤ status

/-- What an answer with a status that is no success says. -/
def classifyStatus (status : Nat) (header : Option String) : Except NumeralError Classification :=
  if retryableStatus status then
    (hintSeconds header).map fun after => ⟨.connector, true, after⟩
  else .ok ⟨.connector, false, none⟩

/-- What an error from outside says. -/
def Incident.classify (i : Incident) : Except NumeralError Classification :=
  match i.sort with
  | .status code hint => classifyStatus code hint
  | .transport | .connection | .timeout => .ok ⟨.network, true, none⟩
  | .value | .misuse => .ok ⟨.validation, false, none⟩
  | .reported category retryable after => .ok ⟨category, retryable, after⟩
  | .exchange | .other => .ok ⟨.unknown, false, none⟩

/-- What a failure says. -/
def Failure.classify (f : Failure) : Except NumeralError Classification :=
  match f with
  | .undelivered u => .ok ⟨u.category, u.retryable, u.retryAfter⟩
  | .incident i => i.classify
  | .misused .sequence | .misused .messageText => .ok ⟨.validation, false, none⟩
  | f => match f.category? with
    | some category => .ok ⟨category, false, none⟩
    | none => .ok ⟨if f.complaint?.isSome then .validation else .unknown, false, none⟩

end ChatRelay

/-
  The address of the connector.

  The address is written without a slash at its end and with a scheme; an
  empty one is that of the connector on this machine.

  * `normalizeAddress` brings an address into this form;
  * `Client` is an address with a time limit and a number of retries,
    `Client.make` fills in what the settings say.
-/
import ChatRelay.Failure
import ChatRelay.Settings
import ChatRelay.Text.Blank

namespace ChatRelay

/-- The address of the connector on this machine. -/
def localAddress : String := "http://localhost:3000"

/-- The address has a scheme. -/
def hasScheme (s : String) : Bool := s.startsWith "http://" || s.startsWith "https://"

/-- The address with a scheme and without slashes at its end. -/
def normalizeAddress (given : String) : String :=
  let trimmed := Text.trimBlank given
  let address := if trimmed.isEmpty then localAddress else trimmed
  Text.trimSlashes (if hasScheme address then address else "http://" ++ address)

/-- The address given as a value of any sort; what counts as nothing is the
    empty one. -/
def readAddress (given : Json) : Except Failure String :=
  match given.textOrEmpty? with
  | some s => .ok (normalizeAddress s)
  | none => .error (.misused .trimmable)

/-- How the connector is called. -/
structure Client where
  address : String
  /-- seconds until an attempt is given up -/
  timeout : Number
  maxRetries : Int

/-- A client; what is not given is taken from the settings. -/
def Client.make (s : Settings) (address : Option Json) (timeout : Option Number)
    (maxRetries : Option Int) : Except Failure Client := do
  let address ← readAddress (address.getD (.text s.connectorUrl))
  return {
    address
    timeout := timeout.getD s.deliveryTimeout
    maxRetries := maxRetries.getD s.maxRetries }

/-- The client that the settings describe. -/
def Client.ofSettings (s : Settings) : Client where
  address := normalizeAddress s.connectorUrl
  timeout := s.deliveryTimeout
  maxRetries := s.maxRetries

end ChatRelay

/-
  Settings of the relay.

  Settings are read from variables of the environment; what is not set has a
  value of its own.

  * `Settings.ofVariables` reads the variables, `Settings.Flaw` is why it may
    not;
  * `Settings.fields` lists the settings under the names of their variables;
  * `Settings.policy` is the policy they name.
-/
import ChatRelay.Content.Item
import ChatRelay.Number.Numeral

namespace ChatRelay

/-- The settings. -/
structure Settings where
  environment : String := "development"
  debug : Bool := false
  logLevel : String := "INFO"
  /-- seconds until a request is given up -/
  requestTimeout : Number := .real (.ofInt 60)
  /-- the greatest number of octets of a request body -/
  maxRequestBytes : Int := 1048576
  connectorUrl : String := "http://localhost:3000"
  /-- seconds until an attempt to deliver is given up -/
  deliveryTimeout : Number := .real (.ofInt 10)
  maxRetries : Int := 0
  continueOnFail : Bool := false
  contentPolicy : String := "lenient"
  /-- the node that emits the session id -/
  triggerNode : String := "Cobalt Trigger"
  /-- the origins that may call, between commas -/
  origins : Option String := none

namespace Settings

/-- Why variables are no settings. -/
inductive Flaw where
  /-- a variable cannot hold the character that ends a text of the system -/
  | ended
  /-- a variable that has to be a numeral is none -/
  | numeral (e : NumeralError)
deriving DecidableEq

/-- The flaw in words. -/
def Flaw.message : Flaw → String
  | ended => "embedded null byte"
  | numeral e => e.message

/-- A variable that is a flag: set by the word `true` in any case. -/
def flagIn (given : String → Option String) (name : String) : Bool :=
  Text.lowerCased ((given name).getD "false") = "true"

/-- A variable that is a real, `usual` if it is not set. -/
def realIn (given : String → Option String) (name usual : String) : Except Flaw Binary64 :=
  (readReal ((given name).getD usual)).mapError .numeral

/-- A variable that is an integer, `usual` if it is not set. -/
def integerIn (given : String → Option String) (name usual : String) : Except Flaw Int :=
  (readInteger ((given name).getD usual)).mapError .numeral

/-- Reads the variables.  Of several that are no numerals the first is
    reported. -/
def ofVariables (named : List (String × String)) : Except Flaw Settings := do
  if named.any (·.2.toList.contains '\x00') then throw .ended
  let given (name : String) := named.lookup name
  let requestTimeout ← realIn given "REQUEST_TIMEOUT_SECONDS" "60"
  let maxRequestBytes ← integerIn given "MAX_REQUEST_BYTES" "1048576"
  let deliveryTimeout ← realIn given "DELIVERY_TIMEOUT_SECONDS" "10"
  let maxRetries ← integerIn given "DELIVERY_MAX_RETRIES" "0"
  let usual : Settings := {}
  return {
    environment := (given "APP_ENV").getD usual.environment
    debug := flagIn given "DEBUG"
    logLevel := (given "LOG_LEVEL").getD usual.logLevel
    requestTimeout := .real requestTimeout
    maxRequestBytes
    connectorUrl := (given "COBALT_API_BASE_URL").getD usual.connectorUrl
    deliveryTimeout := .real deliveryTimeout
    maxRetries
    continueOnFail := flagIn given "CONTINUE_ON_FAIL"
    contentPolicy := (given "CONTENT_POLICY").getD usual.contentPolicy
    triggerNode := (given "TRIGGER_NODE_NAME").getD usual.triggerNode
    origins := given "CORS_ORIGINS" }

/-- The settings under the names of their variables. -/
def fields (s : Settings) : Fields := [
  ("APP_ENV", .text s.environment),
  ("DEBUG", .bool s.debug),
  ("LOG_LEVEL", .text s.logLevel),
  ("REQUEST_TIMEOUT_SECONDS", .number s.requestTimeout),
  ("MAX_REQUEST_BYTES", .int s.maxRequestBytes),
  ("COBALT_API_BASE_URL", .text s.connectorUrl),
  ("DELIVERY_TIMEOUT_SECONDS", .number s.deliveryTimeout),
  ("DELIVERY_MAX_RETRIES", .int s.maxRetries),
  ("CONTINUE_ON_FAIL", .bool s.continueOnFail),
  ("CONTENT_POLICY", .text s.contentPolicy),
  ("TRIGGER_NODE_NAME", .text s.triggerNode),
  ("CORS_ORIGINS", .ofText? s.origins)]

/-- The policy that the settings name, the lenient one if they name none. -/
def policy (s : Settings) : Policy := (Policy.names.lookup s.contentPolicy).getD .lenient

end Settings

end ChatRelay

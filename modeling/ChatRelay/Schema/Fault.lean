/-
  What is wrong with a value that does not fit its form.

  A fault names the place, as the steps that lead there from the outside, and
  the cause.

  * `Cause.code` is the cause in one word, `Cause.message` in a sentence;
  * `Fault.summary` lists faults, each with its place and code.
-/
import ChatRelay.Json.Basic

namespace ChatRelay.Schema

/-- A step into a value: to a field or to an item. -/
inductive Step where
  | key (name : String)
  | index (n : Nat)
deriving DecidableEq

/-- Why a value does not fit. -/
inductive Cause where
  /-- a field that has to be there is not -/
  | missing
  /-- not a text -/
  | text
  /-- not a flag, nor anything that is read as one -/
  | flag
  /-- a text or number that spells no flag -/
  | unclearFlag
  /-- not an array -/
  | list
  /-- not an object of any fields -/
  | mapping
  /-- not an object of known fields -/
  | record
  /-- none of the listed words -/
  | oneOf (words : List String)
  /-- not an integer, nor anything that is read as one -/
  | integer
  /-- a text that is no numeral -/
  | unclearInteger
  /-- a numeral or real that is too large for an integer -/
  | hugeInteger
  /-- a real that is not whole -/
  | fraction
  /-- a real that is not finite -/
  | infinite
deriving DecidableEq

/-- The cause in one word. -/
def Cause.code : Cause → String
  | missing => "missing"
  | text => "string_type"
  | flag => "bool_type"
  | unclearFlag => "bool_parsing"
  | list => "list_type"
  | mapping => "dict_type"
  | record => "model_type"
  | oneOf _ => "enum"
  | integer => "int_type"
  | unclearInteger => "int_parsing"
  | hugeInteger => "int_parsing_size"
  | fraction => "int_from_float"
  | infinite => "finite_number"

/-- Words in quotes, listed with `or` before the last. -/
def listedWords : List String → String
  | [] => ""
  | [w] => s!"'{w}'"
  | [v, w] => s!"'{v}' or '{w}'"
  | w :: rest => s!"'{w}', " ++ listedWords rest

/-- The cause in a sentence. -/
def Cause.message : Cause → String
  | missing => "Field required"
  | text => "Input should be a valid string"
  | flag => "Input should be a valid boolean"
  | unclearFlag => "Input should be a valid boolean, unable to interpret input"
  | list => "Input should be a valid list"
  | mapping => "Input should be a valid dictionary"
  | record => "Input should be a valid dictionary or object to extract fields from"
  | oneOf words => s!"Input should be {listedWords words}"
  | integer => "Input should be a valid integer"
  | unclearInteger => "Input should be a valid integer, unable to parse string as an integer"
  | hugeInteger => "Unable to parse input string as an integer, exceeded maximum size"
  | fraction => "Input should be a valid integer, got a number with a fractional part"
  | infinite => "Input should be a finite number"

/-- A fault: the way to it and the cause. -/
structure Fault where
  path : List Step
  cause : Cause
deriving DecidableEq

/-- The fault, seen from one step further out. -/
def Fault.under (s : Step) (f : Fault) : Fault := { f with path := s :: f.path }

/-- A step in words. -/
def Step.text : Step → String
  | key name => name
  | index n => toString n

/-- A fault in words: its place and the code of its cause. -/
def Fault.text (f : Fault) : String :=
  ".".intercalate (f.path.map Step.text) ++ ": " ++ f.cause.code

/-- Faults in words. -/
def Fault.summary (fs : List Fault) : String := "; ".intercalate (fs.map Fault.text)

end ChatRelay.Schema

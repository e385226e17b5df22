/-
  The text of a value.

  Where a text is wanted and a value of another sort is given, its text stands
  in: a text is itself, a number its digits, and a container lists its parts
  between brackets, the texts among them quoted.

  * `Json.display` is that text, `Json.literal` the form of a value inside a
    container, in which texts are quoted;
  * `Json.wording` is the spelling of a flag in message text.
-/
import ChatRelay.Json.Basic
import ChatRelay.Text.Quoted

namespace ChatRelay.Json

open Text

mutual

/-- A value as it stands inside a container. -/
def literal : Json → String
  | null => "None"
  | bool true => "True"
  | bool false => "False"
  | number n => n.text
  | text s => quoted s
  | array xs => "[" ++ literalItems xs ++ "]"
  | object fs => "\x7b" ++ literalFields fs ++ "\x7d"
termination_by structural v => v

/-- The items of an array, between commas. -/
def literalItems : List Json → String
  | [] => ""
  | x :: xs => literal x ++ literalItemsAfter xs
termination_by structural xs => xs

/-- Further items, each after a comma. -/
def literalItemsAfter : List Json → String
  | [] => ""
  | x :: xs => ", " ++ literal x ++ literalItemsAfter xs
termination_by structural xs => xs

/-- The fields of an object, between commas. -/
def literalFields : Fields → String
  | [] => ""
  | f :: fs => literalField f ++ literalFieldsAfter fs
termination_by structural fs => fs

/-- Further fields, each after a comma. -/
def literalFieldsAfter : Fields → String
  | [] => ""
  | f :: fs => ", " ++ literalField f ++ literalFieldsAfter fs
termination_by structural fs => fs

/-- A field with its name. -/
def literalField : String × Json → String
  | (k, v) => quoted k ++ ": " ++ literal v
termination_by structural f => f

end

/-- The text of a value. -/
def display : Json → String
  | text s => s
  | v => literal v

/-- A flag spelled in message text. -/
def wording (b : Bool) : String := if b then "true" else "false"

end ChatRelay.Json

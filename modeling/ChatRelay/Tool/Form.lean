/-
  What a tool is called with.

  A form lists the parameters of a tool.  It is read in two ways: as a check
  of the arguments a model gives, and as a JSON schema that tells the model
  what to give.

  * `Form.read` checks arguments and keeps the ones that are not null;
  * `Form.schema` is the schema.
-/
import ChatRelay.Content.Wire
import ChatRelay.Schema.Reading

namespace ChatRelay.Tool

open Schema

/-- A text that is part of a parameter. -/
structure TextField where
  name : String
  about : String
  needed : Bool := false

/-- An object of texts. -/
structure Part where
  name : String
  fields : List TextField

/-- What a parameter is. -/
inductive Shape where
  /-- a text, with the one that stands in when it is absent -/
  | text (absent : Option String)
  | flag
  | texts
  | parts (p : Part)

/-- A parameter.  One that is not needed may also be null. -/
structure Parameter where
  name : String
  shape : Shape := .text none
  about : Option String := none
  needed : Bool := false

/-- The parameters of a tool.  An open form takes further ones. -/
structure Form where
  name : String
  about : Option String := none
  parameters : List Parameter
  isOpen : Bool := false

/-! ## Reading -/

/-- A field of a part. -/
def TextField.read (f : TextField) (fs : Fields) : Reading (String × Option Json) :=
  (fun s => (f.name, s.map .text)) <$>
    if f.needed then some <$> field [f.name] asText fs
    else fieldOr [f.name] none (orNull asText) fs

/-- Readings one after the other. -/
def readAll {α : Type} : List (Reading α) → Reading (List α)
  | [] => .fits []
  | r :: rest => List.cons <$> r <*> readAll rest

/-- A part: its fields that are not null. -/
def Part.read (p : Part) : Json → Reading Json :=
  asRecord fun fs => (fun vs => .object (present vs)) <$> readAll (p.fields.map (·.read fs))

/-- The value of a parameter. -/
def Shape.read (s : Shape) (v : Json) : Reading Json :=
  match s with
  | text _ => .text <$> asText v
  | flag => .bool <$> asFlag v
  | texts => (fun ss => .array (ss.map .text)) <$> asItems asText v
  | parts p => .array <$> asItems p.read v

/-- The value of an absent parameter. -/
def Shape.absent : Shape → Option Json
  | text s => s.map .text
  | _ => none

/-- A parameter among the arguments. -/
def Parameter.read (p : Parameter) (fs : Fields) : Reading (String × Option Json) :=
  (fun v => (p.name, v)) <$>
    if p.needed then some <$> field [p.name] p.shape.read fs
    else fieldOr [p.name] p.shape.absent (orNull p.shape.read) fs

/-- The arguments of no parameter that are not null. -/
def Form.others (f : Form) (fs : Fields) : Fields :=
  if f.isOpen then
    fs.filter fun a => !(f.parameters.map (·.name)).contains a.1 && a.2 != .null
  else []

/-- The arguments that are not null. -/
def Form.read (f : Form) : Json → Reading Fields :=
  asRecord fun fs =>
    (fun vs => present vs ++ f.others fs) <$> readAll (f.parameters.map (·.read fs))

/-! ## Schema -/

/-- The word with a capital and otherwise small letters. -/
def capitalized : List Char → List Char
  | [] => []
  | c :: rest => c.toUpper :: rest.map Char.toLower

/-- The name of a parameter as a title. -/
def titleOf (name : String) : String :=
  " ".intercalate ((Text.splitChars '_' name.toList).map fun w => String.ofList (capitalized w))

/-- The schema of a type. -/
def typeSchema (name : String) : Fields := [("type", .text name)]

/-- The schema of an array. -/
def arraySchema (items : Fields) : Fields := [("type", .text "array"), ("items", .object items)]

/-- The schema of what may also be null. -/
def nullableSchema (fs : Fields) (absent : Option Json) : Fields :=
  [("anyOf", .array [.object fs, .object (typeSchema "null")]),
    ("default", absent.getD .null)]

/-- A schema with a description and a title. -/
def described (about : Option String) (name : String) (fs : Fields) : Json :=
  .object (fs ++ present [("description", about.map .text)] ++ [("title", .text (titleOf name))])

/-- The schema of an object. -/
def objectSchema (name : String) (properties : Fields) (needed : List String) : Fields :=
  [("title", .text name), ("type", .text "object"), ("properties", .object properties)] ++
    if needed.isEmpty then [] else [("required", .array (needed.map .text))]

/-- The schema of a part. -/
def Part.schema (p : Part) : Json :=
  let property (f : TextField) : Json :=
    described (some f.about) f.name
      (if f.needed then typeSchema "string" else nullableSchema (typeSchema "string") none)
  .object (objectSchema p.name (p.fields.map fun f => (f.name, property f))
    ((p.fields.filter (·.needed)).map (·.name)))

/-- The schema of what a parameter is. -/
def Shape.schema : Shape → Fields
  | text _ => typeSchema "string"
  | flag => typeSchema "boolean"
  | texts => arraySchema (typeSchema "string")
  | parts p => arraySchema [("$ref", .text ("#/$defs/" ++ p.name))]

/-- The schema of a parameter. -/
def Parameter.schema (p : Parameter) : Json :=
  described p.about p.name
    (if p.needed then p.shape.schema else nullableSchema p.shape.schema p.shape.absent)

/-- The parts that a form refers to. -/
def Form.parts (f : Form) : List Part :=
  f.parameters.filterMap fun p => match p.shape with
    | .parts part => some part
    | _ => none

/-- The schema of a form. -/
def Form.schema (f : Form) : Json :=
  let properties := f.parameters.map fun p => (p.name, p.schema)
  let needed := (f.parameters.filter (·.needed)).map (·.name)
  let defs := f.parts.map fun p => (p.name, p.schema)
  .object (objectSchema f.name properties needed ++ present [
    ("$defs", if defs.isEmpty then none else some (.object defs)),
    ("additionalProperties", if f.isOpen then some (.bool true) else none),
    ("description", f.about.map .text)])

end ChatRelay.Tool

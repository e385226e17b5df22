/-
  The charset in a media type.

  A media type may be followed by parameters between semicolons, each a name and
  a value; a semicolon between quotes does not count.  The value of a long
  parameter may be given in numbered parts, and parts may be written with percent
  signs; then the value begins with a charset and a language between single
  quotes.

  * `parameters` are the parameters, those in parts put together;
  * `charsetName` is the name of the charset, if there is one.
-/
import ChatRelay.Charset.Basic
import ChatRelay.Text.Digit
import ChatRelay.Text.Percent

namespace ChatRelay.MediaType

open Text

/-! ## Parameters -/

/-- The stretches between semicolons that stand outside quotes.  `last` is the
    character before and `inside` whether it stands between quotes; a quote
    after a backslash does not count. -/
def segmentsFrom (last : Option Char) (inside : Bool) : List Char → List (List Char)
  | [] => [[]]
  | c :: rest =>
    if c = ';' && !inside then [] :: segmentsFrom none false rest
    else
      let inside := if c = '"' && last != some '\\' then !inside else inside
      match segmentsFrom (some c) inside rest with
      | [] => [[c]]
      | part :: parts => (c :: part) :: parts

/-- A stretch as a name in lower case and a value. -/
def parameter (cs : List Char) : List Char × List Char :=
  ((trimChars (cs.takeWhile (· != '='))).map Char.toLower,
    trimChars ((cs.dropWhile (· != '=')).drop 1))

/-- Replaces a pair of characters by its second one. -/
def withoutFirst (a b : Char) : List Char → List Char
  | [] => []
  | [c] => [c]
  | c :: d :: rest =>
    if c = a && d = b then b :: withoutFirst a b rest else c :: withoutFirst a b (d :: rest)

/-- A value without the quotes or the angle brackets around it. -/
def unquoted (cs : List Char) : List Char :=
  let inner := (cs.drop 1).dropLast
  if cs.length < 2 then cs
  else if cs.head? = some '"' && cs.getLast? = some '"' then
    withoutFirst '\\' '"' (withoutFirst '\\' '\\' inner)
  else if cs.head? = some '<' && cs.getLast? = some '>' then inner
  else cs

/-! ## Parameters in parts -/

/-- A part of a value: its number, if it has one, the part, and whether it is
    written with percent signs. -/
structure Part where
  number : Option Nat
  value : List Char
  written : Bool

/-- A character of a word. -/
def isWordChar (c : Char) : Bool := c.isAlphanum || c = '_'

/-- The name of a part, its number, if it has one, and whether it is written
    with percent signs; none for the name of a whole parameter. -/
def partName? (name : List Char) : Option (List Char × Option Nat × Bool) :=
  let word := name.takeWhile isWordChar
  match word, name.dropWhile isWordChar with
  | [], _ => none
  | _, '*' :: rest =>
    let digits := rest.takeWhile Char.isDigit
    let number := ofDigits (digits.map fun d => d.toNat - '0'.toNat)
    match digits, rest.dropWhile Char.isDigit with
    | [], [] => some (word, none, true)
    | _ :: _, [] => some (word, some number, false)
    | _ :: _, ['*'] => some (word, some number, true)
    | _, _ => none
  | _, _ => none

/-- Characters that are written with percent signs, each standing for an
    octet. -/
def withOctets (skip : Nat) : List Char → List Char
  | [] => []
  | c :: rest => match skip with
    | n + 1 => withOctets n rest
    | 0 =>
      let octets := Utf8.encode (String.ofList (rest.take 2))
      match if c = '%' then Percent.spelled? octets else none with
      | some b => Char.ofNat b.toNat :: withOctets 2 rest
      | none => c :: withOctets 0 rest

/-- The value of a part. -/
def Part.text (p : Part) : List Char := if p.written then withOctets 0 p.value else p.value

/-- The characters come before others, or are the same. -/
def precede : List Char → List Char → Bool
  | [], _ => true
  | _ :: _, [] => false
  | c :: cs, d :: ds => c.toNat < d.toNat || (c = d && precede cs ds)

/-- The order of parts: by number, then by value. -/
def Part.precedes (p q : Part) : Bool :=
  match p.number, q.number with
  | some a, some b => a < b || (a = b && precede p.value q.value)
  | _, _ => precede p.value q.value

/-- The value of a parameter: plain, or with a charset of its own. -/
inductive Value where
  | plain (cs : List Char)
  | encoded (charset cs : List Char)

/-- A value that begins with a charset and a language between single quotes;
    without them it has no charset. -/
def encodedValue (cs : List Char) : Value :=
  let rest := (cs.dropWhile (· != '\'')).drop 1
  if cs.count '\'' < 2 then .encoded [] cs
  else .encoded (cs.takeWhile (· != '\'')) ((rest.dropWhile (· != '\'')).drop 1)

/-- Puts parts together; none if only some of them have a number. -/
def joined? (parts : List Part) : Option Value :=
  if parts.any (·.number.isSome) && parts.any (·.number.isNone) then none
  else
    let cs := (parts.mergeSort Part.precedes).flatMap Part.text
    some (if parts.any (·.written) then encodedValue cs else .plain cs)

/-- The parts of the parameters in parts, under their names, in the order in
    which the names come first. -/
def partsByName (params : List (List Char × List Char)) : List (List Char × List Part) :=
  let parts := params.filterMap fun p => (partName? p.1).map fun (name, number, written) =>
    (name, { number, value := unquoted p.2, written : Part })
  (parts.map (·.1)).eraseDups.map fun name =>
    (name, (parts.filter (·.1 = name)).map (·.2))

/-- The parameters of a media type, those in parts last; none if parts have no
    order. -/
def parameters (mediaType : String) : Option (List (List Char × Value)) :=
  match (segmentsFrom none false mediaType.toList).map parameter with
  | [] => some []
  | first :: rest => do
    let whole := (rest.filter fun p => (partName? p.1).isNone).map fun p =>
      (p.1, Value.plain (unquoted p.2))
    let parted ← (partsByName rest).mapM fun p => (joined? p.2).map fun v => (p.1, v)
    return (first.1, Value.plain (unquoted first.2)) :: whole ++ parted

/-! ## The charset -/

/-- The octets of characters; a character beyond them is written as an
    escape. -/
def octets (cs : List Char) : List UInt8 :=
  cs.flatMap fun c =>
    if c.toNat < 0x100 then [UInt8.ofNat c.toNat]
    else Utf8.encode (String.ofList (
      if c.toNat < 0x10000 then '\\' :: 'u' :: hexDigits 4 c.toNat
      else '\\' :: 'U' :: hexDigits 8 c.toNat))

/-- A value as a text; one with a charset of its own is read by it, if it can
    be. -/
def Value.text : Value → String
  | plain cs => String.ofList cs
  | encoded charset cs =>
    let own := if charset.isEmpty then "ascii" else String.ofList charset
    match (Charset.named own).decode (octets cs) with
    | .ok s => if s.toList.contains replacement then String.ofList cs else s
    | .error _ => String.ofList cs

/-- The name of the charset in a media type, unless it is no ASCII. -/
def charsetName (mediaType : String) : Except Charset.Refusal (Option String) :=
  match parameters mediaType with
  | none => .error .unorderedName
  | some ps =>
    .ok (((ps.find? fun p => String.ofList p.1 = "charset").map fun p => p.2.text).filter
      fun s => s.toList.all fun c => c.toNat < 0x80)

/-- The text of octets whose media type is given; UTF-8 if there is none. -/
def decode (mediaType : Option String) (bs : List UInt8) : Except Charset.Refusal String := do
  let name ← match mediaType with
    | some t => charsetName t
    | none => .ok none
  (Charset.named (name.getD "")).decode bs

end ChatRelay.MediaType

/-
  Reading JSON text.

  The text is read as a list of characters; every function returns what it
  read together with the rest.  Besides the numbers of the JSON grammar the
  names `NaN`, `Infinity` and `-Infinity` are read.  Of two fields with one
  name the later value counts, at the place of the earlier.  Arrays and objects
  stand inside one another only so deep.  A text is one of whole characters: a
  document that escapes half a character on its own is told apart
  (`ReadError.half`).

  * `Json.read` reads a document, which is one value between blanks;
  * `Flaw` is what is wrong with a text that is no document, `Position` where;
  * `ReadError.message` says both in words.
-/
import ChatRelay.Json.Basic
import ChatRelay.Number.Numeral
import ChatRelay.Text.Halves

namespace ChatRelay.Json

open Text (character? isHighHalf isLowHalf joinedHalves replacement)

/-! ## Errors -/

/-- What is wrong with a text. -/
inductive Flaw where
  /-- a byte order mark in front -/
  | mark
  /-- no value -/
  | value
  /-- no quoted name of a field -/
  | name
  /-- no colon after the name -/
  | colon
  /-- no comma and no closing bracket -/
  | comma
  /-- a text without its closing quote -/
  | openText
  /-- a control character inside a text -/
  | control
  /-- a backslash before a character that is not escaped -/
  | escape
  /-- a code point that is not four hexadecimal digits -/
  | codePoint
  /-- something after the document -/
  | extra
deriving DecidableEq

/-- A flaw in words. -/
def Flaw.message : Flaw → String
  | mark => "Unexpected UTF-8 BOM (decode using utf-8-sig)"
  | value => "Expecting value"
  | name => "Expecting property name enclosed in double quotes"
  | colon => "Expecting ':' delimiter"
  | comma => "Expecting ',' delimiter"
  | openText => "Unterminated string starting at"
  | control => "Invalid control character at"
  | escape => "Invalid \\escape"
  | codePoint => "Invalid \\uXXXX escape"
  | extra => "Extra data"

/-- A place in a text: the number of characters before it, its line and its
    column, both from one. -/
structure Position where
  offset : Nat
  line : Nat
  column : Nat
deriving DecidableEq

/-- The place after the characters `before`. -/
def Position.after (before : List Char) : Position :=
  ⟨before.length, before.count '\n' + 1, (before.reverse.takeWhile (· != '\n')).length + 1⟩

/-- Why a text is not read. -/
inductive ReadError where
  /-- it is no document -/
  | flawed (flaw : Flaw) (position : Position)
  /-- it holds an integer that is too long -/
  | numeral (e : NumeralError)
  /-- its parts stand too deep inside one another -/
  | deep
  /-- it is a document, but spells half a character on its own, which no text holds -/
  | half
deriving DecidableEq

/-- The error in words, if there are any for it. -/
def ReadError.message : ReadError → String
  | flawed f p => s!"{f.message}: line {p.line} column {p.column} (char {p.offset})"
  | numeral e => e.message
  | deep | half => ""

/-- An error on the way: the flaw and the rest of the text from there on. -/
inductive Halt where
  | flawed (flaw : Flaw) (rest : List Char)
  | numeral (e : NumeralError)
  | deep
  | half

/-- What was read and the rest, or an error. -/
abbrev Scan (α : Type) := Except Halt (α × List Char)

/-! ## Blanks, names and numbers -/

/-- A blank between the parts of a document. -/
def isGap (c : Char) : Bool := c == ' ' || c == '\t' || c == '\n' || c == '\r'

/-- The text without blanks in front. -/
def skipGap (cs : List Char) : List Char := cs.dropWhile isGap

/-- The values that have names. -/
def named : List (List Char × Json) := [
  (['n', 'u', 'l', 'l'], null),
  (['t', 'r', 'u', 'e'], bool true),
  (['f', 'a', 'l', 's', 'e'], bool false),
  (['N', 'a', 'N'], real .undefined),
  (['I', 'n', 'f', 'i', 'n', 'i', 't', 'y'], real (.infinite false)),
  (['-', 'I', 'n', 'f', 'i', 'n', 'i', 't', 'y'], real (.infinite true))]

/-- A value by its name. -/
def named? (cs : List Char) : Option (Json × List Char) :=
  (named.find? fun (word, _) => word.isPrefixOf cs).map fun (word, v) => (v, cs.drop word.length)

/-- The value of an ASCII digit. -/
def digitValue (c : Char) : Nat := c.toNat - '0'.toNat

/-- The digits of a whole number: one zero, or digits without a zero in
    front. -/
def wholeDigits? : List Char → Option (List Char × List Char)
  | [] => none
  | c :: rest =>
    if c = '0' then some ([c], rest)
    else if c.isDigit then some ((c :: rest).span Char.isDigit)
    else none

/-- The digits after a point; a point without a digit is left. -/
def fractionDigits : List Char → List Char × List Char
  | '.' :: rest => match rest.span Char.isDigit with
    | ([], _) => ([], '.' :: rest)
    | found => found
  | cs => ([], cs)

/-- The exponent after `e`; one without a digit is left. -/
def exponent? : List Char → Option (Int × List Char)
  | c :: rest =>
    if c = 'e' || c = 'E' then
      let (negative, rest) := Numeral.sign rest
      match rest.span Char.isDigit with
      | ([], _) => none
      | (ds, rest) =>
        let n : Nat := Text.ofDigits (ds.map digitValue)
        some (if negative then -(n : Int) else n, rest)
    else none
  | [] => none

/-- An integer by its sign and digits. -/
def integer (negative : Bool) (ds : List Char) : Except NumeralError Number :=
  if maxDigits < ds.length then .error (.tooLong ds.length)
  else
    let n : Nat := Text.ofDigits (ds.map digitValue)
    .ok (.int (if negative then -(n : Int) else n))

/-- A real by its sign, digits, number of digits after the point and
    exponent. -/
def decimal (negative : Bool) (ds : List Char) (places : Nat) (e : Int) : Number :=
  .real (Numeral.real negative (ds.map digitValue) places e)

/-- A number without its sign: an integer unless there is a point or an
    exponent. -/
def unsigned? (negative : Bool) (cs : List Char) :
    Option (Except NumeralError Number × List Char) :=
  (wholeDigits? cs).map fun (whole, rest) =>
    let (part, rest) := fractionDigits rest
    match exponent? rest with
    | some (e, rest) => (.ok (decimal negative (whole ++ part) part.length e), rest)
    | none =>
      if part.isEmpty then (integer negative whole, rest)
      else (.ok (decimal negative (whole ++ part) part.length 0), rest)

/-- A number. -/
def number? : List Char → Option (Except NumeralError Number × List Char)
  | '-' :: rest => unsigned? true rest
  | cs => unsigned? false cs

/-- A named value or a number. -/
def scalar (cs : List Char) : Scan Json :=
  match named? cs with
  | some found => .ok found
  | none => match number? cs with
    | some (.ok n, rest) => .ok (number n, rest)
    | some (.error e, _) => .error (.numeral e)
    | none => .error (.flawed .value cs)

/-! ## Texts -/

/-- The value of a hexadecimal digit. -/
def hexValue? (c : Char) : Option Nat :=
  if c.isDigit then some (c.toNat - '0'.toNat)
  else if 'a' ≤ c && c ≤ 'f' then some (c.toNat - 'a'.toNat + 10)
  else if 'A' ≤ c && c ≤ 'F' then some (c.toNat - 'A'.toNat + 10)
  else none

/-- The number that the next four characters denote; there has to be a further
    one after them. -/
def fourDigits? : List Char → Option Nat
  | a :: b :: c :: d :: _ :: _ => do
    let ds ← [a, b, c, d].mapM hexValue?
    return ds.foldl (fun n d => 16 * n + d) 0
  | _ => none

/-- The half that may follow a first half, escaped as well: none if no escape
    stands there or too little after it. -/
def secondHalf? : List Char → Option (Option Nat)
  | '\\' :: 'u' :: rest => if 4 < rest.length then some (fourDigits? rest) else none
  | _ => none

section Halves

-- the character that is put for half a character on its own; without one, no such half is read
variable (half? : Option Char)

/-- What is read for a half on its own, which four digits escape. -/
def loneHalf : Except Halt (Char × Nat) :=
  match half? with
  | some c => .ok (c, 4)
  | none => .error .half

/-- The character escaped by `u` and four digits, which follow in `rest`, and
    the number of characters after the `u` that belong to it. -/
def codePoint (rest : List Char) : Except Halt (Char × Nat) :=
  match fourDigits? rest with
  | none => .error (.flawed .codePoint ('u' :: rest))
  | some n =>
    if isHighHalf n then
      match secondHalf? (rest.drop 4) with
      | none => loneHalf half?
      | some none => .error (.flawed .codePoint (rest.drop 5))
      | some (some m) => if isLowHalf m then .ok (joinedHalves n m, 10) else loneHalf half?
    else match character? n with
      | some c => .ok (c, 4)
      | none => loneHalf half?

/-- The characters that a backslash and one letter stand for. -/
def letterEscapes : List (Char × Char) := [
  ('"', '"'), ('\\', '\\'), ('/', '/'), ('b', '\x08'), ('f', '\x0C'), ('n', '\n'), ('r', '\r'),
  ('t', '\t')]

/-- The character escaped by a backslash, after which `rest` follows, and the
    number of characters of `rest` that belong to it. -/
def escapedChar (opening rest : List Char) : Except Halt (Char × Nat) :=
  match rest with
  | [] => .error (.flawed .openText opening)
  | 'u' :: digits => (codePoint half? digits).map fun (c, n) => (c, n + 1)
  | c :: _ => match letterEscapes.lookup c with
    | some d => .ok (d, 1)
    | none => .error (.flawed .escape ('\\' :: rest))

/-- The characters up to the closing quote.  `opening` is the text from the
    opening quote on, `skip` the number of characters that belong to an escape
    already read, `acc` what was read, the last character first. -/
def textFrom (opening : List Char) (skip : Nat) (acc : List Char) : List Char → Scan String
  | [] => .error (.flawed .openText opening)
  | c :: rest => match skip with
    | n + 1 => textFrom opening n acc rest
    | 0 =>
      if c = '"' then .ok (String.ofList acc.reverse, rest)
      else if c.toNat ≤ 0x1F then .error (.flawed .control (c :: rest))
      else if c = '\\' then
        match escapedChar half? opening rest with
        | .ok (d, n) => textFrom opening n (d :: acc) rest
        | .error e => .error e
      else textFrom opening 0 (c :: acc) rest

/-! ## Values -/

/-- A quoted name and the colon after it. -/
def fieldName : List Char → Scan String
  | '"' :: rest => match textFrom half? ('"' :: rest) 0 [] rest with
    | .error e => .error e
    | .ok (name, after) => match skipGap after with
      | ':' :: r => .ok (name, skipGap r)
      | r => .error (.flawed .colon r)
  | cs => .error (.flawed .name cs)

mutual

/-- A value, inside which `room` arrays and objects may stand in one
    another. -/
def valueFrom : Nat → Nat → List Char → Scan Json
  | 0, _, cs => .error (.flawed .value cs)
  | fuel + 1, room, cs => match cs with
    | '"' :: rest => (textFrom half? cs 0 [] rest).map fun (s, r) => (text s, r)
    | '[' :: rest => match room with
      | 0 => .error .deep
      | room + 1 => match skipGap rest with
        | ']' :: r => .ok (array [], r)
        | r => itemsFrom fuel room [] r
    | '\x7b' :: rest => match room with
      | 0 => .error .deep
      | room + 1 => match skipGap rest with
        | '\x7d' :: r => .ok (object [], r)
        | r => fieldsFrom fuel room [] r
    | cs => scalar cs

/-- The items of an array after the ones in `acc`, of which the last stands
    first. -/
def itemsFrom : Nat → Nat → List Json → List Char → Scan Json
  | 0, _, _, cs => .error (.flawed .value cs)
  | fuel + 1, room, acc, cs => match valueFrom fuel room cs with
    | .error e => .error e
    | .ok (v, rest) => match skipGap rest with
      | ']' :: r => .ok (array (v :: acc).reverse, r)
      | ',' :: r => itemsFrom fuel room (v :: acc) (skipGap r)
      | r => .error (.flawed .comma r)

/-- The fields of an object after the ones in `fs`. -/
def fieldsFrom : Nat → Nat → Fields → List Char → Scan Json
  | 0, _, _, cs => .error (.flawed .value cs)
  | fuel + 1, room, fs, cs => match fieldName half? cs with
    | .error e => .error e
    | .ok (name, rest) => match valueFrom fuel room rest with
      | .error e => .error e
      | .ok (v, rest) => match skipGap rest with
        | '\x7d' :: r => .ok (object (put name v fs), r)
        | ',' :: r => fieldsFrom fuel room (put name v fs) (skipGap r)
        | r => .error (.flawed .comma r)

end

/-- One value between blanks and nothing else, at most `depth` arrays and
    objects deep. -/
def document (depth : Nat) (cs : List Char) : Except Halt Json :=
  match cs with
  | '\ufeff' :: _ => .error (.flawed .mark cs)
  | _ =>
    let cs := skipGap cs
    -- each step takes a character or opens a value
    match valueFrom half? (2 * cs.length + 2) depth cs with
    | .error e => .error e
    | .ok (v, rest) => match skipGap rest with
      | [] => .ok v
      | r => .error (.flawed .extra r)

/-- Reads the characters of a document of any depth up to `depth`, with or without halves. -/
def readHalves (depth : Nat) (cs : List Char) : Except ReadError Json :=
  match document half? depth cs with
  | .ok v => .ok v
  | .error (.numeral e) => .error (.numeral e)
  | .error .deep => .error .deep
  | .error .half => .error .half
  | .error (.flawed f rest) => .error (.flawed f (.after (cs.take (cs.length - rest.length))))

end Halves

/-- Reads the characters of a document of any depth up to `depth`.  Halves count only in what is
    otherwise a document. -/
def readCharsWithin (depth : Nat) (cs : List Char) : Except ReadError Json :=
  match readHalves (some replacement) depth cs with
  | .ok _ => readHalves none depth cs
  | .error e => .error e

/-- Reads a document of any depth up to `depth`. -/
def read (depth : Nat) (s : String) : Except ReadError Json := readCharsWithin depth s.toList

end ChatRelay.Json

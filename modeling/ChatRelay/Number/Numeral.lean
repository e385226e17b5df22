/-
  Numerals: numbers as people write them into settings and headers.

  A numeral may stand between blanks and carry a sign.  Digits of every script
  count, and a single underscore may stand between two of them.  An integer is
  a run of digits; a real has a point or an exponent if it likes, or is one of
  the names `inf`, `infinity` and `nan` in any case.

  * `readInteger` and `readReal` read the two sorts;
  * `NumeralError` says why a text is no numeral, `NumeralError.message` in
    words.
-/
import ChatRelay.Number.Basic
import ChatRelay.Text.Blank
import ChatRelay.Text.Digit
import ChatRelay.Text.Quoted

namespace ChatRelay

open Text

/-- Why a text is not read as a number. -/
inductive NumeralError where
  /-- not an integer -/
  | notInteger (text : String)
  /-- not a real -/
  | notReal (text : String)
  /-- an integer of that many digits, more than are read -/
  | tooLong (digits : Nat)
  /-- an integer of more digits than are written -/
  | unwritable
deriving DecidableEq

/-- The greatest number of digits an integer is read from, or written with. -/
def maxDigits : Nat := 4300

/-- The greatest number of characters of a quoted text that is no integer
    which its error shows. -/
def shownChars : Nat := 200

/-- The limit on the digits of an integer, in words. -/
def limitText : String := s!"Exceeds the limit ({maxDigits} digits) for integer string conversion"

/-- What may be done about the limit. -/
def remedy : String := "use sys.set_int_max_str_digits() to increase the limit"

/-- The error in words. -/
def NumeralError.message : NumeralError → String
  | notInteger s =>
    "invalid literal for int() with base 10: " ++
      String.ofList ((quotedChars s.toList).take shownChars)
  | notReal s => s!"could not convert string to float: {quoted s}"
  | tooLong n => s!"{limitText}: value has {n} digits; {remedy}"
  | unwritable => s!"{limitText}; {remedy}"

namespace Numeral

/-- A blank that may surround a numeral: every blank but the separators
    U+001C to U+001F. -/
def isMargin (c : Char) : Bool :=
  isBlank c && !(0x1C ≤ c.toNat && c.toNat ≤ 0x1F)

/-- The characters between the margins. -/
def trimmed (s : String) : List Char :=
  dropTrailing isMargin (s.toList.dropWhile isMargin)

/-- A sign, if there is one, and the rest. -/
def sign : List Char → Bool × List Char
  | '-' :: rest => (true, rest)
  | '+' :: rest => (false, rest)
  | cs => (false, cs)

/-- The text begins with a digit. -/
def startsWithDigit : List Char → Bool
  | c :: _ => (decimalValue? c).isSome
  | [] => false

/-- A run of digits and the rest; an underscore is passed over if it stands
    right after a digit (`inside`) and before one. -/
def runFrom (inside : Bool) : List Char → List Nat × List Char
  | [] => ([], [])
  | c :: rest =>
    match decimalValue? c with
    | some d =>
      let (ds, r) := runFrom true rest
      (d :: ds, r)
    | none =>
      if inside && c == '_' && startsWithDigit rest then runFrom false rest else ([], c :: rest)

/-- A run of digits, with single underscores between them, and the rest. -/
def digitRun (cs : List Char) : List Nat × List Char := runFrom false cs

/-- The fraction digits after a point, and the rest. -/
def fraction : List Char → Option (List Nat × List Char)
  | '.' :: rest => if startsWithDigit rest then some (digitRun rest) else some ([], rest)
  | _ => none

/-- The exponent after `e`; a text without one is not touched. -/
def exponent : List Char → Option (Int × List Char)
  | c :: rest =>
    if c = 'e' || c = 'E' then
      let (negative, rest) := sign rest
      if startsWithDigit rest then
        let (ds, r) := digitRun rest
        some (if negative then -(ofDigits ds : Int) else ofDigits ds, r)
      else none
    else some (0, c :: rest)
  | [] => some (0, [])

/-- The real of digits, the last `places` of them after the point, and an
    exponent. -/
def real (negative : Bool) (ds : List Nat) (places : Nat) (e : Int) : Binary64 :=
  -- beyond these bounds every value is infinite or zero
  let bound : Int := Int.ofNat (400 + ds.length)
  .ofDecimal negative (ofDigits ds) (max (-bound) (min bound e) - places)

/-- An unsigned real in decimal notation. -/
def decimal? (negative : Bool) (cs : List Char) : Option Binary64 := do
  let (whole, rest) := digitRun cs
  let (part, rest) := (fraction rest).getD ([], rest)
  guard (!(whole.isEmpty && part.isEmpty))
  let (e, rest) ← exponent rest
  guard rest.isEmpty
  some (real negative (whole ++ part) part.length e)

/-- A real by name. -/
def named? (negative : Bool) (cs : List Char) : Option Binary64 :=
  let name := String.ofList (cs.map Char.toLower)
  if name = "inf" || name = "infinity" then some (.infinite negative)
  else if name = "nan" then some .undefined
  else none

end Numeral

open Numeral

/-- Writes a number. -/
def writeNumber (n : Number) : Except NumeralError String :=
  match n with
  | .int i => if tenTo maxDigits ≤ i.natAbs then .error .unwritable else .ok (Number.intText i)
  | .real x => .ok (Number.realText x)

/-- Reads an integer. -/
def readInteger (s : String) : Except NumeralError Int :=
  let (negative, cs) := sign (trimmed s)
  match digitRun cs with
  | ([], _) | (_, _ :: _) => .error (.notInteger s)
  | (ds, []) =>
    if maxDigits < ds.length then .error (.tooLong ds.length)
    else .ok (if negative then -(ofDigits ds : Int) else ofDigits ds)

/-- Reads a real. -/
def readReal (s : String) : Except NumeralError Binary64 :=
  let (negative, cs) := sign (trimmed s)
  match (decimal? negative cs).or (named? negative cs) with
  | some x => .ok x
  | none => .error (.notReal s)

end ChatRelay

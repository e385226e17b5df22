/-
  Quoted text.

  A text is quoted between single quotes, or between double quotes if it holds
  a single quote and no double one.  The backslash and the quote in use are
  escaped by a backslash, line feed, carriage return and tab by a letter, and
  every other character that does not print by its code point in hexadecimal:
  two, four or eight digits, whichever is the first to suffice.

  * `quoteMark` chooses the quotes, `escaped` writes one character, `quoted`
    the text;
  * `quotedPoints` writes code points, some of which may be halves of
    characters.
-/
import ChatRelay.Text.Halves
import ChatRelay.Text.Printable

namespace ChatRelay.Text

/-- The hexadecimal digits of a number in lower case, at least `width` of
    them. -/
def hexDigits (width n : Nat) : List Char :=
  let ds := Nat.toDigits 16 n
  List.replicate (width - ds.length) '0' ++ ds

/-- The quotes a text is put between. -/
def quoteMark (cs : List Char) : Char :=
  if cs.contains '\'' && !cs.contains '"' then '"' else '\''

/-- One character inside the quotes `q`. -/
def escaped (q c : Char) : List Char :=
  if c = '\\' || c = q then ['\\', c]
  else if c = '\n' then ['\\', 'n']
  else if c = '\r' then ['\\', 'r']
  else if c = '\t' then ['\\', 't']
  else if isPrintable c then [c]
  else if c.toNat < 0x100 then '\\' :: 'x' :: hexDigits 2 c.toNat
  else if c.toNat < 0x10000 then '\\' :: 'u' :: hexDigits 4 c.toNat
  else '\\' :: 'U' :: hexDigits 8 c.toNat

/-- The characters of a quoted text. -/
def quotedChars (cs : List Char) : List Char :=
  let q := quoteMark cs
  q :: cs.flatMap (escaped q) ++ [q]

/-- A text between quotes. -/
def quoted (s : String) : String :=
  String.ofList (quotedChars s.toList)

/-- One code point inside the quotes `q`; half a character does not print. -/
def escapedPoint (q : Char) (n : Nat) : List Char :=
  if isHighHalf n || isLowHalf n then '\\' :: 'u' :: hexDigits 4 n else escaped q (Char.ofNat n)

/-- Code points between quotes. -/
def quotedPoints (ns : List Nat) : String :=
  let q := quoteMark (ns.map Char.ofNat)
  String.ofList (q :: ns.flatMap (escapedPoint q) ++ [q])

end ChatRelay.Text

/-
  Characters as halves of 16 bits.

  A character beyond U+FFFF is written as two numbers of 16 bits, a high half
  and a low half.  A number that octets spell has its most significant octet
  first or last.

  * `isHighHalf`, `isLowHalf` and `joinedHalves` read halves;
  * `character?` is the character of a number, which a half on its own has not;
  * `numberOf` is the number that octets spell.
-/
namespace ChatRelay.Text

/-- The first half of a character beyond U+FFFF. -/
def isHighHalf (n : Nat) : Bool := 0xD800 ≤ n && n ≤ 0xDBFF

/-- The second half of a character beyond U+FFFF. -/
def isLowHalf (n : Nat) : Bool := 0xDC00 ≤ n && n ≤ 0xDFFF

/-- The character of two halves. -/
def joinedHalves (high low : Nat) : Char :=
  Char.ofNat (0x10000 + (high - 0xD800) * 0x400 + (low - 0xDC00))

/-- The character that stands for what cannot be read. -/
def replacement : Char := '\ufffd'

/-- The character of a code point; none for a half on its own and for what is no
    code point. -/
def character? (n : Nat) : Option Char :=
  if isHighHalf n || isLowHalf n || 0x110000 ≤ n then none else some (Char.ofNat n)

/-- The character of a code point, for a reader that puts the replacement in the
    place of what is no character. -/
def charOf (n : Nat) : Char := (character? n).getD replacement

/-- The number that octets spell, the most significant one first or last. -/
def numberOf (bigEndian : Bool) (bs : List UInt8) : Nat :=
  (if bigEndian then bs else bs.reverse).foldl (fun n b => 0x100 * n + b.toNat) 0

end ChatRelay.Text

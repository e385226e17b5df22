/-
  Text in which characters beyond ASCII stand in shifted stretches.

  A plus sign begins a stretch of digits of the base 64, each six bits, which
  spell units of 16 bits; the first character that is no such digit ends it, and
  a hyphen does nothing else.  A plus sign before a hyphen stands for itself.
  What breaks off is replaced.

  * `decodeShifted` reads octets.
-/
import ChatRelay.Text.Halves

namespace ChatRelay.Charset

open Text

/-- The value of a digit of the base 64. -/
def sextet? (b : UInt8) : Option Nat :=
  let c := Char.ofNat b.toNat
  if c.isUpper then some (b.toNat - 'A'.toNat)
  else if c.isLower then some (b.toNat - 'a'.toNat + 26)
  else if c.isDigit then some (b.toNat - '0'.toNat + 52)
  else if c = '+' then some 62
  else if c = '/' then some 63
  else none

/-- A shifted stretch: the bits that make up no unit yet, their number, and a
    high half that waits for its low half. -/
structure Stretch where
  bits : Nat := 0
  count : Nat := 0
  high : Option Nat := none

/-- Takes a digit: the characters that it completes and the stretch after it. -/
def Stretch.take (s : Stretch) (sextet : Nat) : List Char × Stretch :=
  let bits := s.bits * 0x40 + sextet
  let count := s.count + 6
  if count < 16 then ([], { s with bits, count })
  else
    let rest := Nat.pow 2 (count - 16)
    let n := bits / rest
    let left : Stretch := { bits := bits % rest, count := count - 16 }
    match s.high with
    | some h =>
      if isLowHalf n then ([joinedHalves h n], left)
      else if isHighHalf n then ([replacement], { left with high := some n })
      else ([replacement, charOf n], left)
    | none => if isHighHalf n then ([], { left with high := some n }) else ([charOf n], left)

/-- The bits left over are more than padding. -/
def Stretch.isBroken (s : Stretch) : Bool := 6 ≤ s.count || (0 < s.count && s.bits != 0)

/-- The character that ends a stretch or stands outside one. -/
def plainOctet (b : UInt8) : Char :=
  if b.toNat < 0x80 then Char.ofNat b.toNat else replacement

/-- What the end of a stretch at an octet leaves. -/
def Stretch.finish (s : Stretch) (b : UInt8) : List Char :=
  if s.isBroken then [replacement]
  else
    (if s.high.isSome && b.toNat < 0x80 then [replacement] else []) ++
      (if b.toNat = '-'.toNat then [] else [plainOctet b])

/-- Where the reading stands: outside a stretch, after a plus sign, or inside a
    stretch. -/
inductive Shift where
  | outside
  | opened
  | inside (s : Stretch)

/-- Reads an octet: the characters that it completes, and where the reading then
    stands. -/
def Shift.step (state : Shift) (b : UInt8) : List Char × Shift :=
  match state, sextet? b with
  | outside, _ =>
    if b.toNat = '+'.toNat then ([], opened) else ([plainOctet b], outside)
  | opened, some d =>
    let (out, s) := ({} : Stretch).take d
    (out, inside s)
  | opened, none => ([if b.toNat = '-'.toNat then '+' else replacement], outside)
  | inside s, some d =>
    let (out, s) := s.take d
    (out, inside s)
  | inside s, none => (s.finish b, outside)

/-- Reads octets from a state on. -/
def decodeShiftedFrom (state : Shift) : List UInt8 → List Char
  | [] => match state with
    | .inside s => if s.isBroken || s.high.isSome then [replacement] else []
    | _ => []
  | b :: rest =>
    let (out, next) := state.step b
    out ++ decodeShiftedFrom next rest

/-- The characters of octets. -/
def decodeShifted (bs : List UInt8) : List Char := decodeShiftedFrom .outside bs

end ChatRelay.Charset

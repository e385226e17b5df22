/-
  Binary floating point numbers of 64 bits, by their bits.

  A number is one sign bit, eleven exponent bits and 52 fraction bits.  Its
  magnitude is `m · 2^q` for the natural number `m` and the integer `q` of
  `significand` and `scale`; the highest exponent is kept for the infinities
  and for what is not a number.  No operation of the machine is involved here,
  except in `power` for what is not a power of two.

  * `ofRatio` rounds a quotient to the nearest number, a tie to the even one;
  * `sum` and `product` are the exact results, rounded by `ofRatio`;
  * `compare?` is the order of the denoted values, undefined for what is not
    a number.
-/
namespace ChatRelay

/-- A power of two. -/
def twoTo (n : Nat) : Nat := Nat.pow 2 n

/-- A power of ten. -/
def tenTo (n : Nat) : Nat := Nat.pow 10 n

/-- A 64-bit binary floating point number. -/
structure Binary64 where
  bits : UInt64
deriving DecidableEq, Inhabited

namespace Binary64

/-! ## Parts -/

/-- The sign bit is set. -/
def isNegative (x : Binary64) : Bool := twoTo 63 ≤ x.bits.toNat

/-- The eleven exponent bits. -/
def exponentBits (x : Binary64) : Nat := x.bits.toNat / twoTo 52 % twoTo 11

/-- The 52 fraction bits. -/
def fractionBits (x : Binary64) : Nat := x.bits.toNat % twoTo 52

/-- Neither an infinity nor undefined. -/
def isFinite (x : Binary64) : Bool := x.exponentBits != 2047

/-- Not a number. -/
def isUndefined (x : Binary64) : Bool := !x.isFinite && x.fractionBits != 0

/-- Zero of either sign. -/
def isZero (x : Binary64) : Bool := x.exponentBits == 0 && x.fractionBits == 0

/-- The natural number `m` of the magnitude `m · 2^q`. -/
def significand (x : Binary64) : Nat :=
  if x.exponentBits = 0 then x.fractionBits else twoTo 52 + x.fractionBits

/-- The integer `q` of the magnitude `m · 2^q`. -/
def scale (x : Binary64) : Int :=
  if x.exponentBits = 0 then -1074 else (x.exponentBits : Int) - 1075

/-- The magnitude as a quotient of natural numbers. -/
def ratio (x : Binary64) : Nat × Nat :=
  (x.significand * twoTo x.scale.toNat, twoTo (-x.scale).toNat)

/-! ## Special values -/

/-- The number with the given sign and the remaining bits `n`. -/
def ofSigned (negative : Bool) (n : Nat) : Binary64 :=
  ⟨UInt64.ofNat ((if negative then twoTo 63 else 0) + n)⟩

/-- The bits of infinity, less the sign. -/
def infiniteBits : Nat := 2047 * twoTo 52

/-- Infinity of either sign. -/
def infinite (negative : Bool) : Binary64 := ofSigned negative infiniteBits

/-- What is not a number. -/
def undefined : Binary64 := ofSigned false (infiniteBits + twoTo 51)

/-- Zero of either sign. -/
def zero (negative : Bool) : Binary64 := ofSigned negative 0

/-! ## Rounding -/

/-- The quotient rounded to the nearest integer, a tie to the even one. -/
def roundDiv (num den : Nat) : Nat :=
  let n := num / den
  let twice := 2 * (num % den)
  if twice < den || (twice == den && n % 2 == 0) then n else n + 1

/-- The integer `e` with `2^e ≤ num / den < 2^(e+1)`, for positive `num` and
    `den`. -/
def magnitude (num den : Nat) : Int :=
  let e := (num.log2 : Int) - den.log2
  if den * twoTo e.toNat ≤ num * twoTo (-e).toNat then e else e - 1

/-- The number nearest to `num / den`, a tie going to the one with the even
    significand; beyond the greatest number it is infinite. -/
def ofRatio (negative : Bool) (num den : Nat) : Binary64 :=
  if num = 0 then zero negative
  else
    let q := max (-1074) (magnitude num den - 52)
    let m := roundDiv (num * twoTo (-q).toNat) (den * twoTo q.toNat)
    ofSigned negative (min infiniteBits ((q + 1074).toNat * twoTo 52 + m))

/-- The number nearest to an integer. -/
def ofInt (i : Int) : Binary64 := ofRatio (i < 0) i.natAbs 1

/-- The number nearest to `digits · 10^exponent`. -/
def ofDecimal (negative : Bool) (digits : Nat) (exponent : Int) : Binary64 :=
  ofRatio negative (digits * tenTo exponent.toNat) (tenTo (-exponent).toNat)

/-! ## Order and arithmetic -/

/-- The value as an integer over a positive denominator. -/
def value (x : Binary64) : Int × Nat :=
  let (num, den) := x.ratio
  (if x.isNegative then -(num : Int) else num, den)

/-- The order of the denoted values. -/
def compare? (x y : Binary64) : Option Ordering :=
  if x.isUndefined || y.isUndefined then none
  else if x.isFinite && y.isFinite then
    let (a, b) := x.value
    let (c, d) := y.value
    some (compare (a * d) (c * b))
  else
    let rank (z : Binary64) : Int := if z.isFinite then 0 else if z.isNegative then -1 else 1
    some (compare (rank x) (rank y))

/-- The sum, rounded.  Two zeros add up to a negative one only if both are
    negative. -/
def sum (x y : Binary64) : Binary64 :=
  if x.isUndefined || y.isUndefined then undefined
  else if !x.isFinite then
    if !y.isFinite && x.isNegative != y.isNegative then undefined else x
  else if !y.isFinite then y
  else
    let (a, b) := x.value
    let (c, d) := y.value
    let s := a * d + c * b
    if s = 0 then zero (x.isZero && y.isZero && x.isNegative && y.isNegative)
    else ofRatio (s < 0) s.natAbs (b * d)

/-- The product, rounded. -/
def product (x y : Binary64) : Binary64 :=
  let negative := x.isNegative != y.isNegative
  if x.isUndefined || y.isUndefined then undefined
  else if !x.isFinite || !y.isFinite then
    if x.isZero || y.isZero then undefined else infinite negative
  else
    let (a, b) := x.ratio
    let (c, d) := y.ratio
    ofRatio negative (a * c) (b * d)

/-- The exponent of a power of two of either sign; none for another number, and
    for one too small to have all its digits. -/
def twoExponent? (x : Binary64) : Option Int :=
  if x.fractionBits = 0 && x.exponentBits != 0 && x.isFinite then
    some ((x.exponentBits : Int) - 1023)
  else none

/-- The power of two with the exponent `e`, rounded. -/
def ofTwoExponent (negative : Bool) (e : Int) : Binary64 :=
  ofRatio negative (twoTo e.toNat) (twoTo (-e).toNat)

/-- The power with a natural exponent: of a power of two the exact one, rounded,
    otherwise as the machine computes it. -/
def power (x : Binary64) (n : Nat) : Binary64 :=
  match x.twoExponent? with
  | some e => ofTwoExponent (x.isNegative && n % 2 == 1) (e * n)
  | none => ⟨(Float.pow (Float.ofBits x.bits) (Float.ofNat n)).toBits⟩

end Binary64

end ChatRelay

/-
  The shortest decimal that reads back.

  Every positive finite number is the nearest one to a whole interval of
  values: half-way to its neighbours, the ends included iff its significand is
  even.  Among the decimals in this interval with the fewest digits the one
  nearest to the number is chosen, and of two equally near ones the even one.

  * `nearPoints` are the two neighbours of a value on a decimal grid; if a
    point of the grid reads back, one of the two does;
  * `readsBack` is membership in the interval;
  * `shortest` tries one digit, then two, up to seventeen, which always
    suffice.
-/
import ChatRelay.Number.Binary64

namespace ChatRelay.Binary64

/-- The value `digits · 10^exponent` lies in the interval of a positive `x`:
    from a quarter of the spacing below if `x` is the least of its binade, half
    of it otherwise, up to half the spacing above. -/
def readsBack (x : Binary64) (digits : Nat) (exponent : Int) : Bool :=
  let m := x.significand
  -- everything in units of a quarter of the spacing, times both denominators
  let unit := twoTo (x.scale - 2).toNat * tenTo (-exponent).toNat
  let v := digits * tenTo exponent.toNat * twoTo (2 - x.scale).toNat
  let below := if x.fractionBits = 0 && 1 < x.exponentBits then 1 else 2
  let low := (4 * m - below) * unit
  let high := (4 * m + 2) * unit
  if m % 2 = 0 then low ≤ v && v ≤ high else low < v && v < high

/-- The multiple of `10^exponent` next below the value of `x`, or equal to it,
    and whether the one above is nearer (a tie goes to the even one). -/
def nearPoints (x : Binary64) (exponent : Int) : Nat × Bool :=
  let (num, den) := x.ratio
  let n := num * tenTo (-exponent).toNat
  let d := den * tenTo exponent.toNat
  (n / d, roundDiv n d != n / d)

/-- A decimal of the grid `10^exponent` that reads back, the nearer one
    first. -/
def onGrid? (x : Binary64) (exponent : Int) : Option Nat :=
  let (low, up) := x.nearPoints exponent
  let (first, second) := if up then (low + 1, low) else (low, low + 1)
  if x.readsBack first exponent then some first
  else if x.readsBack second exponent then some second
  else none

/-- The exponent of the leading decimal digit of `num / den`. -/
def leadingExponent (num den : Nat) : Int :=
  let e := ((Nat.toDigits 10 num).length : Int) - (Nat.toDigits 10 den).length
  if den * tenTo e.toNat ≤ num * tenTo (-e).toNat then e else e - 1

/-- The first grid with a hit, from the grid `exponent` on and over `fuel`
    finer ones. -/
def searchGrids (x : Binary64) (exponent : Int) : Nat → Nat × Int
  | 0 => ((x.nearPoints exponent).1, exponent)
  | fuel + 1 =>
    match x.onGrid? exponent with
    | some n => (n, exponent)
    | none => searchGrids x (exponent - 1) fuel

/-- The digits `n` and exponent `e` of the shortest decimal `n · 10^e` that
    reads back as the positive finite `x`. -/
def shortest (x : Binary64) : Nat × Int :=
  let (num, den) := x.ratio
  searchGrids x (leadingExponent num den) 17

end ChatRelay.Binary64

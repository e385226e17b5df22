/-
  Arithmetic across the two sorts of numbers.

  Of integers the result is exact; where a real takes part, the operands are
  taken as reals and the result is rounded.

  * `Number.add`, `Number.negate`, `Number.mul` and `Number.power` are the
    operations.
-/
import ChatRelay.Number.Basic

namespace ChatRelay.Number

/-- The sum: of integers exact, otherwise rounded. -/
def add : Number → Number → Number
  | int i, int j => int (i + j)
  | a, b => real (((a.toReal?).getD .undefined).sum (b.toReal?.getD .undefined))

/-- The number with its sign changed. -/
def negate : Number → Number
  | int i => int (-i)
  | real x => real (.ofSigned (!x.isNegative) (x.bits.toNat % twoTo 63))

/-- The product: of integers exact, otherwise rounded; none for an integer
    that is too large for a real. -/
def mul : Number → Number → Option Number
  | int i, int j => some (int (i * j))
  | a, b => do
    let x ← a.toReal?
    let y ← b.toReal?
    return real (x.product y)

/-- The power with a natural exponent: of integers exact, otherwise that of the
    reals; none if finite numbers give an infinite one. -/
def power : Number → Nat → Option Number
  | int i, n => some (int (Int.pow i n))
  | real x, n =>
    let y := x.power n
    if x.isFinite && !y.isFinite then none else some (real y)

end ChatRelay.Number

/-
  Trying again after a failure.

  An action that fails is tried again while the failure is one worth another
  attempt and retries are left.  Before the next attempt there is a pause: as
  long as the failure asks for, or growing by a constant factor from one
  attempt to the next, at most `maxDelay`, and up to a tenth longer at random.

  The loop is stated for any monad, any sort of failure and any sort of
  quantity, so that the delays can be computed in floating point and reasoned
  about exactly.

  * `Quantity` is the arithmetic of delays, `Backoff.delay` the pause;
  * `Attempts` is what the loop is given, `Attempts.run` the loop.
-/
import ChatRelay.Number.Arithmetic

namespace ChatRelay

/-- Arithmetic of delays; a result that is too large is none. -/
class Quantity (ν : Type) where
  zero : ν
  tenth : ν
  add : ν → ν → ν
  sub : ν → ν → ν
  mul : ν → ν → Option ν
  power : ν → Nat → Option ν
  isZero : ν → Bool
  isBelow : ν → ν → Bool

namespace Number

instance : Quantity Number where
  zero := int 0
  tenth := real (.ofDecimal false 1 (-1))
  add := add
  sub a b := add a (negate b)
  mul := mul
  power := power
  isZero := isZero
  isBelow := isBelow

end Number

/-- How long to wait, and how often to try again. -/
structure Backoff (ν : Type) where
  maxRetries : Int
  initialDelay : ν
  maxDelay : ν
  base : ν

section Delay

variable {ν : Type} [Quantity ν]

open Quantity

/-- The pause after an attempt, not yet limited: what the failure asks for,
    unless that is nothing, else the initial delay grown once per attempt. -/
def Backoff.wanted (b : Backoff ν) (attempt : Nat) (hint : Option ν) : Option ν :=
  match hint.filter (!isZero ·) with
  | some h => some h
  | none => (power b.base attempt).bind (mul b.initialDelay)

/-- The pause after an attempt, before chance comes in. -/
def Backoff.limited (b : Backoff ν) (attempt : Nat) (hint : Option ν) : Option ν :=
  (b.wanted attempt hint).map fun d => if isBelow b.maxDelay d then b.maxDelay else d

/-- The quantity between zero and `bound` that lies at the part `jitter` of
    the way. -/
def randomUpTo (bound jitter : ν) : Option ν :=
  (mul (sub bound zero) jitter).map (add zero)

/-- The pause after an attempt. -/
def Backoff.delay (b : Backoff ν) (attempt : Nat) (hint : Option ν) (jitter : ν) : Option ν := do
  let d ← b.limited attempt hint
  let bound ← mul d tenth
  let extra ← randomUpTo bound jitter
  return add d extra

end Delay

/-- What a failure says about another attempt: whether it is worth one, and
    after how long. -/
structure Prospect (ν : Type) where
  retryable : Bool
  after : Option ν

/-- What the loop is given: the action, the failures that it handles, what
    they say about another attempt, or the failure that comes of asking, and
    what to do before a pause. -/
structure Attempts (m : Type → Type) (ε ν α : Type) where
  backoff : Backoff ν
  jitter : Nat → ν
  action : Nat → m (Except ε α)
  handles : ε → Bool
  prospect : ε → Except ε (Prospect ν)
  /-- the failure when a delay is too large -/
  overflow : ε
  notify : ε → Nat → m Unit
  pause : ν → m Unit

namespace Attempts

variable {m : Type → Type} [Monad m] {ε ν α : Type} [Quantity ν]

/-- What follows a failure: the pause before the next attempt, or the failure
    that ends the loop. -/
def next (a : Attempts m ε ν α) (more : Bool) (attempt : Nat) (e : ε) : Except ε ν :=
  if !a.handles e then .error e
  else match a.prospect e with
    | .error e' => .error e'
    | .ok p =>
      if !p.retryable || !more then .error e
      else match a.backoff.delay attempt p.after (a.jitter attempt) with
        | some d => .ok d
        | none => .error a.overflow

/-- The attempts from the given one on, with `left` retries left. -/
def runFrom (a : Attempts m ε ν α) (attempt : Nat) (left : Nat) : m (Except ε α) := do
  match ← a.action attempt with
  | .ok v => return .ok v
  | .error e =>
    match left with
    | 0 => match a.next false attempt e with
      | .error e' => return .error e'
      | .ok _ => return .error e
    | left + 1 => match a.next true attempt e with
      | .error e' => return .error e'
      | .ok d =>
        a.notify e (attempt + 1)
        a.pause d
        runFrom a (attempt + 1) left

/-- All attempts. -/
def run (a : Attempts m ε ν α) : m (Except ε α) := a.runFrom 0 a.backoff.maxRetries.toNat

end Attempts

end ChatRelay

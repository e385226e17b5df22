/-
  The retry loop, for any sequence of outcomes.

  A `Trial` is the loop with the outcomes of its action laid down in advance.  Running it leaves
  the steps of the loop on a tape: the attempts, the notices of failures and the pauses.
  `Settles` lists the ways in which an attempt is the last one, `Ends` one more: the delay until
  the next attempt may be too large.  Any other attempt `Retries`.

  * `ends_or_retries` and `not_ends_of_retries`: an attempt does the one or the other;
  * `run_runFrom_of_ends` and `run_runFrom_of_retries` are the two steps of the loop, and
    `exists_retried` puts them together;
  * `delay_eq` gives the pause in exact arithmetic, in which no delay is too large;
  * `attempts_course` says what the loop does, and how long its pauses are.
-/
import ChatRelay.Connector.Retry
import ChatRelay.Failure
import ChatRelay.Proofs.Running
import Mathlib.Algebra.Order.Field.Basic
import Mathlib.Order.Bounds.Basic
import Mathlib.Tactic.Linarith
import Mathlib.Tactic.Positivity
import Mathlib.Tactic.Ring

namespace ChatRelay

/-! ## Trials -/

/-- What the loop does, step by step. -/
inductive Step (ε ν : Type) where
  | attempt (n : Nat)
  /-- the failure is told, and which attempt comes next -/
  | notice (e : ε) (n : Nat)
  | pause (d : ν)
deriving DecidableEq

/-- The loop with the outcomes of its action. -/
structure Trial (ε ν α : Type) where
  backoff : Backoff ν
  jitter : Nat → ν
  outcome : Nat → Except ε α
  handles : ε → Bool
  prospect : ε → Except ε (Prospect ν)
  overflow : ε

namespace Trial

variable {ε ν α : Type}

/-- The loop, which puts its steps on a tape. -/
def attempts (t : Trial ε ν α) : Attempts (StateM (List (Step ε ν))) ε ν α where
  backoff := t.backoff
  jitter := t.jitter
  action n := do
    modify (· ++ [.attempt n])
    return t.outcome n
  handles := t.handles
  prospect := t.prospect
  overflow := t.overflow
  notify e n := modify (· ++ [.notice e n])
  pause d := modify (· ++ [.pause d])

theorem run_action (t : Trial ε ν α) (n : Nat) (tape : List (Step ε ν)) :
    (t.attempts.action n).run tape = (t.outcome n, tape ++ [.attempt n]) := rfl

/-- Of every failure that is handled, it can be told whether it is worth another attempt. -/
def IsClassified (t : Trial ε ν α) : Prop :=
  ∀ n e, t.outcome n = .error e → t.handles e = true → ∃ p, t.prospect e = .ok p

/-- The attempt is the last one, and the loop ends in what it came to: a value, a failure that is
    not handled, one that is not worth another attempt, or any if no retries are left. -/
inductive Settles (t : Trial ε ν α) (n : Nat) : Except ε α → Prop
  | value {a : α} : t.outcome n = .ok a → Settles t n (.ok a)
  | unhandled {e : ε} : t.outcome n = .error e → t.handles e = false → Settles t n (.error e)
  | hopeless {e : ε} {p : Prospect ν} : t.outcome n = .error e → t.prospect e = .ok p →
      p.retryable = false → Settles t n (.error e)
  | spent {e : ε} : t.outcome n = .error e → t.backoff.maxRetries ≤ n → Settles t n (.error e)

variable [Quantity ν]

/-- The attempt failed, and there is another one after a pause. -/
structure Retries (t : Trial ε ν α) (n : Nat) (e : ε) (d : ν) : Prop where
  failed : t.outcome n = .error e
  handled : t.handles e = true
  left : (n : Int) < t.backoff.maxRetries
  promising : ∃ p, t.prospect e = .ok p ∧ p.retryable = true ∧
    t.backoff.delay n p.after (t.jitter n) = some d

/-- The attempt is the last one: it settles the loop, or there would be another one, but the
    delay until then is too large. -/
inductive Ends (t : Trial ε ν α) (n : Nat) : Except ε α → Prop
  | settles {r : Except ε α} : t.Settles n r → Ends t n r
  | overflows {e : ε} {p : Prospect ν} : t.outcome n = .error e → t.handles e = true →
      t.prospect e = .ok p → p.retryable = true → (n : Int) < t.backoff.maxRetries →
      t.backoff.delay n p.after (t.jitter n) = none → Ends t n (.error t.overflow)

/-- The steps from attempt `n` on, with the failures and pauses before further attempts. -/
def stepsFrom (n : Nat) : List (ε × ν) → List (Step ε ν)
  | [] => [.attempt n]
  | (e, d) :: rest => .attempt n :: .notice e (n + 1) :: .pause d :: stepsFrom (n + 1) rest

/-- What the loop ends in, and its steps. -/
def run (t : Trial ε ν α) : Except ε α × List (Step ε ν) := t.attempts.run.run []

/-- The loop makes the attempts up to number `k` and ends in `r`: it makes no more than it has to,
    and before each further attempt tells the failure and then pauses. -/
structure Course (t : Trial ε ν α) (k : Nat) (r : Except ε α) (retried : List (ε × ν)) :
    Prop where
  least : IsLeast {n | ∃ r, t.Ends n r} k
  ends : t.Ends k r
  count : retried.length = k
  retries : ∀ j e d, retried[j]? = some (e, d) → t.Retries j e d
  run : t.run = (r, stepsFrom 0 retried)

/-! ## The steps of the loop -/

section Loop

variable {t : Trial ε ν α} {n left : Nat} {r : Except ε α} {e : ε} {d : ν}

theorem not_ends_of_retries (h : t.Retries n e d) : ¬ t.Ends n r := by
  obtain ⟨hfailed, hhandled, hleft, p, hp, hretryable, hdelay⟩ := h
  intro hends
  cases hends with
  | settles hsettles =>
    cases hsettles with
    | value ha => cases hfailed.symm.trans ha
    | unhandled he hno =>
      cases hfailed.symm.trans he
      cases hhandled.symm.trans hno
    | hopeless he hp' hno =>
      cases hfailed.symm.trans he
      cases hp.symm.trans hp'
      cases hretryable.symm.trans hno
    | spent _ hspent => omega
  | overflows he _ hp' _ _ hnone =>
    cases hfailed.symm.trans he
    cases hp.symm.trans hp'
    cases hdelay.symm.trans hnone

/-- **An attempt is the last one, or there is another one after it.** -/
theorem ends_or_retries (h : t.IsClassified) (n : Nat) :
    (∃ r, t.Ends n r) ∨ ∃ e d, t.Retries n e d := by
  cases ho : t.outcome n with
  | ok a => exact Or.inl ⟨_, .settles (.value ho)⟩
  | error e =>
    cases hh : t.handles e with
    | false => exact Or.inl ⟨_, .settles (.unhandled ho hh)⟩
    | true =>
      obtain ⟨p, hp⟩ := h n e ho hh
      cases hr : p.retryable with
      | false => exact Or.inl ⟨_, .settles (.hopeless ho hp hr)⟩
      | true =>
        by_cases hleft : (n : Int) < t.backoff.maxRetries
        · cases hd : t.backoff.delay n p.after (t.jitter n) with
          | none => exact Or.inl ⟨_, .overflows ho hh hp hr hleft hd⟩
          | some d => exact Or.inr ⟨e, d, ho, hh, hleft, p, hp, hr, hd⟩
        · exact Or.inl ⟨_, .settles (.spent ho (Int.not_lt.1 hleft))⟩

section Next

variable {p : Prospect ν} (more : Bool)

theorem next_of_unhandled (hh : t.handles e = false) : t.attempts.next more n e = .error e := by
  simp [Attempts.next, attempts, hh]

theorem next_of_hopeless (hh : t.handles e = true) (hp : t.prospect e = .ok p)
    (hr : p.retryable = false) : t.attempts.next more n e = .error e := by
  simp [Attempts.next, attempts, hh, hp, hr]

theorem next_of_spent (hh : t.handles e = true) (hp : t.prospect e = .ok p) :
    t.attempts.next false n e = .error e := by
  simp [Attempts.next, attempts, hh, hp]

theorem next_of_promising (hh : t.handles e = true) (hp : t.prospect e = .ok p)
    (hr : p.retryable = true) (hd : t.backoff.delay n p.after (t.jitter n) = some d) :
    t.attempts.next true n e = .ok d := by
  simp [Attempts.next, attempts, hh, hp, hr, hd]

theorem next_of_overflow (hh : t.handles e = true) (hp : t.prospect e = .ok p)
    (hr : p.retryable = true) (hd : t.backoff.delay n p.after (t.jitter n) = none) :
    t.attempts.next true n e = .error t.overflow := by
  simp [Attempts.next, attempts, hh, hp, hr, hd]

end Next

/-- A failure after which there is no other attempt. -/
theorem run_runFrom_of_stop {e' : ε} (ho : t.outcome n = .error e)
    (hnext : t.attempts.next (decide (0 < left)) n e = .error e') (tape : List (Step ε ν)) :
    (t.attempts.runFrom n left).run tape = (.error e', tape ++ [.attempt n]) := by
  cases left with
  | zero =>
    have hnext : t.attempts.next false n e = .error e' := hnext
    rw [Attempts.runFrom, run_bind, run_action, ho]
    simp only [hnext]
    rfl
  | succ left =>
    have hnext : t.attempts.next true n e = .error e' := hnext
    rw [Attempts.runFrom, run_bind, run_action, ho]
    simp only [hnext]
    rfl

/-- **The last attempt ends the loop.** -/
theorem run_runFrom_of_ends (hc : t.IsClassified) (h : t.Ends n r)
    (hleft : (t.backoff.maxRetries - n).toNat = left) (tape : List (Step ε ν)) :
    (t.attempts.runFrom n left).run tape = (r, tape ++ [.attempt n]) := by
  cases h with
  | settles hsettles =>
    cases hsettles with
    | value ha =>
      cases left <;>
      · rw [Attempts.runFrom, run_bind, run_action, ha]
        rfl
    | unhandled he hh => exact run_runFrom_of_stop he (next_of_unhandled _ hh) tape
    | @hopeless e _ he hp hr =>
      cases hh : t.handles e with
      | false => exact run_runFrom_of_stop he (next_of_unhandled _ hh) tape
      | true => exact run_runFrom_of_stop he (next_of_hopeless _ hh hp hr) tape
    | @spent e he hspent =>
      -- no retries are left, so the loop does not even ask for a delay
      have hzero : left = 0 := by omega
      subst hzero
      cases hh : t.handles e with
      | false => exact run_runFrom_of_stop he (next_of_unhandled _ hh) tape
      | true =>
        obtain ⟨p, hp⟩ := hc n e he hh
        have hnext : t.attempts.next (decide (0 < 0)) n e = .error e := next_of_spent hh hp
        exact run_runFrom_of_stop he hnext tape
  | overflows he hh hp hr hmore hd =>
    have hpos : 0 < left := by omega
    have hnext := next_of_overflow hh hp hr hd
    exact run_runFrom_of_stop he (by rwa [decide_eq_true hpos]) tape

/-- **Another attempt comes after the notice and the pause.** -/
theorem run_runFrom_of_retries (h : t.Retries n e d) (left : Nat) (tape : List (Step ε ν)) :
    (t.attempts.runFrom n (left + 1)).run tape = (t.attempts.runFrom (n + 1) left).run
      (tape ++ [.attempt n, .notice e (n + 1), .pause d]) := by
  obtain ⟨he, hh, -, p, hp, hr, hd⟩ := h
  have hnext := next_of_promising hh hp hr hd
  have htape : tape ++ [.attempt n, .notice e (n + 1), .pause d] =
      tape ++ [.attempt n] ++ [.notice e (n + 1)] ++ [.pause d] := by simp
  rw [Attempts.runFrom, run_bind, run_action, he, htape]
  simp only [hnext]
  rfl

/-- The attempts from number `n` on. -/
theorem exists_retried (hc : t.IsClassified) (left n : Nat)
    (hleft : (t.backoff.maxRetries - n).toNat = left) (tape : List (Step ε ν)) :
    ∃ r retried, t.Ends (n + retried.length) r ∧
      (∀ j e d, retried[j]? = some (e, d) → t.Retries (n + j) e d) ∧
      (t.attempts.runFrom n left).run tape = (r, tape ++ stepsFrom n retried) := by
  -- the retries that are left count down while the number of the attempt counts up
  induction left generalizing n tape with
  | zero =>
    rcases ends_or_retries hc n with ⟨r, hends⟩ | ⟨e, d, hretries⟩
    · exact ⟨r, [], hends, by simp, run_runFrom_of_ends hc hends hleft tape⟩
    · have := hretries.left
      omega
  | succ left ih =>
    rcases ends_or_retries hc n with ⟨r, hends⟩ | ⟨e, d, hretries⟩
    · exact ⟨r, [], hends, by simp, run_runFrom_of_ends hc hends hleft tape⟩
    · obtain ⟨r, retried, hends, hall, hrun⟩ := ih (n + 1) (by omega)
        (tape ++ [.attempt n, .notice e (n + 1), .pause d])
      refine ⟨r, (e, d) :: retried, ?_, ?_, ?_⟩
      · rwa [List.length_cons, Nat.add_comm retried.length, ← Nat.add_assoc]
      · intro j e' d' hj
        cases j with
        | zero =>
          cases hj
          exact hretries
        | succ j =>
          have := hall j e' d' hj
          rwa [Nat.add_assoc, Nat.add_comm 1] at this
      · rw [run_runFrom_of_retries hretries, hrun, stepsFrom, List.append_assoc]
        rfl

/-- **The course of the loop.** -/
theorem exists_course (hc : t.IsClassified) : ∃ k r retried, t.Course k r retried := by
  obtain ⟨r, retried, hends, hall, hrun⟩ :=
    exists_retried hc t.backoff.maxRetries.toNat 0 (by simp) []
  simp only [Nat.zero_add] at hends hall
  refine ⟨retried.length, r, retried, ⟨⟨⟨r, hends⟩, ?_⟩, hends, rfl, hall, hrun⟩⟩
  rintro n ⟨r', hends'⟩
  by_contra hn
  have hget := List.getElem?_eq_getElem (Nat.not_le.1 hn)
  exact not_ends_of_retries (hall n _ _ hget) hends'

end Loop

end Trial

/-! ## Exact arithmetic -/

section Exact

variable {K : Type} [Field K] [LinearOrder K]

/-- Delays that are computed exactly. -/
instance (priority := low) Quantity.exact : Quantity K where
  zero := 0
  tenth := 1 / 10
  add a b := a + b
  sub a b := a - b
  mul a b := some (a * b)
  power b n := some (b ^ n)
  isZero a := decide (a = 0)
  isBelow a b := decide (a < b)

namespace Backoff

/-- The pause that is due: what is asked for, unless that is nothing, else the initial delay grown
    once per attempt, and at most the largest one. -/
def due (b : Backoff K) (n : Nat) (after : Option K) : K :=
  min ((after.filter (· ≠ 0)).getD (b.initialDelay * b.base ^ n)) b.maxDelay

variable (b : Backoff K) (n : Nat) (after : Option K)

theorem wanted_eq :
    b.wanted n after = some ((after.filter (· ≠ 0)).getD (b.initialDelay * b.base ^ n)) := by
  have hfilter : after.filter (!Quantity.isZero ·) = after.filter (· ≠ 0) := by
    cases after <;> simp [Option.filter, Quantity.isZero]
  unfold wanted
  rw [hfilter]
  cases after.filter (· ≠ 0) <;> rfl

theorem limited_eq : b.limited n after = some (b.due n after) := by
  rw [limited, wanted_eq, Option.map_some, due, Option.some.injEq]
  generalize (after.filter (· ≠ 0)).getD (b.initialDelay * b.base ^ n) = w
  by_cases hw : b.maxDelay < w
  · rw [min_eq_right hw.le]
    exact if_pos (decide_eq_true hw)
  · rw [min_eq_left (not_lt.1 hw)]
    exact if_neg (by simpa [Quantity.isBelow] using hw)

/-- **The pause is the one that is due, and a random part of a tenth of it.** -/
theorem delay_eq (jitter : K) :
    b.delay n after jitter = some (b.due n after + b.due n after / 10 * jitter) := by
  rw [delay, limited_eq]
  change some (b.due n after + (0 + (b.due n after * (1 / 10) - 0) * jitter)) = _
  congr 1
  ring

theorem due_le_maxDelay : b.due n after ≤ b.maxDelay := min_le_right _ _

variable [IsStrictOrderedRing K] {b n after}

theorem due_nonneg (hinitial : 0 ≤ b.initialDelay) (hmax : 0 ≤ b.maxDelay) (hbase : 0 ≤ b.base)
    (hafter : ∀ x ∈ after, 0 ≤ x) : 0 ≤ b.due n after := by
  refine le_min ?_ hmax
  cases hf : after.filter (· ≠ 0) with
  | none => exact mul_nonneg hinitial (pow_nonneg hbase n)
  | some x => exact hafter x (Option.filter_eq_some_iff.1 hf).1

/-- Pauses that are not asked for grow. -/
theorem due_mono {m : Nat} (hinitial : 0 ≤ b.initialDelay) (hbase : 1 ≤ b.base) (h : m ≤ n) :
    b.due m none ≤ b.due n none :=
  min_le_min (mul_le_mul_of_nonneg_left (pow_le_pow_right₀ hbase h) hinitial) le_rfl

end Backoff

namespace Trial

variable {ε α : Type}

/-- What a failed attempt asks for. -/
def hint (t : Trial ε K α) (n : Nat) : Option K :=
  match t.outcome n with
  | .error e => (t.prospect e).toOption.bind (·.after)
  | .ok _ => none

/-- Delays are not negative, and random parts are between nothing and all. -/
structure IsRegular (t : Trial ε K α) : Prop where
  initial : 0 ≤ t.backoff.initialDelay
  limit : 0 ≤ t.backoff.maxDelay
  base : 0 ≤ t.backoff.base
  hint : ∀ n, ∀ x ∈ t.hint n, 0 ≤ x
  jitter : ∀ n, 0 ≤ t.jitter n ∧ t.jitter n ≤ 1

/-- The pause that is due after an attempt. -/
def due (t : Trial ε K α) (n : Nat) : K := t.backoff.due n (t.hint n)

variable {t : Trial ε K α} {n : Nat}

/-- No delay is too large. -/
theorem settles_of_ends {r : Except ε α} (h : t.Ends n r) : t.Settles n r := by
  cases h with
  | settles h => exact h
  | overflows _ _ _ _ _ hd => cases (Backoff.delay_eq _ _ _ _).symm.trans hd

theorem pause_of_retries {e : ε} {d : K} (h : t.Retries n e d) :
    d = t.due n + t.due n / 10 * t.jitter n := by
  obtain ⟨he, -, -, p, hp, -, hd⟩ := h
  have hhint : t.hint n = p.after := by
    rw [hint, he]
    simp only [hp]
    rfl
  rw [Backoff.delay_eq] at hd
  rw [due, hhint]
  exact (Option.some.inj hd).symm

/-- A part of a tenth makes a pause at most a tenth longer. -/
theorem putOff_bounds [IsStrictOrderedRing K] {due part : K} (hdue : 0 ≤ due)
    (hpart : 0 ≤ part ∧ part ≤ 1) :
    due ≤ due + due / 10 * part ∧ due + due / 10 * part ≤ 11 / 10 * due := by
  obtain ⟨hlow, hhigh⟩ := hpart
  have hextra : 0 ≤ due / 10 * part := by positivity
  have htenth : due / 10 * part ≤ due / 10 := mul_le_of_le_one_right (by positivity) hhigh
  constructor
  · linarith
  · linarith

/-- **A pause is the one that is due, and at most a tenth longer.** -/
theorem pause_bounds [IsStrictOrderedRing K] (ht : t.IsRegular) {e : ε} {d : K}
    (h : t.Retries n e d) : t.due n ≤ d ∧ d ≤ 11 / 10 * t.due n := by
  have hdue : 0 ≤ t.due n := Backoff.due_nonneg ht.initial ht.limit ht.base (ht.hint n)
  rw [pause_of_retries h]
  exact putOff_bounds hdue (ht.jitter n)

end Trial

end Exact

/-- **The course of the loop.**  The loop ends, whatever its outcomes are: it makes attempts up to
    the first that ends it, and before each further one tells the failure and then pauses.  In
    exact arithmetic that is the first attempt which settles it, each pause is between what is due
    and a tenth more, at most the largest delay is due, and what is due does not shrink. -/
theorem attempts_course {ε α : Type} :
    (∀ {ν : Type} [Quantity ν] (t : Trial ε ν α), t.IsClassified →
      ∃ k r retried, t.Course k r retried) ∧
    ∀ {K : Type} [Field K] [LinearOrder K] [IsStrictOrderedRing K] (t : Trial ε K α),
      t.IsClassified → t.IsRegular → ∃ k r retried, t.Course k r retried ∧
        IsLeast {n | ∃ r, t.Settles n r} k ∧ t.Settles k r ∧
        (∀ j e d, retried[j]? = some (e, d) →
          t.due j ≤ d ∧ d ≤ 11 / 10 * t.due j ∧ t.due j ≤ t.backoff.maxDelay) ∧
        ((∀ j < k, t.hint j = none) → 1 ≤ t.backoff.base →
          ∀ i j, i ≤ j → j < k → t.due i ≤ t.due j) := by
  refine ⟨fun t hc => Trial.exists_course hc, fun t hc ht => ?_⟩
  obtain ⟨k, r, retried, hcourse⟩ := Trial.exists_course hc
  refine ⟨k, r, retried, hcourse, ⟨?_, ?_⟩, Trial.settles_of_ends hcourse.ends, ?_, ?_⟩
  · exact ⟨r, Trial.settles_of_ends hcourse.ends⟩
  · rintro n ⟨r', hsettles⟩
    exact hcourse.least.2 ⟨r', .settles hsettles⟩
  · intro j e d hj
    obtain ⟨hlow, hhigh⟩ := Trial.pause_bounds ht (hcourse.retries j e d hj)
    exact ⟨hlow, hhigh, Backoff.due_le_maxDelay _ _ _⟩
  · intro hnone hbase i j hij hj
    rw [Trial.due, Trial.due, hnone i (hij.trans_lt hj), hnone j hj]
    exact Backoff.due_mono ht.initial hbase hij

/-! ## Sample trials -/

/-- An action that fails a number of times before it gives a value.  Its failures are worth another
    attempt and ask for no particular pause. -/
def Trial.failing {ν : Type} (b : Backoff ν) (jitter : ν) (times : Nat) : Trial String ν Nat where
  backoff := b
  jitter _ := jitter
  outcome n := if n < times then .error "busy" else .ok n
  handles _ := true
  prospect _ := .ok ⟨true, none⟩
  overflow := "too long"

theorem Trial.isClassified_failing {ν : Type} (b : Backoff ν) (jitter : ν) (times : Nat) :
    (failing b jitter times).IsClassified :=
  fun _ _ _ _ => ⟨_, rfl⟩

/-- Delays that grow by the factor `2 ^ 600`. -/
def Backoff.steep : Backoff Number where
  maxRetries := 3
  initialDelay := .real (.ofInt 1)
  maxDelay := .real (.ofInt 60)
  base := .real (.ofInt (2 ^ 600))

/-- The same delays with the factor two, exactly. -/
def Backoff.doubling : Backoff ℚ where
  maxRetries := 3
  initialDelay := 1
  maxDelay := 60
  base := 2

theorem Trial.isRegular_failing (times : Nat) :
    (failing Backoff.doubling (1 / 2) times).IsRegular where
  initial := zero_le_one
  limit := by norm_num [failing, Backoff.doubling]
  base := zero_le_two
  hint n x hx := by
    have hnone : (failing Backoff.doubling (1 / 2) times).hint n = none := by
      unfold hint failing
      dsimp only
      split <;> rfl
    rw [hnone] at hx
    cases hx
  jitter n := by
    constructor
    · norm_num [failing]
    · norm_num [failing]

/-- Two failures and a value, with steep delays and with doubling ones. -/
theorem course_of_failing :
    (∃ k r retried, (Trial.failing .steep (.real (.ofInt 0)) 2).Course k r retried) ∧
    ∃ k r retried, (Trial.failing .doubling (1 / 2) 2).Course k r retried ∧
      IsLeast {n | ∃ r, (Trial.failing .doubling (1 / 2 : ℚ) 2).Settles n r} k := by
  refine ⟨attempts_course.1 _ (Trial.isClassified_failing _ _ _), ?_⟩
  obtain ⟨k, r, retried, hcourse, hleast, -⟩ :=
    attempts_course.2 _ (Trial.isClassified_failing _ _ _) (Trial.isRegular_failing 2)
  exact ⟨k, r, retried, hcourse, hleast⟩

/-- In floating point a delay may be too large before it is cut to the largest one.  Then the loop
    ends in that, and does not come to the value of the next attempt. -/
theorem overflows_before_value :
    (∀ n < 3, ∀ r, ¬ (Trial.failing .steep (.real (.ofInt 0)) 3).Settles n r) ∧
    (Trial.failing .steep (.real (.ofInt 0)) 3).Settles 3 (.ok 3) ∧
    (Trial.failing .steep (.real (.ofInt 0)) 3).run = (.error "too long", [
      .attempt 0, .notice "busy" 1, .pause (.real (.ofInt 1)),
      .attempt 1, .notice "busy" 2, .pause (.real (.ofInt 60)), .attempt 2]) := by
  refine ⟨fun n hn r hsettles => ?_, .value rfl, by decide +kernel⟩
  have hfails : (Trial.failing .steep (.real (.ofInt 0)) 3).outcome n = .error "busy" := if_pos hn
  cases hsettles with
  | value ha => cases hfails.symm.trans ha
  | unhandled _ hh => cases hh
  | hopeless _ hp hr =>
    cases hp
    cases hr
  | spent _ hspent =>
    have hle : (3 : Int) ≤ n := hspent
    omega

end ChatRelay

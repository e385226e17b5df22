/-
  The spellings of a flag.

  A flag is given as itself, as one of a few words in any case, or as the number one or zero of
  either sort.  `asFlag_eq_fits_iff` says that nothing else is read as one.
-/
import ChatRelay.Proofs.Number.Power
import ChatRelay.Schema.Reading

namespace ChatRelay.Schema

open Reading

/-- The value is a spelling of the flag. -/
inductive Spells : Json → Bool → Prop
  | flag (b : Bool) : Spells (.bool b) b
  | yes {s : String} : Text.lowerCased s ∈ trueWords → Spells (.text s) true
  | no {s : String} : Text.lowerCased s ∈ falseWords → Spells (.text s) false
  | one {n : Number} : n.compare? (.int 1) = some .eq → Spells (.number n) true
  | zero {n : Number} : n.compare? (.int 0) = some .eq → Spells (.number n) false

/-! ## Numbers -/

/-- The number that stands for a flag. -/
def flagNumber (b : Bool) : Int := if b then 1 else 0

theorem wholeFlag_eq_fits_iff {i : Int} {b : Bool} : wholeFlag i = .fits b ↔ i = flagNumber b := by
  unfold wholeFlag
  split
  case isTrue h =>
    subst h
    cases b <;> simp [flagNumber]
  case isFalse h =>
    split
    case isTrue h1 =>
      subst h1
      cases b <;> simp [flagNumber]
    case isFalse h1 =>
      refine iff_of_false (fun hfits => ?_) (by cases b <;> simp [flagNumber, h, h1])
      split at hfits <;> cases hfits

/-- A real equals an integer if its value is the integer over one. -/
theorem compare?_real_int {x : Binary64} {i : Int} :
    (Number.real x).compare? (.int i) = some .eq ↔
      x.isFinite = true ∧ x.value.1 = i * x.value.2 := by
  cases hx : x.isFinite with
  | false =>
    refine iff_of_false (fun h => ?_) (by simp)
    simp only [Number.compare?, Number.compareIntReal?, hx] at h
    cases hundefined : x.isUndefined <;> cases hnegative : x.isNegative <;>
      simp [hundefined, hnegative] at h
  | true =>
    have hdefined : x.isUndefined = false := by simp [Binary64.isUndefined, hx]
    have hcompare : (Number.real x).compare? (.int i) =
        some (compare (i * (x.value.2 : Int)) x.value.1).swap := by
      simp [Number.compare?, Number.compareIntReal?, hdefined, hx]
    rw [hcompare, Option.some.injEq, Int.compare_swap, compare_eq_iff_eq]
    exact (and_iff_right rfl).symm

/-- A whole real is the quotient of its value. -/
theorem div_eq_iff_of_pos {a i : Int} {b : Nat} (hb : 0 < b) :
    a % b = 0 ∧ a / b = i ↔ a = i * b := by
  have hne : (b : Int) ≠ 0 := by omega
  constructor
  · rintro ⟨hmod, rfl⟩
    exact (Int.ediv_mul_cancel_of_emod_eq_zero hmod).symm
  · rintro rfl
    exact ⟨Int.mul_emod_left i b, Int.mul_ediv_cancel i hne⟩

theorem value_pos (x : Binary64) : 0 < x.value.2 := twoTo_pos _

/-- A real is read as a flag if it equals the number of the flag. -/
theorem realFlag_eq_fits_iff {x : Binary64} {b : Bool} : countedFlag (.real x) = .fits b ↔
    (Number.real x).compare? (.int (flagNumber b)) = some .eq := by
  rw [compare?_real_int]
  cases hx : x.isFinite with
  | false => simp [countedFlag, hx, fault]
  | true =>
    rw [← div_eq_iff_of_pos (value_pos x)]
    simp only [countedFlag, hx, Bool.not_true, Bool.false_eq_true, if_false, true_and]
    split
    case isTrue h =>
      obtain ⟨hmod, -⟩ := by simpa using h
      rw [wholeFlag_eq_fits_iff]
      simp [hmod]
    case isFalse h =>
      -- zero and one are within the bound of what is read as a whole number
      refine iff_of_false (by simp [fault]) ?_
      rintro ⟨hmod, hdiv⟩
      have hsmall : x.value.1.natAbs / x.value.2 < wordBound := by
        rw [(div_eq_iff_of_pos (value_pos x)).1 ⟨hmod, hdiv⟩, Int.natAbs_mul, Int.natAbs_natCast,
          Nat.mul_div_cancel _ (value_pos x)]
        cases b <;> decide
      exact h (by simp [hmod, hsmall])

/-! ## Values -/

theorem spelledFlag_eq_fits_iff {s : String} {b : Bool} :
    spelledFlag s = .fits b ↔ Text.lowerCased s ∈ if b then trueWords else falseWords := by
  have hdisjoint : ∀ w ∈ falseWords, w ∉ trueWords := by decide
  unfold spelledFlag
  by_cases htrue : Text.lowerCased s ∈ trueWords
  · have hfalse : Text.lowerCased s ∉ falseWords := fun h => hdisjoint _ h htrue
    cases b <;> simp [htrue, hfalse]
  · by_cases hfalse : Text.lowerCased s ∈ falseWords
    · cases b <;> simp [htrue, hfalse]
    · cases b <;> simp [htrue, hfalse, fault]

/-- **The spellings of a flag are what is read as it.** -/
theorem asFlag_eq_fits_iff {v : Json} {b : Bool} : asFlag v = .fits b ↔ Spells v b := by
  cases v with
  | bool c =>
    constructor
    · intro h
      cases h
      exact .flag b
    · intro h
      cases h
      rfl
  | text s =>
    change spelledFlag s = .fits b ↔ _
    rw [spelledFlag_eq_fits_iff]
    constructor
    · intro h
      cases b with
      | true => exact .yes h
      | false => exact .no h
    · intro h
      cases h with
      | yes h | no h => exact h
  | number n =>
    change countedFlag n = .fits b ↔ _
    have hcounted : countedFlag n = .fits b ↔ n.compare? (.int (flagNumber b)) = some .eq := by
      cases n with
      | int i =>
        change wholeFlag i = .fits b ↔ some (compare i (flagNumber b)) = some .eq
        rw [wholeFlag_eq_fits_iff, Option.some.injEq, compare_eq_iff_eq]
      | real x => exact realFlag_eq_fits_iff
    rw [hcounted]
    constructor
    · intro h
      cases b with
      | true => exact .one h
      | false => exact .zero h
    · intro h
      cases h with
      | one h | zero h => exact h
  | null | array _ | object _ => exact iff_of_false nofun nofun

end ChatRelay.Schema

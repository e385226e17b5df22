/-
  The levels of values.

  A value has one level more than the deepest of its parts, and a value without parts has one.
  So the bound of a value is one for all that is made of its parts: what a field holds, fields
  that are set or left out, some of the items of an array.

  * `isWithin_array`, `isWithin_object`: the bound of a value by those of its parts;
  * `isWithin_succ`: a greater bound holds as well;
  * `isWithin_of_get?`, `isWithin_put`, `isWithin_without`: fields.
-/
import ChatRelay.Json.Basic

namespace ChatRelay.Json

/-! ## Bounds -/

theorem itemsWithin_iff {xs : List Json} {n : Nat} :
    itemsWithin xs n = true ↔ ∀ x ∈ xs, x.isWithin n = true := by
  induction xs with
  | nil => simp [itemsWithin]
  | cons x xs ih => simp [itemsWithin, ih]

theorem fieldsWithin_iff {fs : Fields} {n : Nat} :
    fieldsWithin fs n = true ↔ ∀ f ∈ fs, f.2.isWithin n = true := by
  induction fs with
  | nil => simp [fieldsWithin]
  | cons f fs ih =>
    obtain ⟨name, v⟩ := f
    simp [fieldsWithin, fieldWithin, ih]

theorem isWithin_array {xs : List Json} {n : Nat} :
    (array xs).isWithin (n + 1) = true ↔ ∀ x ∈ xs, x.isWithin n = true := itemsWithin_iff

theorem isWithin_object {fs : Fields} {n : Nat} :
    (object fs).isWithin (n + 1) = true ↔ ∀ f ∈ fs, f.2.isWithin n = true := fieldsWithin_iff

/-- No value is without levels. -/
theorem exists_of_isWithin {v : Json} {n : Nat} (h : v.isWithin n = true) : ∃ m, n = m + 1 := by
  cases n with
  | zero => simp [isWithin] at h
  | succ m => exact ⟨m, rfl⟩

mutual

theorem isWithin_succ : (v : Json) → (n : Nat) → v.isWithin n = true → v.isWithin (n + 1) = true
  | _, 0, h => by simp [isWithin] at h
  | array xs, n + 1, h => itemsWithin_succ xs n h
  | object fs, n + 1, h => fieldsWithin_succ fs n h
  | null, _ + 1, _ | bool _, _ + 1, _ | number _, _ + 1, _ | text _, _ + 1, _ => rfl

theorem itemsWithin_succ :
    (xs : List Json) → (n : Nat) → itemsWithin xs n = true → itemsWithin xs (n + 1) = true
  | [], _, _ => rfl
  | x :: xs, n, h => by
    obtain ⟨hx, hxs⟩ := Bool.and_eq_true_iff.1 h
    exact Bool.and_eq_true_iff.2 ⟨isWithin_succ x n hx, itemsWithin_succ xs n hxs⟩

theorem fieldsWithin_succ :
    (fs : Fields) → (n : Nat) → fieldsWithin fs n = true → fieldsWithin fs (n + 1) = true
  | [], _, _ => rfl
  | (_, v) :: fs, n, h => by
    obtain ⟨hv, hfs⟩ := Bool.and_eq_true_iff.1 h
    exact Bool.and_eq_true_iff.2 ⟨isWithin_succ v n hv, fieldsWithin_succ fs n hfs⟩

end

/-! ## Parts -/

section Parts

variable {fs : Fields} {name : String} {v : Json} {n : Nat}

theorem isWithin_of_get? (h : (object fs).isWithin (n + 1) = true) (hv : get? fs name = some v) :
    v.isWithin n = true := by
  obtain ⟨before, after, rfl, -⟩ := List.lookup_eq_some_iff.1 hv
  exact isWithin_object.1 h (name, v) (by simp)

theorem isWithin_put (h : (object fs).isWithin (n + 1) = true) (hv : v.isWithin n = true) :
    (object (put name v fs)).isWithin (n + 1) = true := by
  induction fs with
  | nil => exact isWithin_object.2 (by simpa [put] using hv)
  | cons f rest ih =>
    obtain ⟨hf, hrest⟩ := List.forall_mem_cons.1 (isWithin_object.1 h)
    rw [put]
    split
    · exact isWithin_object.2 (List.forall_mem_cons.2 ⟨hv, hrest⟩)
    · exact isWithin_object.2 (List.forall_mem_cons.2
        ⟨hf, isWithin_object.1 (ih (isWithin_object.2 hrest))⟩)

theorem isWithin_without (h : (object fs).isWithin (n + 1) = true) :
    (object (without name fs)).isWithin (n + 1) = true :=
  isWithin_object.2 fun f hf => isWithin_object.1 h f (List.mem_filter.1 hf).1

end Parts

end ChatRelay.Json

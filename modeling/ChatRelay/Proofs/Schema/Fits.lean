/-
  What fits.

  A reading that is put together fits just if its parts do.  There is one lemma for each
  way of putting readings together; all are equivalences, so that they take a reading
  apart and put it together alike.
-/
import ChatRelay.Proofs.Lookup
import ChatRelay.Proofs.Sequence
import ChatRelay.Schema.Reading
import Mathlib.Data.List.Forall2

namespace ChatRelay.Schema

open Reading

section Reading

variable {α β : Type}

theorem map_eq_fits_iff {f : α → β} {r : Reading α} {b : β} :
    f <$> r = .fits b ↔ ∃ a, r = .fits a ∧ f a = b := by
  cases r with
  | fits a =>
    constructor
    · intro h
      cases h
      exact ⟨a, rfl, rfl⟩
    · rintro ⟨a', h, rfl⟩
      cases h
      rfl
  | faulty faults =>
    constructor
    · intro h
      cases h
    · rintro ⟨a, h, -⟩
      cases h

theorem under_eq_fits_iff {s : Step} {r : Reading α} {a : α} :
    r.under s = .fits a ↔ r = .fits a := by
  cases r <;> simp [under]

theorem seq_eq_fits_iff {f : Reading (α → β)} {r : Reading α} {b : β} :
    f <*> r = .fits b ↔ ∃ g a, f = .fits g ∧ r = .fits a ∧ g a = b := by
  constructor
  · intro h
    cases f <;> cases r <;> cases h
    exact ⟨_, _, rfl, rfl, rfl⟩
  · rintro ⟨g, a, rfl, rfl, rfl⟩
    rfl

theorem cons_eq_fits_iff {r : Reading α} {rs : Reading (List α)} {as : List α} :
    List.cons <$> r <*> rs = .fits as ↔
      ∃ a rest, r = .fits a ∧ rs = .fits rest ∧ as = a :: rest := by
  rw [seq_eq_fits_iff]
  constructor
  · rintro ⟨g, rest, hg, hrest, rfl⟩
    obtain ⟨a, ha, rfl⟩ := map_eq_fits_iff.1 hg
    exact ⟨a, rest, ha, hrest, rfl⟩
  · rintro ⟨a, rest, ha, hrest, rfl⟩
    exact ⟨_, rest, map_eq_fits_iff.2 ⟨a, ha, rfl⟩, hrest, rfl⟩

theorem exists_map_fits_iff {f : α → β} {r : Reading α} :
    (∃ b, f <$> r = .fits b) ↔ ∃ a, r = .fits a := by
  simp only [map_eq_fits_iff]
  exact ⟨fun ⟨_, a, ha, _⟩ => ⟨a, ha⟩, fun ⟨a, ha⟩ => ⟨f a, a, ha, rfl⟩⟩

theorem exists_seq_fits_iff {f : Reading (α → β)} {r : Reading α} :
    (∃ b, f <*> r = .fits b) ↔ (∃ g, f = .fits g) ∧ ∃ a, r = .fits a := by
  simp only [seq_eq_fits_iff]
  exact ⟨fun ⟨_, g, a, hg, ha, _⟩ => ⟨⟨g, hg⟩, a, ha⟩,
    fun ⟨⟨g, hg⟩, a, ha⟩ => ⟨g a, g, a, hg, ha, rfl⟩⟩

end Reading

/-! ## Values -/

section Values

variable {α : Type}

theorem asText_eq_fits_iff {v : Json} {s : String} : asText v = .fits s ↔ v = .text s := by
  cases v <;> simp [asText, fault]

theorem itemsAt_eq_fits_iff {check : Json → Reading α} {n : Nat} {vs : List Json} {as : List α} :
    itemsAt check n vs = .fits as ↔ List.Forall₂ (fun v a => check v = .fits a) vs as := by
  induction vs generalizing n as with
  | nil =>
    rw [itemsAt, List.forall₂_nil_left_iff]
    constructor
    · intro h
      cases h
      rfl
    · rintro rfl
      rfl
  | cons v rest ih =>
    rw [itemsAt, cons_eq_fits_iff, List.forall₂_cons_left_iff]
    simp only [under_eq_fits_iff, ih, exists_and_left]

theorem asItems_eq_fits_iff {check : Json → Reading α} {v : Json} {as : List α} :
    asItems check v = .fits as ↔
      ∃ vs, v = .array vs ∧ List.Forall₂ (fun v a => check v = .fits a) vs as := by
  cases v with
  | array vs => simp [asItems, itemsAt_eq_fits_iff]
  | _ => simp [asItems, fault]

theorem exists_asItems_fits_iff {check : Json → Reading α} {v : Json} :
    (∃ as, asItems check v = .fits as) ↔
      ∃ vs, v = .array vs ∧ ∀ x ∈ vs, ∃ a, check x = .fits a := by
  simp only [asItems_eq_fits_iff]
  constructor
  · rintro ⟨as, vs, rfl, has⟩
    exact ⟨vs, rfl, fun x hx => (exists_of_forall₂_left has x hx).imp fun _ h => h.2⟩
  · rintro ⟨vs, rfl, hvs⟩
    exact (exists_forall₂ hvs).imp fun as has => ⟨vs, rfl, has⟩

end Values

/-! ## Fields -/

/-- What an optional field is read into: nothing if it is null, a value of its own if it is
    absent. -/
inductive Optional {α : Type} (check : Json → Reading α) (absent : Option α) :
    Option Json → Option α → Prop
  | absent : Optional check absent none absent
  | null : Optional check absent (some .null) none
  | given {v : Json} {x : α} : v ≠ .null → check v = .fits x →
      Optional check absent (some v) (some x)

theorem named?_singleton {name : String} {fs : Fields} :
    named? [name] fs = (Json.get? fs name).map fun v => (name, v) := by
  rw [named?, List.findSome?_cons]
  cases Json.get? fs name <;> rfl

section Fields

variable {α : Type} {name : String} {check : Json → Reading α} {fs : Fields}

theorem fieldOr_eq_fits_iff {absent w : Option α} :
    fieldOr [name] absent (orNull check) fs = .fits w ↔
      Optional check absent (Json.get? fs name) w := by
  rw [fieldOr, named?_singleton]
  cases Json.get? fs name with
  | none =>
    constructor
    · intro h
      cases h
      exact .absent
    · intro h
      cases h
      rfl
  | some v =>
    simp only [Option.map_some, under_eq_fits_iff]
    by_cases hv : v = .null
    · subst hv
      constructor
      · intro h
        cases h
        exact .null
      · intro h
        cases h with
        | null => rfl
        | given hne => exact absurd rfl hne
    · have hnull : orNull check v = some <$> check v := by
        cases v with
        | null => exact absurd rfl hv
        | _ => rfl
      rw [hnull, map_eq_fits_iff]
      constructor
      · rintro ⟨x, hx, rfl⟩
        exact .given hv hx
      · intro h
        cases h with
        | null => exact absurd rfl hv
        | given _ hx => exact ⟨_, hx, rfl⟩

theorem fieldOr_fits_iff {absent a : α} : fieldOr [name] absent check fs = .fits a ↔
    (∃ v, Json.get? fs name = some v ∧ check v = .fits a) ∨
      Json.get? fs name = none ∧ a = absent := by
  rw [fieldOr, named?_singleton]
  cases Json.get? fs name with
  | none => simp [eq_comm]
  | some v => simp [under_eq_fits_iff]

theorem exists_fieldOr_fits_iff {absent : α} : (∃ a, fieldOr [name] absent check fs = .fits a) ↔
    ∀ v, Json.get? fs name = some v → ∃ a, check v = .fits a := by
  rw [fieldOr, named?_singleton]
  cases Json.get? fs name <;> simp [under_eq_fits_iff]

theorem field_eq_fits_iff {a : α} :
    field [name] check fs = .fits a ↔ ∃ v, Json.get? fs name = some v ∧ check v = .fits a := by
  rw [field, named?_singleton]
  cases Json.get? fs name <;> simp [under_eq_fits_iff]

end Fields

end ChatRelay.Schema

/-
  Lists side by side, and computations run over lists.
-/
import Mathlib.Data.List.Forall2

namespace ChatRelay

theorem exists_of_forall₂_left {α β : Type} {R : α → β → Prop} {xs : List α} {ys : List β}
    (h : List.Forall₂ R xs ys) : ∀ x ∈ xs, ∃ y ∈ ys, R x y := by
  induction h with
  | nil => simp
  | cons hR _ ih =>
    intro x hx
    rcases List.mem_cons.1 hx with rfl | hx
    · exact ⟨_, by simp, hR⟩
    · obtain ⟨y, hy, hxy⟩ := ih x hx
      exact ⟨y, by simp [hy], hxy⟩

theorem exists_of_forall₂_right {α β : Type} {R : α → β → Prop} {xs : List α} {ys : List β}
    (h : List.Forall₂ R xs ys) : ∀ y ∈ ys, ∃ x ∈ xs, R x y :=
  exists_of_forall₂_left h.flip

theorem getElem?_of_forall₂ {α β : Type} {R : α → β → Prop} {xs : List α} {ys : List β}
    (h : List.Forall₂ R xs ys) {i : Nat} {x : α} (hx : xs[i]? = some x) :
    ∃ y, ys[i]? = some y ∧ R x y := by
  obtain ⟨hi, rfl⟩ := List.getElem?_eq_some_iff.1 hx
  exact ⟨_, List.getElem?_eq_getElem (h.length_eq ▸ hi), h.get hi (h.length_eq ▸ hi)⟩

/-- A computation run over a list succeeds if it does on every element. -/
theorem mapM_eq_ok_iff {ε α β : Type} {f : α → Except ε β} {xs : List α} {ys : List β} :
    xs.mapM f = .ok ys ↔ List.Forall₂ (fun x y => f x = .ok y) xs ys := by
  induction xs generalizing ys with
  | nil =>
    rw [List.mapM_nil]
    constructor
    · intro h; cases h; exact .nil
    · intro h; cases h; rfl
  | cons x xs ih =>
    rw [List.mapM_cons]
    constructor
    · intro h
      cases hx : f x with
      | error e => rw [hx] at h; cases h
      | ok y =>
        rw [hx] at h
        cases hxs : xs.mapM f with
        | error e => rw [hxs] at h; cases h
        | ok zs => rw [hxs] at h; cases h; exact .cons hx (ih.1 hxs)
    · intro h
      cases h with
      | cons hx hxs => rw [hx, ih.2 hxs]; rfl

theorem exists_forall₂ {α β : Type} {R : α → β → Prop} {xs : List α}
    (h : ∀ x ∈ xs, ∃ y, R x y) : ∃ ys, List.Forall₂ R xs ys := by
  induction xs with
  | nil => exact ⟨[], .nil⟩
  | cons x xs ih =>
    obtain ⟨y, hy⟩ := h x (by simp)
    obtain ⟨ys, hys⟩ := ih fun z hz => h z (by simp [hz])
    exact ⟨y :: ys, .cons hy hys⟩

theorem exists_mapM_ok {ε α β : Type} {f : α → Except ε β} {xs : List α}
    (h : ∀ x ∈ xs, ∃ y, f x = .ok y) : ∃ ys, xs.mapM f = .ok ys :=
  (exists_forall₂ h).imp fun _ hys => mapM_eq_ok_iff.2 hys

/-- The first element on which a computation fails decides. -/
theorem mapM_of_first {ε α β : Type} {f : α → Except ε β} {before after : List α} {x : α} {e : ε}
    (hbefore : ∀ y ∈ before, ∃ b, f y = .ok b) (hx : f x = .error e) :
    (before ++ x :: after).mapM f = .error e := by
  obtain ⟨bs, hbs⟩ := exists_mapM_ok hbefore
  rw [List.mapM_append, hbs, List.mapM_cons, hx]
  rfl

/-- Computations that do the same side by side do the same when run over lists. -/
theorem mapM_of_forall₂ {ε α β : Type} {R : α → α → Prop} {f : α → Except ε β} {xs ys : List α}
    (h : List.Forall₂ R xs ys) (hf : ∀ x y, R x y → f x = f y) : xs.mapM f = ys.mapM f := by
  induction h with
  | nil => rfl
  | cons hR _ ih => rw [List.mapM_cons, List.mapM_cons, hf _ _ hR, ih]

/-! ## Optional results -/

theorem mapM_eq_some_iff {α β : Type} {f : α → Option β} {xs : List α} {ys : List β} :
    xs.mapM f = some ys ↔ List.Forall₂ (fun x y => f x = some y) xs ys := by
  induction xs generalizing ys with
  | nil =>
    rw [List.mapM_nil, List.forall₂_nil_left_iff]
    exact ⟨fun h => (Option.some.inj h).symm, fun h => congrArg some h.symm⟩
  | cons x xs ih =>
    rw [List.mapM_cons, List.forall₂_cons_left_iff]
    cases hx : f x with
    | none => simp
    | some y =>
      cases hxs : xs.mapM f with
      | none =>
        have hnone : ∀ zs, ¬ List.Forall₂ (fun x y => f x = some y) xs zs := fun zs hzs => by
          cases hxs.symm.trans (ih.2 hzs)
        simp [hnone]
      | some zs =>
        have hzs : ∀ ws, List.Forall₂ (fun x y => f x = some y) xs ws ↔ zs = ws := fun ws => by
          rw [← ih, hxs, Option.some.injEq]
        simp [hzs, eq_comm]

theorem mapM_eq_none_iff {α β : Type} {f : α → Option β} {xs : List α} :
    xs.mapM f = none ↔ ∃ x ∈ xs, f x = none := by
  constructor
  · intro h
    by_contra hnone
    have hsome : ∀ x ∈ xs, ∃ y, f x = some y := fun x hx =>
      Option.ne_none_iff_exists'.1 fun hfx => hnone ⟨x, hx, hfx⟩
    obtain ⟨ys, hys⟩ := exists_forall₂ hsome
    cases h.symm.trans (mapM_eq_some_iff.2 hys)
  · rintro ⟨x, hx, hnone⟩
    rw [Option.eq_none_iff_forall_ne_some]
    intro ys hys
    obtain ⟨y, -, hy⟩ := exists_of_forall₂_left (mapM_eq_some_iff.1 hys) x hx
    cases hnone.symm.trans hy

end ChatRelay

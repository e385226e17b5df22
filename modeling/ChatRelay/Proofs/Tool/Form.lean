/-
  What a form holds that was read.

  A form is read parameter by parameter.  What it then gives under the name of a parameter
  is what that parameter takes (`Takes`, `get?_of_read`); under any other name an open form
  gives the argument itself, unless that is null (`get?_other_of_read`).  The parts of a
  parameter are read in the same way, but give nothing under other names.
-/
import ChatRelay.Proofs.Schema.Fits
import ChatRelay.Proofs.Sequence
import ChatRelay.Tool.Form

namespace ChatRelay.Tool

open Schema

/-! ## One field -/

/-- What a field of a form takes that is given as a value, or not at all. -/
def Takes {α : Type} (needed : Bool) (check : Json → Reading α) (absent : Option α)
    (given : Option Json) (w : Option α) : Prop :=
  if needed then ∃ v x, given = some v ∧ check v = .fits x ∧ w = some x
  else Optional check absent given w

section Field

variable {α : Type} {needed : Bool} {check : Json → Reading α} {absent w : Option α}
  {name key : String} {fs : Fields}

theorem takes_iff : (if needed then some <$> field [name] check fs
      else fieldOr [name] absent (orNull check) fs) = .fits w ↔
    Takes needed check absent (Json.get? fs name) w := by
  unfold Takes
  cases needed with
  | false => exact fieldOr_eq_fits_iff
  | true =>
    simp only [if_true, map_eq_fits_iff, field_eq_fits_iff]
    constructor
    · rintro ⟨x, ⟨v, hv, hx⟩, rfl⟩
      exact ⟨v, x, hv, hx, rfl⟩
    · rintro ⟨v, x, hv, hx, rfl⟩
      exact ⟨x, ⟨v, hv, hx⟩, rfl⟩

theorem Parameter.read_eq_fits_iff {p : Parameter} {w : Option Json} :
    p.read fs = .fits (key, w) ↔
      key = p.name ∧ Takes p.needed p.shape.read p.shape.absent (Json.get? fs p.name) w := by
  rw [Parameter.read, map_eq_fits_iff]
  constructor
  · rintro ⟨w', hw, heq⟩
    cases heq
    exact ⟨rfl, takes_iff.1 hw⟩
  · rintro ⟨rfl, hw⟩
    exact ⟨w, takes_iff.2 hw, rfl⟩

theorem TextField.read_eq_fits_iff {f : TextField} {w : Option Json} :
    f.read fs = .fits (key, w) ↔
      key = f.name ∧ ∃ s, w = s.map .text ∧ Takes f.needed asText none (Json.get? fs f.name) s := by
  rw [TextField.read, map_eq_fits_iff]
  constructor
  · rintro ⟨s, hs, heq⟩
    cases heq
    exact ⟨rfl, s, rfl, takes_iff.1 hs⟩
  · rintro ⟨rfl, s, rfl, hs⟩
    exact ⟨s, takes_iff.2 hs, rfl⟩

end Field

/-! ## Forms and parts -/

theorem readAll_eq_fits_iff {α : Type} {rs : List (Reading α)} {as : List α} :
    readAll rs = .fits as ↔ List.Forall₂ (fun r a => r = .fits a) rs as := by
  induction rs generalizing as with
  | nil =>
    rw [readAll, List.forall₂_nil_left_iff]
    constructor
    · intro h
      cases h
      rfl
    · rintro rfl
      rfl
  | cons r rest ih =>
    rw [readAll, cons_eq_fits_iff, List.forall₂_cons_left_iff]
    simp only [ih, exists_and_left]

section Reads

variable {α : Type} {name : α → String} {read : α → Reading (String × Option Json)} {as : List α}
  {vs : List (String × Option Json)} (hname : ∀ a key w, read a = .fits (key, w) → key = name a)
  (h : List.Forall₂ (fun a v => read a = .fits v) as vs)

include hname h in
/-- What is read one after the other has the names of what reads it. -/
theorem names_of_reads : vs.map Prod.fst = as.map name := by
  induction h with
  | nil => rfl
  | cons ha _ ih => rw [List.map_cons, List.map_cons, ih, hname _ _ _ ha]

include hname h in
theorem get?_of_reads (hnames : (as.map name).Nodup) {a : α} (ha : a ∈ as) :
    read a = .fits (name a, Json.get? (present vs) (name a)) := by
  have hkeys := names_of_reads hname h
  obtain ⟨⟨key, w⟩, hmem, hread⟩ := exists_of_forall₂_left h a ha
  obtain rfl := hname _ _ _ hread
  rw [get?_present_of_mem (hkeys ▸ hnames) hmem]
  exact hread

end Reads

section Form

variable {f : Form} {fs gs : Fields}

theorem Form.read_eq_fits_iff : f.read (.object fs) = .fits gs ↔
    ∃ vs, List.Forall₂ (fun p v => p.read fs = .fits v) f.parameters vs ∧
      present vs ++ f.others fs = gs := by
  change _ <$> readAll (f.parameters.map (·.read fs)) = _ ↔ _
  simp only [map_eq_fits_iff, readAll_eq_fits_iff, List.forall₂_map_left_iff]

/-- What is no parameter has no name of one. -/
theorem Form.name_of_mem_others {g : String × Json} (h : g ∈ f.others fs) :
    g.1 ∉ f.parameters.map (·.name) := by
  unfold Form.others at h
  split at h
  · have hfree := (List.mem_filter.1 h).2
    rw [Bool.and_eq_true, Bool.not_eq_true', List.contains_eq_mem, decide_eq_false_iff_not] at hfree
    exact hfree.1
  · cases h

variable (h : f.read (.object fs) = .fits gs)

include h in
/-- **Under the name of a parameter stands what the parameter takes.** -/
theorem get?_of_read (hnames : (f.parameters.map (·.name)).Nodup) {p : Parameter}
    (hp : p ∈ f.parameters) :
    Takes p.needed p.shape.read p.shape.absent (Json.get? fs p.name) (Json.get? gs p.name) := by
  obtain ⟨vs, hvs, rfl⟩ := Form.read_eq_fits_iff.1 h
  have hread := get?_of_reads (fun _ _ _ hr => (Parameter.read_eq_fits_iff.1 hr).1) hvs hnames hp
  have hothers : Json.get? (f.others fs) p.name = none :=
    Json.get?_eq_none_iff.2 fun g hg heq =>
      Form.name_of_mem_others hg (heq ▸ List.mem_map_of_mem hp)
  rw [Json.get?_append, hothers, Option.or_none]
  exact (Parameter.read_eq_fits_iff.1 hread).2

include h in
/-- **Under any other name stands the argument**, unless it is null. -/
theorem get?_other_of_read (hopen : f.isOpen = true) (hfs : (fs.map Prod.fst).Nodup) {name : String}
    (hname : name ∉ f.parameters.map (·.name)) :
    Json.get? gs name = (Json.get? fs name).filter (· != .null) := by
  obtain ⟨vs, hvs, rfl⟩ := Form.read_eq_fits_iff.1 h
  have hkeys := names_of_reads (fun _ _ _ hr => (Parameter.read_eq_fits_iff.1 hr).1) hvs
  rw [Json.get?_append, get?_present_of_not_mem (hkeys ▸ hname), Option.none_or, Form.others,
    if_pos hopen, Json.get?_filter hfs]
  have hfree : (f.parameters.map (·.name)).contains name = false := by
    simpa using hname
  simp only [hfree, Bool.not_false, Bool.true_and]

end Form

section Part

variable {p : Part} {fs : Fields}

theorem Part.read_eq_fits_iff {v : Json} : p.read (.object fs) = .fits v ↔
    ∃ vs, List.Forall₂ (fun f v => f.read fs = .fits v) p.fields vs ∧ .object (present vs) = v := by
  change _ <$> readAll (p.fields.map (·.read fs)) = _ ↔ _
  simp only [map_eq_fits_iff, readAll_eq_fits_iff, List.forall₂_map_left_iff]

theorem Part.isObject_of_read {v w : Json} (h : p.read v = .fits w) : ∃ fs, v = .object fs := by
  cases v with
  | object fs => exact ⟨fs, rfl⟩
  | _ => cases h

end Part

end ChatRelay.Tool

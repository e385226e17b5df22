/-
  Arguments that are null.

  An optional parameter that is null is read as one that is absent, unless it has a value
  of its own for when it is absent.  So is an optional field of a part.  `Quieted` leaves
  one such null out of the arguments; the form is then read into the same, or has the same
  faults (`Form.read_of_quieted`).
-/
import ChatRelay.Proofs.Tool.Form
import Mathlib.Data.List.Nodup

namespace ChatRelay.Tool

open Schema

/-- One null is left out of the arguments: that of an optional parameter without a value of its
    own, or that of an optional field in one object of a parameter that has parts. -/
inductive Quieted (f : Form) : Fields → Fields → Prop
  | parameter {fs : Fields} {p : Parameter} : p ∈ f.parameters → p.needed = false →
      p.shape.absent = none → Json.get? fs p.name = some .null →
      Quieted f fs (Json.without p.name fs)
  | field {fs es : Fields} {p : Parameter} {part : Part} {t : TextField}
      {before after : List Json} : p ∈ f.parameters → p.shape = .parts part →
      Json.get? fs p.name = some (.array (before ++ .object es :: after)) →
      t ∈ part.fields → t.needed = false → Json.get? es t.name = some .null →
      Quieted f fs
        (Json.put p.name (.array (before ++ .object (Json.without t.name es) :: after)) fs)

section Fields

variable {fs fs' : Fields} {name : String}

/-- There is nothing under the name, or a null. -/
def IsNothing (name : String) (fs : Fields) : Prop :=
  Json.get? fs name = none ∨ Json.get? fs name = some .null

theorem isNothing_without : IsNothing name (Json.without name fs) :=
  Or.inl (by rw [Json.get?_without, if_pos rfl])

theorem fieldOr_of_isNothing {α : Type} {check : Json → Reading α} (h : IsNothing name fs) :
    fieldOr [name] none (orNull check) fs = .fits none := by
  rw [fieldOr_eq_fits_iff]
  rcases h with h | h
  · rw [h]
    exact .absent
  · rw [h]
    exact .null

theorem TextField.read_of_isNothing {t : TextField} (hneeded : t.needed = false)
    (h : IsNothing t.name fs) : t.read fs = .fits (t.name, none) := by
  rw [TextField.read, hneeded, if_neg Bool.false_ne_true, fieldOr_of_isNothing h]
  rfl

theorem Parameter.read_of_isNothing {p : Parameter} (hneeded : p.needed = false)
    (habsent : p.shape.absent = none) (h : IsNothing p.name fs) :
    p.read fs = .fits (p.name, none) := by
  rw [Parameter.read, hneeded, if_neg Bool.false_ne_true, habsent, fieldOr_of_isNothing h]
  rfl

/-- A field is read from what stands under its name. -/
theorem TextField.read_congr {t : TextField} (h : Json.get? fs t.name = Json.get? fs' t.name) :
    t.read fs = t.read fs' := by
  simp only [TextField.read, field, fieldOr, named?_singleton, h]

theorem Parameter.read_congr {p : Parameter} (h : Json.get? fs p.name = Json.get? fs' p.name) :
    p.read fs = p.read fs' := by
  simp only [Parameter.read, field, fieldOr, named?_singleton, h]

/-- Arrays that are read alike make a parameter that is. -/
theorem Parameter.read_of_arrays {p : Parameter} {vs ws : List Json}
    (h : Json.get? fs p.name = some (.array vs)) (h' : Json.get? fs' p.name = some (.array ws))
    (hread : p.shape.read (.array vs) = p.shape.read (.array ws)) : p.read fs = p.read fs' := by
  simp only [Parameter.read, field, fieldOr, named?_singleton, h, h', Option.map_some, orNull,
    hread]

end Fields

/-! ## Parts -/

section Part

variable {p : Part} {t : TextField} {es : Fields}

/-- **A null in an optional field of a part may be left out.** -/
theorem Part.read_without (hnames : (p.fields.map (·.name)).Nodup) (ht : t ∈ p.fields)
    (hneeded : t.needed = false) (hnull : Json.get? es t.name = some .null) :
    p.read (.object es) = p.read (.object (Json.without t.name es)) := by
  have hfields : ∀ u ∈ p.fields, u.read es = u.read (Json.without t.name es) := by
    intro u hu
    by_cases hname : u.name = t.name
    · obtain rfl := List.inj_on_of_nodup_map hnames hu ht hname
      rw [TextField.read_of_isNothing hneeded (Or.inr hnull),
        TextField.read_of_isNothing hneeded isNothing_without]
    · exact TextField.read_congr (by rw [Json.get?_without, if_neg hname])
  change _ <$> readAll (p.fields.map (·.read es)) =
    _ <$> readAll (p.fields.map (·.read (Json.without t.name es)))
  rw [List.map_congr_left hfields]

theorem itemsAt_replace {α : Type} {check : Json → Reading α} {v w : Json} (h : check v = check w)
    (before after : List Json) (n : Nat) :
    itemsAt check n (before ++ v :: after) = itemsAt check n (before ++ w :: after) := by
  induction before generalizing n with
  | nil => simp only [List.nil_append, itemsAt, h]
  | cons u before ih => simp only [List.cons_append, itemsAt, ih]

end Part

/-! ## Forms -/

namespace Form

variable {f : Form} {fs fs' : Fields} {name : String}

/-- What stands under the name of a parameter makes no difference to the other arguments. -/
theorem others_congr (h : name ∈ f.parameters.map (·.name))
    (hfilter : ∀ p : String × Json → Bool, (∀ v, p (name, v) = false) →
      fs'.filter p = fs.filter p) : f.others fs' = f.others fs := by
  unfold others
  split
  · refine hfilter _ fun v => ?_
    rw [List.contains_iff_mem.2 h, Bool.not_true, Bool.false_and]
  · rfl

theorem read_congr (hparameters : ∀ p ∈ f.parameters, p.read fs = p.read fs')
    (hothers : f.others fs' = f.others fs) : f.read (.object fs) = f.read (.object fs') := by
  change _ <$> readAll (f.parameters.map (·.read fs)) =
    _ <$> readAll (f.parameters.map (·.read fs'))
  rw [List.map_congr_left hparameters, hothers]

/-- **A null that may be left out makes no difference**, whether the arguments fit or not. -/
theorem read_of_quieted (hnames : (f.parameters.map (·.name)).Nodup)
    (hparts : ∀ part ∈ f.parts, (part.fields.map (·.name)).Nodup)
    (h : Quieted f fs fs') : f.read (.object fs) = f.read (.object fs') := by
  cases h with
  | @parameter p hp hneeded habsent hnull =>
    refine read_congr (fun q hq => ?_) (others_congr (List.mem_map_of_mem hp) fun r hr =>
      Json.filter_without hr fs)
    by_cases hname : q.name = p.name
    · obtain rfl := List.inj_on_of_nodup_map hnames hq hp hname
      rw [Parameter.read_of_isNothing hneeded habsent (Or.inr hnull),
        Parameter.read_of_isNothing hneeded habsent isNothing_without]
    · exact Parameter.read_congr (by rw [Json.get?_without, if_neg hname])
  | @field es p part t before after hp hshape harray ht hneeded hnull =>
    refine read_congr (fun q hq => ?_) (others_congr (List.mem_map_of_mem hp) fun r hr =>
      Json.filter_put hr _ fs)
    by_cases hname : q.name = p.name
    · obtain rfl := List.inj_on_of_nodup_map hnames hq hp hname
      have hpart : part ∈ f.parts := List.mem_filterMap.2 ⟨q, hq, by rw [hshape]⟩
      refine Parameter.read_of_arrays harray (Json.get?_put _ _ _) ?_
      rw [hshape, Shape.read, Shape.read, asItems, asItems,
        itemsAt_replace (Part.read_without (hparts part hpart) ht hneeded hnull)]
    · exact Parameter.read_congr (Json.get?_put_of_ne hname _ _).symm

end Form

end ChatRelay.Tool

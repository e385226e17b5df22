/-
  Looking up fields.

  What the fields of an object give under a name, for fields that are put together, that
  are picked out, or that may be missing.
-/
import ChatRelay.Content.Wire

namespace ChatRelay

namespace Json

theorem get?_append (fs gs : Fields) (name : String) :
    get? (fs ++ gs) name = (get? fs name).or (get? gs name) :=
  List.lookup_append

theorem get?_eq_none_iff {fs : Fields} {name : String} :
    get? fs name = none ↔ ∀ f ∈ fs, f.1 ≠ name := by
  rw [get?, List.lookup_eq_none_iff]
  exact forall₂_congr fun f _ => by rw [bne_iff_ne, ne_comm]

/-- Of fields with different names, one that is not picked out gives nothing. -/
theorem get?_filter {fs : Fields} (hfs : (fs.map Prod.fst).Nodup) (p : String × Json → Bool)
    (name : String) : get? (fs.filter p) name = (get? fs name).filter fun v => p (name, v) := by
  induction fs with
  | nil => rfl
  | cons f fs ih =>
    obtain ⟨key, v⟩ := f
    rw [List.map_cons, List.nodup_cons] at hfs
    by_cases hname : name = key
    · subst hname
      have hrest : get? fs name = none :=
        get?_eq_none_iff.2 fun g hg heq => hfs.1 (List.mem_map.2 ⟨g, hg, heq⟩)
      rw [get?_cons, if_pos rfl, Option.filter_some]
      cases hp : p (name, v) with
      | true => rw [List.filter_cons_of_pos hp, get?_cons, if_pos rfl, if_pos rfl]
      | false =>
        rw [List.filter_cons_of_neg (by simp [hp]), ih hfs.2, hrest]
        rfl
    · rw [get?_cons, if_neg hname, ← ih hfs.2]
      cases hp : p (key, v) with
      | true => rw [List.filter_cons_of_pos hp, get?_cons, if_neg hname]
      | false => rw [List.filter_cons_of_neg (by simp [hp])]

/-- Values that are changed under their names. -/
theorem get?_map (change : String → Json → Json) (fs : Fields) (name : String) :
    get? (fs.map fun f => (f.1, change f.1 f.2)) name = (get? fs name).map (change name) := by
  induction fs with
  | nil => rfl
  | cons f fs ih =>
    rw [List.map_cons, get?_cons, get?_cons, ih]
    by_cases hname : name = f.1
    · rw [if_pos hname, if_pos hname, ← hname, Option.map_some]
    · rw [if_neg hname, if_neg hname]

/-- Fields that are picked out by their names. -/
theorem get?_filter_name (p : String → Bool) (fs : Fields) (name : String) :
    get? (fs.filter fun f => p f.1) name = if p name then get? fs name else none := by
  induction fs with
  | nil => exact (ite_self none).symm
  | cons f fs ih =>
    rw [List.filter_cons, get?_cons]
    by_cases hname : name = f.1
    · subst hname
      cases hp : p f.1 with
      | true => simp [get?_cons]
      | false => simpa [hp] using ih
    · cases hp : p f.1 with
      | true => simpa [get?_cons, hname] using ih
      | false => simpa [hname] using ih

theorem get?_without (key : String) (fs : Fields) (name : String) :
    get? (without key fs) name = if name = key then none else get? fs name := by
  refine (get?_filter_name (· != key) fs name).trans ?_
  by_cases hname : name = key <;> simp [hname]

section Filter

variable {p : String × Json → Bool} {name : String} (h : ∀ v, p (name, v) = false)

include h

/-- Changing a field makes no difference to the others. -/
theorem filter_put (v : Json) (fs : Fields) : (put name v fs).filter p = fs.filter p := by
  induction fs with
  | nil => exact List.filter_cons_of_neg (by simp [h])
  | cons f rest ih =>
    obtain ⟨key, w⟩ := f
    rw [put]
    split
    · rename_i hkey
      obtain rfl : key = name := hkey
      rw [List.filter_cons_of_neg (by simp [h]), List.filter_cons_of_neg (by simp [h])]
    · rw [List.filter_cons, List.filter_cons, ih]

theorem filter_without (fs : Fields) : (without name fs).filter p = fs.filter p := by
  rw [without, List.filter_filter]
  refine List.filter_congr fun f _ => ?_
  obtain ⟨key, v⟩ := f
  by_cases hkey : key = name
  · subst hkey
    rw [h v, Bool.false_and]
  · simp [hkey]

end Filter

end Json

/-! ## Fields that may be missing -/

section Present

variable {fields : List (String × Option Json)} {name : String}

theorem get?_present_cons (key : String) (v : Option Json) :
    Json.get? (present ((key, v) :: fields)) name =
      if name = key then v.or (Json.get? (present fields) name)
      else Json.get? (present fields) name := by
  cases v with
  | none =>
    have hnone : present ((key, none) :: fields) = present fields := rfl
    rw [hnone, Option.none_or, ite_self]
  | some v =>
    have hsome : present ((key, some v) :: fields) = (key, v) :: present fields := rfl
    rw [hsome, Json.get?_cons, Option.some_or]

theorem get?_present_of_not_mem (h : name ∉ fields.map Prod.fst) :
    Json.get? (present fields) name = none := by
  induction fields with
  | nil => rfl
  | cons f fields ih =>
    rw [List.map_cons, List.mem_cons, not_or] at h
    rw [get?_present_cons, if_neg h.1, ih h.2]

/-- Of fields with different names, each gives the value that it has, if it has one. -/
theorem get?_present_of_mem (hfields : (fields.map Prod.fst).Nodup) {v : Option Json}
    (h : (name, v) ∈ fields) : Json.get? (present fields) name = v := by
  induction fields with
  | nil => cases h
  | cons f fields ih =>
    obtain ⟨key, w⟩ := f
    rw [List.map_cons, List.nodup_cons] at hfields
    rw [get?_present_cons]
    rcases List.mem_cons.1 h with heq | hmem
    · cases heq
      rw [if_pos rfl, get?_present_of_not_mem hfields.1, Option.or_none]
    · have hne : name ≠ key := fun heq =>
        hfields.1 (heq ▸ List.mem_map.2 ⟨_, hmem, rfl⟩)
      rw [if_neg hne, ih hfields.2 hmem]

end Present

end ChatRelay

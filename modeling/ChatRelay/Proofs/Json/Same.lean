/-
  Values that are the same but for the order of fields.

  The fields of an object have no order for whoever reads them by name.  Objects are the `Same` if
  they give the same under every name; arrays keep their order.

  * `same_object_iff`, `same_array_iff`, `same_text_iff` take values apart that are the same;
  * `eq_of_rel_map`, `eq_of_same_map`: what is told by its written form is told by an optional or
    a listed one;
  * `same_present_iff`: fields that may be missing make the same object just if they are the same.
-/
import ChatRelay.Proofs.Lookup
import Mathlib.Data.List.Forall2
import Mathlib.Data.Option.Basic

namespace ChatRelay.Json

/-- The values differ at most in the order of fields. -/
inductive Same : Json → Json → Prop
  | null : Same .null .null
  | bool (b : Bool) : Same (.bool b) (.bool b)
  | number (n : Number) : Same (.number n) (.number n)
  | text (s : String) : Same (.text s) (.text s)
  | array {xs ys : List Json} : List.Forall₂ Same xs ys → Same (.array xs) (.array ys)
  | object {fs gs : Fields} : (∀ name, Option.Rel Same (get? fs name) (get? gs name)) →
      Same (.object fs) (.object gs)

mutual

theorem Same.refl : (v : Json) → Same v v
  | .null => .null
  | .bool b => .bool b
  | .number n => .number n
  | .text s => .text s
  | .array xs => .array (forall₂_same_refl xs)
  | .object fs => .object (rel_get?_refl fs)

theorem forall₂_same_refl : (xs : List Json) → List.Forall₂ Same xs xs
  | [] => .nil
  | x :: xs => .cons (Same.refl x) (forall₂_same_refl xs)

theorem rel_get?_refl : (fs : Fields) → ∀ name, Option.Rel Same (get? fs name) (get? fs name)
  | [], _ => .none
  | (key, v) :: fs, name => by
    rw [get?_cons]
    split
    · exact .some (Same.refl v)
    · exact rel_get?_refl fs name

end

section Parts

variable {fs gs : Fields} {xs ys : List Json} {s t : String}

theorem same_object_iff : Same (.object fs) (.object gs) ↔
    ∀ name, Option.Rel Same (get? fs name) (get? gs name) :=
  ⟨fun h => by cases h with | object h => exact h, .object⟩

theorem same_array_iff : Same (.array xs) (.array ys) ↔ List.Forall₂ Same xs ys :=
  ⟨fun h => by cases h with | array h => exact h, .array⟩

theorem same_text_iff : Same (.text s) (.text t) ↔ s = t :=
  ⟨fun h => by cases h; rfl, fun h => h ▸ .text s⟩

theorem same_bool_iff {b c : Bool} : Same (.bool b) (.bool c) ↔ b = c :=
  ⟨fun h => by cases h; rfl, fun h => h ▸ .bool b⟩

theorem same_int_iff {i j : Int} : Same (.int i) (.int j) ↔ i = j :=
  ⟨fun h => by cases h; rfl, fun h => h ▸ .number _⟩

theorem rel_refl (v : Option Json) : Option.Rel Same v v := by
  cases v with
  | none => exact .none
  | some v => exact .some (Same.refl v)

theorem rel_some_iff {v w : Json} : Option.Rel Same (some v) (some w) ↔ Same v w :=
  ⟨fun h => by cases h with | some h => exact h, .some⟩

section Map

variable {α : Type} {f : α → Json} (hf : ∀ a b, Same (f a) (f b) → a = b)

include hf

theorem eq_of_rel_map {o o' : Option α} (h : Option.Rel Same (o.map f) (o'.map f)) : o = o' := by
  cases o <;> cases o'
  case none.none => rfl
  case some.some a b => rw [hf a b (rel_some_iff.1 h)]
  all_goals cases h

theorem eq_of_same_map {as bs : List α} (h : Same (.array (as.map f)) (.array (bs.map f))) :
    as = bs := by
  have hall := same_array_iff.1 h
  rw [List.forall₂_map_left_iff, List.forall₂_map_right_iff] at hall
  have heq : List.Forall₂ Eq as bs := hall.imp hf
  rwa [List.forall₂_eq_eq_eq] at heq

end Map

/-- Objects of fields that may be missing, where only the values differ. -/
theorem same_present {parts parts' : List (String × Option Json)}
    (h : List.Forall₂ (fun f g => f.1 = g.1 ∧ Option.Rel Same f.2 g.2) parts parts') :
    Same (.object (present parts)) (.object (present parts')) := by
  rw [same_object_iff]
  intro name
  induction h with
  | nil => exact .none
  | @cons f g rest rest' hfg _ ih =>
    obtain ⟨key, v⟩ := f
    obtain ⟨key', w⟩ := g
    obtain ⟨rfl, hvw⟩ : key = key' ∧ Option.Rel Same v w := hfg
    rw [get?_present_cons, get?_present_cons]
    split
    · cases hvw with
      | none => simpa using ih
      | some hvw => simpa using Option.Rel.some hvw
    · exact ih

/-- **Objects of the same fields, some of which may be missing, are the same just if the fields
    are**, one by one. -/
theorem same_present_iff {parts parts' : List (String × Option Json)}
    (hnames : parts.map Prod.fst = parts'.map Prod.fst) (hdistinct : (parts.map Prod.fst).Nodup) :
    Same (.object (present parts)) (.object (present parts')) ↔
      List.Forall₂ (fun f g => f.1 = g.1 ∧ Option.Rel Same f.2 g.2) parts parts' := by
  refine ⟨fun h => ?_, same_present⟩
  rw [List.forall₂_iff_get]
  refine ⟨by simpa using congrArg List.length hnames, fun i hi hi' => ?_⟩
  have hname : (parts.get ⟨i, hi⟩).1 = (parts'.get ⟨i, hi'⟩).1 := by
    have hget := congrArg (·[i]?) hnames
    simpa [hi, hi'] using hget
  have hrel := same_object_iff.1 h (parts.get ⟨i, hi⟩).1
  rw [get?_present_of_mem hdistinct (List.get_mem parts ⟨i, hi⟩), hname,
    get?_present_of_mem (hnames ▸ hdistinct) (List.get_mem parts' ⟨i, hi'⟩)] at hrel
  exact ⟨hname, hrel⟩

end Parts

end ChatRelay.Json

/-
  What the fields of loosely typed records give.

  The value of a field is the first one given under its names
  (`pick_eq_some_iff`), and its text, if there is one, is never empty
  (`textOf_ne_empty`): flags and numbers are always written with at least one
  character, and the empty text counts as absent.
-/
import ChatRelay.Content.Record
import Mathlib.Tactic.SplitIfs
import Mathlib.Tactic.Tauto

namespace ChatRelay

/-! ## The text of numbers -/

namespace Number

theorem intText_ne_empty (i : Int) : intText i ≠ "" := by
  intro h
  have h' := String.ofList_eq_empty_iff.1 h
  exact Nat.toDigits_ne_nil (List.append_eq_nil_iff.1 h').2

theorem written_ne_nil (l : Layout) (ds : List Char) (e : Int) : l.written ds e ≠ [] := by
  unfold Layout.written
  by_cases h : (e < l.leastPositional || l.firstScientific ≤ e) = true
  · simp [h]
  · rw [if_neg h]
    by_cases he : e < 0
    · simp [he]
    · rw [if_neg he]
      extract_lets n
      split_ifs <;> simp

theorem realText_ne_empty (x : Binary64) : realText x ≠ "" := by
  have signed : ∀ sign cs : List Char, cs ≠ [] → String.ofList (sign ++ cs) ≠ "" :=
    fun _ _ hcs h => hcs (List.append_eq_nil_iff.1 (String.ofList_eq_empty_iff.1 h)).2
  unfold realText
  extract_lets sign
  split_ifs
  · decide
  · exact signed sign _ (by decide)
  · exact signed sign _ (by decide)
  · exact signed sign _ (written_ne_nil _ _ _)

theorem text_ne_empty (n : Number) : n.text ≠ "" := by
  cases n with
  | int i => exact intText_ne_empty i
  | real x => exact realText_ne_empty x

end Number

namespace Content

/-! ## The first value given -/

/-- The first value that says something, under the names in their order. -/
def FirstGiven (names : List String) (fs : Fields) (v : Json) : Prop :=
  ∃ before name after, names = before ++ name :: after ∧ Json.get? fs name = some v ∧
    v ≠ .null ∧ v ≠ .text "" ∧
    ∀ other ∈ before, ∀ w, Json.get? fs other = some w → w = .null ∨ w = .text ""

/-- The value is neither null nor a container. -/
def IsScalar : Json → Prop
  | .null | .array _ | .object _ => False
  | _ => True

/-- The first value given under the names is a scalar. -/
def GivesScalar (names : List String) (fs : Fields) : Prop :=
  ∃ v, FirstGiven names fs v ∧ IsScalar v

theorem isGiven_iff (v : Json) : isGiven v = true ↔ v ≠ .null ∧ v ≠ .text "" := by
  cases v <;> simp [isGiven]

theorem pick_eq_some_iff {names : List String} {fs : Fields} {v : Json} :
    pick names fs = some v ↔ FirstGiven names fs v := by
  simp only [pick, List.findSome?_eq_some_iff, Option.filter_eq_some_iff, Option.filter_eq_none_iff,
    isGiven_iff, FirstGiven]
  constructor
  · rintro ⟨before, name, after, hn, ⟨hv, h0, h1⟩, hb⟩
    exact ⟨before, name, after, hn, hv, h0, h1, fun other ho w hw => by
      have := hb other ho w hw; tauto⟩
  · rintro ⟨before, name, after, hn, hv, h0, h1, hb⟩
    exact ⟨before, name, after, hn, ⟨hv, h0, h1⟩, fun other ho w hw => by
      have := hb other ho w hw; tauto⟩

theorem given_of_pick {names : List String} {fs : Fields} {v : Json} (h : pick names fs = some v) :
    v ≠ .null ∧ v ≠ .text "" := by
  obtain ⟨_, _, _, -, -, h0, h1, -⟩ := pick_eq_some_iff.1 h
  exact ⟨h0, h1⟩

/-! ## Texts of fields -/

theorem isSome_scalarText? (v : Json) : (scalarText? v).isSome ↔ IsScalar v := by
  cases v <;> simp [scalarText?, IsScalar]

theorem scalarText?_ne_empty {v : Json} (h : v ≠ .text "") {s : String}
    (hs : scalarText? v = some s) : s ≠ "" := by
  cases v with
  | null | array _ | object _ => simp [scalarText?] at hs
  | bool b =>
    obtain rfl : Json.wording b = s := by simpa [scalarText?] using hs
    cases b <;> decide
  | number n =>
    obtain rfl : n.text = s := by simpa [scalarText?, Json.display, Json.literal] using hs
    exact n.text_ne_empty
  | text t =>
    obtain rfl : t = s := by simpa [scalarText?, Json.display] using hs
    exact fun ht => h (by rw [ht])

/-- **A field never has the empty text.** -/
theorem textOf_ne_empty {names : List String} {fs : Fields} {s : String}
    (h : textOf names fs = some s) : s ≠ "" := by
  obtain ⟨v, hv, hs⟩ := Option.bind_eq_some_iff.1 h
  exact scalarText?_ne_empty (given_of_pick hv).2 hs

/-- A field has a text if the first value given under its names is a scalar. -/
theorem isSome_textOf {names : List String} {fs : Fields} :
    (textOf names fs).isSome ↔ GivesScalar names fs := by
  unfold textOf GivesScalar
  constructor
  · intro h
    obtain ⟨s, hs⟩ := Option.isSome_iff_exists.1 h
    obtain ⟨v, hv, hvs⟩ := Option.bind_eq_some_iff.1 hs
    exact ⟨v, pick_eq_some_iff.1 hv, (isSome_scalarText? v).1 (by simp [hvs])⟩
  · rintro ⟨v, hv, hs⟩
    rw [pick_eq_some_iff.2 hv, Option.bind_some]
    exact (isSome_scalarText? v).2 hs

end Content

end ChatRelay

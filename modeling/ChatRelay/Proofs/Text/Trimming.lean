/-
  Trimming texts.

  A text is trimmed just if it neither begins nor ends with a blank
  (`trimChars_eq_self_iff`), and trimming it twice is trimming it once.  What is dropped
  at the end of two texts put together is dropped from the first only if nothing is left
  of the second (`dropTrailing_append`).
-/
import ChatRelay.Text.Blank
import Mathlib.Data.List.DropRight

namespace ChatRelay.Text

theorem dropTrailing_eq (p : Char → Bool) (cs : List Char) :
    dropTrailing p cs = cs.rdropWhile p := rfl

section DropTrailing

variable {p : Char → Bool} {xs ys cs : List Char}

theorem dropTrailing_of_all (h : ∀ c ∈ ys, p c = true) :
    dropTrailing p (xs ++ ys) = dropTrailing p xs := by
  rw [dropTrailing, List.reverse_append, List.dropWhile_append_of_pos (by simpa using h),
    dropTrailing]

theorem dropTrailing_append (h : dropTrailing p ys ≠ []) :
    dropTrailing p (xs ++ ys) = xs ++ dropTrailing p ys := by
  have hleft : ys.reverse.dropWhile p ≠ [] := by simpa [dropTrailing] using h
  rw [dropTrailing, List.reverse_append, List.dropWhile_append,
    if_neg (by simpa using hleft), List.reverse_append, List.reverse_reverse, dropTrailing]

/-- What is left does not end with what is dropped. -/
theorem getLast?_dropTrailing : ∀ c ∈ (dropTrailing p cs).getLast?, p c = false := by
  intro c hc
  obtain ⟨hne, rfl⟩ := List.mem_getLast?_eq_getLast hc
  exact Bool.eq_false_iff.2 (List.rdropWhile_last_not p cs hne)

theorem dropTrailing_eq_self_iff :
    dropTrailing p cs = cs ↔ ∀ c ∈ cs.getLast?, p c = false := by
  constructor
  · intro h
    rw [← h]
    exact getLast?_dropTrailing
  · intro h
    rw [dropTrailing_eq, List.rdropWhile_eq_self_iff]
    intro hne
    simpa using h _ (List.getLast?_eq_some_getLast hne)

/-- What stands before a text is kept if it does not end with what is dropped. -/
theorem prefix_dropTrailing_append (h : ∀ c ∈ xs.getLast?, p c = false) (ys : List Char) :
    xs <+: dropTrailing p (xs ++ ys) := by
  by_cases hnil : dropTrailing p ys = []
  · have hall : ∀ c ∈ ys, p c = true := List.rdropWhile_eq_nil_iff.1 hnil
    have hkept : dropTrailing p (xs ++ ys) = xs := by
      rw [dropTrailing_of_all hall, dropTrailing_eq_self_iff.2 h]
    exact ⟨[], (List.append_nil xs).trans hkept.symm⟩
  · rw [dropTrailing_append hnil]
    exact List.prefix_append _ _

end DropTrailing

theorem dropWhile_eq_self_iff {p : Char → Bool} {cs : List Char} :
    cs.dropWhile p = cs ↔ ∀ c ∈ cs.head?, p c = false := by
  cases cs with
  | nil => simp
  | cons c cs => simp [List.dropWhile_eq_self_iff]

theorem trimChars_eq_self_iff {cs : List Char} : trimChars cs = cs ↔
    (∀ c ∈ cs.head?, isBlank c = false) ∧ ∀ c ∈ cs.getLast?, isBlank c = false := by
  rw [← dropWhile_eq_self_iff, ← dropTrailing_eq_self_iff]
  constructor
  · intro h
    have hlength : cs.length ≤ (cs.dropWhile isBlank).length := calc
      cs.length = (trimChars cs).length := by rw [h]
      _ ≤ (cs.dropWhile isBlank).length := (List.rdropWhile_prefix _ _).length_le
    have hfront : cs.dropWhile isBlank = cs := (List.dropWhile_suffix _).eq_of_length_le hlength
    rw [trimChars, hfront] at h
    exact ⟨hfront, h⟩
  · rintro ⟨hfront, hback⟩
    rw [trimChars, hfront, hback]

/-- Once trimmed, a text begins and ends with no blank. -/
theorem trimChars_trimChars (cs : List Char) : trimChars (trimChars cs) = trimChars cs := by
  have hfront : (trimChars cs).dropWhile isBlank = trimChars cs := by
    rw [List.dropWhile_eq_self_iff]
    intro hl hblank
    have hfront : trimChars cs <+: cs.dropWhile isBlank := List.rdropWhile_prefix _ _
    rw [hfront.getElem] at hblank
    exact List.dropWhile_get_zero_not isBlank cs (hl.trans_le hfront.length_le) hblank
  rw [trimChars, hfront, trimChars, dropTrailing_eq, dropTrailing_eq, List.rdropWhile_idempotent]

theorem trimBlank_trimBlank (s : String) : trimBlank (trimBlank s) = trimBlank s := by
  rw [trimBlank, trimBlank, String.toList_ofList, trimChars_trimChars]

end ChatRelay.Text

/-
  Patterns of characters.

  A pattern fits stretches of a text: one character of a class, any number of them, at
  most one, or a stretch of one pattern followed by one of another.  What stands at a
  place is tried in a fixed order, longer repetitions before shorter ones, and the first
  stretch that is not empty is taken.

  * `Pattern.Fits` says which stretches fit; `Pattern.lengths` tries those at the front of
    a text, and tries all of them (`mem_lengths_iff`);
  * `Pattern.occursIn` looks for a stretch anywhere (`occursIn_iff`);
  * `Pattern.removed` takes stretches from left to right and leaves them out.
-/
import Mathlib.Data.List.Infix
import Mathlib.Data.List.TakeWhile

namespace ChatRelay.Text

/-- A pattern. -/
inductive Pattern where
  /-- one character of a class -/
  | one (p : Char → Bool)
  /-- characters of a class, as many as there are -/
  | many (p : Char → Bool)
  /-- one character of a class, if there is one -/
  | optional (p : Char → Bool)
  /-- one pattern after the other -/
  | andThen (first second : Pattern)

namespace Pattern

/-- The stretch fits the pattern. -/
def Fits : Pattern → List Char → Prop
  | one p, cs => ∃ c, cs = [c] ∧ p c = true
  | many p, cs => ∀ c ∈ cs, p c = true
  | optional p, cs => cs = [] ∨ ∃ c, cs = [c] ∧ p c = true
  | andThen first second, cs => ∃ xs ys, cs = xs ++ ys ∧ first.Fits xs ∧ second.Fits ys

/-- The lengths of the stretches at the front of a text, in the order in which they are
    tried. -/
def lengths : Pattern → List Char → List Nat
  | one p, cs => if cs.head?.any p then [1] else []
  | many p, cs => (List.range ((cs.takeWhile p).length + 1)).reverse
  | optional p, cs => if cs.head?.any p then [1, 0] else [0]
  | andThen first second, cs =>
    (first.lengths cs).flatMap fun n => (second.lengths (cs.drop n)).map (n + ·)

/-- The length of the stretch that is taken at the front of a text. -/
def taken? (P : Pattern) (cs : List Char) : Option Nat := (P.lengths cs).find? (0 < ·)

/-- Some stretch of the text fits. -/
def occursIn (P : Pattern) (cs : List Char) : Bool := cs.tails.any fun t => !(P.lengths t).isEmpty

/-- The text after its first `skip` characters, without the stretches that are taken. -/
def removedAfter (P : Pattern) : Nat → List Char → List Char
  | _, [] => []
  | skip + 1, _ :: cs => removedAfter P skip cs
  | 0, c :: cs => match P.taken? (c :: cs) with
    | some n => removedAfter P (n - 1) cs
    | none => c :: removedAfter P 0 cs

/-- The text without the stretches that are taken. -/
def removed (P : Pattern) (cs : List Char) : List Char := P.removedAfter 0 cs

/-! ## Trying -/

theorem any_head?_iff {p : Char → Bool} {cs : List Char} :
    cs.head?.any p = true ↔ ∃ c rest, cs = c :: rest ∧ p c = true := by
  cases cs with
  | nil => simp
  | cons c rest => simp

/-- **Every stretch at the front of a text is tried.** -/
theorem mem_lengths_iff {P : Pattern} {cs : List Char} {n : Nat} :
    n ∈ P.lengths cs ↔ ∃ stretch rest, cs = stretch ++ rest ∧ stretch.length = n ∧
      P.Fits stretch := by
  induction P generalizing cs n with
  | one p =>
    simp only [lengths, List.mem_ite_nil_right, any_head?_iff, List.mem_singleton]
    constructor
    · rintro ⟨⟨c, rest, rfl, hc⟩, rfl⟩
      exact ⟨[c], rest, rfl, rfl, c, rfl, hc⟩
    · rintro ⟨_, rest, rfl, rfl, c, rfl, hc⟩
      exact ⟨⟨c, rest, rfl, hc⟩, rfl⟩
  | many p =>
    simp only [lengths, List.mem_reverse, List.mem_range, Nat.lt_succ_iff]
    constructor
    · intro hn
      have hrun : cs.takeWhile p <+: cs := List.takeWhile_prefix p
      have hfront : cs.take n = (cs.takeWhile p).take n := by
        rw [List.prefix_iff_eq_take.1 hrun, List.take_take, Nat.min_eq_left hn]
      refine ⟨cs.take n, cs.drop n, (List.take_append_drop n cs).symm,
        List.length_take_of_le (Nat.le_trans hn hrun.length_le), fun c hc => ?_⟩
      rw [hfront] at hc
      exact List.mem_takeWhile_imp (List.mem_of_mem_take hc)
    · rintro ⟨stretch, rest, rfl, rfl, hall⟩
      rw [List.takeWhile_append_of_pos hall, List.length_append]
      exact Nat.le_add_right _ _
  | optional p =>
    by_cases h : cs.head?.any p = true
    · obtain ⟨c, rest, rfl, hc⟩ := any_head?_iff.1 h
      simp only [lengths, h, if_true, List.mem_cons, List.not_mem_nil, or_false]
      constructor
      · rintro (rfl | rfl)
        · exact ⟨[c], rest, rfl, rfl, .inr ⟨c, rfl, hc⟩⟩
        · exact ⟨[], c :: rest, rfl, rfl, .inl rfl⟩
      · rintro ⟨stretch, _, -, rfl, rfl | ⟨d, rfl, -⟩⟩
        · exact .inr rfl
        · exact .inl rfl
    · simp only [lengths, h, Bool.false_eq_true, if_false, List.mem_singleton]
      constructor
      · rintro rfl
        exact ⟨[], cs, rfl, rfl, .inl rfl⟩
      · rintro ⟨stretch, rest, rfl, rfl, rfl | ⟨c, rfl, hc⟩⟩
        · rfl
        · exact absurd (any_head?_iff.2 ⟨c, rest, rfl, hc⟩) h
  | andThen first second ihFirst ihSecond =>
    simp only [lengths, List.mem_flatMap, List.mem_map, ihFirst, ihSecond]
    constructor
    · rintro ⟨_, ⟨xs, tail, rfl, rfl, hxs⟩, _, ⟨ys, rest, htail, rfl, hys⟩, rfl⟩
      rw [List.drop_left] at htail
      subst htail
      exact ⟨xs ++ ys, rest, (List.append_assoc ..).symm, List.length_append,
        xs, ys, rfl, hxs, hys⟩
    · rintro ⟨_, rest, rfl, rfl, xs, ys, rfl, hxs, hys⟩
      exact ⟨xs.length, ⟨xs, ys ++ rest, List.append_assoc .., rfl, hxs⟩, ys.length,
        ⟨ys, rest, by rw [List.append_assoc, List.drop_left], rfl, hys⟩, List.length_append.symm⟩

/-- **A pattern occurs in a text just if some stretch of it fits.** -/
theorem occursIn_iff {P : Pattern} {cs : List Char} :
    P.occursIn cs = true ↔ ∃ before stretch after, cs = before ++ (stretch ++ after) ∧
      P.Fits stretch := by
  simp only [occursIn, List.any_eq_true, List.mem_tails, Bool.not_eq_true',
    List.isEmpty_eq_false_iff_exists_mem, mem_lengths_iff]
  constructor
  · rintro ⟨_, ⟨before, rfl⟩, _, stretch, after, rfl, -, hfits⟩
    exact ⟨before, stretch, after, rfl, hfits⟩
  · rintro ⟨before, stretch, after, rfl, hfits⟩
    exact ⟨stretch ++ after, ⟨before, rfl⟩, _, stretch, after, rfl, rfl, hfits⟩

/-! ## What is tried first -/

section First

variable {p : Char → Bool} {P Q : Pattern} {cs : List Char}

theorem taken?_of_lengths {n : Nat} {more : List Nat} (h : P.lengths cs = n :: more)
    (hn : 0 < n) : P.taken? cs = some n := by
  rw [taken?, h, List.find?_cons_of_pos (by simpa using hn)]

theorem lengths_one_andThen {c : Char} (hc : p c = true) :
    (andThen (one p) Q).lengths (c :: cs) = (Q.lengths cs).map (1 + ·) := by
  have hone : (one p).lengths (c :: cs) = [1] := by simp [lengths, hc]
  rw [lengths, hone, List.flatMap_singleton, List.drop_one, List.tail_cons]

/-- A repetition is tried first as long as the run of characters that are in its class. -/
theorem lengths_many_andThen {run rest : List Char} (hrun : ∀ c ∈ run, p c = true)
    (hrest : rest.takeWhile p = []) : ∃ more, (andThen (many p) Q).lengths (run ++ rest) =
      (Q.lengths rest).map (run.length + ·) ++ more := by
  have hlength : ((run ++ rest).takeWhile p).length = run.length := by
    rw [List.takeWhile_append_of_pos hrun, hrest, List.append_nil]
  rw [lengths, lengths, hlength, List.range_succ, List.reverse_append, List.reverse_singleton,
    List.singleton_append, List.flatMap_cons, List.drop_left]
  exact ⟨_, rfl⟩

end First

/-! ## Removing -/

section Removing

variable {P : Pattern}

theorem removedAfter_eq (skip : Nat) (cs : List Char) :
    P.removedAfter skip cs = P.removed (cs.drop skip) := by
  induction cs generalizing skip with
  | nil => cases skip <;> rfl
  | cons c cs ih =>
    cases skip with
    | zero => rfl
    | succ skip => exact ih skip

theorem removed_nil : P.removed [] = [] := rfl

/-- A stretch that is taken is left out. -/
theorem removed_of_taken {stretch rest : List Char}
    (h : P.taken? (stretch ++ rest) = some stretch.length) :
    P.removed (stretch ++ rest) = P.removed rest := by
  cases stretch with
  | nil => rfl
  | cons c stretch =>
    rw [List.cons_append] at h ⊢
    rw [removed, removedAfter, h]
    simp only [List.length_cons, Nat.add_sub_cancel]
    rw [removedAfter_eq, List.drop_left]

/-- A character at which nothing is taken is kept. -/
theorem removed_of_not_taken {c : Char} {cs : List Char} (h : P.taken? (c :: cs) = none) :
    P.removed (c :: cs) = c :: P.removed cs := by
  rw [removed, removedAfter, h]
  rfl

/-- Characters with which no stretch begins are kept. -/
theorem removed_append {front : List Char}
    (h : ∀ c ∈ front, ∀ cs, P.taken? (c :: cs) = none) (rest : List Char) :
    P.removed (front ++ rest) = front ++ P.removed rest := by
  induction front with
  | nil => rfl
  | cons c front ih =>
    rw [List.cons_append, removed_of_not_taken (h c (by simp) _),
      ih fun d hd => h d (by simp [hd]), List.cons_append]

/-- A class of characters is removed by filtering. -/
theorem removed_one (p : Char → Bool) (cs : List Char) :
    (one p).removed cs = cs.filter (!p ·) := by
  induction cs with
  | nil => rfl
  | cons c cs ih =>
    cases hc : p c with
    | true =>
      have htaken : (one p).taken? ([c] ++ cs) = some 1 := by simp [taken?, lengths, hc]
      rw [List.filter_cons_of_neg (by simp [hc]), ← ih]
      exact removed_of_taken htaken
    | false =>
      have hnone : (one p).taken? (c :: cs) = none := by simp [taken?, lengths, hc]
      rw [List.filter_cons_of_pos (by simp [hc]), ← ih]
      exact removed_of_not_taken hnone

end Removing

end Pattern

end ChatRelay.Text

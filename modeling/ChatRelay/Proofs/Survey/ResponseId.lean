/-
  The ids that responses to a survey carry.

  The session stands first in an id and may hold anything, dashes and whole ids included.  Behind
  it stand the milliseconds and the random digits, neither of which holds a dash, so that an id is
  taken apart from its end.

  * `responseId_inj`: an id tells its session, the milliseconds and the random digits;
  * `response_ids_differ`: surveys for different sessions carry different ids, whenever they are
    made and whatever is random about them.
-/
import ChatRelay.Proofs.Survey.Line

namespace ChatRelay.Survey

/-! ## Stamps -/

/-- A hexadecimal digit in lower case. -/
def IsHexDigit (c : Char) : Prop := c.isDigit = true ∨ c ∈ ['a', 'b', 'c', 'd', 'e', 'f']

/-- The random text of the stamp is eight hexadecimal digits. -/
structure Stamp.IsHex (x : Stamp) : Prop where
  length : x.random.length = 8
  digits : ∀ c ∈ x.random.toList, IsHexDigit c

/-- The id for responses that a written survey item names. -/
def responseIdOf (v : Json) : Option String :=
  ((v.field? "meta").bind (·.field? "surveyResponseId")).bind Json.text?

/-! ## Taking an id apart -/

section Parts

variable {s t : String} {x y : Stamp}

theorem dash_not_mem_random (hx : x.IsHex) : '-' ∉ x.random.toList := by
  intro hmem
  rcases hx.digits _ hmem with hdigit | hletter
  · exact absurd hdigit (by decide)
  · exact absurd hletter (by decide)

theorem dash_not_mem_millis (n : Nat) : '-' ∉ (toString n).toList := by
  intro hmem
  have hdigits : '-' ∈ Nat.toDigits 10 n := by
    rw [← Nat.toList_repr]
    exact hmem
  exact absurd (Nat.isDigit_of_mem_toDigits (by decide) (by decide) hdigits) (by decide)

theorem eq_nil_of_dash_cons {bs es ds : List Char} (hb : '-' ∉ bs)
    (h : '-' :: bs = es ++ '-' :: ds) : es = [] := by
  cases es with
  | nil => rfl
  | cons e es =>
    have hbs : bs = es ++ '-' :: ds := (List.cons.inj h).2
    exact absurd (by simp [hbs]) hb

/-- What stands before the last of the dashes, and what stands behind it. -/
theorem append_dash_inj {as bs cs ds : List Char} (hb : '-' ∉ bs) (hd : '-' ∉ ds) :
    as ++ '-' :: bs = cs ++ '-' :: ds ↔ as = cs ∧ bs = ds := by
  constructor
  · intro h
    rcases List.append_eq_append_iff.1 h with ⟨es, rfl, hes⟩ | ⟨es, rfl, hes⟩
    · obtain rfl := eq_nil_of_dash_cons hb hes
      exact ⟨(List.append_nil as).symm, (List.cons.inj hes).2⟩
    · obtain rfl := eq_nil_of_dash_cons hd hes
      exact ⟨List.append_nil cs, (List.cons.inj hes).2.symm⟩
  · rintro ⟨rfl, rfl⟩
    rfl

theorem toList_responseId (s : String) (x : Stamp) : (responseId s x).toList =
    "resp-".toList ++ ((s.toList ++ '-' :: (toString x.millis).toList) ++
      '-' :: x.random.toList) := by
  simp [responseId]

/-- **An id tells the session, the milliseconds and the random digits.** -/
theorem responseId_inj (hx : x.IsHex) (hy : y.IsHex) :
    responseId s x = responseId t y ↔ s = t ∧ x = y := by
  obtain ⟨m, r⟩ := x
  obtain ⟨n, q⟩ := y
  rw [← String.toList_inj, toList_responseId, toList_responseId, List.append_cancel_left_eq,
    append_dash_inj (dash_not_mem_random hx) (dash_not_mem_random hy),
    append_dash_inj (dash_not_mem_millis m) (dash_not_mem_millis n)]
  simp only [String.toList_inj, Stamp.mk.injEq, and_assoc]
  have hmillis : toString m = toString n ↔ m = n := Nat.repr_inj
  rw [hmillis]

end Parts

/-! ## Surveys -/

/-- The item that is made for a session names the id that the session and the stamp give. -/
theorem exists_readSurveyItem (s : String) (x : Stamp) (title : String) (pages : List Page) :
    ∃ i, readSurveyItem (.text s) x (.text title) pages = .ok i ∧
      responseIdOf i.wire = some (responseId s x) :=
  ⟨item s x title pages, rfl, rfl⟩

/-- **Responses to the surveys of different sessions never carry the same id.**  An id tells the
    session, the milliseconds and the random digits that it is made of, and it is the id that the
    survey item names. -/
theorem response_ids_differ {s t : String} {x y : Stamp} (hx : x.IsHex) (hy : y.IsHex) :
    (responseId s x = responseId t y ↔ s = t ∧ x.millis = y.millis ∧ x.random = y.random) ∧
      ∀ title title' pages pages', ∃ i j,
        readSurveyItem (.text s) x (.text title) pages = .ok i ∧
        readSurveyItem (.text t) y (.text title') pages' = .ok j ∧
        responseIdOf i.wire = some (responseId s x) ∧
        responseIdOf j.wire = some (responseId t y) ∧
        (s ≠ t → responseIdOf i.wire ≠ responseIdOf j.wire) := by
  constructor
  · rw [responseId_inj hx hy]
    obtain ⟨m, r⟩ := x
    obtain ⟨n, q⟩ := y
    rw [Stamp.mk.injEq]
  · intro title title' pages pages'
    obtain ⟨i, hi, hid⟩ := exists_readSurveyItem s x title pages
    obtain ⟨j, hj, hjd⟩ := exists_readSurveyItem t y title' pages'
    refine ⟨i, j, hi, hj, hid, hjd, fun hne heq => ?_⟩
    rw [hid, hjd, Option.some.injEq, responseId_inj hx hy] at heq
    exact hne heq.1

/-- The session of one survey looks like an id for another one, made at the same instant. -/
theorem response_ids_differ_lookalike :
    Stamp.IsHex ⟨5, "89abcdef"⟩ ∧ Stamp.IsHex ⟨5, "00000000"⟩ ∧
      responseId "a-5-00000000" ⟨5, "89abcdef"⟩ ≠ responseId "a" ⟨5, "00000000"⟩ := by
  have hx : Stamp.IsHex ⟨5, "89abcdef"⟩ := ⟨rfl, by simp [IsHexDigit]⟩
  have hy : Stamp.IsHex ⟨5, "00000000"⟩ := ⟨rfl, by simp [IsHexDigit]⟩
  refine ⟨hx, hy, fun heq => ?_⟩
  have hsession := ((response_ids_differ hx hy).1.1 heq).1
  exact absurd hsession (by decide)

end ChatRelay.Survey

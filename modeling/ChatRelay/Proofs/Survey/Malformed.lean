/-
  Malformed questions.

  A question has the form of one if it is an object with a known kind and its other fields are
  as they have to be (`HasForm`).  Its answers may stand under `options`, and what does not
  list them there is passed over, except that nothing can be made of `true` and of a number
  other than zero: such a question is `Tangled`.

  * `read_cases`: a question that is not well formed is refused for its faults, and breaks off
    the reading just if it is tangled;
  * `surveyed_readPages`: so are the questions of a survey, as the first of them that is not
    well formed.
-/
import ChatRelay.Proofs.Schema.Fits
import ChatRelay.Proofs.Survey.Line

namespace ChatRelay.Survey

open Schema

/-! ## Forms -/

/-- The fields are those of a question. -/
structure HasForm (fs : Fields) : Prop where
  kind : (∃ k : QuestionKind, Json.get? fs "type" = some (.text k.name)) ∨
    Json.get? fs "type" = none ∧ ∃ k : QuestionKind, Json.get? fs "kind" = some (.text k.name)
  title : ∀ v, Json.get? fs "title" = some v → ∃ s, v = .text s
  required : ∀ v, Json.get? fs "required" = some v → ∃ b, asFlag v = .fits b
  choices : ∀ v, Json.get? fs "choices" = some v →
    ∃ vs, v = .array vs ∧ ∀ c ∈ vs, c.isObject = true

/-- Answers are to be listed in the value: in the field `option` of an object, or in what stands
    for it. -/
inductive Lists : Json → Json → Prop
  | inside {os : Fields} {v : Json} : Json.get? os "option" = some v → Lists (.object os) v
  | plain {v : Json} : v.isObject = false → Lists v v

/-- The value neither has elements nor counts as nothing. -/
inductive Unlistable : Json → Prop
  | flag : Unlistable (.bool true)
  | number {n : Number} : n.isZero = false → Unlistable (.number n)

/-- The question has its answers under `options`, in a value that cannot be gone through. -/
inductive Tangled : Json → Prop
  | mk {fs : Fields} {options v : Json} : Json.get? fs "choices" = none →
      Json.get? fs "options" = some options → Lists options v → Unlistable v →
      Tangled (.object fs)

/-- The question is not malformed. -/
structure WellFormed (q : Json) : Prop where
  form : ∃ fs, q = .object fs ∧ HasForm fs
  straight : ¬ Tangled q

/-! ## Unwrapping -/

section Unwrapping

variable {v q : Json} {fs : Fields}

theorem elementsOrNone?_eq_none_iff : v.elementsOrNone? = none ↔ Unlistable v := by
  constructor
  · intro h
    cases v with
    | null => cases h
    | bool b =>
      cases b with
      | false => cases h
      | true => exact .flag
    | number n =>
      cases hn : n.isZero with
      | false => exact .number hn
      | true => simp [Json.elementsOrNone?, Json.isTruthy, hn] at h
    | text s | array xs | object fs =>
      unfold Json.elementsOrNone? at h
      split at h <;> cases h
  · rintro (_ | hn)
    · rfl
    · simp [Json.elementsOrNone?, Json.isTruthy, hn, Json.elements?]

theorem authoredChoices?_of_lists {options : Json} (h : Lists options v) :
    authoredChoices? options = v.elementsOrNone?.map (List.filter Json.isObject) := by
  cases h with
  | inside hoption => simp only [authoredChoices?, hoption, Option.getD_some]
  | plain hplain =>
    cases v with
    | object os => cases hplain
    | _ => rfl

theorem authoredChoices?_eq_none_iff {options : Json} :
    authoredChoices? options = none ↔ ∃ v, Lists options v ∧ Unlistable v := by
  have hlisted : ∀ v, Lists options v → (authoredChoices? options = none ↔ Unlistable v) :=
    fun v hv => by
      rw [authoredChoices?_of_lists hv, Option.map_eq_none_iff, elementsOrNone?_eq_none_iff]
  constructor
  · intro h
    cases options with
    | object os =>
      cases ho : Json.get? os "option" with
      | none => simp [authoredChoices?, ho, Json.elementsOrNone?, Json.isTruthy] at h
      | some v => exact ⟨v, .inside ho, (hlisted v (.inside ho)).1 h⟩
    | _ => exact ⟨_, .plain rfl, (hlisted _ (.plain rfl)).1 h⟩
  · rintro ⟨v, hv, hun⟩
    exact (hlisted v hv).2 hun

theorem isObject_of_authoredChoices? {options : Json} {cs : List Json}
    (h : authoredChoices? options = some cs) : ∀ c ∈ cs, c.isObject = true := by
  obtain ⟨es, -, rfl⟩ := Option.map_eq_some_iff.1 h
  intro c hc
  exact (List.mem_filter.1 hc).2

/-- **A question cannot be unwrapped just if it is tangled.** -/
theorem unwrapped?_eq_none_iff : Question.unwrapped? q = none ↔ Tangled q := by
  constructor
  · intro h
    cases q with
    | object fs =>
      cases hchoices : Json.get? fs "choices" with
      | some cs => simp [Question.unwrapped?, hchoices] at h
      | none =>
        cases hoptions : Json.get? fs "options" with
        | none => simp [Question.unwrapped?, hchoices, hoptions] at h
        | some options =>
          simp only [Question.unwrapped?, hchoices, hoptions, Option.map_eq_none_iff] at h
          obtain ⟨v, hv, hun⟩ := authoredChoices?_eq_none_iff.1 h
          exact .mk hchoices hoptions hv hun
    | _ => cases h
  · rintro ⟨hchoices, hoptions, hv, hun⟩
    simp only [Question.unwrapped?, hchoices, hoptions, Option.map_eq_none_iff]
    exact authoredChoices?_eq_none_iff.2 ⟨_, hv, hun⟩

/-- The form depends on the fields of a question only. -/
theorem HasForm.of_same {gs : Fields} (h : HasForm fs)
    (hsame : ∀ name ∈ ["type", "kind", "title", "required"], Json.get? gs name = Json.get? fs name)
    (hchoices : ∀ v, Json.get? gs "choices" = some v →
      ∃ vs, v = .array vs ∧ ∀ c ∈ vs, c.isObject = true) : HasForm gs where
  kind := by
    rw [hsame "type" (by decide), hsame "kind" (by decide)]
    exact h.kind
  title := by
    rw [hsame "title" (by decide)]
    exact h.title
  required := by
    rw [hsame "required" (by decide)]
    exact h.required
  choices := hchoices

/-- Unwrapping changes a question only if its answers stand under `options` alone. -/
theorem unwrapped?_cases {u : Json} (h : Question.unwrapped? q = some u) :
    u = q ∨ ∃ fs options cs, q = .object fs ∧ Json.get? fs "choices" = none ∧
      Json.get? fs "options" = some options ∧ authoredChoices? options = some cs ∧
      u = .object (Json.put "choices" (.array cs) (Json.without "options" fs)) := by
  cases q with
  | object fs =>
    cases hchoices : Json.get? fs "choices" with
    | some cs =>
      simp only [Question.unwrapped?, hchoices] at h
      exact Or.inl (Option.some.inj h).symm
    | none =>
      cases hoptions : Json.get? fs "options" with
      | none =>
        simp only [Question.unwrapped?, hchoices, hoptions] at h
        exact Or.inl (Option.some.inj h).symm
      | some options =>
        simp only [Question.unwrapped?, hchoices, hoptions] at h
        obtain ⟨cs, hcs, rfl⟩ := Option.map_eq_some_iff.1 h
        exact Or.inr ⟨fs, options, cs, rfl, hchoices, hoptions, hcs, rfl⟩
  | _ => exact Or.inl (Option.some.inj h).symm

/-- Unwrapping keeps the form. -/
theorem hasForm_of_unwrapped? {u : Json} (h : Question.unwrapped? (.object fs) = some u) :
    ∃ us, u = .object us ∧ (HasForm us ↔ HasForm fs) := by
  rcases unwrapped?_cases h with rfl | ⟨fs', options, cs, hfs, hchoices, -, hcs, rfl⟩
  · exact ⟨fs, rfl, Iff.rfl⟩
  · cases hfs
    have hsame : ∀ name ∈ ["type", "kind", "title", "required"],
        Json.get? (Json.put "choices" (.array cs) (Json.without "options" fs)) name =
          Json.get? fs name := by
      intro name hname
      have hne : name ≠ "choices" ∧ name ≠ "options" := by
        constructor <;> rintro rfl <;> exact absurd hname (by decide)
      rw [Json.get?_put_of_ne hne.1, Json.get?_without, if_neg hne.2]
    refine ⟨_, rfl, fun hf => ?_, fun hf => ?_⟩
    · exact hf.of_same (fun name hname => (hsame name hname).symm) (by simp [hchoices])
    · refine hf.of_same hsame fun v hv => ?_
      rw [Json.get?_put] at hv
      cases hv
      exact ⟨cs, rfl, isObject_of_authoredChoices? hcs⟩

end Unwrapping

/-! ## Reading -/

section Reading

variable {q v : Json} {fs : Fields}

theorem asWord_kind_iff : (∃ k, asWord QuestionKind.names v = .fits k) ↔
    ∃ k : QuestionKind, v = .text k.name := by
  constructor
  · rintro ⟨k, hk⟩
    cases v with
    | text w =>
      cases hw : QuestionKind.names.lookup w with
      | none => simp [asWord, Json.text?, hw, Reading.fault] at hk
      | some k' =>
        have hnamed : ∀ entry ∈ QuestionKind.names, entry.1 = entry.2.name := by decide
        obtain ⟨before, after, hnames, -⟩ := List.lookup_eq_some_iff.1 hw
        exact ⟨k', congrArg _ (hnamed (w, k') (by rw [hnames]; simp))⟩
    | _ => cases hk
  · rintro ⟨k, rfl⟩
    exact ⟨k, by cases k <;> rfl⟩

theorem exists_kind_iff :
    (∃ k, field ["type", "kind"] (asWord QuestionKind.names) fs = .fits k) ↔
      (∃ k : QuestionKind, Json.get? fs "type" = some (.text k.name)) ∨
        Json.get? fs "type" = none ∧
          ∃ k : QuestionKind, Json.get? fs "kind" = some (.text k.name) := by
  unfold field named?
  cases htype : Json.get? fs "type" with
  | some v => simp [htype, under_eq_fits_iff, asWord_kind_iff]
  | none =>
    cases hkind : Json.get? fs "kind" with
    | some v => simp [htype, hkind, under_eq_fits_iff, asWord_kind_iff]
    | none => simp [htype, hkind]

/-- Anything is a text of an answer, so that every object is an answer. -/
theorem exists_answer_iff : (∃ c, Choice.check v = .fits c) ↔ v.isObject = true := by
  cases v with
  | object fs =>
    refine iff_of_true ?_ rfl
    change ∃ c, Choice.mk <$> fieldOr ["label"] "" answerPart fs <*>
      fieldOr ["value"] "" answerPart fs = .fits c
    rw [exists_seq_fits_iff, exists_map_fits_iff, exists_fieldOr_fits_iff, exists_fieldOr_fits_iff]
    exact ⟨fun _ _ => ⟨_, rfl⟩, fun _ _ => ⟨_, rfl⟩⟩
  | _ => exact iff_of_false (fun ⟨_, h⟩ => nomatch h) Bool.false_ne_true

/-- **A question fits just if it has the form of one.** -/
theorem exists_check_iff : (∃ x, Question.check (.object fs) = .fits x) ↔ HasForm fs := by
  change (∃ x, Question.mk <$> field ["type", "kind"] (asWord QuestionKind.names) fs
    <*> fieldOr ["title"] "" asText fs <*> fieldOr ["required"] false asFlag fs
    <*> fieldOr ["choices"] [] (asItems Choice.check) fs = .fits x) ↔ _
  simp only [exists_seq_fits_iff, exists_map_fits_iff, exists_kind_iff, exists_fieldOr_fits_iff,
    asText_eq_fits_iff, exists_asItems_fits_iff, exists_answer_iff]
  exact ⟨fun ⟨⟨⟨hkind, htitle⟩, hrequired⟩, hchoices⟩ => ⟨hkind, htitle, hrequired, hchoices⟩,
    fun h => ⟨⟨⟨h.kind, h.title⟩, h.required⟩, h.choices⟩⟩

/-- What fits once unwrapped is well formed. -/
theorem exists_check_unwrapped_iff {u : Json} (h : Question.unwrapped? q = some u) :
    (∃ x, Question.check u = .fits x) ↔ WellFormed q := by
  have hstraight : ¬ Tangled q := fun ht => by
    cases h.symm.trans (unwrapped?_eq_none_iff.2 ht)
  cases q with
  | object fs =>
    obtain ⟨us, rfl, hform⟩ := hasForm_of_unwrapped? h
    rw [exists_check_iff, hform]
    exact ⟨fun hf => ⟨⟨fs, rfl, hf⟩, hstraight⟩, fun ⟨⟨_, hfs, hf⟩, _⟩ => by cases hfs; exact hf⟩
  | _ =>
    -- what is no object is not a question, and stays as it is
    cases h
    refine iff_of_false ?_ ?_
    · rintro ⟨_, hx⟩
      cases hx
    · rintro ⟨⟨_, hfs, _⟩, _⟩
      cases hfs

/-- What reading a question ends in. -/
inductive ReadAs (q : Json) : Except Failure Question → Prop
  | question {x : Question} : WellFormed q → ReadAs q (.ok x)
  | faulty {faults : List Fault} : ¬ WellFormed q → ¬ Tangled q →
      ReadAs q (.error (.invalid faults))
  | tangled : Tangled q → ReadAs q (.error (.misused .sequence))

/-- **A malformed question is refused for its faults, unless it is tangled.** -/
theorem read_cases (q : Json) : ReadAs q (Question.read q) := by
  unfold Question.read
  cases hu : Question.unwrapped? q with
  | none => exact .tangled (unwrapped?_eq_none_iff.1 hu)
  | some u =>
    have hstraight : ¬ Tangled q := fun ht => by
      cases hu.symm.trans (unwrapped?_eq_none_iff.2 ht)
    have hiff := exists_check_unwrapped_iff hu
    dsimp only
    cases hc : Question.check u with
    | fits x => exact .question (hiff.1 ⟨x, hc⟩)
    | faulty faults =>
      refine .faulty (fun hq => ?_) hstraight
      obtain ⟨x, hx⟩ := hiff.2 hq
      cases hc.symm.trans hx

theorem exists_read_iff : (∃ x, Question.read q = .ok x) ↔ WellFormed q := by
  have h := read_cases q
  generalize Question.read q = r at h
  cases h with
  | question hq => exact iff_of_true ⟨_, rfl⟩ hq
  | faulty hq _ => exact iff_of_false (fun ⟨_, hx⟩ => nomatch hx) hq
  | tangled ht => exact iff_of_false (fun ⟨_, hx⟩ => nomatch hx) fun hq => hq.straight ht

end Reading

/-! ## Surveys -/

/-- The question is the first that is not well formed. -/
def FirstMalformed (questions : List Json) (q : Json) : Prop :=
  ∃ before after, questions = before ++ q :: after ∧ (∀ q' ∈ before, WellFormed q') ∧
    ¬ WellFormed q

/-- What comes of the questions of a survey. -/
inductive Surveyed (questions : List Json) : Except Failure (List Page) → Prop
  | pages {pages : List Page} : (∀ q ∈ questions, WellFormed q) → Surveyed questions (.ok pages)
  | faulty {q : Json} {faults : List Fault} : FirstMalformed questions q → ¬ Tangled q →
      Surveyed questions (.error (.invalid faults))
  | tangled {q : Json} : FirstMalformed questions q → Tangled q →
      Surveyed questions (.error (.misused .sequence))

section Pages

variable {questions : List Json}

theorem exists_firstMalformed {q : Json} (hq : q ∈ questions) (h : ¬ WellFormed q) :
    ∃ q', FirstMalformed questions q' := by
  induction questions with
  | nil => simp at hq
  | cons r rest ih =>
    by_cases hr : WellFormed r
    · have hrest : q ∈ rest := by
        rcases List.mem_cons.1 hq with rfl | hq
        · exact absurd hr h
        · exact hq
      obtain ⟨q', before, after, rfl, hbefore, hq'⟩ := ih hrest
      exact ⟨q', r :: before, after, rfl, List.forall_mem_cons.2 ⟨hr, hbefore⟩, hq'⟩
    · exact ⟨r, [], rest, rfl, by simp, hr⟩

/-- **A survey whose texts are texts has pages if its questions are well formed.**  Otherwise it is
    refused as the first of them that is not. -/
theorem surveyed_readPages (questions : List Json) (message : String)
    (description : Option String) :
    Surveyed questions (readPages questions (.text message) (Json.ofText? description)) := by
  rw [readPages_text]
  by_cases hall : ∀ q ∈ questions, WellFormed q
  · obtain ⟨qs, hqs⟩ := exists_mapM_ok fun q hq => exists_read_iff.2 (hall q hq)
    rw [hqs]
    exact .pages hall
  · obtain ⟨q, hq, hmalformed⟩ : ∃ q ∈ questions, ¬ WellFormed q := by simpa using hall
    obtain ⟨q, hfirst⟩ := exists_firstMalformed hq hmalformed
    obtain ⟨before, after, rfl, hbefore, hq⟩ := id hfirst
    have hread := read_cases q
    rcases hr : Question.read q with f | x
    · rw [mapM_of_first (fun q' hq' => exists_read_iff.2 (hbefore q' hq')) hr]
      rw [hr] at hread
      cases hread with
      | faulty _ hstraight => exact .faulty hfirst hstraight
      | tangled ht => exact .tangled hfirst ht
    · exact absurd (exists_read_iff.1 ⟨x, hr⟩) hq

end Pages

end ChatRelay.Survey

/-
  Malformed questions at the gateway.

  A request for a survey is refused for the faults of its questions, unless one of them is
  tangled: then the request ends in a server error.  It also does where the faults cannot be
  shown, which is only so if the body holds a number that is not finite, or has too many levels.

  * `isFinite_unwrapped?`, `isWithin_unwrapped?`: unwrapping brings no such number in and adds no
    level;
  * `faultsAnswer?_value`: the faults of a value that can be shown are answered;
  * `serve_malformed`: what the route ends in;
  * `malformed_questions`: what becomes of malformed questions, of a survey by itself and of a
    request for one.
-/
import ChatRelay.Json.Writer
import ChatRelay.Proofs.Envelope.Finite
import ChatRelay.Proofs.Gateway.Passage
import ChatRelay.Proofs.Gateway.Submitted
import ChatRelay.Proofs.Json.Levels
import ChatRelay.Proofs.Survey.Malformed

namespace ChatRelay

/-! ## Choices -/

section Choices

open Survey

variable {v q : Json} {n : Nat}

theorem isFinite_of_authoredChoices? (h : v.isFinite = true) {cs : List Json}
    (hcs : authoredChoices? v = some cs) : ∀ c ∈ cs, c.isFinite = true := by
  obtain ⟨es, hes, rfl⟩ := Option.map_eq_some_iff.1 hcs
  intro c hc
  have hc := List.mem_of_mem_filter hc
  cases v with
  | object os =>
    cases ho : Json.get? os "option" with
    | none =>
      simp only [ho, Option.getD_none] at hes
      cases hes
      simp at hc
    | some w =>
      simp only [ho, Option.getD_some] at hes
      exact isFinite_of_elementsOrNone? (isFinite_of_get? h ho) hes c hc
  | _ => exact isFinite_of_elementsOrNone? h hes c hc

/-- Unwrapping a question brings no number in that is not finite. -/
theorem isFinite_unwrapped? (h : q.isFinite = true) {u : Json}
    (hu : Question.unwrapped? q = some u) : u.isFinite = true := by
  rcases unwrapped?_cases hu with rfl | ⟨fs, options, cs, rfl, -, hoptions, hcs, rfl⟩
  · exact h
  · exact isFinite_put (isFinite_without h)
      (isFinite_array.2 (isFinite_of_authoredChoices? (isFinite_of_get? h hoptions) hcs))

/-- The objects among the elements of a value have no more levels together. -/
theorem isWithin_objects (h : v.isWithin n = true) {es : List Json}
    (hes : v.elementsOrNone? = some es) :
    (Json.array (es.filter Json.isObject)).isWithin n = true := by
  obtain ⟨m, rfl⟩ := Json.exists_of_isWithin h
  rw [Json.isWithin_array]
  intro e he
  obtain ⟨hmem, hobject⟩ := List.mem_filter.1 he
  unfold Json.elementsOrNone? at hes
  split at hes
  · cases v with
    | array xs =>
      cases hes
      exact Json.isWithin_array.1 h e hmem
    | object fs =>
      cases hes
      obtain ⟨f, -, rfl⟩ := List.mem_map.1 hmem
      cases hobject
    | text s =>
      cases hes
      obtain ⟨c, -, rfl⟩ := List.mem_map.1 hmem
      cases hobject
    | _ => cases hes
  · cases hes
    simp at hmem

theorem isWithin_authoredChoices? (h : v.isWithin n = true) {cs : List Json}
    (hcs : authoredChoices? v = some cs) : (Json.array cs).isWithin n = true := by
  obtain ⟨es, hes, rfl⟩ := Option.map_eq_some_iff.1 hcs
  cases v with
  | object os =>
    obtain ⟨m, rfl⟩ := Json.exists_of_isWithin h
    cases ho : Json.get? os "option" with
    | none =>
      simp only [ho, Option.getD_none] at hes
      cases hes
      rfl
    | some w =>
      simp only [ho, Option.getD_some] at hes
      exact Json.isWithin_succ _ m (isWithin_objects (Json.isWithin_of_get? h ho) hes)
  | _ => exact isWithin_objects h hes

/-- Unwrapping a question adds no level. -/
theorem isWithin_unwrapped? (h : q.isWithin n = true) {u : Json}
    (hu : Question.unwrapped? q = some u) : u.isWithin n = true := by
  obtain ⟨m, rfl⟩ := Json.exists_of_isWithin h
  rcases unwrapped?_cases hu with rfl | ⟨fs, options, cs, rfl, -, hoptions, hcs, rfl⟩
  · exact h
  · exact Json.isWithin_put (Json.isWithin_without h)
      (isWithin_authoredChoices? (Json.isWithin_of_get? h hoptions) hcs)

end Choices

namespace Gateway

open Schema Survey

/-! ## Values that can be shown -/

section Shown

variable {limits : Limits} {v : Json}

theorem canShow_iff : canShow limits v = true ↔
    v.isFinite = true ∧ v.isWithin limits.shown = true := Bool.and_eq_true_iff

/-- Null can be shown where anything can. -/
theorem canShow_null (h : canShow limits v = true) : canShow limits .null = true := by
  obtain ⟨m, hm⟩ := Json.exists_of_isWithin (canShow_iff.1 h).2
  exact canShow_iff.2 ⟨rfl, by rw [hm]; rfl⟩

theorem canShow_of_get? {fs : Fields} {name : String} (h : canShow limits (.object fs) = true)
    (hv : Json.get? fs name = some v) : canShow limits v = true := by
  obtain ⟨hfinite, hwithin⟩ := canShow_iff.1 h
  obtain ⟨m, hm⟩ := Json.exists_of_isWithin hwithin
  rw [hm] at hwithin
  refine canShow_iff.2 ⟨isFinite_of_get? hfinite hv, ?_⟩
  rw [hm]
  exact Json.isWithin_succ v m (Json.isWithin_of_get? hwithin hv)

theorem canShow_of_mem {vs : List Json} (h : canShow limits (.array vs) = true) (hv : v ∈ vs) :
    canShow limits v = true := by
  obtain ⟨hfinite, hwithin⟩ := canShow_iff.1 h
  obtain ⟨m, hm⟩ := Json.exists_of_isWithin hwithin
  rw [hm] at hwithin
  refine canShow_iff.2 ⟨isFinite_array.1 hfinite v hv, ?_⟩
  rw [hm]
  exact Json.isWithin_succ v m (Json.isWithin_array.1 hwithin v hv)

/-- Every part of a value that can be shown can be shown. -/
theorem canShow_partAt (h : canShow limits v = true) (path : List Schema.Step) :
    canShow limits (partAt v path) = true := by
  induction path generalizing v with
  | nil => exact h
  | cons s rest ih =>
    unfold partAt
    split
    · rename_i fs name
      cases hv : Json.get? fs name with
      | none => exact ih (canShow_null h)
      | some w => exact ih (canShow_of_get? h hv)
    · rename_i vs n
      rw [List.getD_eq_getElem?_getD]
      cases hv : vs[n]? with
      | none => exact ih (canShow_null h)
      | some w => exact ih (canShow_of_mem h (List.mem_of_getElem? hv))
    · exact h

/-- The faults of such a value can be shown. -/
theorem isShowable_of_canShow (h : canShow limits v = true) (f : Fault) :
    isShowable limits (.value v) f = true := by
  unfold isShowable
  split
  · rename_i hv _
    cases hv
    exact canShow_partAt h _
  · rename_i hv _
    cases hv
  · rfl

/-- Faults are answered, unless the body cannot be shown. -/
theorem faultsAnswer?_value (limits : Limits) (v : Json) (faults : List Fault) :
    (∃ response, faultsAnswer? limits (.value v) faults = some response ∧
      response.status = 422) ∨
    faultsAnswer? limits (.value v) faults = none ∧ canShow limits v = false := by
  unfold faultsAnswer?
  split
  · exact Or.inl ⟨_, rfl, rfl⟩
  · rename_i hshowable
    refine Or.inr ⟨rfl, Bool.eq_false_iff.2 fun h => hshowable ?_⟩
    exact List.all_eq_true.2 fun f _ => isShowable_of_canShow h f

end Shown

/-! ## Questions of a body -/

section Body

variable {fs : Fields} {qs : List Json}

theorem unwrappedBody?_eq (hqs : Json.get? fs "questions" = some (.array qs)) :
    unwrappedBody? (.object fs) = (qs.mapM Question.unwrapped?).map fun us =>
      .object (Json.put "questions" (.array us) fs) := by
  simp only [unwrappedBody?, unwrappedQuestions?, hqs, Option.map_map]
  rfl

/-- A body cannot be unwrapped just if one of its questions is tangled. -/
theorem unwrappedBody?_eq_none_iff (hqs : Json.get? fs "questions" = some (.array qs)) :
    unwrappedBody? (.object fs) = none ↔ ∃ q ∈ qs, Tangled q := by
  rw [unwrappedBody?_eq hqs, Option.map_eq_none_iff, mapM_eq_none_iff]
  simp only [unwrapped?_eq_none_iff]

/-- A body is unwrapped question by question. -/
theorem questions_of_unwrapped (hqs : Json.get? fs "questions" = some (.array qs)) {u : Json}
    (hu : unwrappedBody? (.object fs) = some u) :
    ∃ us, u = .object (Json.put "questions" (.array us) fs) ∧
      List.Forall₂ (fun q w => Question.unwrapped? q = some w) qs us := by
  rw [unwrappedBody?_eq hqs] at hu
  obtain ⟨us, hus, rfl⟩ := Option.map_eq_some_iff.1 hu
  exact ⟨us, rfl, mapM_eq_some_iff.1 hus⟩

/-- Unwrapping its questions does not keep a body from being shown. -/
theorem canShow_unwrappedBody {limits : Limits}
    (hqs : Json.get? fs "questions" = some (.array qs)) {us : List Json}
    (hus : List.Forall₂ (fun q w => Question.unwrapped? q = some w) qs us)
    (h : canShow limits (.object fs) = true) :
    canShow limits (.object (Json.put "questions" (.array us) fs)) = true := by
  obtain ⟨hfinite, hwithin⟩ := canShow_iff.1 h
  have hfinite' : (Json.array us).isFinite = true := by
    refine isFinite_array.2 fun w hw => ?_
    obtain ⟨q, hq, hu⟩ := exists_of_forall₂_right hus w hw
    exact isFinite_unwrapped? (isFinite_array.1 (isFinite_of_get? hfinite hqs) q hq) hu
  obtain ⟨n, hn⟩ := Json.exists_of_isWithin hwithin
  rw [hn] at hwithin
  have hquestions := Json.isWithin_of_get? hwithin hqs
  obtain ⟨m, rfl⟩ := Json.exists_of_isWithin hquestions
  have hwithin' : (Json.array us).isWithin (m + 1) = true := by
    refine Json.isWithin_array.2 fun w hw => ?_
    obtain ⟨q, hq, hu⟩ := exists_of_forall₂_right hus w hw
    exact isWithin_unwrapped? (Json.isWithin_array.1 hquestions q hq) hu
  refine canShow_iff.2 ⟨isFinite_put hfinite hfinite', ?_⟩
  rw [hn]
  exact Json.isWithin_put hwithin hwithin'

/-- A body that fits the form of surveys has well formed questions. -/
theorem wellFormed_of_fits {us : List Json} {b : BatchRequest}
    (hus : List.Forall₂ (fun q w => Question.unwrapped? q = some w) qs us)
    (hread : Submission.read (messageForm .survey)
      (.value (.object (Json.put "questions" (.array us) fs))) = .fits b) :
    ∀ q ∈ qs, WellFormed q := by
  have hown := own_of_batch (under_eq_fits_iff.1 hread)
  obtain ⟨_, _, h₁, -, -⟩ := seq_eq_fits_iff.1 hown
  obtain ⟨_, _, h₂, -, -⟩ := seq_eq_fits_iff.1 h₁
  obtain ⟨_, _, -, hquestions, -⟩ := seq_eq_fits_iff.1 h₂
  obtain ⟨vs, hvs, hfits⟩ := exists_asItems_fits_iff.1
    (exists_fieldOr_fits_iff.1 ⟨_, hquestions⟩ _ (Json.get?_put _ _ _))
  cases hvs
  intro q hq
  obtain ⟨u, hu, hunwrapped⟩ := exists_of_forall₂_left hus q hq
  exact (exists_check_unwrapped_iff hunwrapped).1 (hfits u hu)

end Body

/-! ## Requests -/

section Requests

variable {g : Gateway} {c : Conditions} {r : Request} {fs : Fields} {qs : List Json}

/-- **What a request for a survey ends in if one of its questions is malformed.** -/
theorem serve_malformed (hbody : r.submission c.limits = .ok (.value (.object fs)))
    (hqs : Json.get? fs "questions" = some (.array qs)) {q : Json} (hq : q ∈ qs)
    (hmalformed : ¬ WellFormed q) (h : History) :
    (∃ response, exec (Route.serve c r (.message .survey)) h = (.ok response, h) ∧
      response.status = 422 ∧ ∀ q ∈ qs, ¬ Tangled q) ∨
    exec (Route.serve c r (.message .survey)) h = (.error .crash, h) ∧
      ((∃ q ∈ qs, Tangled q) ∨ canShow c.limits (.object fs) = false) := by
  have hserve : Route.serve c r (.message .survey) =
      serveMessages c .survey (.value (.object fs)) := by
    simp only [Route.serve, serveSubmission, hbody]
  have hprepared : (Submission.value (.object fs)).prepared? .survey =
      (unwrappedBody? (.object fs)).map .value := rfl
  rw [hserve, serveMessages, hprepared]
  cases hu : unwrappedBody? (.object fs) with
  | none => exact Or.inr ⟨rfl, Or.inl ((unwrappedBody?_eq_none_iff hqs).1 hu)⟩
  | some u =>
    have hnone : ∀ q ∈ qs, ¬ Tangled q := fun t ht htangled => by
      cases hu.symm.trans ((unwrappedBody?_eq_none_iff hqs).2 ⟨t, ht, htangled⟩)
    obtain ⟨us, rfl, hus⟩ := questions_of_unwrapped hqs hu
    simp only [Option.map_some, serveForm]
    cases hread : Submission.read (messageForm .survey)
        (.value (.object (Json.put "questions" (.array us) fs))) with
    | fits b => exact absurd (wellFormed_of_fits hus hread q hq) hmalformed
    | faulty faults =>
      have hshows := faultsAnswer?_value c.limits (.object (Json.put "questions" (.array us) fs))
        faults
      rcases hshows with ⟨response, hanswer, hstatus⟩ | ⟨hanswer, hhidden⟩
      · exact Or.inl ⟨response, by simp only [hanswer]; rfl, hstatus, hnone⟩
      · refine Or.inr ⟨by simp only [hanswer]; rfl, Or.inr (Bool.eq_false_iff.2 fun hshown => ?_)⟩
        cases hhidden.symm.trans (canShow_unwrappedBody hqs hus hshown)

/-- **What becomes of malformed questions.**  A survey has pages if all its questions are well
    formed.  If not, the first that is malformed decides: it is refused for its faults, unless it
    is tangled, which is no fault but an error of its own.  A request for a survey with a malformed
    question does nothing but get counted.  If a question is tangled, it ends in a server error;
    if none is, it is answered with the faults, or else its body cannot be shown, for a number in it
    that is not finite or for its levels. -/
theorem malformed_questions (questions : List Json) :
    (∀ message description,
      Surveyed questions (readPages questions (.text message) (Json.ofText? description))) ∧
    ∀ {g c r fs}, r.method = "POST" → r.target.path = "/messages/survey" →
      isTooLarge c.settings r = .ok false → leavesNoTime g.timeLimit = false →
      r.submission c.limits = .ok (.value (.object fs)) →
      Json.get? fs "questions" = some (.array questions) →
      (∃ q ∈ questions, ¬ WellFormed q) → ∀ h, ∃ response,
        (handle g c r).run h = (response, { h with trace := h.trace ++
          [.count (.requested "POST" "/messages/survey" response.status)] }) ∧
        ((∃ q ∈ questions, Tangled q) → response = crashed) ∧
        ((∀ q ∈ questions, ¬ Tangled q) → response.status = 422 ∨
          response = crashed ∧ canShow c.limits (.object fs) = false) := by
  refine ⟨surveyed_readPages questions, ?_⟩
  rintro g c r fs hpost hpath hsize htime hbody hqs ⟨q, hq, hmalformed⟩ h
  have hfound : resolve r.method r.target.path = .found (.message .survey) := by
    rw [hpost, hpath]
    decide +kernel
  have hreaches : Reaches g c r (.message .survey) := ⟨hpost, hfound, hsize, htime⟩
  have hcounted : ∀ e, counted r (.message .survey) e h = { h with trace := h.trace ++
      [.count (.requested "POST" "/messages/survey" (countedStatus e))] } := fun e => by
    rw [counted, hpost]
    rfl
  rcases serve_malformed (c := c) hbody hqs hq hmalformed h with
    ⟨response, hserve, hstatus, hnone⟩ | ⟨hserve, hwhy⟩
  · refine ⟨answered g c r (.ok response), ?_, ?_, ?_⟩
    · rw [handle_of_reaches hreaches hserve, hcounted, countedStatus, status_answered]
    · exact fun ⟨t, ht, htangled⟩ => absurd htangled (hnone t ht)
    · exact fun _ => Or.inl ((status_answered response).trans hstatus)
  · refine ⟨crashed, ?_, fun _ => rfl, fun hnone => Or.inr ⟨rfl, ?_⟩⟩
    · rw [handle_of_reaches hreaches hserve, hcounted]
      rfl
    · exact hwhy.resolve_left fun ⟨t, ht, htangled⟩ => hnone t ht htangled

end Requests

/-- What is asked for with a survey of one question. -/
def surveyOf (question : Fields) : Fields :=
  [("title", .text "T"), ("questions", .array [.object question])]

/-- A request for such a survey. -/
def Request.survey (question : Fields) : Request where
  method := "POST"
  target := { path := "/messages/survey" }
  body := Text.Utf8.encode (Json.object (surveyOf question)).render

/-- A question of an unknown kind is refused, and nothing but the request is counted. -/
theorem unknown_kind_refused : ∃ response,
    (handle (.ofSettings {}) (.plain .busyOnce) (.survey [("type", .text "stars")])).run {} =
      (response, { trace := [.count (.requested "POST" "/messages/survey" 422)] }) ∧
    response.status = 422 := by
  have hread : Json.readBytes 970 (Request.survey [("type", .text "stars")]).body =
      .ok (.object (surveyOf [("type", .text "stars")])) := by decide +kernel
  have hbody : (Request.survey [("type", .text "stars")]).submission {} =
      .ok (.value (.object (surveyOf [("type", .text "stars")]))) := by
    unfold Request.submission
    rw [hread]
    rfl
  have hstraight : ¬ Tangled (.object [("type", .text "stars")]) := by
    rintro ⟨-, hoptions, -, -⟩
    cases hoptions
  have hmalformed : ¬ WellFormed (.object [("type", .text "stars")]) := by
    rintro ⟨⟨fs, hfs, hform⟩, -⟩
    cases hfs
    rcases hform.kind with ⟨k, hk⟩ | ⟨hnone, -⟩
    · cases k <;> exact absurd hk (by decide)
    · cases hnone
  obtain ⟨response, hhandle, -, hstatus⟩ := (malformed_questions
    [.object [("type", .text "stars")]]).2 (g := .ofSettings {}) (c := .plain .busyOnce) rfl rfl
    (by decide +kernel) (by decide +kernel) hbody rfl ⟨_, List.mem_singleton_self _, hmalformed⟩ {}
  have hrefused : response.status = 422 := by
    refine (hstatus fun q hq => ?_).resolve_right fun ⟨_, hhidden⟩ => absurd hhidden (by decide)
    cases List.mem_singleton.1 hq
    exact hstraight
  rw [hrefused] at hhandle
  exact ⟨response, hhandle, hrefused⟩

/-- Options that are a number are no fault of a question but end in an error, while choices that
    are one are a fault. -/
theorem tangled_question_crashes :
    readPages [.object [("type", .text "choice"), ("options", .int 5)]] (.text "") (.text "") =
      .error (.misused .sequence) ∧
    readPages [.object [("type", .text "choice"), ("choices", .int 5)]] (.text "") (.text "") =
      .error (.invalid [⟨[.key "choices"], .list⟩]) ∧
    ((handle (.ofSettings {}) (.plain .busyOnce)
      (.survey [("type", .text "choice"), ("options", .int 5)])).run {}).1.status = 500 := by
  refine ⟨rfl, rfl, by decide +kernel⟩

end Gateway

end ChatRelay

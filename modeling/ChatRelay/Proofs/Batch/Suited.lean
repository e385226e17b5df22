/-
  Parameters that suit a job.

  A job whose parameters are of the sorts it asks for (`MessageJob.Suits`) builds
  its message for every session.  The one thing that may stop it are flags with
  too many levels (`envelope_of_suits`).
-/
import ChatRelay.Proofs.Content.Refusal
import ChatRelay.Proofs.Envelope.Finite

namespace ChatRelay

/-- A text, or nothing. -/
def IsTextOrNull (v : Json) : Prop := v = .null ∨ ∃ s, v = .text s

/-- Every question can be read. -/
def QuestionInput.IsValid : QuestionInput → Prop
  | .raw v => ∃ vs, listed v = .ok vs ∧ ∀ q ∈ vs, ∃ q', Survey.Question.read q = .ok q'
  | .read _ => True

/-- The parameters are of the sorts that the job asks for.  Content is read leniently. -/
def MessageJob.Suits (ctx : Context) : MessageJob → Prop
  | .reply => ctx.policy = .lenient ∧ (∃ records, listed ctx.params.content = .ok records) ∧
      ∃ flags, ctx.params.flags.flags = .fits flags
  | .survey => ctx.params.questions.IsValid ∧ IsTextOrNull ctx.params.title ∧
      IsTextOrNull ctx.params.completionMessage ∧ IsTextOrNull ctx.params.completionDescription
  | .html => IsTextOrNull ctx.params.html
  | .escalation => IsTextOrNull ctx.params.text ∧ IsTextOrNull ctx.params.reason

/-- The flags of a reply have too many levels to be written. -/
def MessageJob.Overloads (limits : Limits) (ctx : Context) (m : MessageJob) : Prop :=
  m = .reply ∧ ∃ flags, ctx.params.flags.flags = .fits flags ∧ flags.isWritable limits = false

section Texts

variable {v : Json}

theorem exists_readText (h : IsTextOrNull v) : ∃ s, readText v = .ok s := by
  rcases h with rfl | ⟨s, rfl⟩
  · exact ⟨"", rfl⟩
  · unfold readText Json.textOrEmpty?
    cases (Json.text s).isTruthy
    · exact ⟨"", rfl⟩
    · exact ⟨s, rfl⟩

theorem exists_orEmpty (h : IsTextOrNull v) : ∃ s, orEmpty v = .text s := by
  rcases h with rfl | ⟨s, rfl⟩
  · exact ⟨"", rfl⟩
  · unfold orEmpty
    cases (Json.text s).isTruthy
    · exact ⟨"", rfl⟩
    · exact ⟨s, rfl⟩

end Texts

/-! ## The builders for a session that is a text -/

theorem htmlEnvelope_ok {html : Json} {s : String} (h : readText html = .ok s) (id : String) :
    htmlEnvelope (.text id) html = .ok (.ofHtml id s) := by
  rw [htmlEnvelope, h]
  rfl

theorem escalationEnvelope_ok {text reason : Json} {s : String} (h : readText text = .ok s)
    (hr : IsTextOrNull reason) (id : String) (limits : Limits) :
    escalationEnvelope (.text id) text reason limits = .ok (.ofEscalation id s reason) := by
  have hwritable : (Envelope.escalationMeta reason).isWritable limits = true := by
    obtain ⟨n, hn⟩ := Nat.exists_eq_add_one.2 limits.levels_pos
    unfold Meta.isWritable Envelope.escalationMeta
    rw [hn]
    rcases hr with rfl | ⟨t, rfl⟩
    · rfl
    · cases (Json.text t).isTruthy <;> rfl
  rw [escalationEnvelope, h]
  simp only [ok_bind, writeFlags, hwritable]
  rfl

theorem exists_pages {p : Params} (hq : p.questions.IsValid) (hm : IsTextOrNull p.completionMessage)
    (hd : IsTextOrNull p.completionDescription) : ∃ pages, p.pages = .ok pages := by
  obtain ⟨message, hm⟩ := exists_orEmpty hm
  obtain ⟨description, hd⟩ := exists_orEmpty hd
  unfold Params.pages
  cases hp : p.questions with
  | read qs =>
    rw [hm, hd]
    exact ⟨_, rfl⟩
  | raw v =>
    rw [hp] at hq
    obtain ⟨vs, hvs, hread⟩ := hq
    obtain ⟨qs, hqs⟩ := exists_mapM_ok hread
    rw [hm, hd]
    refine ⟨Survey.compile qs message (some description), ?_⟩
    simp only [hvs, ok_bind, Survey.readPages, hqs]
    rfl

/-! ## Jobs -/

/-- **A job with suitable parameters builds its message, unless its flags have too many
    levels.**  No number in the message keeps it from being written. -/
theorem envelope_of_suits {ctx : Context} {m : MessageJob} (h : m.Suits ctx) (c : Conditions)
    (id : String) :
    (¬ m.Overloads c.limits ctx ∧ ∃ e, m.envelope c ctx (.text id) = .ok e ∧ e.session = id ∧
      (Json.object e.wire).isFinite = true) ∨
    m.Overloads c.limits ctx ∧ m.envelope c ctx (.text id) = .error .tooManyLevels := by
  cases m with
  | html =>
    obtain ⟨s, hs⟩ := exists_readText h
    exact Or.inl ⟨by simp [MessageJob.Overloads], _, htmlEnvelope_ok hs id, rfl,
      isFinite_wire (hasFiniteFlags_ofHtml id s)⟩
  | escalation =>
    obtain ⟨s, hs⟩ := exists_readText h.1
    exact Or.inl ⟨by simp [MessageJob.Overloads], _, escalationEnvelope_ok hs h.2 id c.limits, rfl,
      isFinite_wire (hasFiniteFlags_ofEscalation id s _)⟩
  | survey =>
    obtain ⟨hq, ht, hm, hd⟩ := h
    obtain ⟨pages, hpages⟩ := exists_pages hq hm hd
    obtain ⟨title, ht⟩ := exists_orEmpty ht
    refine Or.inl ⟨by simp [MessageJob.Overloads], .ofSurvey id c.stamp title pages, ?_, rfl,
      isFinite_wire (hasFiniteFlags_ofSurvey id c.stamp title pages)⟩
    rw [MessageJob.envelope, hpages, ok_bind, ht]
    rfl
  | reply =>
    obtain ⟨hp, ⟨records, hr⟩, flags, hf⟩ := h
    obtain ⟨rs, hrs⟩ := Content.exists_ok_readAll records
    have hbundle : ctx.bundle records = .ok (Content.Bundle.ofResults rs) := by
      rw [Context.bundle, hp, hrs]
      rfl
    have henvelope : MessageJob.envelope c ctx (.text id) .reply = messageEnvelope (.text id)
        (Content.Bundle.ofResults rs) ctx.params.flags .null c.limits := by
      rw [MessageJob.envelope, hr, ok_bind, hbundle, ok_bind]
    cases hw : flags.isWritable c.limits with
    | true =>
      refine Or.inl ⟨?_, _, henvelope.trans (messageEnvelope_ok hf hw id _ none), rfl,
        isFinite_wire (hasFiniteFlags_ofBundle id _ flags none)⟩
      rintro ⟨-, flags', hf', hw'⟩
      rw [hf] at hf'
      cases hf'
      simp [hw] at hw'
    | false =>
      exact Or.inr ⟨⟨rfl, flags, hf, hw⟩,
        henvelope.trans (messageEnvelope_overloaded hf hw id _ none)⟩

end ChatRelay

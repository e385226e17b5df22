/-
  What the builders of messages build, the counting apart.

  `messageEnvelope` and the functions after it give the envelope that parameters
  make, or why they make none, and `MessageJob.envelope` the one of a job.
  `adds_build` says that the job builds this envelope and counts what its content
  leaves out and the message, whatever happened before.
-/
import ChatRelay.Batch
import ChatRelay.Proofs.Content.Reading
import ChatRelay.Proofs.Uniform

namespace ChatRelay

/-! ## Content -/

theorem exec_forIn_count (ks : List Count) (h : History) :
    exec (forIn (m := Relay) ks PUnit.unit fun k _ => do
      Relay.count k
      pure (ForInStep.yield PUnit.unit)) h =
      (.ok PUnit.unit, { h with trace := h.trace ++ ks.map .count }) := by
  induction ks generalizing h with
  | nil => simp
  | cons k ks ih =>
    have hk : exec (do Relay.count k; pure (ForInStep.yield PUnit.unit)) h =
        (.ok (.yield PUnit.unit), { h with trace := h.trace ++ [.count k] }) := rfl
    rw [List.forIn_cons, exec_bind_ok hk]
    refine (ih _).trans ?_
    simp

/-- Reading content adds the counts of what it leaves out. -/
theorem adds_ofContent {α : Type} (m : Content.Normalizing α) :
    Adds (Relay.ofContent m) ((exec m {}).1.mapError .content) 0
      ((Relay.dropCounts (exec m {}).2).map .count) := by
  -- the content is only read without anything left out before
  have hread : Relay.ofContent m = Relay.ofContent (ExceptT.mk fun _ => exec m {}) := rfl
  rw [hread]
  obtain ⟨r, d⟩ := exec m {}
  intro h
  refine (exec_bind_ok (exec_forIn_count (Relay.dropCounts d) h)).trans ?_
  cases r <;> rfl

/-- What is left out of content is counted with a reason. -/
theorem exists_of_mem_dropCounts {d : Content.Drops} {k : Count} (h : k ∈ Relay.dropCounts d) :
    ∃ reason n, k = .dropped reason n := by
  have hmem := List.mem_of_mem_filter h
  simp only [List.mem_cons, List.not_mem_nil, or_false] at hmem
  rcases hmem with rfl | rfl | rfl <;> exact ⟨_, _, rfl⟩

/-! ## Builders -/

/-- The message that carries content. -/
def messageEnvelope (session : Json) (b : Content.Bundle) (flags : MetaInput)
    (participant : Json) (limits : Limits) : Except Failure Envelope := do
  let flags ← writeFlags (← flags.flags.get) limits
  let (session, participant) ← (readParties session participant).get
  return .ofBundle session b flags participant

/-- The message that carries a survey. -/
def surveyEnvelope (c : Conditions) (session title : Json) (pages : List Survey.Page) :
    Except Failure Envelope := do
  let item ← readSurveyItem session c.stamp title pages
  let session ← (readSession session).get
  return .ofSurvey session c.stamp item.title pages

/-- The message that shows HTML. -/
def htmlEnvelope (session html : Json) : Except Failure Envelope := do
  let html ← readText html
  let session ← (readSession session).get
  return .ofHtml session html

/-- The message that asks for a live agent. -/
def escalationEnvelope (session text reason : Json) (limits : Limits) :
    Except Failure Envelope := do
  let text ← readText text
  let _ ← writeFlags (Envelope.escalationMeta reason) limits
  let session ← (readSession session).get
  return .ofEscalation session text reason

/-- The count of a message, if there is one. -/
def builtTrace : Except Failure Envelope → List Entry
  | .ok e => [.count (.built e.kind)]
  | .error _ => []

theorem adds_built (e : Envelope) : Adds (built e) (.ok e) 0 (builtTrace (.ok e)) := fun _ => rfl

/-- What is read and then counted. -/
theorem adds_bind_built {α : Type} {x : Relay α} {r : Except Failure α} {f : α → Relay Envelope}
    {g : α → Except Failure Envelope} (hx : Adds x r 0 [])
    (hf : ∀ a, Adds (f a) (g a) 0 (builtTrace (g a))) :
    Adds (x >>= f) (r >>= g) 0 (builtTrace (r >>= g)) := by
  cases r with
  | error e => exact hx.bind_error
  | ok a => exact hx.bind (hf a)

theorem adds_buildMessage (session : Json) (b : Content.Bundle) (flags : MetaInput)
    (participant : Json) (limits : Limits) : Adds (buildMessage session b flags participant limits)
      (messageEnvelope session b flags participant limits) 0
      (builtTrace (messageEnvelope session b flags participant limits)) :=
  adds_bind_built (adds_liftM _) fun _ => adds_bind_built (adds_liftM _) fun _ =>
    adds_bind_built (adds_liftM _) fun _ => adds_built _

theorem adds_buildSurvey (c : Conditions) (session title : Json) (pages : List Survey.Page) :
    Adds (buildSurvey c session title pages) (surveyEnvelope c session title pages) 0
      (builtTrace (surveyEnvelope c session title pages)) :=
  adds_bind_built (adds_liftM _) fun _ => adds_bind_built (adds_liftM _) fun _ => adds_built _

theorem adds_buildHtml (session html : Json) :
    Adds (buildHtml session html) (htmlEnvelope session html) 0
      (builtTrace (htmlEnvelope session html)) :=
  adds_bind_built (adds_liftM _) fun _ => adds_bind_built (adds_liftM _) fun _ => adds_built _

theorem adds_buildEscalation (session text reason : Json) (limits : Limits) :
    Adds (buildEscalation session text reason limits)
      (escalationEnvelope session text reason limits) 0
      (builtTrace (escalationEnvelope session text reason limits)) :=
  adds_bind_built (adds_liftM _) fun _ => adds_bind_built (adds_liftM _) fun _ =>
    adds_bind_built (adds_liftM _) fun _ => adds_built _

section Written

variable {flags : MetaInput} {m : Meta} {limits : Limits} (h : flags.flags = .fits m)

include h

/-- Content for a session that is a text is built if the flags can be written. -/
theorem messageEnvelope_ok (hm : m.isWritable limits = true) (id : String)
    (b : Content.Bundle) (participant : Option String) :
    messageEnvelope (.text id) b flags (.ofText? participant) limits =
      .ok (.ofBundle id b m.wire? participant) := by
  rw [messageEnvelope, h]
  simp only [Schema.Reading.get, ok_bind, writeFlags, hm]
  cases participant <;> rfl

theorem messageEnvelope_overloaded (hm : m.isWritable limits = false) (id : String)
    (b : Content.Bundle) (participant : Option String) :
    messageEnvelope (.text id) b flags (.ofText? participant) limits = .error .tooManyLevels := by
  rw [messageEnvelope, h]
  simp only [Schema.Reading.get, ok_bind, writeFlags, hm]
  rfl

end Written

/-! ## Jobs -/

open Content in
/-- The content of a reply. -/
def Context.bundle (ctx : Context) (records : List Json) : Except Failure Bundle :=
  ((readAll ctx.policy records).1.map Bundle.ofResults).mapError .content

/-- The message that a job builds for a session. -/
def MessageJob.envelope (c : Conditions) (ctx : Context) (session : Json) :
    MessageJob → Except Failure Envelope
  | .survey => do
    let pages ← ctx.params.pages
    surveyEnvelope c session (orEmpty ctx.params.title) pages
  | .html => htmlEnvelope session ctx.params.html
  | .escalation => escalationEnvelope session ctx.params.text ctx.params.reason c.limits
  | .reply => do
    let records ← listed ctx.params.content
    let bundle ← ctx.bundle records
    messageEnvelope session bundle ctx.params.flags .null c.limits

/-- The counts of what the content of a job leaves out. -/
def MessageJob.dropped (ctx : Context) : MessageJob → List Count
  | .reply => match listed ctx.params.content with
    | .ok records => Relay.dropCounts (Content.readAll ctx.policy records).2
    | .error _ => []
  | _ => []

theorem drops_zero_add (d : Content.Drops) : Content.Drops.add {} d = d := by
  simp [Content.Drops.add]

theorem adds_bundle (ctx : Context) (records : List Json) :
    Adds (Relay.ofContent (Content.Bundle.ofRecords ctx.policy records)) (ctx.bundle records) 0
      ((Relay.dropCounts (Content.readAll ctx.policy records).2).map .count) := by
  have h := adds_ofContent (Content.Bundle.ofRecords ctx.policy records)
  rw [Content.exec_ofRecords, drops_zero_add] at h
  exact h

/-- **A job builds its message and counts it, after what its content leaves out.** -/
theorem adds_build (c : Conditions) (ctx : Context) (session : Json) (m : MessageJob) :
    Adds (m.build c ctx session) (m.envelope c ctx session) 0
      ((m.dropped ctx).map .count ++ builtTrace (m.envelope c ctx session)) := by
  cases m with
  | survey => exact adds_bind_built (adds_liftM _) fun _ => adds_buildSurvey c session _ _
  | html => exact adds_buildHtml session _
  | escalation => exact adds_buildEscalation session _ _ c.limits
  | reply =>
    cases hl : listed ctx.params.content with
    | error f =>
      have henvelope : MessageJob.envelope c ctx session .reply = .error f := by
        rw [MessageJob.envelope, hl]
        rfl
      have hdropped : MessageJob.dropped ctx .reply = [] := by rw [MessageJob.dropped, hl]
      rw [henvelope, hdropped]
      exact adds_liftM_bind_error hl
    | ok records =>
      have hdropped : MessageJob.dropped ctx .reply =
          Relay.dropCounts (Content.readAll ctx.policy records).2 := by rw [MessageJob.dropped, hl]
      have hbundle := adds_bundle ctx records
      rw [hdropped]
      refine adds_liftM_bind_ok hl ?_
      cases hb : ctx.bundle records with
      | error f =>
        have henvelope : MessageJob.envelope c ctx session .reply = .error f := by
          rw [MessageJob.envelope, hl, ok_bind, hb]
          rfl
        rw [hb] at hbundle
        rw [henvelope, builtTrace, List.append_nil]
        exact hbundle.bind_error
      | ok b =>
        have henvelope : MessageJob.envelope c ctx session .reply =
            messageEnvelope session b ctx.params.flags .null c.limits := by
          rw [MessageJob.envelope, hl, ok_bind, hb, ok_bind]
        rw [hb] at hbundle
        rw [henvelope]
        exact hbundle.bind (f := fun b => buildMessage session b ctx.params.flags .null c.limits)
          (adds_buildMessage session b _ _ _)

end ChatRelay

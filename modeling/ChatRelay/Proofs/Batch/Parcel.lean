/-
  What the jobs of a batch send.

  A job puts up a parcel for a session: what is counted, and a body that is then delivered
  (`Job.parcel`).  Whether it does, and why not, is the same for every session
  (`isSettled_parcel`).  An item with a usable session is worked off by counting and
  delivering (`exec_run_of_parcel`), or fails before it sends anything (`exec_run_of_none`).
-/
import ChatRelay.Proofs.Batch.Item

namespace ChatRelay

/-- What is counted, and what is then delivered. -/
structure Parcel where
  counts : List Count
  path : String
  body : Json
  session : Json

/-- The message, after what was left out of it. -/
def Parcel.ofEnvelope (dropped : List Count) (e : Envelope) : Parcel where
  counts := dropped ++ [.built e.kind]
  path := messagePath
  body := .object e.wire
  session := .text e.session

/-- The request. -/
def Parcel.ofRequest (r : ControlRequest) : Parcel where
  counts := []
  path := statePath r.path
  body := .object r.body
  session := .text r.session

/-- What a job puts up for a session. -/
def Job.parcel (c : Conditions) (ctx : Context) (id : String) : Job → Except Failure Parcel
  | .message m => (m.envelope c ctx (.text id)).map (.ofEnvelope (m.dropped ctx))
  | .control => (ControlRequest.build ctx.params.operation (.text id) ctx.params.payload
      ctx.params.value c.limits).map .ofRequest

section Parcel

variable {c : Conditions} {ctx : Context} {id : String}

theorem parcel_of_envelope {m : MessageJob} {r : Except Failure Envelope}
    (h : m.envelope c ctx (.text id) = r) :
    Job.parcel c ctx id (.message m) = r.map (.ofEnvelope (m.dropped ctx)) := by
  rw [Job.parcel, h]

theorem parcel_of_request {r : Except Failure ControlRequest}
    (h : ControlRequest.build ctx.params.operation (.text id) ctx.params.payload
      ctx.params.value c.limits = r) : Job.parcel c ctx id .control = r.map .ofRequest := by
  rw [Job.parcel, h]

end Parcel

/-- The counts of what the content of a job leaves out. -/
def Job.dropped (ctx : Context) : Job → List Count
  | .message m => m.dropped ctx
  | .control => []

/-- The job goes on after such a failure of a delivery. -/
def Job.absorbs (ctx : Context) (f : Failure) : Job → Bool
  | .message _ => f.isUndelivered
  | .control => f.isUndelivered && ctx.continueOnFail

/-- The history with counts added. -/
def History.counting (h : History) (ks : List Count) : History :=
  { h with trace := h.trace ++ ks.map .count }

@[simp] theorem History.sent_counting (h : History) (ks : List Count) :
    (h.counting ks).sent = h.sent := rfl

@[simp] theorem History.trace_counting (h : History) (ks : List Count) :
    (h.counting ks).trace = h.trace ++ ks.map .count := rfl

/-! ## The same for every session -/

/-- Whether a session gets something, and why not, is the same for every session. -/
def IsSettled {α : Type} (make : String → Except Failure α) : Prop :=
  (∃ f, ∀ id, make id = .error f) ∨ ∀ id, ∃ a, make id = .ok a

section Settled

variable {α β : Type} {make : String → Except Failure α}

theorem isSettled_of_ok {a : String → α} (h : ∀ id, make id = .ok (a id)) : IsSettled make :=
  Or.inr fun id => ⟨a id, h id⟩

theorem IsSettled.bind {r : Except Failure β} {next : β → String → Except Failure α}
    (h : ∀ b, IsSettled (next b)) : IsSettled fun id => r >>= fun b => next b id := by
  cases r with
  | error f => exact Or.inl ⟨f, fun _ => rfl⟩
  | ok b => exact h b

theorem IsSettled.map (h : IsSettled make) (g : α → β) : IsSettled fun id => (make id).map g := by
  rcases h with ⟨f, hf⟩ | hall
  · exact Or.inl ⟨f, fun id => congrArg (Except.map g) (hf id)⟩
  · refine Or.inr fun id => ?_
    obtain ⟨a, ha⟩ := hall id
    exact ⟨g a, congrArg (Except.map g) ha⟩

/-- If one session gets nothing, then none does, for the same reason. -/
theorem IsSettled.error (h : IsSettled make) {id : String} {f : Failure} (hf : make id = .error f)
    (id' : String) : make id' = .error f := by
  rcases h with ⟨f', hall⟩ | hall
  · rw [hall id', ← hall id, hf]
  · obtain ⟨a, ha⟩ := hall id
    cases ha.symm.trans hf

end Settled

theorem isSettled_messageEnvelope (b : Content.Bundle) (flags : MetaInput) (limits : Limits) :
    IsSettled fun id => messageEnvelope (.text id) b flags .null limits :=
  .bind fun _ => .bind fun _ => isSettled_of_ok fun _ => rfl

theorem isSettled_surveyEnvelope (c : Conditions) (title : Json) (pages : List Survey.Page) :
    IsSettled fun id => surveyEnvelope c (.text id) title pages := by
  unfold surveyEnvelope readSurveyItem
  simp only [bind_assoc]
  exact .bind fun _ => isSettled_of_ok fun _ => rfl

theorem isSettled_htmlEnvelope (html : Json) :
    IsSettled fun id => htmlEnvelope (.text id) html :=
  .bind fun _ => isSettled_of_ok fun _ => rfl

theorem isSettled_escalationEnvelope (text reason : Json) (limits : Limits) :
    IsSettled fun id => escalationEnvelope (.text id) text reason limits :=
  .bind fun _ => .bind fun _ => isSettled_of_ok fun _ => rfl

theorem isSettled_build (operation payload value : Json) (limits : Limits) :
    IsSettled fun id => ControlRequest.build operation (.text id) payload value limits :=
  .bind fun _ => .bind fun _ => isSettled_of_ok fun _ => rfl

/-- **Whether a job puts up a parcel does not depend on the session.** -/
theorem isSettled_parcel (c : Conditions) (ctx : Context) (job : Job) :
    IsSettled fun id => job.parcel c ctx id := by
  cases job with
  | control => exact (isSettled_build _ _ _ _).map _
  | message m =>
    refine IsSettled.map ?_ _
    cases m with
    | survey => exact .bind fun pages => isSettled_surveyEnvelope c _ pages
    | html => exact isSettled_htmlEnvelope _
    | escalation => exact isSettled_escalationEnvelope _ _ _
    | reply => exact .bind fun _ => .bind fun b => isSettled_messageEnvelope b _ _

/-! ## No session failures -/

/-- The result is no failure that concerns a session. -/
def IsSessionless {α : Type} (r : Except Failure α) : Prop :=
  FailsOnly (fun f => f.isSessionFailure = false) r

theorem isSessionless_get {α : Type} (x : Schema.Reading α) : IsSessionless x.get := by
  cases x with
  | fits a => exact failsOnly_ok a
  | faulty fs => exact failsOnly_error rfl

theorem isSessionless_listed (v : Json) : IsSessionless (listed v) := by
  unfold listed
  split
  · exact failsOnly_ok _
  · exact failsOnly_error rfl

theorem isSessionless_readText (v : Json) : IsSessionless (readText v) := by
  unfold readText
  split
  · exact failsOnly_ok _
  · exact failsOnly_error rfl

theorem isSessionless_writeFlags (m : Meta) (limits : Limits) :
    IsSessionless (writeFlags m limits) := by
  unfold writeFlags
  split
  · exact failsOnly_ok _
  · exact failsOnly_error rfl

theorem isSessionless_question (v : Json) : IsSessionless (Survey.Question.read v) := by
  unfold Survey.Question.read
  split
  · exact failsOnly_error rfl
  · split
    · exact failsOnly_ok _
    · exact failsOnly_error rfl

theorem isSessionless_pages (p : Params) : IsSessionless p.pages := by
  unfold Params.pages
  split
  · refine (isSessionless_listed _).bind fun vs => ?_
    refine (failsOnly_mapM isSessionless_question vs).bind fun qs => ?_
    split
    · exact failsOnly_error rfl
    · exact failsOnly_ok _
  · exact (isSessionless_get _).bind fun _ => failsOnly_ok _

theorem isSessionless_envelope (c : Conditions) (ctx : Context) (id : String) (m : MessageJob) :
    IsSessionless (m.envelope c ctx (.text id)) := by
  cases m with
  | survey =>
    refine (isSessionless_pages _).bind fun pages => ?_
    refine FailsOnly.bind ?_ fun item => (isSessionless_get _).bind fun _ => failsOnly_ok _
    exact (isSessionless_get _).bind fun _ => failsOnly_ok _
  | html =>
    exact (isSessionless_readText _).bind fun _ => (isSessionless_get _).bind fun _ =>
      failsOnly_ok _
  | escalation =>
    exact (isSessionless_readText _).bind fun _ => (isSessionless_writeFlags _ _).bind fun _ =>
      (isSessionless_get _).bind fun _ => failsOnly_ok _
  | reply =>
    refine (isSessionless_listed _).bind fun records => ?_
    refine FailsOnly.bind ?_ fun b => ?_
    · unfold Context.bundle
      cases (Content.readAll ctx.policy records).1 with
      | ok rs => exact failsOnly_ok _
      | error e => exact failsOnly_error rfl
    · exact (isSessionless_get _).bind fun _ => (isSessionless_writeFlags _ _).bind fun _ =>
        (isSessionless_get _).bind fun _ => failsOnly_ok _

theorem isSessionless_parseObject (field v : Json) (limits : Limits) :
    IsSessionless (parseObject field v limits) := by
  unfold parseObject
  split
  · exact failsOnly_ok _
  · exact failsOnly_ok _
  · split
    · exact failsOnly_ok _
    · split
      · exact failsOnly_ok _
      all_goals exact failsOnly_error rfl
  · exact failsOnly_error rfl

theorem isSessionless_build (operation session payload value : Json) (limits : Limits) :
    IsSessionless (ControlRequest.build operation session payload value limits) := by
  refine FailsOnly.bind ?_ fun o => FailsOnly.bind ?_ fun payload =>
    (isSessionless_get _).bind fun _ => failsOnly_ok _
  · unfold Operation.read
    split
    · exact failsOnly_ok _
    · exact failsOnly_error rfl
  · have hpayload : IsSessionless (parseObjectLeniently (.text "payload") payload limits) := by
      unfold parseObjectLeniently
      split
      · exact failsOnly_ok []
      · exact isSessionless_parseObject _ _ _
    cases o with
    | email | datastore => exact hpayload.map _
    | _ => exact failsOnly_ok _

/-- **No parcel fails for its session**: what the parameters make of themselves is another matter
    than who it is for. -/
theorem isSessionless_parcel (c : Conditions) (ctx : Context) (id : String) (job : Job) :
    IsSessionless (job.parcel c ctx id) := by
  cases job with
  | control => exact (isSessionless_build _ _ _ _ _).map _
  | message m => exact (isSessionless_envelope c ctx id m).map _

/-! ## Working off an item -/

section Run

variable {c : Conditions} {ctx : Context} {job : Job} {item : Json} {h h' : History} {id : String}
  {f : Failure}

/-- A request is built, and then sent. -/
theorem exec_run_control (hid : ctx.resolveSession c.settings (recordOf item) = .ok id)
    {r : Except Failure ControlRequest} (hr : ControlRequest.build ctx.params.operation (.text id)
      ctx.params.payload ctx.params.value c.limits = r) :
    exec (Job.control.run c ctx (recordOf item)) h =
      exec (liftM r >>= fun q => sendRequest c ctx q) h := by
  subst hr
  unfold Job.run
  rw [hid]
  exact exec_bind_ok (exec_liftM _ h)

/-- Without a parcel, an item with a usable session fails, and only what its content leaves out is
    counted. -/
theorem exec_run_of_none (hid : ctx.resolveSession c.settings (recordOf item) = .ok id)
    (hp : job.parcel c ctx id = .error f) :
    exec (job.run c ctx (recordOf item)) h = (.error f, h.counting (job.dropped ctx)) := by
  cases job with
  | message m => exact exec_run_unbuilt hid (error_of_map hp)
  | control =>
    rw [exec_run_control hid (error_of_map hp), exec_bind_error (exec_liftM _ h)]
    simp [Job.dropped, History.counting]

/-- With a parcel, its body is delivered after its counts, and the item fails as the delivery does,
    unless the job goes on after that. -/
theorem exec_run_of_parcel {p : Parcel} {r : Except Failure Fields}
    (hid : ctx.resolveSession c.settings (recordOf item) = .ok id)
    (hp : job.parcel c ctx id = .ok p)
    (hd : exec (deliver c ctx.client p.path p.body p.session) (h.counting p.counts) = (r, h')) :
    ∃ r', exec (job.run c ctx (recordOf item)) h = (r', h') ∧
      ∀ f, r' = .error f ↔ r = .error f ∧ job.absorbs ctx f = false := by
  cases job with
  | message m =>
    obtain ⟨e, he, rfl⟩ := ok_of_map hp
    refine ⟨messageResult ctx e r, ?_, fun f => messageResult_error_iff⟩
    have hcount : h.counting (Parcel.ofEnvelope (m.dropped ctx) e).counts = { h with
        trace := h.trace ++ ((m.dropped ctx).map .count ++ [.count (.built e.kind)]) } := by
      simp [Parcel.ofEnvelope, History.counting]
    rw [hcount] at hd
    rw [exec_run_message hid he, exec_sendMessage]
    simp only [Parcel.ofEnvelope] at hd
    rw [hd]
    rfl
  | control =>
    obtain ⟨q, hq, rfl⟩ := ok_of_map hp
    refine ⟨requestResult ctx r, ?_, fun f => requestResult_error_iff⟩
    have hcount : h.counting (Parcel.ofRequest q).counts = h := by
      simp [Parcel.ofRequest, History.counting]
    rw [hcount] at hd
    rw [exec_run_control hid hq, exec_bind_ok (exec_liftM _ h), exec_sendRequest]
    simp only [Parcel.ofRequest] at hd
    rw [hd]
    rfl

end Run

end ChatRelay

/-
  What a request submits for a batch.

  A request submits a batch (`Submits`) if its path names a message, or a known operation, and
  what it carries fits the form of that.  Such a request finds its route (`resolve_of_submits`)
  and is answered by what is done with the batch (`serve_of_submits`), and the parameters of
  the batch have the form of its job (`isFormed_of_submits`).
-/
import ChatRelay.Gateway.Handle
import ChatRelay.Proofs.Batch.Formed
import ChatRelay.Proofs.Schema.Fits

namespace ChatRelay.Gateway

open Schema

/-- The request submits the batch to the route, for the job. -/
inductive Submits (limits : Limits) (r : Request) : Route → Job → BatchRequest → Prop
  | message {m : MessageJob} {s s' : Submission} {b : BatchRequest} :
      r.target.path = "/messages/" ++ messageWord m → r.submission limits = .ok s →
      s.prepared? m = some s' → s'.read (messageForm m) = .fits b →
      Submits limits r (.message m) (.message m) b
  | control {o : Operation} {s : Submission} {b : BatchRequest} :
      r.target.path = "/control/" ++ o.name → r.submission limits = .ok s →
      s.read (controlForm o.name) = .fits b → Submits limits r (.control o.name) .control b

/-! ## Forms -/

section Forms

variable {α : Type}

/-- A submission that fits is a value. -/
theorem value_of_read {form : Json → Reading α} {s : Submission} {a : α}
    (h : s.read form = .fits a) : ∃ v, form v = .fits a := by
  have hread := under_eq_fits_iff.1 h
  split at hread
  · cases hread
  · cases hread
  · exact ⟨_, hread⟩
  · cases hread

theorem fields_of_record {fields : Fields → Reading α} {v : Json} {a : α}
    (h : asRecord fields v = .fits a) : ∃ fs, fields fs = .fits a := by
  cases v with
  | object fs => exact ⟨fs, h⟩
  | _ => cases h

/-- The parameters of a batch are read from its own fields. -/
theorem own_of_batch {own : Reading (Option Policy × Params)} {fs : Fields} {b : BatchRequest}
    (h : batchOf own fs = .fits b) : own = .fits (b.policy, b.params) := by
  obtain ⟨_, own', h₁, hown, rfl⟩ := seq_eq_fits_iff.1 h
  obtain ⟨_, _, h₂, -, rfl⟩ := seq_eq_fits_iff.1 h₁
  obtain ⟨_, _, h₃, -, rfl⟩ := seq_eq_fits_iff.1 h₂
  obtain ⟨_, _, h₄, -, rfl⟩ := seq_eq_fits_iff.1 h₃
  obtain ⟨_, -, rfl⟩ := map_eq_fits_iff.1 h₄
  exact hown

theorem isTextOrNull_ofText (s : Option String) : IsTextOrNull (.ofText? s) := by
  cases s with
  | none => exact Or.inl rfl
  | some s => exact Or.inr ⟨s, rfl⟩

theorem optionalText_fits {name : String} {fs : Fields} {v : Json}
    (h : optionalText name fs = .fits v) : IsTextOrNull v := by
  obtain ⟨s, -, rfl⟩ := map_eq_fits_iff.1 h
  exact isTextOrNull_ofText s

end Forms

section Params

variable {ctx : Context} {fs : Fields} {own : Option Policy × Params}

/-- **The parameters of a message have its form.** -/
theorem isFormed_message {m : MessageJob} (h : messageParams m fs = .fits own)
    (hctx : ctx.params = own.2) : Job.IsFormed ctx (.message m) := by
  unfold Job.IsFormed MessageJob.Suits
  rw [hctx]
  cases m with
  | reply =>
    obtain ⟨_, _, h₁, -, rfl⟩ := seq_eq_fits_iff.1 h
    obtain ⟨_, flags, h₂, -, rfl⟩ := seq_eq_fits_iff.1 h₁
    obtain ⟨content, -, rfl⟩ := map_eq_fits_iff.1 h₂
    exact ⟨rfl, ⟨_, listed_array _⟩, flags, rfl⟩
  | survey =>
    obtain ⟨_, description, h₁, -, rfl⟩ := seq_eq_fits_iff.1 h
    obtain ⟨_, message, h₂, -, rfl⟩ := seq_eq_fits_iff.1 h₁
    obtain ⟨_, questions, h₃, -, rfl⟩ := seq_eq_fits_iff.1 h₂
    obtain ⟨title, -, rfl⟩ := map_eq_fits_iff.1 h₃
    exact ⟨trivial, Or.inr ⟨title, rfl⟩, Or.inr ⟨message, rfl⟩, Or.inr ⟨description, rfl⟩⟩
  | html =>
    obtain ⟨html, -, rfl⟩ := map_eq_fits_iff.1 h
    exact Or.inr ⟨html, rfl⟩
  | escalation =>
    obtain ⟨_, reason, h₁, hreason, rfl⟩ := seq_eq_fits_iff.1 h
    obtain ⟨text, htext, rfl⟩ := map_eq_fits_iff.1 h₁
    exact ⟨optionalText_fits htext, optionalText_fits hreason⟩

theorem isFormed_control {o : Operation} (h : controlParams o.name fs = .fits own)
    (hctx : ctx.params = own.2) : Job.IsFormed ctx .control := by
  obtain ⟨_, value, h₁, -, rfl⟩ := seq_eq_fits_iff.1 h
  obtain ⟨payload, -, rfl⟩ := map_eq_fits_iff.1 h₁
  exact ⟨o, by rw [hctx]⟩

end Params

/-! ## Requests -/

section Requests

variable {r : Request} {route : Route} {job : Job} {b : BatchRequest}

theorem isFormed_of_submits {limits : Limits} (h : Submits limits r route job b) (s : Settings) :
    job.IsFormed (b.context s) := by
  cases h with
  | message _ _ _ hread =>
    obtain ⟨v, hv⟩ := value_of_read hread
    obtain ⟨fs, hfs⟩ := fields_of_record hv
    exact isFormed_message (own_of_batch hfs) rfl
  | control _ _ hread =>
    obtain ⟨v, hv⟩ := value_of_read hread
    obtain ⟨fs, hfs⟩ := fields_of_record hv
    exact isFormed_control (own_of_batch hfs) rfl

/-- A request that submits a batch finds its route. -/
theorem resolve_of_submits {limits : Limits} (h : Submits limits r route job b) :
    resolve "POST" r.target.path = .found route := by
  cases h with
  | @message m _ _ _ hpath _ _ _ =>
    rw [hpath]
    cases m <;> decide +kernel
  | @control o _ _ hpath _ _ =>
    rw [hpath]
    cases o <;> decide +kernel

theorem readControl_eq (o : Operation) (s : Submission) :
    readControl o.name s = s.read (controlForm o.name) := by
  have hknown : asWord Operation.names (.text o.name) = .fits o := by
    cases o <;> rfl
  rw [readControl, hknown]
  cases s.read (controlForm o.name) <;> rfl

/-- **A request that submits a batch is answered by what is done with it.** -/
theorem serve_of_submits {c : Conditions} (h : Submits c.limits r route job b) :
    route.serve c r = Serving.ofRelay c.limits 3 (batchAnswer c job b) := by
  cases h with
  | message _ hs hprepared hread =>
    simp only [Route.serve, serveSubmission, hs, serveMessages, hprepared, serveForm, hread]
  | control _ hs hread =>
    simp only [Route.serve, serveSubmission, hs, serveForm, readControl_eq, hread]

end Requests

end ChatRelay.Gateway

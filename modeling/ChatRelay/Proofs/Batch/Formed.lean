/-
  Parameters that have their form.

  A request gives the parameters of a job in the form that the job asks for (`Job.IsFormed`).
  What may still keep the job from putting up a parcel is listed by `Job.Unfit`: the strict
  policy refuses the content of a reply, or its flags have too many levels, or the payload of
  a change of state is a text too large to be read.  Otherwise there is a parcel
  (`parcel_of_formed`).
-/
import ChatRelay.Proofs.Batch.Parcel
import ChatRelay.Proofs.Batch.Suited

namespace ChatRelay

/-! ## Forms -/

/-- The parameters have the form of the job; which policy content is read under does not matter. -/
def Job.IsFormed (ctx : Context) : Job → Prop
  | .message m => m.Suits { ctx with policy := .lenient }
  | .control => ∃ o : Operation, ctx.params.operation = .text o.name

/-- The strict policy refuses the content of a reply. -/
def Context.Refuses (ctx : Context) (e : Content.ContentError) : Prop :=
  ctx.policy = .strict ∧
    ∃ records, listed ctx.params.content = .ok records ∧ Content.FirstRefused records e

/-- The payload is a text of a document that is too large to be read: a number in it has too many
    digits, or its parts stand too deep inside one another. -/
inductive Oversized (limits : Limits) : Json → Failure → Prop
  | numeral {s : String} {e : NumeralError} : s ≠ "" →
      Json.read limits.payload s = .error (.numeral e) → Oversized limits (.text s) (.numeral e)
  | deep {s : String} : s ≠ "" → Json.read limits.payload s = .error .deep →
      Oversized limits (.text s) .tooDeep

/-- The payload is no text of a document that spells half of a character. -/
def IsWholePayload (limits : Limits) (v : Json) : Prop :=
  ∀ s, v = .text s → Json.read limits.payload s ≠ .error .half

/-- Why a job whose parameters have their form puts up no parcel. -/
inductive Job.Unfit (limits : Limits) (ctx : Context) : Job → Failure → Prop
  | refused {e : Content.ContentError} : ctx.Refuses e →
      Unfit limits ctx (.message .reply) (.content e)
  | overloaded {m : MessageJob} : m.Overloads limits ctx → (∀ e, ¬ ctx.Refuses e) →
      Unfit limits ctx (.message m) .tooManyLevels
  | oversized {o : Operation} {f : Failure} : ctx.params.operation = .text o.name →
      o = .email ∨ o = .datastore → Oversized limits ctx.params.payload f →
      Unfit limits ctx .control f

/-! ## Payloads -/

section Payloads

variable {limits : Limits}

/-- **A payload gives an object, unless it is too large.** -/
theorem parseObjectLeniently_cases {v : Json} (hwhole : IsWholePayload limits v) (field : Json) :
    (∃ fs, parseObjectLeniently field v limits = .ok fs) ∨
      ∃ f, parseObjectLeniently field v limits = .error f ∧ Oversized limits v f := by
  cases v with
  | text s =>
    by_cases hs : s = ""
    · subst hs
      exact Or.inl ⟨[], rfl⟩
    · have hempty : s.isEmpty = false := by simpa using hs
      unfold parseObjectLeniently parseObject
      simp only [hempty, Bool.false_eq_true, if_false]
      cases hread : Json.read limits.payload s with
      | ok w => cases w <;> exact Or.inl ⟨_, rfl⟩
      | error e =>
        cases e with
        | flawed flaw position => exact Or.inl ⟨[], rfl⟩
        | numeral e => exact Or.inr ⟨_, rfl, .numeral hs hread⟩
        | deep => exact Or.inr ⟨_, rfl, .deep hs hread⟩
        | half => exact absurd hread (hwhole s rfl)
  | _ => exact Or.inl ⟨_, rfl⟩

theorem parseObjectLeniently_of_oversized {v : Json} {f : Failure} (h : Oversized limits v f)
    (field : Json) : parseObjectLeniently field v limits = .error f := by
  cases h with
  | @numeral s e hs hread =>
    have hempty : s.isEmpty = false := by simpa using hs
    simp [parseObjectLeniently, parseObject, hempty, hread]
  | @deep s hs hread =>
    have hempty : s.isEmpty = false := by simpa using hs
    simp [parseObjectLeniently, parseObject, hempty, hread]

end Payloads

/-! ## Messages -/

section Messages

variable {c : Conditions} {ctx : Context} {m : MessageJob}

/-- Content that is not refused is read as under the lenient policy. -/
theorem bundle_of_not_refused {records : List Json} (hr : listed ctx.params.content = .ok records)
    (hnot : ∀ e, ¬ ctx.Refuses e) :
    ctx.bundle records = Context.bundle { ctx with policy := .lenient } records := by
  unfold Context.bundle
  cases hp : ctx.policy with
  | lenient => rfl
  | strict =>
    rw [Content.readAll_of_not_refused]
    intro r hmem e he
    obtain ⟨e', hfirst⟩ := Content.exists_firstRefused hmem he
    exact hnot e' ⟨hp, records, hr, hfirst⟩

theorem exists_bundle {records : List Json} (hr : listed ctx.params.content = .ok records)
    (hnot : ∀ e, ¬ ctx.Refuses e) : ∃ b, listed ctx.params.content >>= ctx.bundle = .ok b := by
  obtain ⟨rs, hrs⟩ := Content.exists_ok_readAll records
  refine ⟨Content.Bundle.ofResults rs, ?_⟩
  rw [hr, ok_bind, bundle_of_not_refused hr hnot, Context.bundle, hrs]
  rfl

/-- A message whose content is not refused is built as under the lenient policy. -/
theorem envelope_of_not_refused (session : Json) (hnot : m = .reply → ∀ e, ¬ ctx.Refuses e) :
    m.envelope c ctx session = m.envelope c { ctx with policy := .lenient } session := by
  cases m with
  | reply =>
    unfold MessageJob.envelope
    cases hr : listed ctx.params.content with
    | error f => rfl
    | ok records =>
      simp only [ok_bind]
      rw [bundle_of_not_refused hr (hnot rfl)]
  | _ => rfl

/-- Content that is refused makes no bundle. -/
theorem bundle_of_refused {e : Content.ContentError} (h : ctx.Refuses e) :
    listed ctx.params.content >>= ctx.bundle = .error (.content e) := by
  obtain ⟨hp, records, hr, hfirst⟩ := h
  rw [hr, ok_bind, Context.bundle, hp, Content.readAll_of_firstRefused hfirst]
  rfl

theorem envelope_of_refused {e : Content.ContentError} (h : ctx.Refuses e) (session : Json) :
    MessageJob.envelope c ctx session .reply = .error (.content e) := by
  rw [MessageJob.envelope, ← bind_assoc, bundle_of_refused h]
  rfl

end Messages

/-! ## Parcels -/

section Parcels

variable {ctx : Context} {job : Job}

/-- A message that is formed is built, unless it is unfit. -/
theorem envelope_of_formed {m : MessageJob} (hf : Job.IsFormed ctx (.message m)) (c : Conditions)
    (id : String) :
    (∃ f, Job.Unfit c.limits ctx (.message m) f ∧ m.envelope c ctx (.text id) = .error f) ∨
      (∀ f, ¬ Job.Unfit c.limits ctx (.message m) f) ∧
        ∃ e, m.envelope c ctx (.text id) = .ok e := by
  by_cases hrefused : m = .reply ∧ ∃ e, ctx.Refuses e
  · obtain ⟨rfl, e, he⟩ := hrefused
    exact Or.inl ⟨_, .refused he, envelope_of_refused he _⟩
  · have hnot : m = .reply → ∀ e, ¬ ctx.Refuses e := fun hm e he => hrefused ⟨hm, e, he⟩
    rw [envelope_of_not_refused (.text id) hnot]
    rcases envelope_of_suits hf c id with ⟨hlight, e, he, -⟩ | ⟨hover, he⟩
    · refine Or.inr ⟨?_, e, he⟩
      rintro f (⟨href⟩ | ⟨hover, -⟩)
      · exact hnot rfl _ href
      · exact hlight hover
    · exact Or.inl ⟨_, .overloaded hover (hnot hover.1), he⟩

theorem read_name (o : Operation) : Operation.read (.text o.name) = .ok o := by
  cases o <;> rfl

theorem build_of_read {operation : Json} {o : Operation} (ho : operation = .text o.name)
    (id : String) (payload value : Json) (limits : Limits) :
    ControlRequest.build operation (.text id) payload value limits =
      (ControlRequest.payloadFor o payload value limits).map fun p => ⟨o, id, p⟩ := by
  rw [ho, ControlRequest.build, read_name, ok_bind]
  cases ControlRequest.payloadFor o payload value limits <;> rfl

/-- **An operation has its payload, unless that is too large**: none, a flag, or the object that is
    given for a mail or for data. -/
theorem payloadFor_cases {limits : Limits} {payload : Json}
    (hwhole : IsWholePayload limits payload) (o : Operation) (value : Json) :
    (∃ p, ControlRequest.payloadFor o payload value limits = .ok p) ∨
    (o = .email ∨ o = .datastore) ∧
      ∃ f, ControlRequest.payloadFor o payload value limits = .error f ∧
        Oversized limits payload f := by
  have hgiven := parseObjectLeniently_cases hwhole (.text "payload")
  cases o with
  | email | datastore =>
    unfold ControlRequest.payloadFor
    rcases hgiven with ⟨fs, hfs⟩ | ⟨f, hf, hover⟩
    · exact Or.inl ⟨some fs, by rw [hfs]; rfl⟩
    · exact Or.inr ⟨by decide, f, by rw [hf]; rfl, hover⟩
  | _ => exact Or.inl ⟨_, rfl⟩

theorem name_inj {o o' : Operation} (h : o.name = o'.name) : o = o' := by
  revert h
  cases o <;> cases o' <;> decide

/-- An operation that is formed puts up a request, unless it is unfit. -/
theorem build_of_formed (hf : Job.IsFormed ctx .control) {limits : Limits}
    (hwhole : IsWholePayload limits ctx.params.payload) :
    (∃ f, Job.Unfit limits ctx .control f ∧ ∀ id, ControlRequest.build ctx.params.operation
      (.text id) ctx.params.payload ctx.params.value limits = .error f) ∨
    (∀ f, ¬ Job.Unfit limits ctx .control f) ∧ ∀ id, ∃ r, ControlRequest.build
      ctx.params.operation (.text id) ctx.params.payload ctx.params.value limits = .ok r := by
  obtain ⟨o, ho⟩ := hf
  rcases payloadFor_cases hwhole o ctx.params.value with ⟨p, hp⟩ | ⟨hsort, f, hp, hover⟩
  · refine Or.inr ⟨?_, fun id => ⟨_, by rw [build_of_read ho, hp]; rfl⟩⟩
    rintro f (- | - | ⟨ho', hsort, hover⟩)
    have heq : ControlRequest.payloadFor o ctx.params.payload ctx.params.value limits =
        (parseObjectLeniently (.text "payload") ctx.params.payload limits).map some := by
      obtain rfl : o = _ := name_inj (Json.text.inj (ho.symm.trans ho'))
      rcases hsort with rfl | rfl <;> rfl
    rw [heq, parseObjectLeniently_of_oversized hover] at hp
    cases hp
  · exact Or.inl ⟨f, .oversized ho hsort hover, fun id => by rw [build_of_read ho, hp]; rfl⟩

/-- **A job whose parameters have their form puts up a parcel, unless it is unfit.** -/
theorem parcel_of_formed (hf : job.IsFormed ctx) (c : Conditions)
    (hwhole : IsWholePayload c.limits ctx.params.payload) :
    (∃ f, job.Unfit c.limits ctx f ∧ ∀ id, job.parcel c ctx id = .error f) ∨
      (∀ f, ¬ job.Unfit c.limits ctx f) ∧ ∀ id, ∃ p, job.parcel c ctx id = .ok p := by
  cases job with
  | message m =>
    rcases envelope_of_formed hf c "" with ⟨f, h, he⟩ | ⟨hnot, -⟩
    · exact Or.inl ⟨f, h, (isSettled_parcel c ctx (.message m)).error (parcel_of_envelope he)⟩
    · refine Or.inr ⟨hnot, fun id => ?_⟩
      rcases envelope_of_formed hf c id with ⟨f, h, -⟩ | ⟨-, e, he⟩
      · exact absurd h (hnot f)
      · exact ⟨_, parcel_of_envelope he⟩
  | control =>
    rcases build_of_formed hf hwhole with ⟨f, h, hnone⟩ | ⟨hnot, hall⟩
    · exact Or.inl ⟨f, h, fun id => parcel_of_request (hnone id)⟩
    · refine Or.inr ⟨hnot, fun id => ?_⟩
      obtain ⟨r, hr⟩ := hall id
      exact ⟨_, parcel_of_request hr⟩

end Parcels

end ChatRelay

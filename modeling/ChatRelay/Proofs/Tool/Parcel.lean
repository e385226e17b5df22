/-
  What the tools send.

  A tool called for a session puts up a parcel: what is counted, and a body that is then
  delivered (`Tool.parcel`, `exec_perform`).  It does so whenever its arguments fit its
  form (`parcel_of_fits`).  The tool without a form does so unless its input cannot be read
  (`exists_error_iff_unreadable`).
-/
import ChatRelay.Proofs.Batch.Parcel
import ChatRelay.Proofs.Batch.Suited
import ChatRelay.Proofs.Tool.Form
import ChatRelay.Tool.Execute

namespace ChatRelay

namespace Tool

open Schema

/-- The form of the arguments, for a tool that has one. -/
def form? : Tool → Option Form
  | richContent => some richContentForm
  | html => some htmlForm
  | escalate => some escalationForm
  | requestAgent => none

/-- The input of a request for a live agent. -/
def inputOf (args : Json) : Json :=
  match args with
  | .object fs => argument fs "input"
  | v => v

/-- What a record of rich content is read into, and what is left out. -/
def content (fs : Fields) : Except Content.ContentError Content.Bundle × Content.Drops :=
  exec (Content.Bundle.ofRecords .lenient [.object fs]) {}

/-- What the tool puts up for a session. -/
def parcel (limits : Limits) (id : String) (args : Json) (t : Tool) : Except Failure Parcel := do
  match t with
  | richContent =>
    let fs ← (richContentForm.read args).get
    let bundle ← (content fs).1.mapError .content
    let e ← messageEnvelope (.text id) bundle (.raw .null) (.text Envelope.bot) limits
    return .ofEnvelope (Relay.dropCounts (content fs).2) e
  | html =>
    let fs ← (htmlForm.read args).get
    let e ← htmlEnvelope (.text id) (argument fs "html")
    return .ofEnvelope [] e
  | escalate =>
    let fs ← (escalationForm.read args).get
    let e ← escalationEnvelope (.text id) (argument fs "text") (argument fs "reason") limits
    return .ofEnvelope [] e
  | requestAgent =>
    let r ← datastoreEscalation (.text id) (inputOf args) limits
    return .ofRequest r

/-! ## When a tool puts up a parcel -/

section Forms

variable {args : Json} {form : Form} {fs : Fields}

theorem Form.isObject_of_read (h : form.read args = .fits fs) : ∃ as, args = .object as := by
  cases args with
  | object as => exact ⟨as, rfl⟩
  | _ => cases h

/-- A parameter that is a text gives a text, or nothing. -/
theorem isTextOrNull_of_takes {needed : Bool} {absent : Option String} {given w : Option Json}
    (h : Takes needed (Shape.text absent).read (Shape.text absent).absent given w) :
    IsTextOrNull (w.getD .null) := by
  have htext : ∀ {v x : Json}, (Shape.text absent).read v = .fits x → IsTextOrNull x := by
    intro v x hx
    obtain ⟨s, -, rfl⟩ := map_eq_fits_iff.1 hx
    exact Or.inr ⟨s, rfl⟩
  unfold Takes at h
  split at h
  · obtain ⟨v, x, -, hx, rfl⟩ := h
    exact htext hx
  · cases h with
    | absent =>
      cases absent with
      | none => exact Or.inl rfl
      | some s => exact Or.inr ⟨s, rfl⟩
    | null => exact Or.inl rfl
    | given _ hx => exact htext hx

theorem isTextOrNull_argument (h : form.read args = .fits fs)
    (hnames : (form.parameters.map (·.name)).Nodup) {p : Parameter} {absent : Option String}
    (hp : p ∈ form.parameters) (hshape : p.shape = .text absent) :
    IsTextOrNull (argument fs p.name) := by
  obtain ⟨as, rfl⟩ := Form.isObject_of_read h
  have htakes := get?_of_read h hnames hp
  rw [hshape] at htakes
  exact isTextOrNull_of_takes htakes

end Forms

section Parcels

variable {limits : Limits} {id : String} {args : Json} {fs : Fields} {t : Tool} {form : Form}

/-- Whatever the record, content is read from it. -/
theorem exists_content (fs : Fields) : ∃ b, (content fs).1 = .ok b := by
  obtain ⟨rs, hrs⟩ := Content.exists_ok_readAll [.object fs]
  refine ⟨Content.Bundle.ofResults rs, ?_⟩
  rw [content, Content.exec_ofRecords, hrs]
  rfl

/-- What rich content that fits makes. -/
theorem parcel_richContent {b : Content.Bundle} (hfs : richContentForm.read args = .fits fs)
    (hb : (content fs).1 = .ok b) : richContent.parcel limits id args =
      .ok (.ofEnvelope (Relay.dropCounts (content fs).2)
        (.ofBundle id b none (some Envelope.bot))) := by
  unfold parcel
  rw [hfs]
  change ((content fs).1.mapError Failure.content >>= fun b => _) = _
  rw [hb]
  rfl

/-- **Arguments that fit make a parcel.** -/
theorem parcel_of_fits (hform : t.form? = some form) (h : form.read args = .fits fs)
    (limits : Limits) (id : String) : ∃ p, t.parcel limits id args = .ok p := by
  cases t with
  | richContent =>
    cases hform
    obtain ⟨b, hb⟩ := exists_content fs
    exact ⟨_, parcel_richContent h hb⟩
  | html =>
    cases hform
    have hhtml : IsTextOrNull (argument fs "html") :=
      isTextOrNull_argument h (by decide) (List.mem_singleton_self _) rfl
    obtain ⟨s, hs⟩ := exists_readText hhtml
    unfold parcel
    rw [h]
    change ∃ p, (htmlEnvelope (.text id) (argument fs "html") >>= fun e => _) = .ok p
    rw [htmlEnvelope_ok hs]
    exact ⟨_, rfl⟩
  | escalate =>
    cases hform
    have hreason : IsTextOrNull (argument fs "reason") :=
      isTextOrNull_argument h (by decide) List.mem_cons_self rfl
    have htext : IsTextOrNull (argument fs "text") :=
      isTextOrNull_argument h (by decide) (List.mem_cons_of_mem _ (List.mem_singleton_self _)) rfl
    obtain ⟨s, hs⟩ := exists_readText htext
    unfold parcel
    rw [h]
    change ∃ p, (escalationEnvelope (.text id) (argument fs "text") (argument fs "reason")
      limits >>= fun e => _) = .ok p
    rw [escalationEnvelope_ok hs hreason]
    exact ⟨_, rfl⟩
  | requestAgent => cases hform

/-- Arguments that do not fit make none. -/
theorem parcel_of_faulty {faults : List Fault} (hform : t.form? = some form)
    (h : form.read args = .faulty faults) (limits : Limits) (id : String) :
    t.parcel limits id args = .error (.invalid faults) := by
  cases t with
  | requestAgent => cases hform
  | _ =>
    cases hform
    unfold parcel
    rw [h]
    rfl

/-- A parcel counts what is left out of its content, and its message. -/
theorem counts_of_parcel {p : Parcel} (h : t.parcel limits id args = .ok p) :
    ∀ k ∈ p.counts, (∃ reason n, k = .dropped reason n) ∨ ∃ kind, k = .built kind := by
  have hsplit : (∃ d e, p = .ofEnvelope (Relay.dropCounts d) e) ∨ ∃ r, p = .ofRequest r := by
    cases t with
    | richContent =>
      obtain ⟨fs, -, h⟩ := ok_of_bind h
      obtain ⟨b, -, h⟩ := ok_of_bind h
      obtain ⟨e, -, h⟩ := ok_of_bind h
      cases h
      exact Or.inl ⟨_, e, rfl⟩
    | html | escalate =>
      obtain ⟨fs, -, h⟩ := ok_of_bind h
      obtain ⟨e, -, h⟩ := ok_of_bind h
      cases h
      exact Or.inl ⟨{}, e, rfl⟩
    | requestAgent =>
      obtain ⟨r, -, h⟩ := ok_of_bind h
      cases h
      exact Or.inr ⟨r, rfl⟩
  rcases hsplit with ⟨d, e, rfl⟩ | ⟨r, rfl⟩
  · intro k hk
    rcases List.mem_append.1 hk with hk | hk
    · exact Or.inl (exists_of_mem_dropCounts hk)
    · exact Or.inr ⟨e.kind, List.mem_singleton.1 hk⟩
  · exact nofun

theorem filter_counts_of_parcel {p : Parcel} (hp : t.parcel limits id args = .ok p)
    {q : Entry → Bool} (hdropped : ∀ reason n, q (.count (.dropped reason n)) = false)
    (hbuilt : ∀ kind, q (.count (.built kind)) = false) :
    (p.counts.map Entry.count).filter q = [] := by
  rw [List.filter_eq_nil_iff]
  intro e he
  obtain ⟨k, hk, rfl⟩ := List.mem_map.1 he
  rcases counts_of_parcel hp k hk with ⟨reason, n, rfl⟩ | ⟨kind, rfl⟩ <;> simp [hdropped, hbuilt]

end Parcels

/-! ## Requests for a live agent -/

/-- The input of a request for a live agent cannot be read: it is no text, or it is the text of a
    document with too long an integer or too many levels. -/
inductive Unreadable (limits : Limits) : Json → Prop
  | notText {v : Json} : v.isTruthy = true → (∀ s, v ≠ .text s) → Unreadable limits v
  | numeral {s : String} {e : NumeralError} : (Text.trimBlank s).isEmpty = false →
      Json.read limits.reason s = .error (.numeral e) → Unreadable limits (.text s)
  | deep {s : String} : (Text.trimBlank s).isEmpty = false →
      Json.read limits.reason s = .error .deep → Unreadable limits (.text s)

/-- The input is no text of a document that spells half of a character. -/
def IsWholeInput (limits : Limits) (v : Json) : Prop :=
  ∀ s, v = .text s → Json.read limits.reason s ≠ .error .half

/-- The model is told of the failure. -/
def isReported : Failure → Bool
  | .invalid _ | .undelivered _ => true
  | _ => false

section Requests

variable {limits : Limits} {v : Json}

theorem isTruthy_of_not_blank {s : String} (h : (Text.trimBlank s).isEmpty = false) :
    (Json.text s).isTruthy = true := by
  by_contra hs
  have hempty : s = "" := by simpa [Json.isTruthy] using hs
  subst hempty
  exact absurd h (by decide)

/-- Why no reason is read, the model is not told. -/
theorem not_isReported_of_escalationReason :
    FailsOnly (fun f => isReported f = false) (escalationReason v limits) := by
  unfold escalationReason
  split
  · exact failsOnly_ok _
  · split
    · split
      · exact failsOnly_ok _
      · split
        all_goals first | exact failsOnly_ok _ | exact failsOnly_error rfl
    · exact failsOnly_error rfl

/-- **No reason is read just if the input cannot be read.** -/
theorem escalationReason_error_iff (hwhole : IsWholeInput limits v) :
    (∃ f, escalationReason v limits = .error f) ↔ Unreadable limits v := by
  constructor
  · rintro ⟨f, hf⟩
    have htruthy : v.isTruthy = true := by
      by_contra hv
      simp only [escalationReason, eq_false_of_ne_true hv, Bool.not_false, if_true] at hf
      cases hf
    by_cases htext : ∃ s, v = .text s
    · obtain ⟨s, rfl⟩ := htext
      have hblank : (Text.trimBlank s).isEmpty = false := by
        by_contra hblank
        simp only [escalationReason, htruthy, eq_true_of_ne_false hblank, Bool.not_true,
          Bool.false_eq_true, if_false, if_true] at hf
        cases hf
      simp only [escalationReason, htruthy, hblank, Bool.not_true, Bool.false_eq_true, if_false]
        at hf
      cases hread : Json.read limits.reason s with
      | ok w =>
        rw [hread] at hf
        cases w <;> cases hf
      | error e =>
        cases e with
        | flawed flaw position =>
          rw [hread] at hf
          cases hf
        | numeral e => exact .numeral hblank hread
        | deep => exact .deep hblank hread
        | half => exact absurd hread (hwhole s rfl)
    · exact .notText htruthy fun s hs => htext ⟨s, hs⟩
  · rintro (⟨htruthy, htext⟩ | ⟨hblank, hread⟩ | ⟨hblank, hread⟩)
    · refine ⟨.misused .trimmable, ?_⟩
      cases v with
      | text s => exact absurd rfl (htext s)
      | _ => simp [escalationReason, htruthy]
    · have htruthy := isTruthy_of_not_blank hblank
      simp only [escalationReason, htruthy, hblank, hread]
      exact ⟨_, rfl⟩
    · have htruthy := isTruthy_of_not_blank hblank
      simp only [escalationReason, htruthy, hblank, hread]
      exact ⟨_, rfl⟩

/-- A request whose reason is read makes a parcel, and another one none. -/
theorem parcel_requestAgent (limits : Limits) (id : String) (args : Json) :
    requestAgent.parcel limits id args = (escalationReason (inputOf args) limits).map fun reason =>
      .ofRequest ⟨.datastore, id,
        some [("liveAgentRequested", .bool true), ("escalationReason", .text reason)]⟩ := by
  unfold parcel datastoreEscalation
  cases escalationReason (inputOf args) limits <;> rfl

theorem exists_error_iff_unreadable {args : Json} (hwhole : IsWholeInput limits (inputOf args))
    (id : String) :
    (∃ f, requestAgent.parcel limits id args = .error f) ↔ Unreadable limits (inputOf args) := by
  rw [parcel_requestAgent, ← escalationReason_error_iff hwhole]
  cases escalationReason (inputOf args) limits <;> simp [Except.map]

theorem not_isReported_of_request (limits : Limits) (id : String) (args : Json) :
    FailsOnly (fun f => isReported f = false) (requestAgent.parcel limits id args) := by
  rw [parcel_requestAgent]
  exact not_isReported_of_escalationReason.map _

end Requests

end Tool

/-! ## Doing what a tool is for -/

/-- What delivering a parcel ends in, and the history it leaves. -/
def Parcel.outcome (c : Conditions) (client : Client) (h : History) (p : Parcel) :
    Except Failure Unit × History :=
  ((delivery c client p.path p.body h.sent).2.map fun _ => (), {
    sent := h.sent + deliverySent c client p.path p.body h.sent
    trace := h.trace ++ (p.counts.map .count ++
      deliveryTrace c client p.path p.body p.session h.sent) })

/-- What comes of a parcel, if there is one. -/
def Parcel.outcomeOf (c : Conditions) (client : Client) (h : History) :
    Except Failure Parcel → Except Failure Unit × History
  | .error f => (.error f, h)
  | .ok p => p.outcome c client h

/-- The body of a parcel is delivered after its counts. -/
theorem exec_dispatch (c : Conditions) (client : Client) (p : Parcel) (h : History) :
    exec (do let _ ← deliver c client p.path p.body p.session)
      { h with trace := h.trace ++ p.counts.map .count } = p.outcome c client h := by
  refine (exec_bind_pure (exec_deliver c client p.path p.body p.session _)).trans ?_
  rw [List.append_assoc]
  rfl

namespace Tool

/-- What is sent of what was read. -/
theorem exec_perform_message {r : Except Failure Fields} {build : Fields → Relay Envelope}
    (dropped : Fields → List Count) (envelope : Fields → Except Failure Envelope)
    (hbuild : ∀ fs, Adds (build fs) (envelope fs) 0
      ((dropped fs).map .count ++ builtTrace (envelope fs)))
    (hfail : ∀ fs f, envelope fs = .error f → dropped fs = []) (c : Conditions) (client : Client)
    (h : History) :
    exec (liftM r >>= fun fs => build fs >>= sendEnvelope c client) h =
      Parcel.outcomeOf c client h (do
        let fs ← r
        let e ← envelope fs
        return .ofEnvelope (dropped fs) e) := by
  cases r with
  | error f => rfl
  | ok fs =>
    refine (exec_bind_ok (exec_liftM _ h)).trans ?_
    have hb := hbuild fs
    cases he : envelope fs with
    | error f =>
      rw [he, hfail fs f he] at hb
      refine (hb.bind_error h).trans ?_
      simp [ok_bind, he, builtTrace, Parcel.outcomeOf]
    | ok e =>
      rw [he] at hb
      have hdispatch := exec_dispatch c client (.ofEnvelope (dropped fs) e) h
      simp only [Parcel.ofEnvelope, List.map_append] at hdispatch
      refine (exec_bind_ok (hb h)).trans (hdispatch.trans ?_)
      rw [ok_bind, he]
      rfl

/-- The message of rich content is built after what is left out of its record is counted. -/
theorem adds_richContent (limits : Limits) (id : String) (fs : Fields) : ∃ e,
    (do let b ← (content fs).1.mapError Failure.content
        messageEnvelope (.text id) b (.raw .null) (.text Envelope.bot) limits) = .ok e ∧
    Adds (do
        let b ← Relay.ofContent (Content.Bundle.ofRecords .lenient [.object fs])
        buildMessage (.text id) b (.raw .null) (.text Envelope.bot) limits)
      (.ok e) 0 ((Relay.dropCounts (content fs).2).map .count ++ builtTrace (.ok e)) := by
  obtain ⟨b, hb⟩ := exists_content fs
  refine ⟨.ofBundle id b none (some Envelope.bot), by rw [hb]; rfl, ?_⟩
  have hcontent := adds_ofContent (Content.Bundle.ofRecords .lenient [.object fs])
  change Adds _ ((content fs).1.mapError Failure.content) 0
    ((Relay.dropCounts (content fs).2).map .count) at hcontent
  rw [hb] at hcontent
  exact hcontent.bind
    (f := fun b => buildMessage (.text id) b (.raw .null) (.text Envelope.bot) limits)
    (adds_buildMessage (.text id) b _ _ _)

/-- **A tool puts up its parcel and delivers it**, or fails before it does anything. -/
theorem exec_perform (c : Conditions) (client : Client) (id : String) (args : Json) (t : Tool)
    (h : History) : exec (t.perform c client (.text id) args) h =
      Parcel.outcomeOf c client h (t.parcel c.limits id args) := by
  cases t with
  | richContent =>
    choose e he hadds using adds_richContent c.limits id
    have hperform := exec_perform_message (r := (richContentForm.read args).get)
      (fun fs => Relay.dropCounts (content fs).2) (fun fs => .ok (e fs)) hadds nofun c client h
    simp only [bind_assoc] at hperform
    have hparcel : (do
        let fs ← (richContentForm.read args).get
        let e ← (.ok (e fs) : Except Failure Envelope)
        return Parcel.ofEnvelope (Relay.dropCounts (content fs).2) e) =
        richContent.parcel c.limits id args := by
      refine bind_congr fun fs => ?_
      rw [← he fs, bind_assoc]
    rw [← hparcel]
    exact hperform
  | html =>
    exact exec_perform_message (fun _ => []) _
      (fun fs => adds_buildHtml (.text id) (argument fs "html")) (fun _ _ _ => rfl) c client h
  | escalate =>
    exact exec_perform_message (fun _ => []) _
      (fun fs => adds_buildEscalation (.text id) (argument fs "text") (argument fs "reason") _)
      (fun _ _ _ => rfl) c client h
  | requestAgent =>
    have hperform : requestAgent.perform c client (.text id) args =
        (liftM (datastoreEscalation (.text id) (inputOf args) c.limits) >>= fun r => do
          let _ ← deliver c client (statePath r.path) (.object r.body) (.text r.session)) := rfl
    have hparcel : requestAgent.parcel c.limits id args = (datastoreEscalation (.text id)
        (inputOf args) c.limits >>= fun r => .ok (.ofRequest r)) := rfl
    rw [hperform, hparcel]
    cases datastoreEscalation (.text id) (inputOf args) c.limits with
    | error f => rfl
    | ok r =>
      have hdispatch := exec_dispatch c client (.ofRequest r) h
      rw [Parcel.ofRequest, List.map_nil, List.append_nil] at hdispatch
      exact (exec_bind_ok (exec_liftM _ h)).trans hdispatch

end Tool

end ChatRelay

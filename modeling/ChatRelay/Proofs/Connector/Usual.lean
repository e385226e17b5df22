/-
  What the usual client makes of what the connector answers.

  The usual client replies with what the connector answers (`reply_usual`), or meets with an
  error in the exchange, or is led nowhere by an address, or does not send the call, for its
  address or its body (`mishap_usual`).  So what comes of posting a call is whole and orderly if
  the connector's outcomes are (`isWhole_usual`, `isOrderly_usual`, `isPunctual_usual`), and a
  mishap that is no error of an exchange lies in an address or in the body (`foreign_usual`).
-/
import ChatRelay.Proofs.Connector.Outcome

namespace ChatRelay

/-! ## Mishaps -/

/-- An error in the exchange with the connector. -/
def Mishap.IsBroken (m : Mishap) : Prop :=
  ∃ i, m = .incident i ∧ (i.sort = .transport ∨ i.sort = .exchange)

/-- An address leads nowhere: it is none, or its host has no name, or it names no host. -/
inductive Mishap.IsLost : Mishap → Prop
  | address (flaw : Url.Flaw) : IsLost (.address flaw)
  | host (flaw : Host.Flaw) : IsLost (.host flaw)
  | hostless (target : String) : IsLost (.hostless target)

/-- What an answer may come to instead of its content. -/
inductive Mishap.OfAnswer (m : Mishap) : Prop
  | broken : m.IsBroken → OfAnswer m
  | lost : m.IsLost → OfAnswer m

/-- The body cannot be written: a number in it is not finite, or its parts stand too deep inside one
    another. -/
inductive Mishap.IsUnwritten (depth : Nat) (body : Json) : Mishap → Prop
  | unencodable : body.isFinite = false → IsUnwritten depth body .unencodable
  | tooDeep : body.nestsWithin depth = false → IsUnwritten depth body .tooDeep

/-- The mishap neither tells of an answer nor did a time run out. -/
def Mishap.IsPlain (m : Mishap) : Prop := m.verdict? = none ∧ m.failure.isTimeout = false

namespace Mishap

variable {m : Mishap}

theorem IsBroken.isPlain (h : m.IsBroken) : m.IsPlain := by
  obtain ⟨⟨name, sort, message⟩, rfl, h | h⟩ := h <;> cases h <;> exact ⟨rfl, rfl⟩

theorem IsBroken.isHttp (h : m.IsBroken) : m.isHttp = true := by
  obtain ⟨⟨name, sort, message⟩, rfl, h | h⟩ := h <;> cases h <;> rfl

theorem IsLost.isPlain (h : m.IsLost) : m.IsPlain := by
  cases h <;> exact ⟨rfl, rfl⟩

theorem IsUnwritten.isPlain {depth : Nat} {body : Json} (h : m.IsUnwritten depth body) :
    m.IsPlain := by
  cases h <;> exact ⟨rfl, rfl⟩

end Mishap

/-! ## Outcomes -/

/-- An answer that says in ASCII digits when to come back, if it says so at all, or an
    error in the exchange with the connector. -/
def Outcome.IsOrderly : Outcome → Prop
  | .answer a => ∀ v ∈ a.header? "retry-after", IsDigits v.toList
  | .error i => i.sort = .transport ∨ i.sort = .exchange

/-- The connector is orderly at every attempt. -/
def Connector.IsOrderly (k : Connector) : Prop := ∀ n call, (k n call).IsOrderly

/-- If it is an answer, its content is no document that spells half of a character. -/
def Outcome.IsWhole (depth : Nat) : Outcome → Prop
  | .answer a => ∀ content, Http.decoded a = .ok content →
      Json.readBytes depth content ≠ .error (.unread .half)
  | .error _ => True

/-- What the connector answers is whole at every attempt. -/
def Connector.IsWhole (depth : Nat) (k : Connector) : Prop := ∀ n call, (k n call).IsWhole depth

section Usual

variable {c : Conditions} {limits : Limits}

/-- A call that is not sent has no address, or a body that cannot be written. -/
theorem kept_of_refusal {depth : Nat} {url : String} {body : Json} {m : Mishap}
    (h : Http.refusal? depth url body = some m) : m.IsLost ∨ m.IsUnwritten depth body := by
  unfold Http.refusal? at h
  split at h
  · cases h
    exact Or.inl (.address _)
  · split at h
    · rename_i hinfinite
      cases h
      exact Or.inr (.unencodable (by simpa using hinfinite))
    · split at h
      · rename_i hdeep
        cases h
        exact Or.inr (.tooDeep (by simpa using hdeep))
      · split at h
        · cases h
          exact Or.inl (.host _)
        · cases h

theorem checkLocation_fails (url : Url) (location : String) :
    FailsOnly Mishap.OfAnswer (Http.checkLocation url location) := by
  unfold Http.checkLocation
  split
  · exact failsOnly_ok ()
  · exact failsOnly_error (.broken ⟨_, rfl, Or.inl rfl⟩)
  · exact failsOnly_error (.lost (.address _))
  · exact failsOnly_error (.lost (.host _))

/-- An answer is kept back for an error in the exchange, or because it leads nowhere. -/
theorem content_fails (url : Url) (a : Answer) :
    FailsOnly Mishap.OfAnswer (Http.content url a) := by
  have hdecoded : FailsOnly Mishap.OfAnswer (Http.decoded a) :=
    failsOnly_mapError (fun flaw => .broken ⟨_, rfl, Or.inr rfl⟩) _
  refine hdecoded.bind fun content => ?_
  cases url.isAbsolute with
  | false =>
    have hhostless : ∀ target, (Mishap.hostless target).OfAnswer :=
      fun target => .lost (.hostless target)
    exact failsOnly_error (hhostless _)
  | true =>
    cases Http.isRedirect a.status with
    | false => exact failsOnly_ok content
    | true =>
      cases a.header? "location" with
      | none => exact failsOnly_ok content
      | some location =>
        exact (checkLocation_fails url location).bind fun _ => failsOnly_ok content

theorem decoded_of_content {url : Url} {a : Answer} {content : List UInt8}
    (h : Http.content url a = .ok content) : Http.decoded a = .ok content := by
  unfold Http.content at h
  obtain ⟨decoded, hdecoded, h⟩ := ok_of_bind h
  rw [hdecoded]
  cases habsolute : url.isAbsolute with
  | false =>
    rw [habsolute] at h
    cases h
  | true =>
    rw [habsolute] at h
    cases hredirect : Http.isRedirect a.status with
    | false =>
      rw [hredirect] at h
      exact h
    | true =>
      rw [hredirect] at h
      cases hlocation : a.header? "location" with
      | none =>
        rw [hlocation] at h
        exact h
      | some location =>
        rw [hlocation] at h
        obtain ⟨_, -, hcontent⟩ := ok_of_bind h
        exact hcontent

theorem isPlain_fields (depth : Nat) (a : Answer) (content : List UInt8) :
    FailsOnly Mishap.IsPlain (Http.reply depth a content).fields := by
  have hdocument : FailsOnly Mishap.IsPlain (Http.document? depth content) := by
    unfold Http.document?
    split
    · exact failsOnly_ok _
    · exact failsOnly_error ⟨rfl, rfl⟩
    · exact failsOnly_error ⟨rfl, rfl⟩
    · exact failsOnly_ok _
  unfold Reply.fields
  split
  · exact failsOnly_ok []
  · refine hdocument.bind fun v => ?_
    split
    · exact failsOnly_ok _
    · exact failsOnly_ok _
    · exact (failsOnly_mapError (fun refusal => ⟨rfl, rfl⟩) _).bind fun s => failsOnly_ok _

theorem half_of_document {depth : Nat} {content : List UInt8}
    (h : Http.document? depth content = .error (.incident .half)) :
    Json.readBytes depth content = .error (.unread .half) := by
  unfold Http.document? at h
  split at h
  · cases h
  · cases h
  · assumption
  · cases h

/-- An answer comes to one that was read, or to a mishap. -/
theorem receive_cases (depth : Nat) (url : String) (a : Answer) :
    (∃ content, Http.receive depth url a = .reply (Http.reply depth a content) ∧
      Http.decoded a = .ok content) ∨
      ∃ m, Http.receive depth url a = .mishap m ∧ m.OfAnswer := by
  have hfails : FailsOnly Mishap.OfAnswer
      (((Url.parse url).mapError Mishap.address).bind fun u => Http.content u a) :=
    (failsOnly_mapError (fun flaw => .lost (.address flaw)) _).bind fun u => content_fails u a
  unfold Http.receive
  split
  · rename_i content hcontent
    obtain ⟨u, -, hu⟩ := ok_of_bind hcontent
    exact Or.inl ⟨content, rfl, decoded_of_content hu⟩
  · rename_i m hm
    exact Or.inr ⟨m, rfl, hfails m hm⟩

/-- What comes of posting a call: it is refused, or the connector fails, or its answer is taken. -/
theorem posted_cases (hc : c.http = .usual limits) (call : Call) (sent : Nat) :
    (∃ m, Http.refusal? limits.call call.url call.body = some m ∧
      c.posted call sent = .mishap m) ∨
    (∃ i, c.connector sent call = .error i ∧ c.posted call sent = .mishap (.incident i)) ∨
    ∃ a, c.connector sent call = .answer a ∧
      c.posted call sent = Http.receive limits.reply call.url a := by
  unfold Conditions.posted
  rw [hc]
  cases hr : (HttpClient.usual limits).refusal? call.url call.body with
  | some m => exact Or.inl ⟨m, hr, rfl⟩
  | none =>
    dsimp only
    cases hout : c.connector sent call with
    | error i => exact Or.inr (Or.inl ⟨i, rfl, rfl⟩)
    | answer a => exact Or.inr (Or.inr ⟨a, rfl, rfl⟩)

/-- A reply of the usual client is an answer of the connector that was read. -/
theorem reply_usual (hc : c.http = .usual limits) {call : Call} {sent : Nat} {r : Reply}
    (h : c.posted call sent = .reply r) : ∃ a content, c.connector sent call = .answer a ∧
      Http.decoded a = .ok content ∧ r = Http.reply limits.reply a content := by
  rcases posted_cases hc call sent with ⟨m, -, hm⟩ | ⟨i, -, hi⟩ | ⟨a, hout, ha⟩
  · cases h.symm.trans hm
  · cases h.symm.trans hi
  · rcases receive_cases limits.reply call.url a with ⟨content, hcontent, hdecoded⟩ | ⟨m, hm, -⟩
    · cases h.symm.trans (ha.trans hcontent)
      exact ⟨a, content, hout, hdecoded, rfl⟩
    · cases h.symm.trans (ha.trans hm)

/-- **A mishap of the usual client**, if the connector's outcomes are orderly: an error in the
    exchange, or an address that leads nowhere, or a body that cannot be written. -/
theorem mishap_usual (hc : c.http = .usual limits) (ho : c.connector.IsOrderly) {call : Call}
    {sent : Nat} {m : Mishap} (h : c.posted call sent = .mishap m) :
    m.IsBroken ∨ m.IsLost ∨ m.IsUnwritten limits.call call.body := by
  rcases posted_cases hc call sent with ⟨m', hrefused, hm⟩ | ⟨i, hout, hi⟩ | ⟨a, -, ha⟩
  · cases h.symm.trans hm
    exact Or.inr (kept_of_refusal hrefused)
  · cases h.symm.trans hi
    have horderly := ho sent call
    rw [hout] at horderly
    exact Or.inl ⟨i, rfl, horderly⟩
  · rcases receive_cases limits.reply call.url a with ⟨content, hcontent, -⟩ | ⟨m', hm, hkept⟩
    · cases h.symm.trans (ha.trans hcontent)
    · cases h.symm.trans (ha.trans hm)
      cases hkept with
      | broken hbroken => exact Or.inl hbroken
      | lost hlost => exact Or.inr (Or.inl hlost)

theorem isPlain_of_kept {m : Mishap} {depth : Nat} {body : Json}
    (h : m.IsBroken ∨ m.IsLost ∨ m.IsUnwritten depth body) : m.IsPlain := by
  rcases h with h | h | h
  · exact h.isPlain
  · exact h.isPlain
  · exact h.isPlain

/-- **With the usual client, whole outcomes of the connector are enough.** -/
theorem isWhole_usual (hc : c.http = .usual limits) (hw : c.connector.IsWhole limits.reply) :
    c.IsWhole := by
  intro call sent
  cases hp : c.posted call sent with
  | mishap m => exact trivial
  | reply r =>
    obtain ⟨a, content, hout, hdecoded, rfl⟩ := reply_usual hc hp
    have hwhole := hw sent call
    rw [hout] at hwhole
    exact fun hjson => hwhole content hdecoded (half_of_document hjson)

/-- **So are orderly ones.** -/
theorem isOrderly_usual (hc : c.http = .usual limits) (hw : c.connector.IsWhole limits.reply)
    (ho : c.connector.IsOrderly) : c.IsOrderly := by
  intro call sent
  have hwhole := isWhole_usual hc hw call sent
  cases hp : c.posted call sent with
  | mishap m => exact (isPlain_of_kept (mishap_usual hc ho hp)).1
  | reply r =>
    rw [hp] at hwhole
    obtain ⟨a, content, hout, -, rfl⟩ := reply_usual hc hp
    have horderly := ho sent call
    rw [hout] at horderly
    exact ⟨hwhole, horderly⟩

theorem isPunctual_usual (hc : c.http = .usual limits) (ho : c.connector.IsOrderly) :
    c.IsPunctual := by
  intro call sent
  cases hp : c.posted call sent with
  | mishap m => exact (isPlain_of_kept (mishap_usual hc ho hp)).2
  | reply r =>
    obtain ⟨a, content, -, -, rfl⟩ := reply_usual hc hp
    exact (isPlain_fields _ a content).mono fun m hm => hm.2

/-- **A mishap that is no error of an exchange lies in an address or in the body.** -/
theorem foreign_usual (hc : c.http = .usual limits) (ho : c.connector.IsOrderly) {call : Call}
    {sent : Nat} {m : Mishap} (h : c.posted call sent = .mishap m) (hm : m.isHttp = false) :
    m.IsLost ∨ m.IsUnwritten limits.call call.body :=
  (mishap_usual hc ho h).resolve_left fun hbroken => by cases hm.symm.trans hbroken.isHttp

end Usual

end ChatRelay

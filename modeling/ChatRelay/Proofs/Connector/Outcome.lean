/-
  What becomes of an attempt.

  What comes of posting a call is taken in, or fails as a delivery, or is `Unusable`: a
  mishap that is no error of an exchange, a success whose value cannot be had, or an answer
  that says in a garbled header when to try again.  `Posted.Sorted` says what is known in
  each case, `sorted_posted` that there is no other.

  What is posted is `IsWhole` if it is no answer whose content spells half of a character.
  It is `IsOrderly` if, besides, it has no garbled header and is no error that tells of an
  answer.
-/
import ChatRelay.Proofs.Connector.Attempt
import ChatRelay.Proofs.Connector.Pause

namespace ChatRelay

/-! ## Answers -/

/-- How a success is reported, as an object: no content as the empty one, what is JSON by its
    value, anything else as a text. -/
inductive Reply.Reports (r : Reply) : Fields → Prop
  | empty : r.isEmpty = true → Reports r []
  | object {fs : Fields} : r.isEmpty = false → r.json = .ok (some (.object fs)) → Reports r fs
  | value {v : Json} : r.isEmpty = false → r.json = .ok (some v) → v.isObject = false →
      Reports r [("response", v)]
  | text {s : String} : r.isEmpty = false → r.json = .ok none → r.text = .ok s →
      Reports r [("response", .text s)]

/-- The content of the answer is no document that spells half of a character. -/
def Reply.IsWhole (r : Reply) : Prop := r.json ≠ .error (.incident .half)

/-- The content of the answer cannot be had: it ends in a mishap when it is read as JSON, or is no
    JSON and ends in one when it is read as a text. -/
inductive Reply.Unreadable (r : Reply) : Mishap → Prop
  | json {m : Mishap} : r.isEmpty = false → r.json = .error m → Unreadable r m
  | text {m : Mishap} : r.isEmpty = false → r.json = .ok none → r.text = .error m →
      Unreadable r m

/-- An answer comes to an object, or cannot be had. -/
theorem fields_cases (r : Reply) : (∃ fs, r.fields = .ok fs ∧ r.Reports fs) ∨
    ∃ m, r.fields = .error m ∧ r.Unreadable m := by
  unfold Reply.fields
  cases he : r.isEmpty with
  | true => exact Or.inl ⟨[], rfl, .empty he⟩
  | false =>
    cases hj : r.json with
    | error m => exact Or.inr ⟨m, rfl, .json he hj⟩
    | ok v =>
      cases v with
      | some v =>
        cases v with
        | object fs => exact Or.inl ⟨fs, rfl, .object he hj⟩
        | _ => exact Or.inl ⟨_, rfl, .value he hj rfl⟩
      | none =>
        cases ht : r.text with
        | ok s => exact Or.inl ⟨_, rfl, .text he hj ht⟩
        | error m => exact Or.inr ⟨m, rfl, .text he hj ht⟩

theorem fields_of_unreadable {r : Reply} {m : Mishap} (h : r.Unreadable m) :
    r.fields = .error m := by
  unfold Reply.fields
  cases h with
  | json he hj =>
    rw [he, hj]
    rfl
  | text he hj ht =>
    rw [he, hj, ht]
    rfl

/-! ## What comes of posting -/

/-- The status of another answer that an error tells, and when that says to come back. -/
def Mishap.verdict? : Mishap → Option (Nat × Option String)
  | .incident ⟨_, .status code hint, _⟩ => some (code, hint)
  | _ => none

/-- A time ran out, outside of an exchange. -/
def Failure.isTimeout : Failure → Bool
  | .incident i => i.sort = .timeout
  | _ => false

namespace Posted

/-- It is an answer that is a success. -/
def IsSuccess : Posted → Prop
  | .reply r => isSuccess r.status = true
  | .mishap _ => False

instance (p : Posted) : Decidable p.IsSuccess :=
  match p with
  | .reply r => inferInstanceAs (Decidable (isSuccess r.status = true))
  | .mishap _ => inferInstanceAs (Decidable False)

/-- It is a success that is reported so. -/
def Reports (p : Posted) (fs : Fields) : Prop :=
  ∃ r, p = .reply r ∧ isSuccess r.status = true ∧ r.Reports fs

/-- The status that it tells, and when it says to come back: an answer tells its own, an error may
    tell those of another answer. -/
def verdict? : Posted → Option (Nat × Option String)
  | .reply r => some (r.status, r.hint)
  | .mishap m => m.verdict?

/-- It is worth another attempt: an answer or an error whose status is, or an error that lost the
    connection. -/
def isTransient : Posted → Bool
  | .reply r => retryableStatus r.status
  | .mishap (.incident ⟨_, .status code _, _⟩) => retryableStatus code
  | .mishap (.incident ⟨_, .transport, _⟩) => true
  | .mishap _ => false

/-- It is worth another attempt, but says in a garbled header when. -/
def HasGarbledHint (p : Posted) : Prop :=
  ∃ status hint, p.verdict? = some (status, hint) ∧ retryableStatus status = true ∧ IsGarbled hint

/-- It is neither a result nor a failed delivery. -/
inductive Unusable : Posted → Prop
  | foreign {m : Mishap} : m.isHttp = false → Unusable (.mishap m)
  | unreadable {r : Reply} {m : Mishap} : isSuccess r.status = true → r.Unreadable m →
      Unusable (.reply r)
  | garbled {p : Posted} : p.HasGarbledHint → Unusable p

/-- If it is an answer, its content spells no half of a character. -/
def IsWhole : Posted → Prop
  | .reply r => r.IsWhole
  | .mishap _ => True

/-- A whole answer that says in ASCII digits when to come back, if it says so at all, or a mishap
    that does not tell of an answer. -/
def IsOrderly : Posted → Prop
  | .reply r => r.IsWhole ∧ ∀ v ∈ r.hint, IsDigits v.toList
  | .mishap m => m.verdict? = none

/-- No time ran out for it, other than in an exchange. -/
def IsPunctual : Posted → Prop
  | .reply r => FailsOnly (fun m => m.failure.isTimeout = false) r.fields
  | .mishap m => m.failure.isTimeout = false

end Posted

/-- What comes of posting a call is whole, whatever the call. -/
def Conditions.IsWhole (c : Conditions) : Prop := ∀ call sent, (c.posted call sent).IsWhole

/-- What comes of posting a call is orderly, whatever the call. -/
def Conditions.IsOrderly (c : Conditions) : Prop := ∀ call sent, (c.posted call sent).IsOrderly

/-- No time runs out for a call, other than in an exchange. -/
def Conditions.IsPunctual (c : Conditions) : Prop := ∀ call sent, (c.posted call sent).IsPunctual

theorem Posted.IsOrderly.isWhole {p : Posted} (h : p.IsOrderly) : p.IsWhole := by
  cases p with
  | reply r => exact h.1
  | mishap m => exact trivial

theorem not_hasGarbledHint_of_orderly {p : Posted} (h : p.IsOrderly) : ¬ p.HasGarbledHint := by
  rintro ⟨status, hint, hverdict, -, hgarbled⟩
  cases p with
  | reply r =>
    cases hverdict
    exact not_garbled_of_digits h.2 hgarbled
  | mishap m => cases (show m.verdict? = none from h).symm.trans hverdict

/-! ## Failures -/

/-- A failed delivery asks for a pause by a real, if at all. -/
def Undelivered.HasRealHint (u : Undelivered) : Prop := ∀ x ∈ u.retryAfter, ∃ y, x = Number.real y

/-- A rejection is a failed delivery, unless it is worth another attempt and its hint is garbled. -/
theorem rejection_cases (path : String) (call : Call) (status : Nat) (hint : Option String) :
    (∃ u, rejection path call status hint = .undelivered u ∧ u.body = call.body ∧
        u.retryable = retryableStatus status ∧ u.HasRealHint) ∨
      (∃ e, rejection path call status hint = .numeral e) ∧
        retryableStatus status = true ∧ IsGarbled hint := by
  rw [← classifyStatus_error_iff, rejection]
  cases hc : classifyStatus status hint with
  | error e => exact Or.inr ⟨⟨e, rfl⟩, e, rfl⟩
  | ok k =>
    have hk : k.retryable = retryableStatus status ∧ ∀ x ∈ k.after, ∃ y, x = Number.real y := by
      rw [classifyStatus] at hc
      split at hc
      · rename_i hretry
        obtain ⟨after, hafter, rfl⟩ := ok_of_map hc
        exact ⟨hretry.symm, real_of_hintSeconds hafter⟩
      · rename_i hretry
        cases hc
        exact ⟨(Bool.eq_false_of_not_eq_true hretry).symm, by simp⟩
    exact Or.inl ⟨_, rfl, rfl, hk.1, hk.2⟩

theorem rejection_of_garbled {status : Nat} {hint : Option String}
    (hretry : retryableStatus status = true) (hgarbled : IsGarbled hint) (path : String)
    (call : Call) : ∃ e, rejection path call status hint = .numeral e := by
  obtain ⟨e, he⟩ := (classifyStatus_error_iff status hint).2 ⟨hretry, hgarbled⟩
  exact ⟨e, by rw [rejection, he]⟩

/-! ## Results -/

/-- What becomes of what comes of posting a call: it is taken in, or it fails as a delivery, or it
    is unusable. -/
inductive Posted.Sorted (p : Posted) (path : String) (call : Call) : Prop
  | taken {fs : Fields} : p.read path call = .ok fs → p.Reports fs → p.isTransient = false →
      Sorted p path call
  | failed {u : Undelivered} : p.read path call = .error (.undelivered u) → ¬ p.IsSuccess →
      u.body = call.body → u.retryable = p.isTransient → u.HasRealHint → Sorted p path call
  | unusable {f : Failure} : p.read path call = .error f → f.isUndelivered = false →
      p.Unusable → Sorted p path call

section Statuses

variable {status : Nat}

theorem not_retryable_of_isSuccess (h : isSuccess status = true) :
    retryableStatus status = false := by
  simp only [isSuccess, Bool.and_eq_true, decide_eq_true_eq] at h
  simp only [retryableStatus, Bool.or_eq_false_iff, beq_eq_false_iff_ne, decide_eq_false_iff_not]
  omega

theorem not_isSuccess_of_retryable (h : retryableStatus status = true) :
    isSuccess status = false := by
  by_contra hs
  rw [not_retryable_of_isSuccess (by simpa using hs)] at h
  cases h

end Statuses

section Read

variable {p : Posted} {r : Reply} {m : Mishap} (path : String) (call : Call)

theorem not_isSuccess_mishap (m : Mishap) : ¬ (Posted.mishap m).IsSuccess := id

theorem read_of_success (h : isSuccess r.status = true) :
    (Posted.reply r).read path call = r.fields.mapError Mishap.failure := by
  rw [Posted.read, if_pos h]

theorem read_of_not_success (h : isSuccess r.status = false) :
    (Posted.reply r).read path call = .error (rejection path call r.status r.hint) := by
  rw [Posted.read, h, if_neg Bool.false_ne_true]

/-- A rejection with the status that was told is sorted. -/
theorem sorted_of_rejection {status : Nat} {hint : Option String}
    (hread : p.read path call = .error (rejection path call status hint)) (hnot : ¬ p.IsSuccess)
    (hverdict : p.verdict? = some (status, hint))
    (htransient : p.isTransient = retryableStatus status) : p.Sorted path call := by
  rcases rejection_cases path call status hint with
    ⟨u, hu, hbody, hretry, hreal⟩ | ⟨⟨e, he⟩, hretry, hgarbled⟩
  · exact .failed (by rw [hread, hu]) hnot hbody (hretry.trans htransient.symm) hreal
  · exact .unusable (by rw [hread, he]) rfl (.garbled ⟨_, _, hverdict, hretry, hgarbled⟩)

theorem sorted_reply (r : Reply) : (Posted.reply r).Sorted path call := by
  cases hs : isSuccess r.status with
  | false =>
    exact sorted_of_rejection path call (read_of_not_success path call hs)
      (fun hs' => by cases hs.symm.trans hs') rfl rfl
  | true =>
    have hread := read_of_success path call hs
    rcases fields_cases r with ⟨fs, hfs, hreports⟩ | ⟨m, hm, hunreadable⟩
    · rw [hfs] at hread
      exact .taken hread ⟨r, rfl, hs, hreports⟩ (not_retryable_of_isSuccess hs)
    · rw [hm] at hread
      exact .unusable hread (isUndelivered_failure m) (.unreadable hs hunreadable)

theorem sorted_of_unanswered {retryable : Bool} {reason : String}
    (hread : (Posted.mishap m).read path call = .error (unanswered call retryable reason))
    (htransient : (Posted.mishap m).isTransient = retryable) :
    (Posted.mishap m).Sorted path call :=
  .failed hread (not_isSuccess_mishap m) rfl htransient.symm (by simp [Undelivered.HasRealHint])

theorem sorted_mishap (m : Mishap) : (Posted.mishap m).Sorted path call := by
  cases hm : m.isHttp with
  | false =>
    refine .unusable ?_ (isUndelivered_failure m) (.foreign hm)
    rw [Posted.read, breakdown_of_not_isHttp hm]
  | true =>
    cases m with
    | incident i =>
      obtain ⟨name, sort, message⟩ := i
      cases sort with
      | status code hint =>
        exact sorted_of_rejection path call rfl (not_isSuccess_mishap _) rfl rfl
      | transport => exact sorted_of_unanswered path call rfl rfl
      | exchange => exact sorted_of_unanswered path call rfl rfl
      | _ => cases hm
    | _ => cases hm

/-- **What comes of posting a call is sorted.** -/
theorem sorted_posted (p : Posted) : p.Sorted path call := by
  cases p with
  | reply r => exact sorted_reply path call r
  | mishap m => exact sorted_mishap path call m

end Read

/-! ## Unusable attempts -/

section Unusable

variable {p : Posted}

theorem of_verdict {m : Mishap} {status : Nat} {hint : Option String}
    (h : m.verdict? = some (status, hint)) :
    ∃ name message, m = .incident ⟨name, .status status hint, message⟩ := by
  cases m with
  | incident i =>
    obtain ⟨name, sort, message⟩ := i
    cases sort with
    | status code hint =>
      cases h
      exact ⟨name, message, rfl⟩
    | _ => cases h
  | _ => cases h

theorem not_transient_of_not_isHttp {m : Mishap} (h : m.isHttp = false) :
    (Posted.mishap m).isTransient = false := by
  cases m with
  | incident i =>
    obtain ⟨name, sort, message⟩ := i
    cases sort with
    | status | transport => cases h
    | _ => rfl
  | _ => rfl

/-- What is unusable makes the attempt fail, but not as a delivery. -/
theorem read_of_unusable (h : p.Unusable) (path : String) (call : Call) :
    ∃ f, p.read path call = .error f ∧ f.isUndelivered = false := by
  cases h with
  | @foreign m hm =>
    exact ⟨_, by rw [Posted.read, breakdown_of_not_isHttp hm], isUndelivered_failure m⟩
  | @unreadable r m hs hu =>
    exact ⟨_, by rw [read_of_success path call hs, fields_of_unreadable hu]; rfl,
      isUndelivered_failure m⟩
  | garbled hg =>
    obtain ⟨status, hint, hverdict, hretry, hgarbled⟩ := hg
    obtain ⟨e, he⟩ := rejection_of_garbled hretry hgarbled path call
    refine ⟨.numeral e, ?_, rfl⟩
    cases p with
    | reply r =>
      cases hverdict
      rw [read_of_not_success path call (not_isSuccess_of_retryable hretry), he]
    | mishap m =>
      obtain ⟨name, message, rfl⟩ := of_verdict hverdict
      exact congrArg Except.error he

/-- If its hint is not garbled, it is not worth another attempt. -/
theorem not_transient_of_unusable (h : p.Unusable) (hnot : ¬ p.HasGarbledHint) :
    p.isTransient = false := by
  cases h with
  | foreign hm => exact not_transient_of_not_isHttp hm
  | unreadable hs _ => exact not_retryable_of_isSuccess hs
  | garbled hg => exact absurd hg hnot

end Unusable

end ChatRelay

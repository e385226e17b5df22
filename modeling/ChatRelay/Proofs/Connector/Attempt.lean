/-
  One attempt to deliver.

  `Conditions.posted` is what comes of posting a call, which the client may keep from
  the connector.  `Posted.read` is what the relay makes of it, and `Call.result` what comes
  of a whole attempt.  `exec_send` says that this is what `send` does.
-/
import ChatRelay.Connector.Delivery
import ChatRelay.Proofs.Running

namespace ChatRelay

/-- What comes of posting a call if the connector saw `sent` others before. -/
def Conditions.posted (c : Conditions) (call : Call) (sent : Nat) : Posted :=
  match c.http.refusal? call.url call.body with
  | some m => .mishap m
  | none => c.http.take call.url (c.connector sent call)

/-- What the relay makes of what comes of posting a call. -/
def Posted.read (p : Posted) (path : String) (call : Call) : Except Failure Fields :=
  match p with
  | .reply r =>
    if isSuccess r.status then r.fields.mapError Mishap.failure
    else .error (rejection path call r.status r.hint)
  | .mishap m => .error (breakdown path call m)

/-- What comes of a call if the connector saw `sent` others before. -/
def Call.result (c : Conditions) (path : String) (call : Call) (sent : Nat) :
    Except Failure Fields := (c.posted call sent).read path call

/-- The number of attempts that the call makes the connector see: none if the client does not
    send it, otherwise one. -/
def Call.reached (c : Conditions) (call : Call) : Nat :=
  if (c.http.refusal? call.url call.body).isSome then 0 else 1

theorem exists_undelivered {f : Failure} (h : f.isUndelivered = true) :
    ∃ u, f = .undelivered u := by
  cases f with
  | undelivered u => exact ⟨u, rfl⟩
  | _ => cases h

theorem exec_post (c : Conditions) (call : Call) (h : History) :
    exec (post c call) h =
      (.ok (c.posted call h.sent), { h with sent := h.sent + call.reached c }) := by
  unfold post Conditions.posted Call.reached
  cases c.http.refusal? call.url call.body <;> rfl

theorem exec_record (e : Entry) (h : History) :
    exec (Relay.record e) h = (.ok (), { h with trace := h.trace ++ [e] }) := rfl

theorem exec_count (n : Count) (h : History) :
    exec (Relay.count n) h = (.ok (), { h with trace := h.trace ++ [.count n] }) := rfl

theorem exec_log (e : Event) (h : History) :
    exec (Relay.log e) h = (.ok (), { h with trace := h.trace ++ [.event e] }) := rfl

/-- **An attempt is put on the trace, and ends in its result.** -/
theorem exec_send (c : Conditions) (path : String) (call : Call) (h : History) :
    exec (send c path call) h = (call.result c path h.sent,
      { sent := h.sent + call.reached c, trace := h.trace ++ [.call call] }) := by
  unfold send Call.result
  rw [exec_bind_ok (exec_record _ h), exec_bind_ok (exec_post c call _)]
  dsimp only
  cases c.posted call h.sent with
  | mishap m => rfl
  | reply r =>
    dsimp only [Posted.read]
    split <;> rfl

/-! ## Calls that are not sent -/

section Refused

variable {c : Conditions} {call : Call} {m : Mishap}

theorem posted_of_refused (h : c.http.refusal? call.url call.body = some m) (sent : Nat) :
    c.posted call sent = .mishap m := by
  rw [Conditions.posted, h]

/-- A mishap that is no error of an exchange is passed on. -/
theorem breakdown_of_not_isHttp (h : m.isHttp = false) (path : String) (call : Call) :
    breakdown path call m = m.failure := by
  cases m with
  | incident i =>
    obtain ⟨name, sort, message⟩ := i
    cases sort with
    | status | transport | exchange => cases h
    | _ => rfl
  | _ => rfl

theorem isUndelivered_failure (m : Mishap) : m.failure.isUndelivered = false := by
  cases m <;> rfl

/-- A call that is not sent fails, but not as a delivery that failed. -/
theorem result_of_refused (h : c.http.refusal? call.url call.body = some m) (path : String)
    (sent : Nat) : call.result c path sent = .error m.failure := by
  rw [Call.result, posted_of_refused h, Posted.read,
    breakdown_of_not_isHttp (c.http.not_isHttp_of_refusal h)]

/-- A call that succeeds, or fails as a delivery, reaches the connector. -/
theorem reached_of_result {path : String} {sent : Nat}
    (h : ∀ f, call.result c path sent = .error f → f.isUndelivered = true) :
    call.reached c = 1 := by
  unfold Call.reached
  cases hr : c.http.refusal? call.url call.body with
  | none => rfl
  | some m => cases (isUndelivered_failure m).symm.trans (h _ (result_of_refused hr path sent))

end Refused

end ChatRelay

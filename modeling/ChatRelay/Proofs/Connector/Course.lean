/-
  The course of a delivery.

  A delivery is a row of attempts with pauses between them.  `course` gives the
  pauses and the end of the attempts that are left, without a trace;
  `exec_deliver` says that this is what `deliver` does: it puts the attempts and
  the pauses on the trace, and closes with the count and the event of the
  delivery if it succeeded or failed.
-/
import ChatRelay.Proofs.Connector.Attempt

namespace ChatRelay

/-- An attempt of a delivery. -/
def attemptCall (client : Client) (path : String) (body : Json) (n : Nat) : Call where
  url := client.address ++ path
  body := body
  attempt := n

/-- The pauses and the end of the attempts from number `n` on, with `left` retries left,
    if the connector saw `sent` attempts before. -/
def course (c : Conditions) (client : Client) (path : String) (body : Json) :
    Nat → Nat → Nat → List Number × Except Failure Fields
  | n, sent, 0 => ([], (attemptCall client path body n).result c path sent)
  | n, sent, left + 1 =>
    match (attemptCall client path body n).result c path sent with
    | .error (.undelivered u) =>
      if u.retryable then
        match (deliveryBackoff client).delay n u.retryAfter (c.jitter n) with
        | some d =>
          let (ds, r) := course c client path body (n + 1) (sent + 1) left
          (d :: ds, r)
        | none => ([], .error .endlessDelay)
      else ([], .error (.undelivered u))
    | r => ([], r)

/-- The pauses and the end of a whole delivery. -/
def delivery (c : Conditions) (client : Client) (path : String) (body : Json) (sent : Nat) :
    List Number × Except Failure Fields :=
  course c client path body 0 sent client.maxRetries.toNat

/-- What the attempts from number `n` on put on the trace. -/
def attemptsTrace (client : Client) (path : String) (body : Json) : Nat → List Number → List Entry
  | n, [] => [.call (attemptCall client path body n)]
  | n, d :: ds => .call (attemptCall client path body n) :: .pause d ::
      attemptsTrace client path body (n + 1) ds

/-- The entry is an attempt. -/
def Entry.isCall : Entry → Bool
  | .call _ => true
  | _ => false

/-- The entry is a pause. -/
def Entry.isPause : Entry → Bool
  | .pause _ => true
  | _ => false

/-- The entry is a count or an event. -/
def Entry.isReckoning : Entry → Bool
  | .count _ | .event _ => true
  | _ => false

/-- How a delivery is counted and logged; not at all if it breaks off. -/
def closing (c : Conditions) (path : String) (session : Json) :
    Except Failure Fields → List Entry
  | .ok _ => [.count (.delivered path true), .event (.delivered session path c.elapsed)]
  | .error (.undelivered u) =>
    [.count (.delivered path false), .event (.failed session path u)]
  | .error _ => []

section Course

variable (c : Conditions) (client : Client) (path : String) (body : Json)

/-! ## The cases of an attempt -/

section Cases

variable {c client path body} {n sent left : Nat} {u : Undelivered}

/-- An attempt that did not fail as a delivery is the last one. -/
theorem course_of_ended
    (h : ∀ u, (attemptCall client path body n).result c path sent ≠ .error (.undelivered u)) :
    course c client path body n sent left =
      ([], (attemptCall client path body n).result c path sent) := by
  cases left with
  | zero => rfl
  | succ left =>
    rw [course]
    split
    · rename_i u hu
      exact absurd hu (h u)
    · rfl

/-- So is one that is not worth another. -/
theorem course_of_hopeless
    (h : (attemptCall client path body n).result c path sent = .error (.undelivered u))
    (hu : u.retryable = false) :
    course c client path body n sent left = ([], .error (.undelivered u)) := by
  cases left with
  | zero => rw [course, h]
  | succ left =>
    rw [course, h]
    simp [hu]

/-- So is one after which the delay is too large. -/
theorem course_of_endless
    (h : (attemptCall client path body n).result c path sent = .error (.undelivered u))
    (hu : u.retryable = true)
    (hd : (deliveryBackoff client).delay n u.retryAfter (c.jitter n) = none) :
    course c client path body n sent (left + 1) = ([], .error .endlessDelay) := by
  rw [course, h]
  simp [hu, hd]

/-- Otherwise there is another one after a pause. -/
theorem course_of_again {d : Number}
    (h : (attemptCall client path body n).result c path sent = .error (.undelivered u))
    (hu : u.retryable = true)
    (hd : (deliveryBackoff client).delay n u.retryAfter (c.jitter n) = some d) :
    course c client path body n sent (left + 1) =
      (d :: (course c client path body (n + 1) (sent + 1) left).1,
        (course c client path body (n + 1) (sent + 1) left).2) := by
  rw [course, h]
  simp [hu, hd]

end Cases

/-- The attempt failed as a delivery and is worth another one. -/
def IsRetried (n sent : Nat) : Prop :=
  ∃ u, (attemptCall client path body n).result c path sent = .error (.undelivered u) ∧
    u.retryable = true

theorem isRetried_iff (n sent : Nat) : IsRetried c client path body n sent ↔
    (match (attemptCall client path body n).result c path sent with
      | .error (.undelivered u) => u.retryable
      | _ => false) = true := by
  rw [IsRetried]
  split
  · rename_i u hu
    exact ⟨fun ⟨u', hu', h⟩ => by cases hu.symm.trans hu'; exact h, fun h => ⟨u, hu, h⟩⟩
  · rename_i hnone
    exact ⟨fun ⟨u, hu, _⟩ => absurd hu (hnone u), nofun⟩

instance (n sent : Nat) : Decidable (IsRetried c client path body n sent) :=
  decidable_of_iff _ (isRetried_iff c client path body n sent).symm

variable {c client path body} in
/-- An attempt that is not worth another one is the last. -/
theorem course_of_not_retried {n sent left : Nat} (h : ¬ IsRetried c client path body n sent) :
    course c client path body n sent left =
      ([], (attemptCall client path body n).result c path sent) := by
  by_cases hu : ∃ u, (attemptCall client path body n).result c path sent = .error (.undelivered u)
  · obtain ⟨u, hu⟩ := hu
    have hhopeless : u.retryable = false := by
      cases hr : u.retryable with
      | false => rfl
      | true => exact absurd ⟨u, hu, hr⟩ h
    rw [course_of_hopeless hu hhopeless, hu]
  · exact course_of_ended fun u h => hu ⟨u, h⟩

/-- **What a course consists of.**  Every attempt but the last is worth another one.  The course
    ends in the result of the last, which is not worth another one or has no retries left, unless
    the delay until the next one is too large. -/
theorem course_spec (left n sent : Nat) {ds : List Number} {r : Except Failure Fields}
    (h : course c client path body n sent left = (ds, r)) :
    ds.length ≤ left ∧
      (∀ j < ds.length, IsRetried c client path body (n + j) (sent + j)) ∧
      (r = .error .endlessDelay ∨
        r = (attemptCall client path body (n + ds.length)).result c path (sent + ds.length) ∧
          (ds.length = left ∨
            ¬ IsRetried c client path body (n + ds.length) (sent + ds.length))) := by
  induction left generalizing n sent ds r with
  | zero =>
    cases h
    exact ⟨Nat.le_refl _, nofun, Or.inr ⟨rfl, Or.inl rfl⟩⟩
  | succ left ih =>
    by_cases hretried : IsRetried c client path body n sent
    · obtain ⟨u, hu, hretry⟩ := hretried
      cases hd : (deliveryBackoff client).delay n u.retryAfter (c.jitter n) with
      | none =>
        rw [course_of_endless hu hretry hd] at h
        cases h
        exact ⟨Nat.zero_le _, nofun, Or.inl rfl⟩
      | some d =>
        rw [course_of_again hu hretry hd] at h
        cases h
        obtain ⟨hle, hall, hend⟩ := ih (n + 1) (sent + 1) rfl
        simp only [List.length_cons, ← Nat.add_assoc, Nat.add_right_comm _ 1] at hle hall hend ⊢
        refine ⟨Nat.succ_le_succ hle, fun j hj => ?_, ?_⟩
        · cases j with
          | zero => exact ⟨u, hu, hretry⟩
          | succ j => exact hall j (Nat.lt_of_succ_lt_succ hj)
        · simpa only [Nat.add_right_cancel_iff] using hend
    · rw [course_of_not_retried hretried] at h
      cases h
      exact ⟨Nat.zero_le _, nofun, Or.inr ⟨rfl, Or.inr hretried⟩⟩

variable {c client path body} in
/-- If the client does not send the body, there is only one attempt. -/
theorem delivery_of_refused {m : Mishap}
    (h : c.http.refusal? (client.address ++ path) body = some m) (sent : Nat) :
    delivery c client path body sent = ([], .error m.failure) := by
  have hresult : (attemptCall client path body 0).result c path sent = .error m.failure :=
    result_of_refused h path sent
  rw [delivery, course_of_ended, hresult]
  rintro u hu
  have hundelivered := isUndelivered_failure m
  rw [Except.error.inj (hresult.symm.trans hu)] at hundelivered
  cases hundelivered

/-- A delivery ends as its last attempt does, unless the delay after that is too large. -/
theorem delivery_end (sent : Nat) : (delivery c client path body sent).2 = .error .endlessDelay ∨
      (delivery c client path body sent).2 =
        (attemptCall client path body (delivery c client path body sent).1.length).result c path
          (sent + (delivery c client path body sent).1.length) := by
  obtain ⟨-, -, hend⟩ :=
    course_spec c client path body client.maxRetries.toNat 0 sent rfl
  rw [Nat.zero_add] at hend
  exact hend.imp_right And.left

/-! ## The loop -/

/-- All attempts of a delivery reach the connector, or none does. -/
theorem reached_attemptCall (n : Nat) : (attemptCall client path body n).reached c =
    (attemptCall client path body 0).reached c := rfl

/-- A failed delivery is handled, and it is known what it says about another attempt. -/
theorem next_undelivered (more : Bool) (n : Nat) (u : Undelivered) :
    (deliveryAttempts c client path body).next more n (.undelivered u) =
      if u.retryable && more then
        match (deliveryBackoff client).delay n u.retryAfter (c.jitter n) with
        | some d => .ok d
        | none => .error .endlessDelay
      else .error (.undelivered u) := by
  cases hr : u.retryable <;> cases more <;>
    simp [Attempts.next, deliveryAttempts, Failure.isUndelivered, prospect, Failure.classify, hr]
  cases (deliveryBackoff client).delay n u.retryAfter (c.jitter n) <;> rfl

/-- Any other failure ends the delivery. -/
theorem next_of_not_undelivered {f : Failure} (hf : f.isUndelivered = false) (more : Bool)
    (n : Nat) : (deliveryAttempts c client path body).next more n f = .error f := by
  simp [Attempts.next, deliveryAttempts, hf]

theorem run_action (n : Nat) (h : History) :
    ((deliveryAttempts c client path body).action n).run h =
      ((attemptCall client path body n).result c path h.sent,
        { sent := h.sent + (attemptCall client path body 0).reached c,
          trace := h.trace ++ [.call (attemptCall client path body n)] }) :=
  exec_send c path (attemptCall client path body n) h

/-- **The attempts that are left take their course.** -/
theorem run_runFrom (left n : Nat) (h : History) :
    ((deliveryAttempts c client path body).runFrom n left).run h =
      ((course c client path body n h.sent left).2,
        { sent := h.sent + (course c client path body n h.sent left).1.length +
            (attemptCall client path body 0).reached c
          trace := h.trace ++
            attemptsTrace client path body n (course c client path body n h.sent left).1 }) := by
  induction left generalizing n h with
  | zero =>
    rw [Attempts.runFrom, run_bind, run_action, course]
    cases hr : (attemptCall client path body n).result c path h.sent with
    | ok fs => rfl
    | error f =>
      have hnext : (deliveryAttempts c client path body).next false n f = .error f := by
        cases hf : f.isUndelivered with
        | false => exact next_of_not_undelivered c client path body hf false n
        | true =>
          obtain ⟨u, rfl⟩ := exists_undelivered hf
          simpa using next_undelivered c client path body false n u
      simp only [hnext]
      rfl
  | succ left ih =>
    rw [Attempts.runFrom, run_bind, run_action, course]
    cases hr : (attemptCall client path body n).result c path h.sent with
    | ok fs => rfl
    | error f =>
      cases hf : f.isUndelivered with
      | false =>
        simp only [next_of_not_undelivered c client path body hf true n]
        cases f with
        | undelivered u => cases hf
        | _ => rfl
      | true =>
        obtain ⟨u, rfl⟩ := exists_undelivered hf
        have hreached : (attemptCall client path body 0).reached c = 1 :=
          (reached_attemptCall c client path body n).symm.trans <| reached_of_result fun f hf => by
            cases hr.symm.trans hf
            rfl
        simp only [next_undelivered, Bool.and_true]
        by_cases hu : u.retryable = true
        · simp only [hu, if_true]
          cases hd : (deliveryBackoff client).delay n u.retryAfter (c.jitter n) with
          | none => rfl
          | some d =>
            -- the pause is put on the trace, and the next attempt starts from there
            refine (ih (n + 1) {
              sent := h.sent + (attemptCall client path body 0).reached c
              trace := h.trace ++ [.call (attemptCall client path body n)] ++
                [.pause d] }).trans ?_
            simp only [hreached, attemptsTrace, List.length_cons, List.append_assoc,
              List.cons_append, List.nil_append]
            congr 2
            omega
        · simp only [if_neg hu]
          rfl

/-- The attempts of a delivery that the connector sees. -/
def deliverySent (sent : Nat) : Nat :=
  (delivery c client path body sent).1.length + (attemptCall client path body 0).reached c

/-- What a delivery puts on the trace. -/
def deliveryTrace (session : Json) (sent : Nat) : List Entry :=
  attemptsTrace client path body 0 (delivery c client path body sent).1 ++
    closing c path session (delivery c client path body sent).2

/-- **A delivery takes its course, and is then counted and logged.** -/
theorem exec_deliver (session : Json) (h : History) :
    exec (deliver c client path body session) h = ((delivery c client path body h.sent).2,
      { sent := h.sent + deliverySent c client path body h.sent
        trace := h.trace ++ deliveryTrace c client path body session h.sent }) := by
  have hrun : exec (ε := Failure) (ExceptT.lift (deliveryAttempts c client path body).run) h =
      (.ok (delivery c client path body h.sent).2,
        { sent := h.sent + deliverySent c client path body h.sent
          trace := h.trace ++
            attemptsTrace client path body 0 (delivery c client path body h.sent).1 }) := by
    rw [exec_lift, Attempts.run, run_runFrom, deliverySent, ← Nat.add_assoc]
    rfl
  unfold deliver deliveryTrace
  rw [exec_bind_ok hrun, ← List.append_assoc]
  cases (delivery c client path body h.sent).2 with
  | ok fs =>
    change exec (Relay.count _ >>= fun _ => Relay.log _ >>= fun _ => pure fs) _ = _
    rw [exec_bind_ok (exec_count _ _), exec_bind_ok (exec_log _ _), exec_pure]
    simp [closing]
  | error f =>
    cases f with
    | undelivered u =>
      change exec (Relay.count _ >>= fun _ => Relay.log _ >>= fun _ => throw _) _ = _
      rw [exec_bind_ok (exec_count _ _), exec_bind_ok (exec_log _ _), exec_throw]
      simp [closing]
    | _ => simp [closing]

/-! ## Traces -/

section Trace

variable (ds : List Number)

/-- The attempts of a delivery are numbered one after the other, and all post its body. -/
theorem calls_attemptsTrace (n : Nat) : (attemptsTrace client path body n ds).filter Entry.isCall =
    (List.range' n (ds.length + 1)).map fun k => .call (attemptCall client path body k) := by
  induction ds generalizing n with
  | nil => rfl
  | cons d ds ih =>
    rw [attemptsTrace, List.length_cons, List.range'_succ, List.map_cons, ← ih]
    rfl

theorem countP_attemptsTrace {p : Entry → Bool} (hcall : ∀ call, p (.call call) = false)
    (hpause : ∀ d, p (.pause d) = false) (n : Nat) :
    (attemptsTrace client path body n ds).countP p = 0 := by
  induction ds generalizing n with
  | nil => simp [attemptsTrace, hcall]
  | cons d ds ih => simp [attemptsTrace, hcall, hpause, ih]

theorem reckonings_attemptsTrace (n : Nat) :
    (attemptsTrace client path body n ds).filter Entry.isReckoning = [] := by
  rw [← List.countP_eq_zero.trans List.filter_eq_nil_iff.symm]
  exact countP_attemptsTrace client path body ds (fun _ => rfl) (fun _ => rfl) n

theorem pauses_attemptsTrace (n : Nat) :
    (attemptsTrace client path body n ds).filter Entry.isPause = ds.map .pause := by
  induction ds generalizing n with
  | nil => rfl
  | cons d ds ih =>
    rw [attemptsTrace, List.map_cons, ← ih (n + 1)]
    rfl

theorem countP_isPause_attemptsTrace (n : Nat) :
    (attemptsTrace client path body n ds).countP Entry.isPause = ds.length := by
  rw [List.countP_eq_length_filter, pauses_attemptsTrace, List.length_map]

/-- The last entry is the last attempt. -/
theorem getLast?_attemptsTrace (n : Nat) : (attemptsTrace client path body n ds).getLast? =
    some (.call (attemptCall client path body (n + ds.length))) := by
  induction ds generalizing n with
  | nil => rfl
  | cons d ds ih =>
    rw [attemptsTrace, List.getLast?_cons_cons, List.getLast?_cons, ih, List.length_cons,
      Nat.add_right_comm]
    rfl

end Trace

section DeliveryTrace

variable {c client path body} {p : Entry → Bool} (session : Json)

theorem filter_closing (hended : ∀ success, p (.count (.delivered path success)) = false)
    (hevent : ∀ e, p (.event e) = false) (r : Except Failure Fields) :
    (closing c path session r).filter p = [] := by
  rcases r with f | fs
  · cases f <;> simp [closing, hended, hevent]
  · simp [closing, hended, hevent]

/-- All attempts of a delivery post its body, and there is at least one. -/
theorem calls_deliveryTrace (sent : Nat) :
    (deliveryTrace c client path body session sent).filter Entry.isCall =
      (List.range ((delivery c client path body sent).1.length + 1)).map fun k =>
        .call (attemptCall client path body k) := by
  rw [deliveryTrace, List.filter_append, calls_attemptsTrace,
    filter_closing session (fun _ => rfl) (fun _ => rfl), List.append_nil, List.range_eq_range']

/-- A delivery leaves attempts and pauses, and is counted and logged, but leaves nothing else. -/
theorem filter_deliveryTrace (hcall : ∀ call, p (.call call) = false)
    (hpause : ∀ d, p (.pause d) = false)
    (hended : ∀ success, p (.count (.delivered path success)) = false)
    (hevent : ∀ e, p (.event e) = false) (sent : Nat) :
    (deliveryTrace c client path body session sent).filter p = [] := by
  have hattempts : (attemptsTrace client path body 0
      (delivery c client path body sent).1).filter p = [] :=
    List.filter_eq_nil_iff.2 (List.countP_eq_zero.1
      (countP_attemptsTrace client path body _ hcall hpause 0))
  rw [deliveryTrace, List.filter_append, hattempts, filter_closing session hended hevent,
    List.append_nil]

end DeliveryTrace

end Course

/-! ## Sample deliveries -/

/-- A client that tries again once. -/
def Client.retryingOnce : Client where
  address := "http://cobalt.test"
  timeout := .int 10
  maxRetries := 1

/-- A connector that is busy at the first attempt of every delivery. -/
def Connector.busyOnce : Connector := fun _ call =>
  .answer { status := if call.attempt = 0 then 503 else 200 }

/-- Conditions with a connector, in which no time passes. -/
def Conditions.plain (k : Connector) : Conditions where
  settings := {}
  connector := k
  jitter := fun _ => .real (.ofInt 0)
  millis := 0
  elapsed := 0
  identifier := ""

/-- A connector that answers with a text which is not in the charset that it names. -/
def Connector.garbled : Connector := fun _ _ => .answer {
  status := 200
  headers := [("content-type", "text/plain; charset=utf-16")]
  body := Text.Utf8.encode "café €" }

end ChatRelay

/-
  How the call of a tool ends.

  A call for a session takes its course: the parcel of the tool is delivered, and the model
  is told of the end (`verdict`, `exec_call`).  `Told` lists what the model is told and
  why, `Escapes` the failures that no text tells of.  `call_ends` says that a call always
  does the one or the other, and counts itself once just if it returns.
-/
import ChatRelay.Proofs.Connector.Ending
import ChatRelay.Proofs.Connector.Failures
import ChatRelay.Proofs.Tool.Parcel

namespace ChatRelay

/-- The entry counts the call of a tool. -/
def Entry.isToolCall : Entry → Bool
  | .count (.toolCalled _ _) => true
  | _ => false

namespace Tool

open Schema

/-- The arguments of a call; what counts as nothing is an object without fields. -/
def argumentsOf (args : Json) : Json := if args.isTruthy then args else .object []

/-- What the model is told of arguments that do not fit. -/
def invalidText (t : Tool) (faults : Nat) : String :=
  s!"Error: invalid input for {t.name}: {faults} validation error(s)"

/-- What the model is told of a delivery that failed. -/
def failureText (t : Tool) (client : Client) (u : Undelivered) : String :=
  s!"Error sending {t.cargo} to {client.address}: {u.message}"

/-- What the model is told of the end of a call, and the status that is counted. -/
def verdict (t : Tool) (client : Client) :
    Except Failure Unit → Except Failure (ToolStatus × String)
  | .ok () => .ok (.success, t.confirmation)
  | .error (.invalid faults) => .ok (.invalidInput, t.invalidText faults.length)
  | .error (.undelivered u) => .ok (.failure, t.failureText client u)
  | .error f => .error f

/-- The end of a call, counted if the model is told of it. -/
def closed (t : Tool) (h : History) :
    Except Failure (ToolStatus × String) → Except Failure String × History
  | .ok (status, text) =>
    (.ok text, { h with trace := h.trace ++ [.count (.toolCalled t.name status)] })
  | .error f => (.error f, h)

/-- The call of a tool by its name. -/
theorem exec_execute (c : Conditions) (client : Client) (session args : Json) (t : Tool)
    (h : History) : exec (execute c client (.text t.name) session args) h =
      exec (t.call c client session args) h := by
  have hnamed : named (.text t.name) = .ok t := by cases t <;> rfl
  rw [execute, hnamed]
  exact exec_bind_ok (exec_liftM _ h)

/-- Without a session, the model is told so. -/
theorem exec_call_missing (c : Conditions) (client : Client) {session : Json} (args : Json)
    (t : Tool) (hs : session.isTruthy = false) (h : History) :
    exec (t.call c client session args) h = t.closed h (.ok (.missingSession, missingSession)) := by
  unfold call
  rw [hs]
  rfl

/-- **A call for a session ends as what the tool is for does.** -/
theorem exec_call (c : Conditions) (client : Client) {session : Json} (args : Json) (t : Tool)
    (hs : session.isTruthy = true) (h : History) :
    exec (t.call c client session args) h =
      t.closed (exec (t.perform c client session (argumentsOf args)) h).2
        (t.verdict client (exec (t.perform c client session (argumentsOf args)) h).1) := by
  unfold call
  simp only [hs, Bool.not_true, Bool.false_eq_true, if_false, exec_bind, exec_tryCatch]
  change _ = t.closed (exec (t.perform c client session
    (if args.isTruthy then args else .object [])) h).2 (t.verdict client (exec (t.perform c client
      session (if args.isTruthy then args else .object [])) h).1)
  rcases exec (t.perform c client session (if args.isTruthy then args else .object [])) h with
    ⟨f | u, g⟩
  · cases f <;> rfl
  · rfl

/-- The session of a call that has one. -/
def IsSession (session : Option String) (id : String) : Prop := session = some id ∧ id ≠ ""

/-- What the model is told, with the status that is counted, if the connector saw `sent` attempts
    before: that there is no session, that the arguments do not fit the form of the tool, that the
    delivery of its parcel failed, or that it did what it is for. -/
inductive Told (c : Conditions) (client : Client) (t : Tool) (session : Option String)
    (args : Json) (sent : Nat) : ToolStatus → String → Prop
  | missingSession : (∀ id, ¬ IsSession session id) →
      Told c client t session args sent .missingSession missingSession
  | invalidInput {id : String} {form : Form} {faults : List Fault} : IsSession session id →
      t.form? = some form → form.read (argumentsOf args) = .faulty faults →
      Told c client t session args sent .invalidInput (t.invalidText faults.length)
  | failure {id : String} {p : Parcel} {u : Undelivered} : IsSession session id →
      t.parcel c.limits id (argumentsOf args) = .ok p →
      (delivery c client p.path p.body sent).2 = .error (.undelivered u) →
      Told c client t session args sent .failure (t.failureText client u)
  | success {id : String} {p : Parcel} {fs : Fields} : IsSession session id →
      t.parcel c.limits id (argumentsOf args) = .ok p →
      (delivery c client p.path p.body sent).2 = .ok fs →
      Told c client t session args sent .success t.confirmation

/-- Why the model is told nothing: the input of a request for a live agent cannot be read, or the
    delivery of the parcel breaks off at its last attempt. -/
inductive Escapes (c : Conditions) (client : Client) (t : Tool) (session : Option String)
    (args : Json) (sent : Nat) : Prop
  | unread {id : String} : IsSession session id → t = .requestAgent →
      Unreadable c.limits (inputOf (argumentsOf args)) → Escapes c client t session args sent
  | broken {id : String} {p : Parcel} {ds : List Number} {r : Except Failure Fields} :
      IsSession session id → t.parcel c.limits id (argumentsOf args) = .ok p →
      delivery c client p.path p.body sent = (ds, r) →
      Breach c client p.path p.body ds.length (sent + ds.length) →
      Escapes c client t session args sent

/-! ## The end of a call -/

section Call

variable {c : Conditions} {client : Client} {t : Tool} {session : Option String} {id : String}
  {args : Json} {h : History}

theorem isTruthy_of_isSession (hs : IsSession session id) :
    Json.ofText? session = .text id ∧ (Json.ofText? session).isTruthy = true := by
  obtain ⟨rfl, hne⟩ := hs
  exact ⟨rfl, by simpa [Json.ofText?, Json.isTruthy] using hne⟩

theorem not_isTruthy_of_not_isSession (hs : ∀ id, ¬ IsSession session id) :
    (Json.ofText? session).isTruthy = false := by
  cases session with
  | none => rfl
  | some id =>
    have hempty : id = "" := by
      by_contra hne
      exact hs id ⟨rfl, hne⟩
    subst hempty
    rfl

/-- **A call for a session ends as its parcel does.** -/
theorem exec_call_parcel (hs : IsSession session id) :
    exec (t.call c client (Json.ofText? session) args) h =
      t.closed (Parcel.outcomeOf c client h (t.parcel c.limits id (argumentsOf args))).2
        (t.verdict client
          (Parcel.outcomeOf c client h (t.parcel c.limits id (argumentsOf args))).1) := by
  obtain ⟨hid, htruthy⟩ := isTruthy_of_isSession hs
  rw [exec_call c client args t htruthy, hid, exec_perform]

/-- The model is not told of a failure that is not reported. -/
theorem verdict_of_not_isReported {f : Failure} (hf : isReported f = false) :
    t.verdict client (.error f) = .error f := by
  cases f with
  | invalid | undelivered => cases hf
  | _ => rfl

/-- A delivery that breaks off is not reported. -/
theorem not_isReported_of_delivery {path : String} {body : Json} {f : Failure}
    (hf : (delivery c client path body h.sent).2 = .error f) (hu : f.isUndelivered = false) :
    isReported f = false := by
  have hinput := not_isInputFailure_of_delivery c client path body h.sent hf
  cases f with
  | invalid => cases hinput
  | undelivered => cases hu
  | _ => rfl

variable (hwhole : IsWholeInput c.limits (inputOf (argumentsOf args))) (ho : c.IsOrderly)
  (hj : ∀ n, (c.jitter n).toReal?.isSome = true)

include hwhole ho hj in
/-- **What escapes is a failure of the call.** -/
theorem error_of_escapes (he : Escapes c client t session args h.sent) :
    ∃ f, (exec (t.call c client (Json.ofText? session) args) h).1 = .error f := by
  cases he with
  | @unread id hs ht hunread =>
    subst ht
    obtain ⟨f, hf⟩ := (exists_error_iff_unreadable hwhole id).2 hunread
    have hnot := not_isReported_of_request c.limits id (argumentsOf args) f hf
    refine ⟨f, ?_⟩
    rw [exec_call_parcel hs, hf, Parcel.outcomeOf, verdict_of_not_isReported hnot]
    rfl
  | @broken id p ds r hs hp hd hbreach =>
    have hbreaks := delivery_breaks_iff c client p.path p.body ho hj h.sent
    rw [hd] at hbreaks
    obtain ⟨f, rfl, hu⟩ := hbreaks.2 hbreach
    have hfail : (delivery c client p.path p.body h.sent).2 = .error f := by rw [hd]
    refine ⟨f, ?_⟩
    rw [exec_call_parcel hs, hp, Parcel.outcomeOf, Parcel.outcome, hfail, Except.map,
      verdict_of_not_isReported (not_isReported_of_delivery hfail hu)]
    rfl

/-- The end of a call: the model is told of it, and the call is counted, once; or the call fails,
    uncounted. -/
inductive Ends (c : Conditions) (client : Client) (t : Tool) (session : Option String)
    (args : Json) (sent : Nat) : Except Failure String → List Entry → Prop
  | told {status : ToolStatus} {text : String} {part : List Entry} :
      Told c client t session args sent status text →
      part.filter Entry.isToolCall = [.count (.toolCalled t.name status)] →
      Ends c client t session args sent (.ok text) part
  | escaped {f : Failure} {part : List Entry} : Escapes c client t session args sent →
      part.filter Entry.isToolCall = [] → Ends c client t session args sent (.error f) part

include ho hj in
theorem ends_of_parcel {p : Parcel} (hs : IsSession session id)
    (hp : t.parcel c.limits id (argumentsOf args) = .ok p) : ∃ r h' part,
      exec (t.call c client (Json.ofText? session) args) h = (r, h') ∧
      h'.trace = h.trace ++ part ∧ Ends c client t session args h.sent r part := by
  have hcalls : (p.counts.map Entry.count ++
      deliveryTrace c client p.path p.body p.session h.sent).filter Entry.isToolCall = [] := by
    rw [List.filter_append, filter_counts_of_parcel hp (fun _ _ => rfl) (fun _ => rfl),
      filter_deliveryTrace _ (fun _ => rfl) (fun _ => rfl) (fun _ => rfl) (fun _ => rfl)]
    rfl
  -- What is told is counted after the delivery.
  have hcounted : ∀ status, ((p.counts.map Entry.count ++
      deliveryTrace c client p.path p.body p.session h.sent) ++
      [Entry.count (.toolCalled t.name status)]).filter Entry.isToolCall =
      [.count (.toolCalled t.name status)] := fun status => by
    rw [List.filter_append, hcalls]
    rfl
  rw [exec_call_parcel hs, hp, Parcel.outcomeOf, Parcel.outcome]
  cases hr : (delivery c client p.path p.body h.sent).2 with
  | ok fs =>
    exact ⟨_, _, _, rfl, List.append_assoc _ _ _, .told (.success hs hp hr) (hcounted _)⟩
  | error f =>
    cases hu : f.isUndelivered with
    | true =>
      obtain ⟨u, rfl⟩ := exists_undelivered hu
      exact ⟨_, _, _, rfl, List.append_assoc _ _ _, .told (.failure hs hp hr) (hcounted _)⟩
    | false =>
      have hbreach := (delivery_breaks_iff c client p.path p.body ho hj h.sent).1 ⟨f, hr, hu⟩
      rw [Except.map, verdict_of_not_isReported (not_isReported_of_delivery hr hu)]
      exact ⟨_, _, _, rfl, rfl, .escaped (.broken hs hp rfl hbreach) hcalls⟩

/-- Arguments that do not fit are told of, and nothing else happens. -/
theorem ends_of_faulty {form : Form} {faults : List Fault} (hs : IsSession session id)
    (hform : t.form? = some form) (hfaults : form.read (argumentsOf args) = .faulty faults) :
    ∃ r h' part, exec (t.call c client (Json.ofText? session) args) h = (r, h') ∧
      h'.trace = h.trace ++ part ∧ Ends c client t session args h.sent r part := by
  rw [exec_call_parcel hs, parcel_of_faulty hform hfaults c.limits id, Parcel.outcomeOf]
  exact ⟨_, _, _, rfl, rfl, .told (.invalidInput hs hform hfaults) rfl⟩

include hwhole ho hj in
theorem ends_of_session (hs : IsSession session id) : ∃ r h' part,
      exec (t.call c client (Json.ofText? session) args) h = (r, h') ∧
      h'.trace = h.trace ++ part ∧ Ends c client t session args h.sent r part := by
  cases hform : t.form? with
  | some form =>
    cases hread : form.read (argumentsOf args) with
    | fits fs =>
      obtain ⟨p, hp⟩ := parcel_of_fits hform hread c.limits id
      exact ends_of_parcel ho hj hs hp
    | faulty faults => exact ends_of_faulty hs hform hread
  | none =>
    obtain rfl : t = requestAgent := by
      cases t with
      | requestAgent => rfl
      | _ => cases hform
    cases hp : requestAgent.parcel c.limits id (argumentsOf args) with
    | ok p => exact ends_of_parcel ho hj hs hp
    | error f =>
      have hunread := (exists_error_iff_unreadable hwhole id).1 ⟨f, hp⟩
      have hnot := not_isReported_of_request c.limits id (argumentsOf args) f hp
      rw [exec_call_parcel hs, hp, Parcel.outcomeOf, verdict_of_not_isReported hnot]
      exact ⟨_, _, _, rfl, (List.append_nil _).symm, .escaped (.unread hs rfl hunread) rfl⟩

include ho hj in
/-- **When the call of a tool returns, and with what.**  If what is posted is orderly, the model is
    told that there is no session, that the arguments do not fit, that the delivery failed, or that
    all is done, and the call is counted once, with that status; or the call fails with something
    else, and is not counted.  It fails just if the input of a request for a live agent cannot be
    read or the delivery breaks off. -/
theorem call_ends (client : Client) (t : Tool) (session : Option String) (args : Json)
    (hwhole : IsWholeInput c.limits (inputOf (argumentsOf args))) (h : History) : ∃ r h' part,
      exec (t.call c client (Json.ofText? session) args) h = (r, h') ∧
      h'.trace = h.trace ++ part ∧ Ends c client t session args h.sent r part ∧
      ((∃ f, r = .error f) ↔ Escapes c client t session args h.sent) := by
  have hends : ∃ r h' part, exec (t.call c client (Json.ofText? session) args) h = (r, h') ∧
      h'.trace = h.trace ++ part ∧ Ends c client t session args h.sent r part := by
    by_cases hs : ∃ id, IsSession session id
    · obtain ⟨id, hs⟩ := hs
      exact ends_of_session hwhole ho hj hs
    · rw [exec_call_missing c client args t
        (not_isTruthy_of_not_isSession fun id hid => hs ⟨id, hid⟩)]
      exact ⟨_, _, _, rfl, rfl, .told (.missingSession fun id hid => hs ⟨id, hid⟩) rfl⟩
  obtain ⟨r, h', part, hrun, htrace, hend⟩ := hends
  refine ⟨r, h', part, hrun, htrace, hend, ?_, fun hescapes => ?_⟩
  · rintro ⟨f, rfl⟩
    cases hend with
    | escaped hescapes _ => exact hescapes
  · obtain ⟨f, hf⟩ := error_of_escapes hwhole ho hj hescapes
    rw [hrun] at hf
    exact ⟨f, hf⟩

end Call

/-! ## Sample calls -/

/-- A message that is delivered at the second attempt: the model is told so, and the call is
    counted. -/
theorem ends_html_busyOnce : ∃ h', exec (html.call (.plain .busyOnce) .retryingOnce (.text "a")
      (.object [("html", .text "<b>x</b>")])) {} = (.ok html.confirmation, h') ∧
    Ends (.plain .busyOnce) .retryingOnce .html (some "a") (.object [("html", .text "<b>x</b>")]) 0
      (.ok html.confirmation) h'.trace := by
  have horderly : (Conditions.plain .busyOnce).IsOrderly :=
    isOrderly_usual rfl isWhole_busyOnce isOrderly_busyOnce
  obtain ⟨r, h', part, hrun, htrace, hends, -⟩ := call_ends (c := .plain .busyOnce) horderly
    (fun _ => rfl) .retryingOnce .html (some "a") (.object [("html", .text "<b>x</b>")])
    (by rintro s ⟨⟩) {}
  have hok : (exec (html.call (.plain .busyOnce) .retryingOnce (Json.ofText? (some "a"))
      (.object [("html", .text "<b>x</b>")])) {}).1 = .ok html.confirmation := by decide +kernel
  rw [hrun] at hok
  subst hok
  rw [List.nil_append] at htrace
  subst htrace
  exact ⟨h', hrun, hends⟩

/-- A request for a live agent whose input is a number: no text comes back, and the call is not
    counted. -/
theorem escapes_numberInput : (Conditions.plain .busyOnce).IsOrderly ∧
    (Json.object [("input", .int 5)]).isFinite = true ∧
    ¬ ∃ text h', exec (requestAgent.call (.plain .busyOnce) .retryingOnce (.text "a")
        (.object [("input", .int 5)])) {} = (.ok text, h') := by
  refine ⟨isOrderly_usual rfl isWhole_busyOnce isOrderly_busyOnce, by decide, ?_⟩
  rintro ⟨text, h', hrun⟩
  have hresult : (exec (requestAgent.call (.plain .busyOnce) .retryingOnce (.text "a")
      (.object [("input", .int 5)])) {}).1 = .error (.misused .trimmable) := by decide +kernel
  rw [hrun] at hresult
  cases hresult

end Tool

end ChatRelay

/-
  What an aborted delivery takes along.

  A delivery that fails as one is caught: a batch makes a record of the failure, a tool
  a text.  One that breaks off is not.  `AbortsOnly` says of a computation that, once
  the connector saw an attempt, only the abort of a delivery makes it fail; this
  holds of the work on an item (`abortsOnly_runItem`) and of the call of a tool
  (`abortsOnly_call`).  `delivery_aborts` puts together when deliveries are aborted,
  and what by.
-/
import ChatRelay.Proofs.Batch.Item
import ChatRelay.Proofs.Connector.Ending
import ChatRelay.Tool.Execute

namespace ChatRelay

/-! ## Aborts -/

/-- The last thing that happened is an attempt at which a delivery of the client was aborted. -/
def AbortedAt (c : Conditions) (client : Client) (h h' : History) : Prop :=
  ∃ path body n, h'.trace.getLast? = some (.call (attemptCall client path body n)) ∧
    h'.sent = h.sent + n + 1 ∧ Abort c client path body n (h.sent + n)

/-- Once the connector saw an attempt, the computation fails only because a delivery of the client
    is aborted.  The failures that are caught later do not count. -/
def AbortsOnly (c : Conditions) (client : Client) (isCaught : Failure → Bool) {α : Type}
    (x : Relay α) : Prop :=
  ∀ h f h', exec x h = (.error f, h') → isCaught f = false → h.sent < h'.sent →
    AbortedAt c client h h'

section Aborts

variable {c : Conditions} {client : Client} {isCaught : Failure → Bool} {α β : Type}

theorem abortsOnly_deliver (hw : c.IsWhole) (hj : ∀ n, (c.jitter n).toReal?.isSome = true)
    (client : Client) (path : String) (body session : Json) :
    AbortsOnly c client Failure.isUndelivered (deliver c client path body session) := by
  intro h f h' hrun hf hsent
  have hbreaks := delivery_aborts_iff c client path body hw hj h.sent
  rw [exec_deliver, Prod.mk.injEq] at hrun
  obtain ⟨hr, rfl⟩ := hrun
  have hclosing : closing c path session (.error f) = [] := by
    cases f with
    | undelivered u => cases hf
    | _ => rfl
  have hreached : (attemptCall client path body 0).reached c = 1 := by
    -- otherwise there is only one attempt, which the connector does not see
    unfold Call.reached
    cases hrefused : c.http.refusal? (client.address ++ path) body with
    | none => rw [attemptCall, hrefused]; rfl
    | some m =>
      have hunseen : (attemptCall client path body 0).reached c = 0 := by
        rw [Call.reached, attemptCall, hrefused]
        rfl
      simp [deliverySent, delivery_of_refused hrefused, hunseen] at hsent
  rw [hr] at hbreaks
  refine ⟨path, body, _, ?_, ?_, hbreaks.1 ⟨f, rfl, hf⟩⟩
  · rw [deliveryTrace, hr, hclosing, List.append_nil, List.getLast?_append,
      getLast?_attemptsTrace, Nat.zero_add]
    rfl
  · rw [deliverySent, hreached, Nat.add_assoc]

/-- What goes before and does not call the connector does not matter. -/
theorem AbortsOnly.adds_bind {x : Relay α} {f : α → Relay β} {r : Except Failure α}
    {t : List Entry} (hx : Adds x r 0 t) (hf : ∀ a, AbortsOnly c client isCaught (f a)) :
    AbortsOnly c client isCaught (x >>= f) := by
  intro h e h' hrun he hsent
  cases r with
  | error e' =>
    rw [exec_bind_error (hx h), Prod.mk.injEq] at hrun
    obtain ⟨-, rfl⟩ := hrun
    exact absurd hsent (Nat.lt_irrefl _)
  | ok a =>
    rw [exec_bind_ok (hx h)] at hrun
    exact (hf a _ e h' hrun he hsent :)

/-- Neither does what goes after and cannot fail. -/
theorem AbortsOnly.bind_pure {x : Relay α} (hx : AbortsOnly c client isCaught x) (b : β) :
    AbortsOnly c client isCaught (x >>= fun _ => pure b) := by
  intro h e h' hrun he hsent
  rcases hex : exec x h with ⟨e' | a, g⟩
  · rw [exec_bind_error hex] at hrun
    cases hrun
    exact hx h e h' hex he hsent
  · rw [exec_bind_ok hex] at hrun
    cases hrun

/-- Failures that a map on results passes on come from before. -/
theorem AbortsOnly.map {x : Relay α} {y : Relay β} {g : Except Failure α → Except Failure β}
    {isCaught' : Failure → Bool} (hx : AbortsOnly c client isCaught x)
    (hy : ∀ h, exec y h = (exec x h).map g id)
    (hg : ∀ r f, g r = .error f → isCaught' f = false → r = .error f ∧ isCaught f = false) :
    AbortsOnly c client isCaught' y := by
  intro h f h' hrun hf hsent
  rw [hy] at hrun
  rcases hex : exec x h with ⟨r, h''⟩
  rw [hex, Prod.map, Prod.mk.injEq] at hrun
  obtain ⟨hr, rfl⟩ := hrun
  obtain ⟨rfl, hcaught⟩ := hg r f hr hf
  exact hx h f h'' hex hcaught hsent

end Aborts

/-! ## Batches -/

section Batch

variable {c : Conditions} (hw : c.IsWhole) (hj : ∀ n, (c.jitter n).toReal?.isSome = true)

include hw hj in
theorem abortsOnly_sendMessage (ctx : Context) (e : Envelope) :
    AbortsOnly c ctx.client (fun _ => false) (sendMessage c ctx e) := by
  refine (abortsOnly_deliver hw hj _ _ _ _).map (exec_sendMessage c ctx e) fun r f hr _ => ?_
  cases r with
  | ok fs => cases hr
  | error f' =>
    cases f' with
    | undelivered u => cases hr
    | _ => cases hr; exact ⟨rfl, rfl⟩

include hw hj in
/-- **Only an abort ends the work on an item** for which the connector was called. -/
theorem abortsOnly_runItem (ctx : Context) (m : MessageJob) (item : Json) :
    AbortsOnly c ctx.client (fun _ => false) (runItem c ctx (.message m) item) := by
  have hrun : AbortsOnly c ctx.client (fun _ => false)
      (Job.run c ctx (.message m) (recordOf item)) :=
    .adds_bind (adds_liftM _) fun id => .adds_bind (adds_build c ctx _ m) fun e =>
      abortsOnly_sendMessage hw hj ctx e
  refine hrun.map (exec_runItem c ctx (.message m) item) fun r f hr _ => ?_
  cases r with
  | ok fs => cases hr
  | error f' =>
    rw [itemResult] at hr
    split at hr <;> cases hr
    exact ⟨rfl, rfl⟩

/-- A computation run over a list fails at one of its elements. -/
theorem error_of_mapM {α β : Type} {f : α → Relay β} {xs : List α} {h h' : History} {e : Failure}
    (hrun : exec (xs.mapM f) h = (.error e, h')) :
    ∃ x ∈ xs, ∃ g, exec (f x) g = (.error e, h') := by
  obtain ⟨before, x, rest, ys, g, rfl, -, hx⟩ := exec_mapM_error_iff.1 hrun
  exact ⟨x, by simp, g, hx⟩

end Batch

/-! ## Tools -/

section Tool

variable {c : Conditions} (hw : c.IsWhole) (hj : ∀ n, (c.jitter n).toReal?.isSome = true)

include hw hj in
theorem abortsOnly_perform (client : Client) (session args : Json) (t : Tool) :
    AbortsOnly c client Failure.isUndelivered (t.perform c client session args) := by
  have hsend : ∀ e, AbortsOnly c client Failure.isUndelivered (Tool.sendEnvelope c client e) :=
    fun e => (abortsOnly_deliver hw hj client _ _ _).bind_pure ()
  cases t with
  | richContent =>
    exact .adds_bind (adds_liftM _) fun fs => .adds_bind (adds_ofContent _) fun b =>
      .adds_bind (adds_buildMessage _ _ _ _ _) hsend
  | html => exact .adds_bind (adds_liftM _) fun fs => .adds_bind (adds_buildHtml _ _) hsend
  | escalate =>
    exact .adds_bind (adds_liftM _) fun fs => .adds_bind (adds_buildEscalation _ _ _ _) hsend
  | requestAgent =>
    exact .adds_bind (adds_liftM _) fun r => (abortsOnly_deliver hw hj client _ _ _).bind_pure ()

/-- The call of a tool fails as its work fails, unless that failure is caught. -/
theorem error_of_call {client : Client} {session args : Json} {t : Tool} {h h' : History}
    {f : Failure} (hrun : exec (t.call c client session args) h = (.error f, h')) :
    ∃ args', exec (t.perform c client session args') h = (.error f, h') ∧
      f.isUndelivered = false := by
  unfold Tool.call at hrun
  cases hs : session.isTruthy with
  | false =>
    simp only [hs] at hrun
    cases hrun
  | true =>
    simp only [hs, Bool.not_true, Bool.false_eq_true, if_false, exec_bind, exec_tryCatch] at hrun
    refine ⟨if args.isTruthy then args else .object [], ?_⟩
    generalize exec (t.perform c client session (if args.isTruthy then args else .object [])) h = p
      at hrun ⊢
    rcases p with ⟨f' | _, g⟩
    · cases f' with
      | invalid | undelivered => cases hrun
      | _ => cases hrun; exact ⟨rfl, rfl⟩
    · cases hrun

include hw hj in
/-- **Only an abort escapes from the call of a tool** for which the connector was called. -/
theorem abortsOnly_call (client : Client) (session args : Json) (t : Tool) :
    AbortsOnly c client (fun _ => false) (t.call c client session args) := by
  intro h f h' hrun _ hsent
  obtain ⟨args', hperform, hf⟩ := error_of_call hrun
  exact abortsOnly_perform hw hj client session args' t h f h' hperform hf hsent

end Tool

/-! ## The reasons -/

/-- **What a failure says about another attempt is an error just if the failure tells of a status
    that is worth one, with a garbled hint.** -/
theorem classify_error_iff (f : Failure) : (∃ e, f.classify = .error e) ↔
    ∃ name code hint message, f = .incident ⟨name, .status code hint, message⟩ ∧
      retryableStatus code = true ∧ IsGarbled hint := by
  constructor
  · rintro ⟨e, he⟩
    cases f with
    | incident i =>
      obtain ⟨name, sort, message⟩ := i
      cases sort with
      | status code hint =>
        exact ⟨name, code, hint, message, rfl, (classifyStatus_error_iff code hint).1 ⟨e, he⟩⟩
      | _ => cases he
    | misused use => cases use <;> cases he
    | _ => cases he
  · rintro ⟨name, code, hint, message, rfl, hreason⟩
    exact (classifyStatus_error_iff code hint).2 hreason

section Main

variable {c : Conditions}

/-- **When deliveries are aborted, and what by**, if what is posted is whole.  A delivery succeeds,
    or fails with the body that was posted, and is then counted and logged; or it breaks off, just
    if its last attempt is a reason for that.  Reading a failure is an error just for a garbled
    hint.  Nothing else that the connector answers ends a batch or the call of a tool. -/
theorem delivery_aborts (hw : c.IsWhole) (hj : ∀ n, (c.jitter n).toReal?.isSome = true) :
    (∀ client path body session h, ∃ ds r e h',
      exec (deliver c client path body session) h = (r, h') ∧
      h'.trace = h.trace ++ (attemptsTrace client path body 0 ds ++ e) ∧
      Ending c path body session r e ∧
      (BreaksOff r ↔ Abort c client path body ds.length (h.sent + ds.length))) ∧
    (∀ f : Failure, (∃ e, f.classify = .error e) ↔
      ∃ name code hint message, f = .incident ⟨name, .status code hint, message⟩ ∧
        retryableStatus code = true ∧ IsGarbled hint) ∧
    (∀ ctx m items h f h',
      exec (runBatch c ctx (.message m) (.array items)) h = (.error f, h') →
      ∃ item ∈ worklist items, ∃ g, exec (runItem c ctx (.message m) item) g = (.error f, h') ∧
        (g.sent < h'.sent → AbortedAt c ctx.client g h')) ∧
    ∀ (t : Tool) client session args h f h',
      exec (t.call c client session args) h = (.error f, h') → h.sent < h'.sent →
      AbortedAt c client h h' := by
  refine ⟨fun client path body session => deliver_ends c client path body hw hj session,
    classify_error_iff, ?_, ?_⟩
  · intro ctx m items h f h' hrun
    rw [runBatch_eq] at hrun
    obtain ⟨item, hitem, g, hg⟩ := error_of_mapM hrun
    exact ⟨item, hitem, g, hg, abortsOnly_runItem hw hj ctx m item g f h' hg rfl⟩
  · intro t client session args h f h' hrun hsent
    exact abortsOnly_call hw hj client session args t h f h' hrun rfl hsent

/-- A body that is delivered at the second attempt. -/
theorem not_aborted_busyOnce : ∃ r e h' n,
    exec (deliver (.plain .busyOnce) .retryingOnce messagePath (itemOf "a")
      (.text "a")) {} = (r, h') ∧ r.isOk = true ∧
    Ending (.plain .busyOnce) messagePath (itemOf "a") (.text "a") r e ∧
    ¬ Abort (.plain .busyOnce) .retryingOnce messagePath (itemOf "a") n n := by
  have hwhole : (Conditions.plain .busyOnce).IsWhole := isWhole_usual rfl isWhole_busyOnce
  obtain ⟨ds, r, e, h', hrun, -, hending, habort⟩ :=
    (delivery_aborts (c := .plain .busyOnce) hwhole fun _ => rfl).1 .retryingOnce messagePath
      (itemOf "a") (.text "a") {}
  have hok : (exec (deliver (.plain .busyOnce) .retryingOnce messagePath
      (itemOf "a") (.text "a")) {}).1.isOk = true := by decide +kernel
  rw [hrun] at hok
  refine ⟨r, e, h', ds.length, hrun, hok, hending, fun hreason => ?_⟩
  rw [show ({} : History).sent + ds.length = ds.length from Nat.zero_add _] at habort
  obtain ⟨f, rfl, -⟩ := habort.2 hreason
  cases hok

/-- A connector that is busy, and for a number of seconds written as a superscript. -/
def Connector.superscript : Connector := fun _ _ =>
  .answer { status := 503, headers := [("Retry-After", "²")] }

/-- Its answer is read as no failed delivery: it ends the delivery, a batch that goes on after
    failures, and the call of a tool. -/
theorem aborts_superscript :
    (∀ n call, ∃ a, Connector.superscript n call = .answer a) ∧ (itemOf "a").isFinite = true ∧
    (∃ e, (Failure.incident ⟨"HTTPStatusError", .status 503 (some "²"), ""⟩).classify =
      .error e) ∧
    (¬ ∃ r e h', exec (deliver (.plain .superscript) .retryingOnce messagePath
        (itemOf "a") (.text "a")) {} = (r, h') ∧ ¬ BreaksOff r ∧
      Ending (.plain .superscript) messagePath (itemOf "a") (.text "a") r e) ∧
    (¬ ∃ rs h', exec (runBatch (.plain .superscript) (.showing "x") (.message .html)
      (.array [itemOf "a"])) {} = (.ok rs, h')) ∧
    ¬ ∃ s h', exec (Tool.html.call (.plain .superscript) .retryingOnce (.text "a")
      (.object [("html", .text "x")])) {} = (.ok s, h') := by
  refine ⟨fun _ _ => ⟨_, rfl⟩, by decide +kernel, ⟨.notReal "²", by decide +kernel⟩, ?_, ?_, ?_⟩
  · rintro ⟨r, e, h', hrun, hnot, -⟩
    have hresult : (exec (deliver (.plain .superscript) .retryingOnce messagePath
        (itemOf "a") (.text "a")) {}).1 = .error (.numeral (.notReal "²")) := by decide +kernel
    rw [hrun] at hresult
    exact hnot ⟨_, hresult, rfl⟩
  · rintro ⟨rs, h', hrun⟩
    have hresult : (exec (runBatch (.plain .superscript) (.showing "x") (.message .html)
        (.array [itemOf "a"])) {}).1.isOk = false := by decide +kernel
    rw [hrun] at hresult
    cases hresult
  · rintro ⟨s, h', hrun⟩
    have hresult : (exec (Tool.html.call (.plain .superscript) .retryingOnce
        (.text "a") (.object [("html", .text "x")])) {}).1.isOk = false := by decide +kernel
    rw [hrun] at hresult
    cases hresult

end Main

end ChatRelay

/-
  Working off the records of a batch.

  What is done with the failures of a record is told by functions on results:
  `messageResult` and `requestResult` for the failures of a delivery,
  `itemResult` for those of a session.  None of them touches the trace
  (`exec_sendMessage`, `exec_sendRequest`, `exec_runItem`).  A batch is this work
  on each item of its `worklist` (`runBatch_eq`).
-/
import ChatRelay.Proofs.Connector.Failures
import ChatRelay.Proofs.Envelope.Building

namespace ChatRelay

/-! ## Deliveries -/

/-- The record of a message, by how its delivery ended. -/
def messageResult (ctx : Context) (e : Envelope) :
    Except Failure Fields → Except Failure Fields
  | .ok _ => .ok (Json.put "sent" (.bool true) e.wire)
  | .error (.undelivered u) => .ok (if ctx.continueOnFail then errorRecord u.message
      else errorRecord u.message ++ [("body", .object e.wire)])
  | .error f => .error f

/-- The record of a request, by how its delivery ended. -/
def requestResult (ctx : Context) : Except Failure Fields → Except Failure Fields
  | .ok fs => .ok fs
  | .error (.undelivered u) =>
    if ctx.continueOnFail then .ok (errorRecord u.message) else .error (.undelivered u)
  | .error f => .error f

section Results

variable {ctx : Context} {e : Envelope} {r : Except Failure Fields} {f : Failure}

theorem messageResult_of_error (h : f.isUndelivered = false) :
    messageResult ctx e (.error f) = .error f := by
  cases f with
  | undelivered u => cases h
  | _ => rfl

theorem requestResult_of_error (h : f.isUndelivered = false) :
    requestResult ctx (.error f) = .error f := by
  cases f with
  | undelivered u => cases h
  | _ => rfl

/-- A message fails if its delivery ends in a failure other than a failed delivery. -/
theorem messageResult_error_iff :
    messageResult ctx e r = .error f ↔ r = .error f ∧ f.isUndelivered = false := by
  rcases r with f' | fs
  · cases hf : f'.isUndelivered with
    | true =>
      obtain ⟨u, rfl⟩ := exists_undelivered hf
      refine ⟨nofun, ?_⟩
      rintro ⟨⟨⟩, hnot⟩
      cases hnot
    | false =>
      rw [messageResult_of_error hf]
      refine ⟨?_, fun h => h.1⟩
      rintro ⟨⟩
      exact ⟨rfl, hf⟩
  · exact ⟨nofun, nofun⟩

/-- A request fails if its delivery ends in a failure, unless the delivery failed and the batch goes
    on. -/
theorem requestResult_error_iff : requestResult ctx r = .error f ↔
    r = .error f ∧ (f.isUndelivered && ctx.continueOnFail) = false := by
  rcases r with f' | fs
  · cases hf : f'.isUndelivered with
    | true =>
      obtain ⟨u, rfl⟩ := exists_undelivered hf
      cases hc : ctx.continueOnFail with
      | true =>
        simp only [requestResult, hc, if_true, reduceCtorEq, false_iff, not_and]
        rintro ⟨⟩
        simp [hf]
      | false => simp [requestResult, hc]
    | false =>
      rw [requestResult_of_error hf]
      refine ⟨?_, fun h => h.1⟩
      rintro ⟨⟩
      exact ⟨rfl, by simp [hf]⟩
  · exact ⟨nofun, nofun⟩

end Results

theorem exec_sendMessage (c : Conditions) (ctx : Context) (e : Envelope) (h : History) :
    exec (sendMessage c ctx e) h =
      (exec (deliver c ctx.client messagePath (.object e.wire) (.text e.session)) h).map
        (messageResult ctx e) id := by
  unfold sendMessage
  simp only [exec_bind, exec_tryCatch]
  rcases exec (deliver c ctx.client messagePath (.object e.wire) (.text e.session)) h with
    ⟨f | fs, h'⟩
  · cases f with
    | undelivered u =>
      cases hc : ctx.continueOnFail <;> simp only [Prod.map, messageResult, hc] <;> rfl
    | _ => rfl
  · rfl

theorem exec_sendRequest (c : Conditions) (ctx : Context) (r : ControlRequest) (h : History) :
    exec (sendRequest c ctx r) h =
      (exec (deliver c ctx.client (statePath r.path) (.object r.body) (.text r.session)) h).map
        (requestResult ctx) id := by
  unfold sendRequest
  simp only [exec_bind, exec_tryCatch]
  rcases exec (deliver c ctx.client (statePath r.path) (.object r.body) (.text r.session)) h with
    ⟨f | fs, h'⟩
  · cases f with
    | undelivered u =>
      cases hc : ctx.continueOnFail <;> simp only [Prod.map, requestResult, hc] <;> rfl
    | _ => rfl
  · rfl

/-! ## Records -/

/-- The record that an item of a batch counts as. -/
def recordOf (item : Json) : Json := if item.isObject then item else .object []

/-- The record of an item, by how its work ended. -/
def itemResult (ctx : Context) : Except Failure Fields → Except Failure Fields
  | .ok fs => .ok fs
  | .error f =>
    if f.isSessionFailure && ctx.continueOnFail then .ok (errorRecord f.message) else .error f

theorem itemResult_of_error {ctx : Context} {f : Failure} (hf : f.isSessionFailure = false) :
    itemResult ctx (.error f) = .error f := by
  simp [itemResult, hf]

theorem exec_runItem (c : Conditions) (ctx : Context) (job : Job) (item : Json) (h : History) :
    exec (runItem c ctx job item) h =
      (exec (job.run c ctx (recordOf item)) h).map (itemResult ctx) id := by
  unfold runItem
  simp only [exec_bind, exec_tryCatch]
  change _ = Prod.map _ id (exec (job.run c ctx (if item.isObject then item else .object [])) h)
  rcases exec (job.run c ctx (if item.isObject then item else .object [])) h with ⟨f | fs, h'⟩
  · by_cases hf : (f.isSessionFailure && ctx.continueOnFail) = true
    · simp only [after, hf, if_true, Prod.map, itemResult]; rfl
    · simp only [after, hf, Prod.map, itemResult]; rfl
  · rfl

theorem missingSession_of_resolve {explicit outputs record : Json} {node : Option String}
    {f : Failure} (h : Session.resolve explicit outputs record node = .error f) :
    f = .missingSession := by
  unfold Session.resolve at h
  extract_lets found at h
  split at h <;> cases h
  rfl

theorem invalidSession_of_validate {s : String} {f : Failure} (h : Session.validate s = .error f) :
    ∃ flaw, f = .invalidSession flaw := by
  unfold Session.validate at h
  split at h <;> cases h
  exact ⟨_, rfl⟩

/-- A record without a usable session fails with a session failure. -/
theorem isSessionFailure_of_resolveSession {ctx : Context} {s : Settings} {record : Json}
    {f : Failure} (h : ctx.resolveSession s record = .error f) : f.isSessionFailure = true := by
  unfold Context.resolveSession at h
  cases hr : Session.resolve ctx.session ctx.outputs record (some s.triggerNode) with
  | error e =>
    rw [hr] at h
    cases h
    rw [missingSession_of_resolve hr]
    rfl
  | ok id =>
    rw [hr, ok_bind] at h
    cases hv : Session.validate id with
    | ok _ => rw [hv] at h; cases h
    | error e =>
      rw [hv] at h
      cases h
      obtain ⟨flaw, rfl⟩ := invalidSession_of_validate hv
      rfl

/-- A failure that does not lie with the input concerns no session. -/
theorem not_isSessionFailure {f : Failure} (h : f.isInputFailure = false) :
    f.isSessionFailure = false := by
  cases f with
  | missingSession | invalidSession => cases h
  | _ => rfl

section Usable

variable {ctx : Context} {s : Settings} {item : Json}

/-- The item has a usable session. -/
def Context.isUsable (ctx : Context) (s : Settings) (item : Json) : Bool :=
  (ctx.resolveSession s (recordOf item)).isOk

theorem isUsable_of_ok {id : String} (h : ctx.resolveSession s (recordOf item) = .ok id) :
    ctx.isUsable s item = true := by
  rw [Context.isUsable, h]
  rfl

theorem isUsable_eq_false {f : Failure} (h : ctx.resolveSession s (recordOf item) = .error f) :
    ctx.isUsable s item = false := by
  rw [Context.isUsable, h]
  rfl

theorem exists_of_isUsable (h : ctx.isUsable s item = true) :
    ∃ id, ctx.resolveSession s (recordOf item) = .ok id := by
  cases hid : ctx.resolveSession s (recordOf item) with
  | ok id => exact ⟨id, rfl⟩
  | error f => simp [isUsable_eq_false hid] at h

end Usable

section Run

variable {c : Conditions} {ctx : Context} {m : MessageJob} {item : Json} {h : History}

theorem exec_run_error {f : Failure} (hf : ctx.resolveSession c.settings (recordOf item) = .error f)
    (job : Job) : exec (job.run c ctx (recordOf item)) h = (.error f, h) := by
  unfold Job.run
  rw [hf]
  rfl

theorem exec_run_unbuilt {id : String} {f : Failure}
    (hid : ctx.resolveSession c.settings (recordOf item) = .ok id)
    (he : m.envelope c ctx (.text id) = .error f) :
    exec (Job.run c ctx (.message m) (recordOf item)) h =
      (.error f, { h with trace := h.trace ++ (m.dropped ctx).map .count }) := by
  have hbuild := adds_build c ctx (.text id) m h
  rw [he, builtTrace, List.append_nil] at hbuild
  unfold Job.run
  rw [hid]
  exact (exec_bind_ok (exec_liftM _ h)).trans (exec_bind_error hbuild)

/-- A message is built and counted, and then sent. -/
theorem exec_run_message {id : String} {e : Envelope}
    (hid : ctx.resolveSession c.settings (recordOf item) = .ok id)
    (he : m.envelope c ctx (.text id) = .ok e) :
    exec (Job.run c ctx (.message m) (recordOf item)) h = exec (sendMessage c ctx e)
      { h with trace := h.trace ++
        ((m.dropped ctx).map .count ++ [.count (.built e.kind)]) } := by
  have hbuild := adds_build c ctx (.text id) m h
  rw [he, builtTrace] at hbuild
  unfold Job.run
  rw [hid]
  exact (exec_bind_ok (exec_liftM _ h)).trans (exec_bind_ok hbuild)

theorem exec_run_built {id : String} {e : Envelope}
    (hid : ctx.resolveSession c.settings (recordOf item) = .ok id)
    (he : m.envelope c ctx (.text id) = .ok e) :
    exec (Job.run c ctx (.message m) (recordOf item)) h =
      (messageResult ctx e (delivery c ctx.client messagePath (.object e.wire) h.sent).2, {
        sent := h.sent + deliverySent c ctx.client messagePath (.object e.wire) h.sent
        trace := h.trace ++ ((m.dropped ctx).map .count ++ [.count (.built e.kind)]) ++
          deliveryTrace c ctx.client messagePath (.object e.wire) (.text e.session) h.sent }) := by
  rw [exec_run_message hid he, exec_sendMessage, exec_deliver]
  rfl

end Run

/-! ## Batches -/

/-- The items that a batch works off: a batch without items has a single empty one. -/
def worklist (items : List Json) : List Json := if items = [] then [.object []] else items

theorem worklist_of_ne {items : List Json} (h : items ≠ []) : worklist items = items := if_neg h

theorem length_worklist (items : List Json) : (worklist items).length = max 1 items.length := by
  cases items with
  | nil => rfl
  | cons item rest =>
    rw [worklist_of_ne (List.cons_ne_nil item rest), List.length_cons]
    omega

theorem listed_array (vs : List Json) : listed (.array vs) = .ok vs := by
  cases vs <;> rfl

theorem runBatch_eq (c : Conditions) (ctx : Context) (job : Job) (items : List Json) :
    runBatch c ctx job (.array items) = (worklist items).mapM (runItem c ctx job) := by
  have hitems : batchItems (.array items) = .ok (worklist items) := by
    cases items <;> rfl
  rw [runBatch, hitems]
  rfl

/-! ## Sample batches -/

/-- A batch that shows HTML and goes on after failures. -/
def Context.showing (html : String) : Context where
  client := { address := "http://cobalt.test", timeout := .int 10, maxRetries := 1 }
  continueOnFail := true
  params := { html := .text html }

/-- An item with a session. -/
def itemOf (session : String) : Json := .object [("sessionId", .text session)]

end ChatRelay

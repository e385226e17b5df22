/-
  Where a batch stops.

  The work on an item fails for one of three reasons (`Stop`, `exec_runItem_error_iff`): its
  session cannot be used and the batch does not go on, the job puts up no parcel, or the
  delivery of the parcel fails in a way after which the job does not go on.  A batch fails at
  the first item where one of them holds (`exec_runBatch_error_iff`).

  `batch_fails_before_sending` is about the second reason.  It holds for all sessions or for
  none, so that it shows at the first item with a usable session, and nothing has been sent
  by then.
-/
import ChatRelay.Proofs.Batch.Parcel

namespace ChatRelay

/-- Why the work on an item fails, with which failure, and which history it leaves. -/
inductive Stop (c : Conditions) (ctx : Context) (job : Job) (item : Json) (h : History) :
    Failure → History → Prop
  | unusable {f : Failure} : ctx.resolveSession c.settings (recordOf item) = .error f →
      ctx.continueOnFail = false → Stop c ctx job item h f h
  | unbuilt {id : String} {f : Failure} :
      ctx.resolveSession c.settings (recordOf item) = .ok id → job.parcel c ctx id = .error f →
      Stop c ctx job item h f (h.counting (job.dropped ctx))
  | undelivered {id : String} {p : Parcel} {f : Failure} {h' : History} :
      ctx.resolveSession c.settings (recordOf item) = .ok id → job.parcel c ctx id = .ok p →
      exec (deliver c ctx.client p.path p.body p.session) (h.counting p.counts) =
        (.error f, h') →
      job.absorbs ctx f = false → Stop c ctx job item h f h'

/-! ## Items -/

section Item

variable {c : Conditions} {ctx : Context} {job : Job} {item : Json} {h h' : History} {f : Failure}

/-- A delivery does not end in a session failure. -/
theorem not_isSessionFailure_of_deliver {p : Parcel} {g : History}
    (hd : exec (deliver c ctx.client p.path p.body p.session) g = (.error f, h')) :
    f.isSessionFailure = false := by
  rw [exec_deliver] at hd
  exact not_isSessionFailure (not_isInputFailure_of_delivery c ctx.client p.path p.body g.sent
    (congrArg Prod.fst hd))

/-- A delivery that ends in a failure after which the job does not go on is such a reason. -/
theorem stop_of_delivery {id : String} {p : Parcel}
    (hid : ctx.resolveSession c.settings (recordOf item) = .ok id)
    (hp : job.parcel c ctx id = .ok p)
    (hd : (delivery c ctx.client p.path p.body h.sent).2 = .error f)
    (habs : job.absorbs ctx f = false) : ∃ h', Stop c ctx job item h f h' := by
  obtain ⟨h', hdeliver⟩ : ∃ h', exec (deliver c ctx.client p.path p.body p.session)
      (h.counting p.counts) = (.error f, h') :=
    ⟨_, (exec_deliver c ctx.client p.path p.body p.session _).trans (Prod.ext hd rfl)⟩
  exact ⟨h', .undelivered hid hp hdeliver habs⟩

/-- **The work on an item fails for these reasons, and for no other.** -/
theorem exec_runItem_error_iff :
    exec (runItem c ctx job item) h = (.error f, h') ↔ Stop c ctx job item h f h' := by
  rw [exec_runItem]
  constructor
  · intro hrun
    cases hid : ctx.resolveSession c.settings (recordOf item) with
    | error f' =>
      have hsession := isSessionFailure_of_resolveSession hid
      rw [exec_run_error hid] at hrun
      cases hc : ctx.continueOnFail with
      | true =>
        simp only [Prod.map, itemResult, hsession, hc, Bool.and_self, if_true] at hrun
        cases hrun
      | false =>
        simp only [Prod.map, itemResult, hc, Bool.and_false, Bool.false_eq_true, if_false] at hrun
        cases hrun
        exact .unusable hid hc
    | ok id =>
      cases hp : job.parcel c ctx id with
      | error f' =>
        have hsession := isSessionless_parcel c ctx id job f' hp
        rw [exec_run_of_none hid hp, Prod.map, itemResult_of_error hsession] at hrun
        cases hrun
        exact .unbuilt hid hp
      | ok p =>
        rcases hd : exec (deliver c ctx.client p.path p.body p.session) (h.counting p.counts) with
          ⟨r, g⟩
        obtain ⟨r', hrun', hr'⟩ := exec_run_of_parcel hid hp hd
        rw [hrun'] at hrun
        rcases r' with f' | fs
        · obtain ⟨rfl, habs⟩ := (hr' f').1 rfl
          have hsession := not_isSessionFailure_of_deliver hd
          rw [Prod.map, itemResult_of_error hsession] at hrun
          cases hrun
          exact .undelivered hid hp hd habs
        · cases hrun
  · intro hstop
    cases hstop with
    | unusable hf hc =>
      rw [exec_run_error hf]
      simp [itemResult, hc]
    | unbuilt hid hp =>
      rw [exec_run_of_none hid hp]
      exact Prod.ext (itemResult_of_error (isSessionless_parcel c ctx _ job f hp)) rfl
    | undelivered hid hp hd habs =>
      obtain ⟨r', hrun, hr'⟩ := exec_run_of_parcel hid hp hd
      rw [hrun, (hr' f).2 ⟨rfl, habs⟩]
      exact Prod.ext (itemResult_of_error (not_isSessionFailure_of_deliver hd)) rfl

/-- An item without a usable session leaves no trace if the batch goes on. -/
theorem exec_runItem_of_unusable (job : Job) (h : History)
    (hitem : ctx.isUsable c.settings item = false) (hc : ctx.continueOnFail = true) :
    ∃ fs, exec (runItem c ctx job item) h = (.ok fs, h) := by
  cases hid : ctx.resolveSession c.settings (recordOf item) with
  | ok id => simp [isUsable_of_ok hid] at hitem
  | error f =>
    refine ⟨errorRecord f.message, ?_⟩
    rw [exec_runItem, exec_run_error hid]
    simp [itemResult, isSessionFailure_of_resolveSession hid, hc]

end Item

/-! ## Batches -/

section Batch

variable {c : Conditions} {ctx : Context} {job : Job} {items : List Json} {h h' : History}
  {f : Failure}

/-- **A batch fails at the first item whose work fails.** -/
theorem exec_runBatch_error_iff :
    exec (runBatch c ctx job (.array items)) h = (.error f, h') ↔
      ∃ before item rest rs g, worklist items = before ++ item :: rest ∧
        exec (before.mapM (runItem c ctx job)) h = (.ok rs, g) ∧ Stop c ctx job item g f h' := by
  rw [runBatch_eq, exec_mapM_error_iff]
  simp only [exec_runItem_error_iff]

/-- Items without usable sessions leave no trace if the batch goes on. -/
theorem exec_mapM_of_unusable (job : Job) (h : History)
    (hitems : ∀ item ∈ items, ctx.isUsable c.settings item = false)
    (hc : items = [] ∨ ctx.continueOnFail = true) :
    ∃ rs, exec (items.mapM (runItem c ctx job)) h = (.ok rs, h) := by
  induction items with
  | nil => exact ⟨[], rfl⟩
  | cons item rest ih =>
    have hgoes : ctx.continueOnFail = true := hc.resolve_left (List.cons_ne_nil item rest)
    obtain ⟨fs, hfs⟩ := exec_runItem_of_unusable job h (hitems item List.mem_cons_self) hgoes
    obtain ⟨rs, hrs⟩ := ih (fun x hx => hitems x (List.mem_cons_of_mem item hx)) (Or.inr hgoes)
    exact ⟨fs :: rs, exec_mapM_cons hfs hrs⟩

/-- Where no session gets a parcel, the items that are worked off have no usable session. -/
theorem unusable_of_exec_mapM {rs : List Fields} (hnone : ∀ id, job.parcel c ctx id = .error f)
    (hrun : exec (items.mapM (runItem c ctx job)) h = (.ok rs, h')) :
    (∀ item ∈ items, ctx.isUsable c.settings item = false) ∧
      (items = [] ∨ ctx.continueOnFail = true) ∧ h' = h := by
  induction items generalizing h rs with
  | nil =>
    cases hrun
    exact ⟨nofun, Or.inl rfl, rfl⟩
  | cons item rest ih =>
    obtain ⟨fs, rs, g, hitem, hrest, -⟩ := ok_of_exec_mapM_cons hrun
    -- an item that could fail would have
    have hnot : ∀ f' g', ¬ Stop c ctx job item h f' g' := by
      intro f' g' hstop
      rw [exec_runItem_error_iff.2 hstop] at hitem
      cases hitem
    have hunusable : ctx.isUsable c.settings item = false := by
      cases hid : ctx.resolveSession c.settings (recordOf item) with
      | ok id => exact absurd (.unbuilt hid (hnone id)) (hnot f _)
      | error f' => exact isUsable_eq_false hid
    have hgoes : ctx.continueOnFail = true := by
      cases hid : ctx.resolveSession c.settings (recordOf item) with
      | ok id => simp [isUsable_of_ok hid] at hunusable
      | error f' =>
        by_contra hc
        exact hnot f' h (.unusable hid (by simpa using hc))
    obtain ⟨fs', hfs'⟩ := exec_runItem_of_unusable job h hunusable hgoes
    obtain ⟨hall, -, rfl⟩ := ih hrest
    refine ⟨?_, Or.inr hgoes, ?_⟩
    · intro x hx
      rcases List.mem_cons.1 hx with rfl | hx
      · exact hunusable
      · exact hall x hx
    · rw [hfs'] at hitem
      cases hitem
      rfl

end Batch

/-- The failure of a batch comes out of a delivery: that of the parcel of some item, after the items
    before it were worked off. -/
def ThrownByDelivery (c : Conditions) (ctx : Context) (job : Job) (items : List Json)
    (h : History) (f : Failure) (h' : History) : Prop :=
  ∃ before item rest rs g id p, worklist items = before ++ item :: rest ∧
    exec (before.mapM (runItem c ctx job)) h = (.ok rs, g) ∧
    ctx.resolveSession c.settings (recordOf item) = .ok id ∧ job.parcel c ctx id = .ok p ∧
    exec (deliver c ctx.client p.path p.body p.session) (g.counting p.counts) = (.error f, h')

/-- **What is wrong with the parameters ends a batch before anything is sent.**  A batch that fails
    with no session failure, and with one that does not come out of a delivery, has made no attempt:
    all that it leaves is the count of what its content leaves out.  It fails at the first item with
    a usable session, and would for any session.  Conversely, where the parameters make no parcel,
    a batch that reaches an item with a usable session fails there. -/
theorem batch_fails_before_sending (c : Conditions) (ctx : Context) (job : Job)
    (items : List Json) (h : History) :
    (∀ f h', exec (runBatch c ctx job (.array items)) h = (.error f, h') →
      f.isSessionFailure = false → ¬ ThrownByDelivery c ctx job items h f h' →
      h'.sent = h.sent ∧ h'.trace = h.trace ++ (job.dropped ctx).map .count ∧
      (∀ id, job.parcel c ctx id = .error f) ∧
      ∃ before item rest rs, worklist items = before ++ item :: rest ∧
        (∀ x ∈ before, ctx.isUsable c.settings x = false) ∧
        ctx.isUsable c.settings item = true ∧
        exec (before.mapM (runItem c ctx job)) h = (.ok rs, h) ∧
        exec (runItem c ctx job item) h = (.error f, h')) ∧
    (∀ f, (∀ id, job.parcel c ctx id = .error f) →
      ∀ before item rest, worklist items = before ++ item :: rest →
        (∀ x ∈ before, ctx.isUsable c.settings x = false) →
        (before = [] ∨ ctx.continueOnFail = true) → ctx.isUsable c.settings item = true →
        exec (runBatch c ctx job (.array items)) h =
          (.error f, h.counting (job.dropped ctx))) := by
  constructor
  · intro f h' hrun hsession hnot
    obtain ⟨before, item, rest, rs, g, hitems, hbefore, hstop⟩ := exec_runBatch_error_iff.1 hrun
    have hitem := exec_runItem_error_iff.2 hstop
    cases hstop with
    | unusable hf hc => simp [isSessionFailure_of_resolveSession hf] at hsession
    | undelivered hid hp hd _ =>
      exact absurd ⟨before, item, rest, rs, g, _, _, hitems, hbefore, hid, hp, hd⟩ hnot
    | unbuilt hid hp =>
      have hnone : ∀ id, job.parcel c ctx id = .error f := (isSettled_parcel c ctx job).error hp
      obtain ⟨hunusable, -, rfl⟩ := unusable_of_exec_mapM hnone hbefore
      exact ⟨rfl, rfl, hnone, before, item, rest, rs, hitems, hunusable, isUsable_of_ok hid,
        hbefore, hitem⟩
  · intro f hnone before item rest hitems hunusable hgoes husable
    obtain ⟨rs, hbefore⟩ := exec_mapM_of_unusable job h hunusable hgoes
    obtain ⟨id, hid⟩ := exists_of_isUsable husable
    exact exec_runBatch_error_iff.2
      ⟨before, item, rest, rs, h, hitems, hbefore, .unbuilt hid (hnone id)⟩

/-- A reply of a kind that no record has, which the strict policy refuses. -/
def Context.hologram : Context where
  client := .retryingOnce
  continueOnFail := true
  policy := .strict
  params := { content := .array [.object [("type", .text "hologram")]] }

/-- It ends a batch at its second item, behind one without a session, before anything is sent. -/
theorem refused_behind_failure : ∃ f h',
    exec (runBatch (.plain .busyOnce) .hologram (.message .reply)
      (.array [.null, itemOf "a", itemOf "b"])) {} = (.error f, h') ∧
    f.isSessionFailure = false ∧ h'.sent = 0 ∧ h'.trace = [] ∧
    ∃ before item rest, worklist [.null, itemOf "a", itemOf "b"] = before ++ item :: rest ∧
      exec (runItem (.plain .busyOnce) .hologram (.message .reply) item) {} = (.error f, h') := by
  obtain ⟨hstops, hreaches⟩ := batch_fails_before_sending (.plain .busyOnce) .hologram
    (.message .reply) [.null, itemOf "a", itemOf "b"] {}
  have hnot : (Job.parcel (.plain .busyOnce) .hologram "a" (.message .reply)).isOk = false := by
    decide +kernel
  have hdropped : (Job.message .reply).dropped .hologram = [] := by decide +kernel
  cases hf : Job.parcel (.plain .busyOnce) .hologram "a" (.message .reply) with
  | ok p => simp [hf, Except.isOk, Except.toBool] at hnot
  | error f =>
    have hnone := (isSettled_parcel (.plain .busyOnce) .hologram (.message .reply)).error hf
    have hsession := isSessionless_parcel _ _ _ _ f hf
    have hrun := hreaches f hnone [.null] (itemOf "a") [itemOf "b"] rfl (by decide +kernel)
      (Or.inr rfl) (by decide +kernel)
    have hthrown : ∀ h', ¬ ThrownByDelivery (.plain .busyOnce) .hologram (.message .reply)
        [.null, itemOf "a", itemOf "b"] {} f h' := by
      rintro h' ⟨-, -, -, -, -, id, p, -, -, -, hp, -⟩
      cases (hnone id).symm.trans hp
    obtain ⟨hsent, htrace, -, before, item, rest, rs, hitems, -, -, -, hitem⟩ :=
      hstops f _ hrun hsession (hthrown _)
    rw [hdropped] at htrace
    exact ⟨f, _, hrun, hsession, hsent, htrace, before, item, rest, hitems, hitem⟩

end ChatRelay

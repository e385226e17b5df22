/-
  How a batch ends.

  A batch of a job whose parameters have their form is worked off, with a record for each
  item, or ends at the first item where one of four things holds (`Cut`): the item has no
  usable session and the batch does not go on, or the strict policy refuses the content of a
  reply, or a change of state is not delivered and the batch does not go on, or the work on
  the item is upset (`Upset`), by parameters that are too large or a delivery that breaks off.

  Unless an item is upset, the end of a batch of messages does not depend on the connector:
  it is told by the sessions of the items and by the content alone (`MessageJob.fate`).
-/
import ChatRelay.Proofs.Batch.Formed
import ChatRelay.Proofs.Batch.Stop
import ChatRelay.Proofs.Connector.Breach

namespace ChatRelay

/-! ## Items -/

/-- Why the work on an item with a usable session is upset, if the connector saw `sent` attempts
    before: the parameters are too large, or the delivery breaks off at its last attempt. -/
inductive Upset (c : Conditions) (ctx : Context) (job : Job) (item : Json) (sent : Nat) : Prop
  | unfit {id : String} {f : Failure} : ctx.resolveSession c.settings (recordOf item) = .ok id →
      job.Unfit c.limits ctx f → (∀ e, f ≠ .content e) → Upset c ctx job item sent
  | undeliverable {id : String} {p : Parcel} {ds : List Number} {r : Except Failure Fields} :
      ctx.resolveSession c.settings (recordOf item) = .ok id → job.parcel c ctx id = .ok p →
      delivery c ctx.client p.path p.body sent = (ds, r) →
      Breach c ctx.client p.path p.body ds.length (sent + ds.length) → Upset c ctx job item sent

/-- The failure has no category, and does not tell of a time that ran out. -/
def Failure.IsStray (f : Failure) : Prop := f.category? = none ∧ f.isTimeout = false

/-- In which failures the work on an item ends, if the connector saw `sent` attempts before. -/
inductive Cut (c : Conditions) (ctx : Context) (job : Job) (item : Json) (sent : Nat) :
    Failure → Prop
  | unusable {f : Failure} : ctx.resolveSession c.settings (recordOf item) = .error f →
      ctx.continueOnFail = false → Cut c ctx job item sent f
  | refused {e : Content.ContentError} : ctx.isUsable c.settings item = true →
      job = .message .reply → ctx.Refuses e → Cut c ctx job item sent (.content e)
  | undelivered {u : Undelivered} : ctx.isUsable c.settings item = true → job = .control →
      ctx.continueOnFail = false → Cut c ctx job item sent (.undelivered u)
  | upset {f : Failure} : Upset c ctx job item sent → f.IsStray → Cut c ctx job item sent f

section Item

variable {c : Conditions} {ctx : Context} {job : Job} {item : Json} {h h' : History} {f : Failure}

theorem category?_of_isSessionFailure (hf : f.isSessionFailure = true) :
    f.category? = some .validation := by
  cases f with
  | missingSession | invalidSession _ => rfl
  | _ => cases hf

theorem isStray_of_oversized {v : Json} (h : Oversized c.limits v f) : f.IsStray := by
  cases h <;> exact ⟨rfl, rfl⟩

theorem isStray_of_unfit (h : job.Unfit c.limits ctx f) (hnot : ∀ e, f ≠ .content e) :
    f.IsStray := by
  cases h with
  | refused _ => exact absurd rfl (hnot _)
  | overloaded _ _ => exact ⟨rfl, rfl⟩
  | oversized _ _ hover => exact isStray_of_oversized hover

/-- What breaks off a delivery is a stray failure. -/
theorem isStray_of_delivery (hp : c.IsPunctual) {client : Client} {path : String} {body : Json}
    {sent : Nat} (hf : (delivery c client path body sent).2 = .error f)
    (hnot : f.isUndelivered = false) : f.IsStray :=
  ⟨(ofDelivery_delivery c client path body sent f hf).category? hnot,
    not_isTimeout_of_delivery c client path body sent hp f hf⟩

/-- A job that puts up no parcel for its content is a reply, the content of which is refused. -/
theorem unfit_content {e : Content.ContentError} (h : job.Unfit c.limits ctx (.content e)) :
    job = .message .reply ∧ ctx.Refuses e := by
  cases h with
  | refused href => exact ⟨rfl, href⟩
  | oversized _ _ hover => exact absurd (isStray_of_oversized hover).1 nofun

/-- Parameters that are too large are not those of a content that is refused. -/
theorem ne_content_of_unfit {f' : Failure} (h : job.Unfit c.limits ctx f)
    (hnot : ∀ e, f ≠ .content e) (h' : job.Unfit c.limits ctx f') (e : Content.ContentError) :
    f' ≠ .content e := by
  rintro rfl
  obtain ⟨rfl, href⟩ := unfit_content h'
  cases h with
  | refused _ => exact hnot _ rfl
  | overloaded _ hnone => exact hnone e href

variable (hf : job.IsFormed ctx) (hwhole : IsWholePayload c.limits ctx.params.payload)
  (ho : c.IsOrderly) (hp : c.IsPunctual) (hj : ∀ n, (c.jitter n).toReal?.isSome = true)

include ho hj in
/-- A delivery that breaks off upsets the work on its item. -/
theorem upset_of_breaksOff {id : String} {p : Parcel} {sent : Nat}
    (hid : ctx.resolveSession c.settings (recordOf item) = .ok id)
    (hparcel : job.parcel c ctx id = .ok p)
    (hbreaks : BreaksOff (delivery c ctx.client p.path p.body sent).2) :
    Upset c ctx job item sent :=
  .undeliverable hid hparcel rfl
    ((delivery_breaks_iff c ctx.client p.path p.body ho hj sent).1 hbreaks)

include ho hj in
/-- An upset item has a usable session; its job is unfit, or its delivery breaks off. -/
theorem breaksOff_of_upset (hupset : Upset c ctx job item h.sent) : ∃ id,
    ctx.resolveSession c.settings (recordOf item) = .ok id ∧
      ((∃ f, job.Unfit c.limits ctx f ∧ (∀ e, f ≠ .content e)) ∨
        ∃ p, job.parcel c ctx id = .ok p ∧
          BreaksOff (delivery c ctx.client p.path p.body h.sent).2) := by
  cases hupset with
  | @unfit id f hid hunfit hnot => exact ⟨id, hid, Or.inl ⟨f, hunfit, hnot⟩⟩
  | @undeliverable id p ds r hid hparcel hd hbreach =>
    have hbreaks := delivery_breaks_iff c ctx.client p.path p.body ho hj h.sent
    rw [hd] at hbreaks
    exact ⟨id, hid, Or.inr ⟨p, hparcel, by rw [hd]; exact hbreaks.2 hbreach⟩⟩

include hf hwhole ho hp hj in
/-- **The work on an item ends for one of these reasons.** -/
theorem cut_of_stop (hstop : Stop c ctx job item h f h') : Cut c ctx job item h.sent f := by
  cases hstop with
  | unusable hid hc => exact .unusable hid hc
  | @unbuilt id f hid hparcel =>
    rcases parcel_of_formed hf c hwhole with ⟨f', hunfit, hnone⟩ | ⟨-, hall⟩
    · cases hparcel.symm.trans (hnone id)
      by_cases hcontent : ∃ e, f = .content e
      · obtain ⟨e, rfl⟩ := hcontent
        obtain ⟨hjob, href⟩ := unfit_content hunfit
        exact .refused (isUsable_of_ok hid) hjob href
      · have hnot : ∀ e, f ≠ .content e := fun e he => hcontent ⟨e, he⟩
        exact .upset (.unfit hid hunfit hnot) (isStray_of_unfit hunfit hnot)
    · obtain ⟨p, hparcel'⟩ := hall id
      cases hparcel.symm.trans hparcel'
  | @undelivered id p f h' hid hparcel hd habs =>
    have hresult : (delivery c ctx.client p.path p.body h.sent).2 = .error f := by
      rw [exec_deliver] at hd
      exact congrArg Prod.fst hd
    cases hu : f.isUndelivered with
    | true =>
      obtain ⟨u, rfl⟩ := exists_undelivered hu
      cases job with
      | message m => cases hu.symm.trans habs
      | control =>
        rw [Job.absorbs, hu, Bool.true_and] at habs
        exact .undelivered (isUsable_of_ok hid) rfl habs
    | false =>
      exact .upset (upset_of_breaksOff ho hj hid hparcel ⟨f, hresult, hu⟩)
        (isStray_of_delivery hp hresult hu)

include hf hwhole ho hp hj in
/-- **An upset item ends in a stray failure.** -/
theorem stop_of_upset (hupset : Upset c ctx job item h.sent) :
    ∃ f h', Stop c ctx job item h f h' ∧ f.IsStray := by
  obtain ⟨id, hid, ⟨f, hunfit, hnot⟩ | ⟨p, hparcel, f, hresult, hu⟩⟩ :=
    breaksOff_of_upset ho hj hupset
  · rcases parcel_of_formed hf c hwhole with ⟨f', hunfit', hnone⟩ | ⟨hfit, -⟩
    · exact ⟨f', _, .unbuilt hid (hnone id),
        isStray_of_unfit hunfit' (ne_content_of_unfit hunfit hnot hunfit')⟩
    · exact absurd hunfit (hfit f)
  · have habs : job.absorbs ctx f = false := by
      cases job <;> simp [Job.absorbs, hu]
    obtain ⟨h', hstop⟩ := stop_of_delivery hid hparcel hresult habs
    exact ⟨f, h', hstop, isStray_of_delivery hp hresult hu⟩

end Item

/-! ## Batches -/

/-- The batch reaches an item, the work on which is upset. -/
def ReachesUpset (c : Conditions) (ctx : Context) (job : Job) (items : List Json) (h : History) :
    Prop :=
  ∃ before item rest rs g, worklist items = before ++ item :: rest ∧
    exec (before.mapM (runItem c ctx job)) h = (.ok rs, g) ∧ Upset c ctx job item g.sent

section Batch

variable {c : Conditions} {ctx : Context} {job : Job} {items : List Json} {h h' : History}
  {f : Failure}

/-- A batch that returns has a record for each item. -/
theorem length_of_runBatch {rs : List Fields}
    (hrun : exec (runBatch c ctx job (.array items)) h = (.ok rs, h')) :
    rs.length = max 1 items.length := by
  rw [runBatch_eq] at hrun
  rw [length_of_exec_mapM hrun, length_worklist]

variable (hf : job.IsFormed ctx) (hwhole : IsWholePayload c.limits ctx.params.payload)
  (ho : c.IsOrderly) (hp : c.IsPunctual) (hj : ∀ n, (c.jitter n).toReal?.isSome = true)

include hf hwhole ho hp hj in
/-- **A batch that fails is cut off at an item**, after the items before it were worked off. -/
theorem cut_of_runBatch (hrun : exec (runBatch c ctx job (.array items)) h = (.error f, h')) :
    ∃ before item rest rs g, worklist items = before ++ item :: rest ∧
      exec (before.mapM (runItem c ctx job)) h = (.ok rs, g) ∧ Cut c ctx job item g.sent f := by
  obtain ⟨before, item, rest, rs, g, hitems, hbefore, hstop⟩ := exec_runBatch_error_iff.1 hrun
  exact ⟨before, item, rest, rs, g, hitems, hbefore, cut_of_stop hf hwhole ho hp hj hstop⟩

include hf hwhole ho hp hj in
/-- **A batch reaches an upset item just if it ends in a stray failure.** -/
theorem reachesUpset_iff {e : Except Failure (List Fields)}
    (hrun : exec (runBatch c ctx job (.array items)) h = (e, h')) :
    ReachesUpset c ctx job items h ↔ ∃ f, e = .error f ∧ f.IsStray := by
  constructor
  · rintro ⟨before, item, rest, rs, g, hitems, hbefore, hupset⟩
    obtain ⟨f, g', hstop, hstray⟩ := stop_of_upset hf hwhole ho hp hj hupset
    have hfails := exec_runBatch_error_iff.2 ⟨before, item, rest, rs, g, hitems, hbefore, hstop⟩
    cases hrun.symm.trans hfails
    exact ⟨f, rfl, hstray⟩
  · rintro ⟨f, rfl, hstray⟩
    obtain ⟨before, item, rest, rs, g, hitems, hbefore, hcut⟩ :=
      cut_of_runBatch hf hwhole ho hp hj hrun
    cases hcut with
    | unusable hid _ =>
      cases (category?_of_isSessionFailure (isSessionFailure_of_resolveSession hid)).symm.trans
        hstray.1
    | refused _ _ _ => cases hstray.1
    | undelivered _ _ _ => cases hstray.1
    | upset hupset _ => exact ⟨before, item, rest, rs, g, hitems, hbefore, hupset⟩

end Batch

/-! ## Batches of messages -/

/-- What becomes of a batch of messages. -/
inductive Fate where
  | returned
  /-- an item without a usable session ends it -/
  | lost
  /-- its content is refused -/
  | refused
deriving DecidableEq

/-- A batch comes to its fate. -/
inductive Fate.Met : Fate → Except Failure (List Fields) → Prop
  | returned (rs : List Fields) : Met .returned (.ok rs)
  | lost {f : Failure} : f.isSessionFailure = true → Met .lost (.error f)
  | refused (e : Content.ContentError) : Met .refused (.error (.content e))

/-- The content of the message is refused. -/
def MessageJob.isRefused (ctx : Context) (m : MessageJob) : Bool :=
  m == .reply && !(listed ctx.params.content >>= ctx.bundle).isOk

/-- The item ends a batch of messages, if its delivery does not: it has no usable session and the
    batch does not go on, or has one, for which the content is refused. -/
def MessageJob.stopsAt (ctx : Context) (s : Settings) (m : MessageJob) (item : Json) : Bool :=
  if ctx.isUsable s item then m.isRefused ctx else !ctx.continueOnFail

/-- What becomes of a batch of messages, by its items and its parameters alone. -/
def MessageJob.fate (ctx : Context) (s : Settings) (m : MessageJob) (items : List Json) : Fate :=
  match (worklist items).find? (m.stopsAt ctx s) with
  | none => .returned
  | some item => if ctx.isUsable s item then .refused else .lost

section Messages

variable {c : Conditions} {ctx : Context} {m : MessageJob} {items : List Json} {h h' : History}
  {e : Except Failure (List Fields)}

theorem isRefused_iff (hf : Job.IsFormed ctx (.message m)) :
    m.isRefused ctx = true ↔ m = .reply ∧ ∃ x, ctx.Refuses x := by
  unfold MessageJob.isRefused
  constructor
  · intro h
    obtain ⟨hm, hnot⟩ : m = .reply ∧ (listed ctx.params.content >>= ctx.bundle).isOk = false := by
      simpa using h
    subst hm
    obtain ⟨records, hr⟩ : ∃ records, listed ctx.params.content = .ok records := hf.2.1
    refine ⟨rfl, by_contra fun hnone => ?_⟩
    obtain ⟨b, hb⟩ := exists_bundle hr fun x hx => hnone ⟨x, hx⟩
    rw [hb] at hnot
    cases hnot
  · rintro ⟨rfl, x, hx⟩
    rw [bundle_of_refused hx]
    rfl

/-- Where a batch is said to end, the work on the item ends. -/
theorem stop_of_stopsAt (hf : Job.IsFormed ctx (.message m)) {item : Json}
    (hitem : m.stopsAt ctx c.settings item = true) (g : History) :
    ∃ f g', Stop c ctx (.message m) item g f g' := by
  unfold MessageJob.stopsAt at hitem
  cases hid : ctx.resolveSession c.settings (recordOf item) with
  | ok id =>
    rw [isUsable_of_ok hid, if_pos rfl] at hitem
    obtain ⟨rfl, x, hx⟩ := (isRefused_iff hf).1 hitem
    exact ⟨_, _, .unbuilt hid (parcel_of_envelope (envelope_of_refused hx _))⟩
  | error f =>
    rw [isUsable_eq_false hid, if_neg Bool.false_ne_true] at hitem
    exact ⟨f, g, .unusable hid (by simpa using hitem)⟩

/-- An item that is worked off does not end a batch. -/
theorem stopsAt_of_mem (hf : Job.IsFormed ctx (.message m)) {xs : List Json} {rs : List Fields}
    (hrun : exec (xs.mapM (runItem c ctx (.message m))) h = (.ok rs, h')) :
    ∀ x ∈ xs, m.stopsAt ctx c.settings x = false := by
  intro x hx
  by_contra hstops
  obtain ⟨g, fs, g', hok⟩ := ok_of_mem_exec_mapM hrun x hx
  obtain ⟨f, g'', hstop⟩ := stop_of_stopsAt (c := c) hf (by simpa using hstops) g
  rw [exec_runItem_error_iff.2 hstop] at hok
  cases hok

theorem fate_of_split {before rest : List Json} {item : Json}
    (hitems : worklist items = before ++ item :: rest)
    (hbefore : ∀ x ∈ before, m.stopsAt ctx c.settings x = false)
    (hitem : m.stopsAt ctx c.settings item = true) :
    m.fate ctx c.settings items = if ctx.isUsable c.settings item then .refused else .lost := by
  have hfind : (worklist items).find? (m.stopsAt ctx c.settings) = some item :=
    List.find?_eq_some_iff_append.2 ⟨hitem, before, rest, hitems, by simpa using hbefore⟩
  rw [MessageJob.fate, hfind]

/-- **A batch of messages comes to its fate, whatever the connector answers**, unless it reaches an
    upset item. -/
theorem fate_met (hf : Job.IsFormed ctx (.message m))
    (hwhole : IsWholePayload c.limits ctx.params.payload) (ho : c.IsOrderly) (hp : c.IsPunctual)
    (hj : ∀ n, (c.jitter n).toReal?.isSome = true)
    (hrun : exec (runBatch c ctx (.message m) (.array items)) h = (e, h'))
    (hcalm : ¬ ReachesUpset c ctx (.message m) items h) :
    (m.fate ctx c.settings items).Met e := by
  cases e with
  | ok rs =>
    rw [runBatch_eq] at hrun
    have hfind : (worklist items).find? (m.stopsAt ctx c.settings) = none := by
      simpa using stopsAt_of_mem hf hrun
    rw [MessageJob.fate, hfind]
    exact .returned rs
  | error f =>
    obtain ⟨before, item, rest, rs, g, hitems, hbefore, hcut⟩ :=
      cut_of_runBatch hf hwhole ho hp hj hrun
    have hworked := stopsAt_of_mem hf hbefore
    cases hcut with
    | unusable hid hc =>
      have husable := isUsable_eq_false hid
      rw [fate_of_split hitems hworked (by simp [MessageJob.stopsAt, husable, hc]), husable]
      exact .lost (isSessionFailure_of_resolveSession hid)
    | @refused x husable hjob hx =>
      cases hjob
      have hrefused := (isRefused_iff hf).2 ⟨rfl, x, hx⟩
      rw [fate_of_split hitems hworked (by simp [MessageJob.stopsAt, husable, hrefused]), husable]
      exact .refused x
    | undelivered _ hjob _ => cases hjob
    | upset hupset _ =>
      exact absurd ⟨before, item, rest, rs, g, hitems, hbefore, hupset⟩ hcalm

end Messages

end ChatRelay

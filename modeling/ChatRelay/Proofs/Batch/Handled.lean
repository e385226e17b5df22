/-
  How the items of a batch of messages are worked off.

  `Handled` tells what becomes of an item, with which result and which entries of
  the trace, `HandledAll` of items one after the other.  The work on an item may
  also break off: `ItemBreach` lists the reasons.  If the parameters suit the job
  and what is posted is orderly, then an item is handled, or its session ends the
  batch, or the work on it breaks off (`handled_or`), and the same holds of
  batches (`handledAll_or`).  What makes the usual client keep a message back is
  an address or the depth of the message (`foreign_message`).
-/
import ChatRelay.Proofs.Batch.Stop
import ChatRelay.Proofs.Batch.Suited
import ChatRelay.Proofs.Connector.Breach

namespace ChatRelay

/-! ## Items -/

/-- What a message leaves on the trace: the counts of what its content leaves out, its own count,
    the attempts to deliver it and how they ended. -/
def messageTrace (ctx : Context) (m : MessageJob) (e : Envelope) (pauses : List Number)
    (success : Bool) (event : Event) : List Entry :=
  (m.dropped ctx).map .count ++ [.count (.built e.kind)] ++
    (attemptsTrace ctx.client messagePath (.object e.wire) 0 pauses ++
      [.count (.delivered messagePath success), .event event])

/-- How an item is worked off from a history on, with which result, and which history it leaves:
    it has no usable session and the batch goes on, or its message is delivered, or is not. -/
inductive Handled (c : Conditions) (ctx : Context) (m : MessageJob) (item : Json) (h : History) :
    Fields → History → Prop
  | unusable {f : Failure} : ctx.resolveSession c.settings (recordOf item) = .error f →
      ctx.continueOnFail = true → Handled c ctx m item h (errorRecord f.message) h
  | delivered {id : String} {e : Envelope} {ds : List Number} {fs : Fields} :
      ctx.resolveSession c.settings (recordOf item) = .ok id →
      m.envelope c ctx (.text id) = .ok e → e.session = id →
      delivery c ctx.client messagePath (.object e.wire) h.sent = (ds, .ok fs) →
      Handled c ctx m item h (Json.put "sent" (.bool true) e.wire) {
        sent := h.sent + (ds.length + 1)
        trace := h.trace ++ messageTrace ctx m e ds true
          (.delivered (.text id) messagePath c.elapsed) }
  | undelivered {id : String} {e : Envelope} {ds : List Number} {u : Undelivered} :
      ctx.resolveSession c.settings (recordOf item) = .ok id →
      m.envelope c ctx (.text id) = .ok e → e.session = id →
      delivery c ctx.client messagePath (.object e.wire) h.sent = (ds, .error (.undelivered u)) →
      Handled c ctx m item h
        (if ctx.continueOnFail then errorRecord u.message
          else errorRecord u.message ++ [("body", .object e.wire)]) {
        sent := h.sent + (ds.length + 1)
        trace := h.trace ++ messageTrace ctx m e ds false (.failed (.text id) messagePath u) }

/-- Why the work on an item with a usable session breaks off, if the connector saw `sent` attempts
    before: its flags have too many levels, or the delivery breaks off at its last attempt. -/
inductive ItemBreach (c : Conditions) (ctx : Context) (m : MessageJob) (item : Json) (sent : Nat) :
    Prop
  | overloaded {id : String} : ctx.resolveSession c.settings (recordOf item) = .ok id →
      m.Overloads c.limits ctx → ItemBreach c ctx m item sent
  | undeliverable {id : String} {e : Envelope} {ds : List Number} {r : Except Failure Fields} :
      ctx.resolveSession c.settings (recordOf item) = .ok id →
      m.envelope c ctx (.text id) = .ok e →
      delivery c ctx.client messagePath (.object e.wire) sent = (ds, r) →
      Breach c ctx.client messagePath (.object e.wire) ds.length (sent + ds.length) →
      ItemBreach c ctx m item sent

section Item

variable {c : Conditions} {ctx : Context} {m : MessageJob} {item : Json} {h : History}

/-- A delivery that succeeds or fails has reached the connector. -/
theorem reached_of_ended {client : Client} {path : String} {body : Json} {sent : Nat}
    {ds : List Number} {r : Except Failure Fields}
    (hd : delivery c client path body sent = (ds, r)) (hr : ¬ BreaksOff r) :
    (attemptCall client path body 0).reached c = 1 := by
  unfold Call.reached
  cases hrefused : c.http.refusal? (client.address ++ path) body with
  | none => rw [attemptCall, hrefused]; rfl
  | some m =>
    have hcourse := delivery_of_refused hrefused sent
    rw [hd] at hcourse
    cases hcourse
    exact absurd ⟨_, rfl, isUndelivered_failure m⟩ hr

/-- **What is handled runs as it is told.** -/
theorem exec_of_handled {fs : Fields} {h' : History} (hh : Handled c ctx m item h fs h') :
    exec (runItem c ctx (.message m) item) h = (.ok fs, h') := by
  rw [exec_runItem]
  cases hh with
  | unusable hf hc =>
    rw [exec_run_error hf]
    simp [itemResult, isSessionFailure_of_resolveSession hf, hc]
  | delivered hid he hs hd =>
    have hreached := reached_of_ended hd (by rintro ⟨f, hf, -⟩; cases hf)
    rw [exec_run_built hid he, deliverySent, deliveryTrace, hd, hreached, hs]
    simp [messageResult, itemResult, messageTrace, closing]
  | undelivered hid he hs hd =>
    have hreached := reached_of_ended hd (not_breaksOff_undelivered _)
    rw [exec_run_built hid he, deliverySent, deliveryTrace, hd, hreached, hs]
    simp [messageResult, itemResult, messageTrace, closing]

/-- Without a usable session, a batch that does not go on ends. -/
theorem exec_of_unusable {f : Failure}
    (hf : ctx.resolveSession c.settings (recordOf item) = .error f)
    (hc : ctx.continueOnFail = false) (job : Job) :
    exec (runItem c ctx job item) h = (.error f, h) :=
  exec_runItem_error_iff.2 (.unusable hf hc)

variable (hm : m.Suits ctx) (ho : c.IsOrderly)
  (hj : ∀ n, (c.jitter n).toReal?.isSome = true)

include hm in
/-- **The usual client keeps no message back for its numbers**: other than by an error in the
    exchange, it is kept back by an address that leads nowhere, or for its depth. -/
theorem foreign_message {limits : Limits} (hc : c.http = .usual limits)
    (hk : c.connector.IsOrderly) {id : String} {e : Envelope}
    (he : m.envelope c ctx (.text id) = .ok e) {n sent : Nat} {x : Mishap}
    (h : c.posted (attemptCall ctx.client messagePath (.object e.wire) n) sent = .mishap x)
    (hx : x.isHttp = false) :
    x.IsLost ∨ x = .tooDeep ∧ (Json.object e.wire).nestsWithin limits.call = false := by
  refine (foreign_usual hc hk h hx).imp_right fun hunwritten => ?_
  cases hunwritten with
  | tooDeep hdeep => exact ⟨rfl, hdeep⟩
  | unencodable hinfinite =>
    rcases envelope_of_suits hm c id with ⟨-, e', he', -, hfinite⟩ | ⟨-, he'⟩
    · cases he.symm.trans he'
      cases hinfinite.symm.trans hfinite
    · cases he.symm.trans he'

include hm in
theorem exec_of_overloads {id : String}
    (hid : ctx.resolveSession c.settings (recordOf item) = .ok id)
    (hover : m.Overloads c.limits ctx) :
    ∃ h', exec (runItem c ctx (.message m) item) h = (.error .tooManyLevels, h') := by
  have he : m.envelope c ctx (.text id) = .error .tooManyLevels := by
    rcases envelope_of_suits hm c id with ⟨hnot, -⟩ | ⟨-, he⟩
    · exact absurd hover hnot
    · exact he
  exact ⟨_, exec_runItem_error_iff.2 (.unbuilt hid (parcel_of_envelope he))⟩

include ho hj in
theorem exec_of_breach {id : String} {e : Envelope} {ds : List Number} {r : Except Failure Fields}
    (hid : ctx.resolveSession c.settings (recordOf item) = .ok id)
    (he : m.envelope c ctx (.text id) = .ok e)
    (hd : delivery c ctx.client messagePath (.object e.wire) h.sent = (ds, r))
    (hb : Breach c ctx.client messagePath (.object e.wire) ds.length (h.sent + ds.length)) :
    ∃ f h', exec (runItem c ctx (.message m) item) h = (.error f, h') ∧
      f.isSessionFailure = false := by
  have hbreaks := delivery_breaks_iff c ctx.client messagePath (.object e.wire) ho hj h.sent
  rw [hd] at hbreaks
  obtain ⟨f, rfl, hnot⟩ := hbreaks.2 hb
  obtain ⟨h', hstop⟩ := stop_of_delivery hid (parcel_of_envelope he) (congrArg Prod.snd hd) hnot
  exact ⟨f, h', exec_runItem_error_iff.2 hstop, not_isSessionFailure
    (not_isInputFailure_of_delivery c ctx.client _ _ h.sent (congrArg Prod.snd hd))⟩

include hm ho hj in
/-- **Where the work on an item breaks off, the batch fails**, and the failure concerns no
    session. -/
theorem exec_of_itemBreach (hb : ItemBreach c ctx m item h.sent) :
    ∃ f h', exec (runItem c ctx (.message m) item) h = (.error f, h') ∧
      f.isSessionFailure = false := by
  cases hb with
  | overloaded hid hover =>
    obtain ⟨h', hrun⟩ := exec_of_overloads hm hid hover
    exact ⟨_, h', hrun, rfl⟩
  | undeliverable hid he hd hbreach => exact exec_of_breach ho hj hid he hd hbreach

include hm ho hj in
/-- **An item is handled, or its session ends the batch, or the work on it breaks off.** -/
theorem handled_or (item : Json) (h : History) : (∃ fs h', Handled c ctx m item h fs h') ∨
    (∃ f, ctx.resolveSession c.settings (recordOf item) = .error f ∧ ctx.continueOnFail = false) ∨
    ItemBreach c ctx m item h.sent := by
  cases hid : ctx.resolveSession c.settings (recordOf item) with
  | error f =>
    cases hc : ctx.continueOnFail with
    | true => exact Or.inl ⟨_, _, .unusable hid hc⟩
    | false => exact Or.inr (Or.inl ⟨f, rfl, rfl⟩)
  | ok id =>
    rcases envelope_of_suits hm c id with ⟨-, e, he, hs, -⟩ | ⟨hover, -⟩
    · have hbreaks := delivery_breaks_iff c ctx.client messagePath (.object e.wire) ho hj h.sent
      rcases hd : delivery c ctx.client messagePath (.object e.wire) h.sent with ⟨ds, f | fs⟩
      · cases hu : f.isUndelivered with
        | true =>
          obtain ⟨u, rfl⟩ := exists_undelivered hu
          exact Or.inl ⟨_, _, .undelivered hid he hs hd⟩
        | false =>
          rw [hd] at hbreaks
          exact Or.inr (Or.inr (.undeliverable hid he hd (hbreaks.1 ⟨f, rfl, hu⟩)))
      · exact Or.inl ⟨_, _, .delivered hid he hs hd⟩
    · exact Or.inr (Or.inr (.overloaded hid hover))

end Item

/-! ## Batches -/

/-- How items are worked off one after the other. -/
inductive HandledAll (c : Conditions) (ctx : Context) (m : MessageJob) :
    List Json → History → List Fields → History → Prop
  | nil (h : History) : HandledAll c ctx m [] h [] h
  | cons {item : Json} {rest : List Json} {h h' h'' : History} {fs : Fields} {rs : List Fields} :
      Handled c ctx m item h fs h' → HandledAll c ctx m rest h' rs h'' →
      HandledAll c ctx m (item :: rest) h (fs :: rs) h''

/-- The work on some item breaks off, and the items before it are handled. -/
inductive Breaks (c : Conditions) (ctx : Context) (m : MessageJob) : List Json → History → Prop
  | here {item : Json} {rest : List Json} {h : History} :
      ItemBreach c ctx m item h.sent → Breaks c ctx m (item :: rest) h
  | later {item : Json} {rest : List Json} {h h' : History} {fs : Fields} :
      Handled c ctx m item h fs h' → Breaks c ctx m rest h' → Breaks c ctx m (item :: rest) h

/-- The batch ends at an item without a usable session, and the items before it are handled, with
    which results, and which history is left. -/
inductive EndsWith (c : Conditions) (ctx : Context) (m : MessageJob) (f : Failure) :
    List Json → History → List Fields → History → Prop
  | here {item : Json} {rest : List Json} {h : History} :
      ctx.resolveSession c.settings (recordOf item) = .error f → ctx.continueOnFail = false →
      EndsWith c ctx m f (item :: rest) h [] h
  | later {item : Json} {rest : List Json} {h h' h'' : History} {fs : Fields} {rs : List Fields} :
      Handled c ctx m item h fs h' → EndsWith c ctx m f rest h' rs h'' →
      EndsWith c ctx m f (item :: rest) h (fs :: rs) h''

section Batch

variable {c : Conditions} {ctx : Context} {m : MessageJob} {items : List Json} {h h' : History}
  {rs : List Fields}

theorem exec_mapM_of_handledAll (hh : HandledAll c ctx m items h rs h') :
    exec (items.mapM (runItem c ctx (.message m))) h = (.ok rs, h') := by
  induction hh with
  | nil h => rfl
  | cons hitem _ ih => exact exec_mapM_cons (exec_of_handled hitem) ih

theorem exec_mapM_of_endsWith {f : Failure} (hh : EndsWith c ctx m f items h rs h') :
    exec (items.mapM (runItem c ctx (.message m))) h = (.error f, h') := by
  induction hh with
  | here hf hc => exact exec_mapM_cons_error (exec_of_unusable hf hc _)
  | later hitem _ ih =>
    rw [List.mapM_cons, exec_bind_ok (exec_of_handled hitem), exec_bind_error ih]

variable (hm : m.Suits ctx) (ho : c.IsOrderly)
  (hj : ∀ n, (c.jitter n).toReal?.isSome = true)

include hm ho hj in
theorem exec_mapM_of_breaks (hb : Breaks c ctx m items h) :
    ∃ f h', exec (items.mapM (runItem c ctx (.message m))) h = (.error f, h') ∧
      f.isSessionFailure = false := by
  induction hb with
  | here hitem =>
    obtain ⟨f, h', hrun, hf⟩ := exec_of_itemBreach hm ho hj hitem
    exact ⟨f, h', exec_mapM_cons_error hrun, hf⟩
  | later hitem _ ih =>
    obtain ⟨f, h', hrun, hf⟩ := ih
    refine ⟨f, h', ?_, hf⟩
    rw [List.mapM_cons, exec_bind_ok (exec_of_handled hitem), exec_bind_error hrun]

include hm ho hj in
/-- **A batch is handled, or a session ends it, or the work on an item breaks off.** -/
theorem handledAll_or (items : List Json) (h : History) :
    (∃ rs h', HandledAll c ctx m items h rs h') ∨
    (∃ f rs h', EndsWith c ctx m f items h rs h') ∨ Breaks c ctx m items h := by
  induction items generalizing h with
  | nil => exact Or.inl ⟨[], h, .nil h⟩
  | cons item rest ih =>
    rcases handled_or hm ho hj item h with ⟨fs, h', hitem⟩ | ⟨f, hf, hc⟩ | hb
    · rcases ih h' with ⟨rs, h'', hrest⟩ | ⟨f, rs, h'', hrest⟩ | hrest
      · exact Or.inl ⟨_, _, .cons hitem hrest⟩
      · exact Or.inr (Or.inl ⟨f, _, _, .later hitem hrest⟩)
      · exact Or.inr (Or.inr (.later hitem hrest))
    · exact Or.inr (Or.inl ⟨f, _, _, .here hf hc⟩)
    · exact Or.inr (Or.inr (.here hb))

end Batch

end ChatRelay

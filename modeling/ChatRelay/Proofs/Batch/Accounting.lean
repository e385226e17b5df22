/-
  The accounts of a batch of messages.

  A batch whose items are handled gives one result for each, and counts and logs
  agree with the results (`Accounts`).  `batch_accounted` puts together when a
  batch is worked off, when a session ends it, and when it breaks off.
-/
import ChatRelay.Proofs.Batch.Handled

namespace ChatRelay

/-! ## Entries and results -/

/-- The entry counts a message that was built. -/
def Entry.isBuilt : Entry → Bool
  | .count (.built _) => true
  | _ => false

/-- The entry counts a delivery that ended in this way. -/
def Entry.isEnded (success : Bool) : Entry → Bool
  | .count (.delivered _ s) => s = success
  | _ => false

/-- The entry is the event of a delivery that ended in this way. -/
def Entry.isReport (success : Bool) : Entry → Bool
  | .event (.delivered ..) => success
  | .event (.failed ..) => !success
  | _ => false

/-- The result is that of a message that was delivered. -/
def isSent (fs : Fields) : Bool := Json.get? fs "sent" = some (.bool true)

/-- The entries agree with the results: every item with a usable session has its message built, and
    delivered or not, which is logged; and what is delivered has the result that says so. -/
structure Accounts (usable : Nat) (rs : List Fields) (t : List Entry) : Prop where
  built : t.countP Entry.isBuilt = usable
  ended : t.countP (Entry.isEnded true) + t.countP (Entry.isEnded false) = usable
  sent : rs.countP isSent = t.countP (Entry.isEnded true)
  logged : ∀ success, t.countP (Entry.isReport success) = t.countP (Entry.isEnded success)

theorem accounts_nil : Accounts 0 [] [] := ⟨rfl, rfl, rfl, fun _ => rfl⟩

theorem Accounts.append {n k : Nat} {rs qs : List Fields} {t u : List Entry} (h : Accounts n rs t)
    (h' : Accounts k qs u) : Accounts (n + k) (rs ++ qs) (t ++ u) where
  built := by rw [List.countP_append, h.built, h'.built]
  ended := by
    have := h.ended
    have := h'.ended
    simp only [List.countP_append]
    omega
  sent := by rw [List.countP_append, List.countP_append, h.sent, h'.sent]
  logged := fun success => by
    rw [List.countP_append, List.countP_append, h.logged success, h'.logged success]

/-! ## Traces -/

section Message

variable (ctx : Context) (m : MessageJob) (e : Envelope) (ds : List Number) (success : Bool)
  (event : Event)

theorem exists_of_mem_dropped {k : Count} (h : k ∈ m.dropped ctx) :
    ∃ reason n, k = .dropped reason n := by
  unfold MessageJob.dropped at h
  split at h
  · split at h
    · exact exists_of_mem_dropCounts h
    · cases h
  · cases h

/-- Apart from what its content leaves out and its attempts, a message leaves three entries. -/
theorem countP_messageTrace {p : Entry → Bool} (hcall : ∀ call, p (.call call) = false)
    (hpause : ∀ d, p (.pause d) = false)
    (hdrop : ∀ reason n, p (.count (.dropped reason n)) = false) :
    (messageTrace ctx m e ds success event).countP p =
      [.count (.built e.kind), .count (.delivered messagePath success), .event event].countP p := by
  have hdropped : ((m.dropped ctx).map Entry.count).countP p = 0 := by
    rw [List.countP_eq_zero]
    intro entry hmem
    obtain ⟨k, hk, rfl⟩ := List.mem_map.1 hmem
    obtain ⟨reason, n, rfl⟩ := exists_of_mem_dropped ctx m hk
    simp [hdrop]
  have hattempts := countP_attemptsTrace ctx.client messagePath (.object e.wire) ds hcall hpause 0
  simp only [messageTrace, List.countP_append, hdropped, hattempts, List.countP_cons,
    List.countP_nil]
  omega

/-- A message is posted once more than there are pauses. -/
theorem countP_isCall_messageTrace :
    (messageTrace ctx m e ds success event).countP Entry.isCall = ds.length + 1 := by
  have hattempts := congrArg List.length
    (calls_attemptsTrace ctx.client messagePath (.object e.wire) ds 0)
  rw [← List.countP_eq_length_filter, List.length_map, List.length_range'] at hattempts
  have hdropped : ((m.dropped ctx).map Entry.count).countP Entry.isCall = 0 := by
    simp [List.countP_eq_zero, Entry.isCall]
  simp only [messageTrace, List.countP_append, hdropped, hattempts]
  simp [Entry.isCall]

end Message

/-! ## Items and batches -/

section Batch

variable {c : Conditions} {ctx : Context} {m : MessageJob} {item : Json} {items : List Json}
  {h h' : History} {fs : Fields} {rs : List Fields}

theorem isSent_errorRecord (message : String) : isSent (errorRecord message) = false := rfl

theorem isSent_keeping (message : String) (body : Json) :
    isSent (errorRecord message ++ [("body", body)]) = false := rfl

theorem isSent_put (fs : Fields) : isSent (Json.put "sent" (.bool true) fs) = true := by
  simp [isSent, Json.get?_put]

/-- A message whose event and result say how its delivery ended is accounted for. -/
theorem accounts_message (e : Envelope) (ds : List Number) {success : Bool} {event : Event}
    (hevent : ∀ s, Entry.isReport s (.event event) = decide (success = s))
    (hfs : isSent fs = success) : Accounts 1 [fs] (messageTrace ctx m e ds success event) := by
  have hbuilt : (messageTrace ctx m e ds success event).countP Entry.isBuilt = 1 := by
    rw [countP_messageTrace _ _ _ _ _ _ (fun _ => rfl) (fun _ => rfl) (fun _ _ => rfl)]
    rfl
  have hended : ∀ s, (messageTrace ctx m e ds success event).countP (Entry.isEnded s) =
      if success = s then 1 else 0 := fun s => by
    rw [countP_messageTrace _ _ _ _ _ _ (fun _ => rfl) (fun _ => rfl) (fun _ _ => rfl)]
    simp [List.countP_cons, Entry.isEnded]
  have hreport : ∀ s, (messageTrace ctx m e ds success event).countP (Entry.isReport s) =
      if success = s then 1 else 0 := fun s => by
    rw [countP_messageTrace _ _ _ _ _ _ (fun _ => rfl) (fun _ => rfl) (fun _ _ => rfl)]
    rw [List.countP_cons, List.countP_cons, List.countP_singleton, hevent s]
    simp [Entry.isReport]
  refine ⟨hbuilt, ?_, ?_, fun s => by rw [hreport, hended]⟩
  · rw [hended, hended]
    cases success <;> rfl
  · rw [hended, List.countP_singleton, hfs]

/-- An item that is handled is accounted for. -/
theorem accounts_of_handled (hh : Handled c ctx m item h fs h') :
    ∃ t, h'.trace = h.trace ++ t ∧ h'.sent = h.sent + t.countP Entry.isCall ∧
      Accounts ([item].countP (ctx.isUsable c.settings)) [fs] t := by
  cases hh with
  | @unusable f hf hc =>
    refine ⟨[], by simp, rfl, ?_⟩
    rw [List.countP_singleton, isUsable_eq_false hf]
    refine ⟨rfl, rfl, ?_, fun _ => rfl⟩
    rw [List.countP_singleton, isSent_errorRecord]
    rfl
  | delivered hid he hs hd =>
    refine ⟨_, rfl, by rw [countP_isCall_messageTrace], ?_⟩
    rw [List.countP_singleton, isUsable_of_ok hid]
    exact accounts_message _ _ (fun s => by cases s <;> rfl) (isSent_put _)
  | undelivered hid he hs hd =>
    refine ⟨_, rfl, by rw [countP_isCall_messageTrace], ?_⟩
    rw [List.countP_singleton, isUsable_of_ok hid]
    refine accounts_message _ _ (fun s => by cases s <;> rfl) ?_
    split
    · exact isSent_errorRecord _
    · exact isSent_keeping _ _

/-- Items that are handled are accounted for. -/
theorem accounts_of_handledAll (hh : HandledAll c ctx m items h rs h') :
    rs.length = items.length ∧ ∃ t, h'.trace = h.trace ++ t ∧
      h'.sent = h.sent + t.countP Entry.isCall ∧
      Accounts (items.countP (ctx.isUsable c.settings)) rs t := by
  induction hh with
  | nil h => exact ⟨rfl, [], by simp, rfl, accounts_nil⟩
  | @cons item rest h h' h'' fs rs hitem _ ih =>
    obtain ⟨t, ht, hsent, hacc⟩ := accounts_of_handled hitem
    obtain ⟨hlen, u, hu, hsent', hacc'⟩ := ih
    refine ⟨by rw [List.length_cons, hlen, List.length_cons], t ++ u, ?_, ?_, ?_⟩
    · rw [hu, ht, List.append_assoc]
    · rw [List.countP_append, hsent', hsent, Nat.add_assoc]
    · have hboth := hacc.append hacc'
      rwa [← List.countP_append] at hboth

/-- In a batch that ends at an item, the items before it are handled and have usable sessions. -/
theorem handledAll_of_endsWith {f : Failure} (hh : EndsWith c ctx m f items h rs h') :
    ctx.continueOnFail = false ∧ f.isSessionFailure = true ∧ ∃ before item after,
      items = before ++ item :: after ∧ HandledAll c ctx m before h rs h' ∧
      ctx.resolveSession c.settings (recordOf item) = .error f := by
  induction hh with
  | @here item rest h hf hc =>
    exact ⟨hc, isSessionFailure_of_resolveSession hf, [], item, rest, rfl, .nil h, hf⟩
  | @later item rest h h' h'' fs rs hitem _ ih =>
    obtain ⟨hc, hf, before, last, after, rfl, hbefore, hlast⟩ := ih
    exact ⟨hc, hf, item :: before, last, after, rfl, .cons hitem hbefore, hlast⟩

/-- What is handled in a batch that does not go on has a usable session. -/
theorem isUsable_of_handledAll (hc : ctx.continueOnFail = false)
    (hh : HandledAll c ctx m items h rs h') :
    ∀ item ∈ items, ctx.isUsable c.settings item = true := by
  induction hh with
  | nil h => simp
  | cons hitem _ ih =>
    intro item hmem
    rcases List.mem_cons.1 hmem with rfl | hmem
    · cases hitem with
      | unusable hf hcont =>
        rw [hc] at hcont
        cases hcont
      | delivered hid _ _ _ => exact isUsable_of_ok hid
      | undelivered hid _ _ _ => exact isUsable_of_ok hid
    · exact ih item hmem

end Batch

/-! ## The accounts -/

section Accounts

variable {c : Conditions} {ctx : Context} {m : MessageJob}

/-- **A batch of messages is accounted for.**  It breaks off if and only if the work on an item
    does.  If it does not, and goes on after failures or needs not to, it gives a result for every
    item, and the counts and events are those of the items with a usable session.  Otherwise it
    ends at the first item without one, and the items before it are accounted for. -/
theorem batch_accounted (hm : m.Suits ctx) (ho : c.IsOrderly)
    (hj : ∀ n, (c.jitter n).toReal?.isSome = true) (items : List Json) (h : History) :
    (Breaks c ctx m (worklist items) h ↔
      ∃ f h', exec (runBatch c ctx (.message m) (.array items)) h = (.error f, h') ∧
        f.isSessionFailure = false) ∧
    (¬ Breaks c ctx m (worklist items) h →
      (ctx.continueOnFail = true ∨ ∀ item ∈ worklist items, ctx.isUsable c.settings item = true) →
      ∃ rs h' t, exec (runBatch c ctx (.message m) (.array items)) h = (.ok rs, h') ∧
        rs.length = max 1 items.length ∧ HandledAll c ctx m (worklist items) h rs h' ∧
        h'.trace = h.trace ++ t ∧ h'.sent = h.sent + t.countP Entry.isCall ∧
        Accounts ((worklist items).countP (ctx.isUsable c.settings)) rs t) ∧
    (¬ Breaks c ctx m (worklist items) h → ctx.continueOnFail = false →
      (∃ item ∈ worklist items, ctx.isUsable c.settings item = false) →
      ∃ before item after f rs h' t, worklist items = before ++ item :: after ∧
        ctx.resolveSession c.settings (recordOf item) = .error f ∧
        exec (runBatch c ctx (.message m) (.array items)) h = (.error f, h') ∧
        rs.length = before.length ∧ HandledAll c ctx m before h rs h' ∧
        h'.trace = h.trace ++ t ∧ h'.sent = h.sent + t.countP Entry.isCall ∧
        Accounts before.length rs t) := by
  rw [runBatch_eq]
  have hcases := handledAll_or hm ho hj (worklist items) h
  refine ⟨⟨exec_mapM_of_breaks hm ho hj, ?_⟩, ?_, ?_⟩
  · rintro ⟨f, h', hrun, hf⟩
    rcases hcases with ⟨rs, g, hall⟩ | ⟨f', rs, g, hends⟩ | hb
    · rw [exec_mapM_of_handledAll hall] at hrun
      cases hrun
    · rw [exec_mapM_of_endsWith hends] at hrun
      cases hrun
      rw [(handledAll_of_endsWith hends).2.1] at hf
      cases hf
    · exact hb
  · intro hnot hgo
    rcases hcases with ⟨rs, h', hall⟩ | ⟨f, rs, h', hends⟩ | hb
    · obtain ⟨hlen, t, ht, hsent, hacc⟩ := accounts_of_handledAll hall
      exact ⟨rs, h', t, exec_mapM_of_handledAll hall, hlen.trans (length_worklist items), hall, ht,
        hsent, hacc⟩
    · obtain ⟨hc, -, before, item, after, heq, -, hf⟩ := handledAll_of_endsWith hends
      rcases hgo with hgo | hgo
      · rw [hc] at hgo
        cases hgo
      · have husable := hgo item (by rw [heq]; simp)
        rw [isUsable_eq_false hf] at husable
        cases husable
    · exact absurd hb hnot
  · rintro hnot hc ⟨item, hmem, hitem⟩
    rcases hcases with ⟨rs, h', hall⟩ | ⟨f, rs, h', hends⟩ | hb
    · rw [isUsable_of_handledAll hc hall item hmem] at hitem
      cases hitem
    · obtain ⟨-, -, before, last, after, heq, hbefore, hf⟩ := handledAll_of_endsWith hends
      obtain ⟨hlen, t, ht, hsent, hacc⟩ := accounts_of_handledAll hbefore
      rw [List.countP_eq_length.2 (isUsable_of_handledAll hc hbefore)] at hacc
      exact ⟨before, last, after, f, rs, h', t, heq, hf, exec_mapM_of_endsWith hends, hlen,
        hbefore, ht, hsent, hacc⟩
    · exact absurd hb hnot

/-- A batch with an item without a session, and one that is delivered at the second attempt. -/
theorem accounted_behind_failure : ∃ rs h' t,
    exec (runBatch (.plain .busyOnce) (.showing "<b>x</b>") (.message .html)
      (.array [.null, itemOf "a"])) {} = (.ok rs, h') ∧
    rs.length = 2 ∧ h'.trace = t ∧ t.countP Entry.isCall = 2 ∧ Accounts 1 rs t := by
  have hsuits : MessageJob.Suits (.showing "<b>x</b>") .html := Or.inr ⟨_, rfl⟩
  have horderly : (Conditions.plain .busyOnce).IsOrderly :=
    isOrderly_usual rfl isWhole_busyOnce isOrderly_busyOnce
  have hjitter : ∀ n, ((Conditions.plain .busyOnce).jitter n).toReal?.isSome = true := fun _ => rfl
  have hok : (exec (runBatch (.plain .busyOnce) (.showing "<b>x</b>") (.message .html)
      (.array [.null, itemOf "a"])) {}).1.isOk = true := by decide +kernel
  have hcalls : (exec (runBatch (.plain .busyOnce) (.showing "<b>x</b>") (.message .html)
      (.array [.null, itemOf "a"])) {}).2.sent = 2 := by decide +kernel
  have husable : (worklist [.null, itemOf "a"]).countP
      ((Context.showing "<b>x</b>").isUsable (Conditions.plain .busyOnce).settings) = 1 := by
    decide +kernel
  obtain ⟨hbreaks, hgoes, -⟩ := batch_accounted hsuits horderly hjitter
    [.null, itemOf "a"] {}
  have hnot : ¬ Breaks (.plain .busyOnce) (.showing "<b>x</b>") .html
      (worklist [.null, itemOf "a"]) {} := by
    intro hb
    obtain ⟨f, h', hrun, -⟩ := hbreaks.1 hb
    rw [hrun] at hok
    cases hok
  obtain ⟨rs, h', t, hrun, hlen, -, ht, hsent, hacc⟩ := hgoes hnot (Or.inl rfl)
  have hcount : h'.sent = t.countP Entry.isCall := hsent.trans (Nat.zero_add _)
  rw [hrun] at hcalls
  rw [husable] at hacc
  exact ⟨rs, h', t, hrun, hlen, by simpa using ht, hcount.symm.trans hcalls, hacc⟩

/-- An orderly success whose text is not in its charset ends a batch that goes on after failures. -/
theorem breaks_off_garbled :
    MessageJob.Suits (.showing "x") .html ∧ (Conditions.plain .garbled).IsOrderly ∧
    (Context.showing "x").continueOnFail = true ∧
    ¬ ∃ rs h', exec (runBatch (.plain .garbled) (.showing "x") (.message .html)
      (.array [itemOf "a"])) {} = (.ok rs, h') := by
  refine ⟨Or.inr ⟨_, rfl⟩, isOrderly_usual rfl isWhole_garbled isOrderly_garbled, rfl, ?_⟩
  rintro ⟨rs, h', hrun⟩
  have herror : (exec (runBatch (.plain .garbled) (.showing "x") (.message .html)
      (.array [itemOf "a"])) {}).1.isOk = false := by decide +kernel
  rw [hrun] at herror
  cases herror

end Accounts

end ChatRelay

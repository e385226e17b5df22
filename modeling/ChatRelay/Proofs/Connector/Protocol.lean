/-
  The protocol of a delivery.

  A delivery attempts again and again until what comes of it is not worth another attempt
  or no retries are left; `finalAttempts` are the numbers of attempts at which it may
  stop.  `delivery_protocol` says that it stops at the first of them, what it leaves
  behind, and when it does not come that far.
-/
import ChatRelay.Proofs.Connector.Ending
import Mathlib.Order.Bounds.Defs

namespace ChatRelay

section Protocol

variable (c : Conditions) (client : Client) (path : String) (body : Json)

/-- What comes of attempt `k` of a delivery, before which the connector saw `sent` attempts. -/
def attemptOutcome (sent k : Nat) : Posted :=
  c.posted (attemptCall client path body k) (sent + k)

/-- How many attempts a delivery may stop after: as many as retries allow, or up to one that comes
    to something which is not worth another. -/
def finalAttempts (sent : Nat) : Set Nat :=
  insert (client.maxRetries.toNat + 1)
    {n | ∃ k, n = k + 1 ∧ (attemptOutcome c client path body sent k).isTransient = false}

variable {c client path body}

theorem transient_of_isRetried {n sent : Nat} (h : IsRetried c client path body n sent) :
    (c.posted (attemptCall client path body n) sent).isTransient = true := by
  obtain ⟨u, hu, hretry⟩ := h
  obtain ⟨-, -, htransient, -⟩ := failed_of_result hu
  rw [← htransient, hretry]

/-- An attempt that is not followed by another one came to something that is not worth it. -/
theorem final_of_not_retried (ho : c.IsOrderly) {n sent : Nat}
    (hlast : ¬ IsRetried c client path body n sent) :
    (c.posted (attemptCall client path body n) sent).isTransient = false := by
  cases sorted_posted path (attemptCall client path body n)
    (c.posted (attemptCall client path body n) sent) with
  | taken _ _ hfinal => exact hfinal
  | @failed u hr _ _ hretry _ =>
    cases hu : u.retryable with
    | false => exact hretry.symm.trans hu
    | true => exact absurd ⟨u, hr, hu⟩ hlast
  | unusable _ _ hunusable =>
    exact not_transient_of_unusable hunusable (not_hasGarbledHint_of_orderly (ho _ _))

/-- The last attempt is the first at which the delivery may stop. -/
theorem isLeast_of_delivery (ho : c.IsOrderly) {sent : Nat} {ds : List Number}
    {r : Except Failure Fields} (hd : delivery c client path body sent = (ds, r))
    (hr : r ≠ .error .endlessDelay) :
    IsLeast (finalAttempts c client path body sent) (ds.length + 1) := by
  obtain ⟨hle, hall, hend⟩ := course_spec c client path body client.maxRetries.toNat 0 sent hd
  simp only [Nat.zero_add] at hall hend
  obtain ⟨-, hlast⟩ := hend.resolve_left hr
  constructor
  · rcases hlast with hlast | hlast
    · exact Set.mem_insert_iff.2 (Or.inl (congrArg (· + 1) hlast))
    · exact Set.mem_insert_of_mem _ ⟨ds.length, rfl, final_of_not_retried ho hlast⟩
  · rintro n (rfl | ⟨k, rfl, hk⟩)
    · exact Nat.succ_le_succ hle
    · by_contra hlt
      have htransient := transient_of_isRetried (hall k (by omega))
      rw [attemptOutcome, htransient] at hk
      cases hk

/-- A delivery that does not break off ends as its last attempt came out. -/
theorem end_of_delivery {sent : Nat} {ds : List Number} {r : Except Failure Fields}
    (hd : delivery c client path body sent = (ds, r)) (hr : ¬ BreaksOff r) :
    (attemptCall client path body 0).reached c = 1 ∧
      ((∃ fs, r = .ok fs ∧ (attemptOutcome c client path body sent ds.length).Reports fs) ∨
        ∃ u, r = .error (.undelivered u) ∧
          ¬ (attemptOutcome c client path body sent ds.length).IsSuccess) := by
  have hend := delivery_end c client path body sent
  rw [hd] at hend
  rcases hend with rfl | hresult
  · exact absurd ⟨.endlessDelay, rfl, rfl⟩ hr
  have hundelivered : ∀ f, r = .error f → f.isUndelivered = true := fun f hf => by
    by_contra hnot
    exact hr ⟨f, hf, eq_false_of_ne_true hnot⟩
  have hreached : (attemptCall client path body ds.length).reached c = 1 :=
    reached_of_result fun f hf => hundelivered f (hresult.trans hf)
  refine ⟨hreached, ?_⟩
  cases r with
  | ok fs => exact Or.inl ⟨fs, rfl, taken_of_result hresult.symm⟩
  | error f =>
    obtain ⟨u, rfl⟩ := exists_undelivered (hundelivered f rfl)
    exact Or.inr ⟨u, rfl, (failed_of_result hresult.symm).1⟩

variable (c client path body) in
/-- **A delivery keeps to its protocol.**  It posts one body to one address, in numbered attempts
    with a pause between one and the next, and is counted and logged once, by how it ends.  It
    breaks off just for one of the reasons of a breach.  It stops after the least number of attempts
    that it may stop after, unless a delay is too large.  If it does not break off, the connector
    saw all attempts, and the end is what the last one came to: a success, reported as an object, or
    not. -/
theorem delivery_protocol (ho : c.IsOrderly) (hj : ∀ n, (c.jitter n).toReal?.isSome = true)
    (session : Json) (h : History) :
    ∃ k r t h', exec (deliver c client path body session) h = (r, h') ∧
      h'.trace = h.trace ++ t ∧
      t.filter Entry.isCall =
        (List.range (k + 1)).map (fun n => .call (attemptCall client path body n)) ∧
      t.countP Entry.isPause = k ∧
      Ending c path body session r (t.filter Entry.isReckoning) ∧
      (BreaksOff r ↔ Breach c client path body k (h.sent + k)) ∧
      (r ≠ .error .endlessDelay → IsLeast (finalAttempts c client path body h.sent) (k + 1)) ∧
      (¬ BreaksOff r → h'.sent = h.sent + (k + 1) ∧
        ((∃ fs, r = .ok fs ∧ (attemptOutcome c client path body h.sent k).Reports fs) ∨
          ∃ u, r = .error (.undelivered u) ∧
            ¬ (attemptOutcome c client path body h.sent k).IsSuccess)) := by
  obtain ⟨ds, r, hd⟩ : ∃ ds r, delivery c client path body h.sent = (ds, r) := ⟨_, _, rfl⟩
  have hrun := exec_deliver c client path body session h
  have hending := ending_delivery c client path body session h.sent
  have hbreaks := delivery_breaks_iff c client path body ho hj h.sent
  rw [deliveryTrace, deliverySent] at hrun
  rw [hd] at hrun hending hbreaks
  obtain ⟨hcalls, hpauses, hreckonings⟩ := hending.filter
  refine ⟨ds.length, r, _, _, hrun, rfl, ?_, ?_, ?_, hbreaks, isLeast_of_delivery ho hd,
    fun hr => ?_⟩
  · rw [List.filter_append, hcalls, List.append_nil, calls_attemptsTrace, List.range_eq_range']
  · rw [List.countP_append, hpauses, Nat.add_zero, countP_isPause_attemptsTrace]
  · rw [List.filter_append, hreckonings, reckonings_attemptsTrace, List.nil_append]
    exact hending
  · obtain ⟨hreached, hcases⟩ := end_of_delivery hd hr
    exact ⟨by rw [hreached], hcases⟩

/-- A delivery to a connector that is busy at first takes two attempts, and succeeds. -/
theorem protocol_busyOnce : ∃ r t h',
    exec (deliver (.plain .busyOnce) .retryingOnce messagePath (.object []) .null) {} = (r, h') ∧
    h'.trace = t ∧ t.filter Entry.isCall = (List.range 2).map (fun n =>
      .call (attemptCall .retryingOnce messagePath (.object []) n)) ∧
    (∃ fs, r = .ok fs ∧ (attemptOutcome (.plain .busyOnce) .retryingOnce messagePath (.object [])
      0 1).Reports fs) ∧
    Ending (.plain .busyOnce) messagePath (.object []) .null r (t.filter Entry.isReckoning) := by
  have horderly : (Conditions.plain .busyOnce).IsOrderly :=
    isOrderly_usual rfl isWhole_busyOnce isOrderly_busyOnce
  obtain ⟨k, r, t, h', hrun, htrace, hcalls, -, hending, -, -, hcases⟩ :=
    delivery_protocol (.plain .busyOnce) .retryingOnce messagePath (.object []) horderly
      (fun _ => rfl) .null {}
  have hend : (exec (deliver (.plain .busyOnce) .retryingOnce messagePath (.object []) .null)
      {}).map Except.isOk History.sent = (true, 2) := by decide +kernel
  rw [hrun, Prod.map, Prod.mk.injEq] at hend
  obtain ⟨hok, hsent⟩ := hend
  have hnot : ¬ BreaksOff r := by
    rintro ⟨f, rfl, -⟩
    cases hok
  obtain ⟨hcount, hend⟩ := hcases hnot
  have hk : k = 1 := by
    have htwo : 0 + (k + 1) = 2 := hcount.symm.trans hsent
    omega
  subst hk
  rcases hend with hreports | ⟨u, rfl, -⟩
  · exact ⟨r, t, h', hrun, htrace, hcalls, hreports, hending⟩
  · cases hok

/-- A connector that is busy at the first attempt it sees, and then answers with a text which is
    not in the charset that it names. -/
def Connector.garbledLater : Connector := fun n call =>
  if n = 0 then .answer { status := 503 } else Connector.garbled n call

/-- Its answers are orderly and the second is a success, but the delivery breaks off there, and is
    neither counted nor logged. -/
theorem breaks_off_garbledLater :
    (Conditions.plain .garbledLater).IsOrderly ∧
    (attemptOutcome (.plain .garbledLater) .retryingOnce messagePath (.object []) 0 1).IsSuccess ∧
    ∃ r h', exec (deliver (.plain .garbledLater) .retryingOnce messagePath (.object []) .null)
        {} = (r, h') ∧ h'.sent = 2 ∧ BreaksOff r ∧ h'.trace.filter Entry.isReckoning = [] := by
  obtain ⟨r, h', hrun⟩ : ∃ r h', exec (deliver (.plain .garbledLater) .retryingOnce messagePath
      (.object []) .null) {} = (r, h') := ⟨_, _, rfl⟩
  have hend : (exec (deliver (.plain .garbledLater) .retryingOnce messagePath (.object []) .null)
      {}).map (fun r => match r with
        | .error f => f.isUndelivered
        | .ok _ => true)
      (fun h => (h.sent, h.trace.filter Entry.isReckoning)) = (false, 2, []) := by
    decide +kernel
  simp only [hrun, Prod.map, Prod.mk.injEq] at hend
  obtain ⟨hfailure, hsent, hnone⟩ := hend
  have horderly : (Conditions.plain .garbledLater).IsOrderly := by
    refine isOrderly_usual rfl (fun n call => ?_) fun n call => ?_
    · change Outcome.IsWhole _ (if n = 0 then _ else _)
      split
      · exact isWhole_busyOnce n ⟨"", .null, 0⟩
      · exact isWhole_garbled n call
    · change Outcome.IsOrderly (if n = 0 then _ else _)
      split
      · nofun
      · exact isOrderly_garbled n call
  cases r with
  | ok fs => cases hfailure
  | error f =>
    exact ⟨horderly, by decide +kernel, _, h', hrun, hsent, ⟨f, rfl, hfailure⟩, hnone⟩

end Protocol

end ChatRelay

/-
  Deliveries that break off.

  A delivery succeeds or fails as a delivery, and is then counted and logged.  It
  may also break off: end in another failure, uncounted and unlogged.  `Abort` lists
  the reasons for this at an attempt, and `delivery_aborts_iff` says that these are
  all.  The reasons that are left if what is posted is orderly are a `Breach`.
-/
import ChatRelay.Proofs.Connector.Course
import ChatRelay.Proofs.Connector.Usual

namespace ChatRelay

/-- The result is a failure other than a failed delivery. -/
def BreaksOff {α : Type} (r : Except Failure α) : Prop :=
  ∃ f, r = .error f ∧ f.isUndelivered = false

/-- Why a delivery breaks off at its attempt `n`, before which the connector saw `sent` attempts:
    the client meets with a mishap that is no error of an exchange, or the answer is a success whose
    content cannot be had though it is whole, or the attempt failed and is worth another one, for
    which retries are left, but the delay until then is not asked for and too large. -/
inductive Breach (c : Conditions) (client : Client) (path : String) (body : Json) (n sent : Nat) :
    Prop
  | foreign {m : Mishap} : c.posted (attemptCall client path body n) sent = .mishap m →
      m.isHttp = false → Breach c client path body n sent
  | unreadable {r : Reply} {m : Mishap} :
      c.posted (attemptCall client path body n) sent = .reply r → isSuccess r.status = true →
      r.IsWhole → r.Unreadable m → Breach c client path body n sent
  | endless {u : Undelivered} :
      (attemptCall client path body n).result c path sent = .error (.undelivered u) →
      u.retryable = true → (n : Int) < client.maxRetries → (∀ x ∈ u.retryAfter, x.isZero = true) →
      1024 ≤ n → Breach c client path body n sent

/-- Why a delivery breaks off at its attempt `n`: for any of the reasons of a breach, or because it
    is worth another attempt and told in a garbled header when. -/
inductive Abort (c : Conditions) (client : Client) (path : String) (body : Json) (n sent : Nat) :
    Prop
  | breach : Breach c client path body n sent → Abort c client path body n sent
  | garbled : (c.posted (attemptCall client path body n) sent).HasGarbledHint →
      Abort c client path body n sent

section Abort

variable {c : Conditions} {client : Client} {path : String} {body : Json} {n sent : Nat}

theorem abort_iff_breach (ho : c.IsOrderly) :
    Abort c client path body n sent ↔ Breach c client path body n sent := by
  constructor
  · rintro (h | h)
    · exact h
    · exact absurd h (not_hasGarbledHint_of_orderly (ho _ _))
  · exact .breach

theorem abort_of_unusable {p : Posted} (hp : c.posted (attemptCall client path body n) sent = p)
    (hw : p.IsWhole) (h : p.Unusable) : Abort c client path body n sent := by
  cases h with
  | foreign hm => exact .breach (.foreign hp hm)
  | unreadable hs hu => exact .breach (.unreadable hp hs hw hu)
  | garbled hg => exact .garbled (hp ▸ hg)

/-- An attempt that succeeds reports what was answered. -/
theorem taken_of_result {fs : Fields}
    (h : (attemptCall client path body n).result c path sent = .ok fs) :
    (c.posted (attemptCall client path body n) sent).Reports fs := by
  cases sorted_posted path (attemptCall client path body n)
    (c.posted (attemptCall client path body n) sent) with
  | taken hr hreports =>
    cases h.symm.trans hr
    exact hreports
  | failed hr => cases h.symm.trans hr
  | unusable hr => cases h.symm.trans hr

/-- One that fails as a delivery carries the body, and is worth another one if what came of posting
    it is. -/
theorem failed_of_result {u : Undelivered}
    (h : (attemptCall client path body n).result c path sent = .error (.undelivered u)) :
    ¬ (c.posted (attemptCall client path body n) sent).IsSuccess ∧ u.body = body ∧
      u.retryable = (c.posted (attemptCall client path body n) sent).isTransient ∧
      u.HasRealHint := by
  cases sorted_posted path (attemptCall client path body n)
    (c.posted (attemptCall client path body n) sent) with
  | taken hr => cases h.symm.trans hr
  | failed hr hnot hbody hretry hreal =>
    cases h.symm.trans hr
    exact ⟨hnot, hbody, hretry, hreal⟩
  | unusable hr hnot =>
    cases h.symm.trans hr
    cases hnot

/-- One that fails otherwise is a reason to break off. -/
theorem abort_of_result (hw : c.IsWhole)
    (h : BreaksOff ((attemptCall client path body n).result c path sent)) :
    Abort c client path body n sent := by
  obtain ⟨f, hf, hnot⟩ := h
  cases sorted_posted path (attemptCall client path body n)
    (c.posted (attemptCall client path body n) sent) with
  | taken hr => cases hf.symm.trans hr
  | failed hr =>
    cases hf.symm.trans hr
    cases hnot
  | unusable _ _ hu => exact abort_of_unusable rfl (hw _ _) hu

theorem breaksOff_of_unusable {p : Posted}
    (hp : c.posted (attemptCall client path body n) sent = p) (h : p.Unusable) :
    BreaksOff ((attemptCall client path body n).result c path sent) := by
  rw [Call.result, hp]
  exact read_of_unusable h path _

/-- A reason to break off shows in the result of the attempt, unless it lies in the delay. -/
theorem result_of_abort (h : Abort c client path body n sent) :
    BreaksOff ((attemptCall client path body n).result c path sent) ∨
      ∃ u, (attemptCall client path body n).result c path sent = .error (.undelivered u) ∧
        u.retryable = true ∧ (n : Int) < client.maxRetries ∧
        (∀ x ∈ u.retryAfter, x.isZero = true) ∧ 1024 ≤ n := by
  rcases h with (⟨hp, hm⟩ | ⟨hp, hs, -, hu⟩ | ⟨hr, hretry, hleft, hzero, hn⟩) | hg
  · exact Or.inl (breaksOff_of_unusable hp (.foreign hm))
  · exact Or.inl (breaksOff_of_unusable hp (.unreadable hs hu))
  · exact Or.inr ⟨_, hr, hretry, hleft, hzero, hn⟩
  · exact Or.inl (breaksOff_of_unusable rfl (.garbled hg))

theorem not_breaksOff_undelivered {α : Type} (u : Undelivered) :
    ¬ BreaksOff (.error (.undelivered u) : Except Failure α) := by
  rintro ⟨f, hf, hnot⟩
  cases hf
  cases hnot

end Abort

section Course

variable (c : Conditions) (client : Client) (path : String) (body : Json)

theorem course_aborts_iff (hw : c.IsWhole) (hj : ∀ n, (c.jitter n).toReal?.isSome = true)
    (left n sent : Nat) (hleft : n + left = client.maxRetries.toNat) :
    BreaksOff (course c client path body n sent left).2 ↔
      Abort c client path body (n + (course c client path body n sent left).1.length)
        (sent + (course c client path body n sent left).1.length) := by
  by_cases hu : ∃ u, (attemptCall client path body n).result c path sent = .error (.undelivered u)
  · obtain ⟨u, hu⟩ := hu
    obtain ⟨-, -, -, hreal⟩ := failed_of_result hu
    -- The only reason left here is an endless delay.
    have hendless : Abort c client path body n sent → u.retryable = true ∧
        (n : Int) < client.maxRetries ∧ (∀ x ∈ u.retryAfter, x.isZero = true) ∧ 1024 ≤ n := by
      intro h
      rcases result_of_abort h with h | ⟨u', hu', h⟩
      · rw [hu] at h
        exact absurd h (not_breaksOff_undelivered u)
      · rw [hu] at hu'
        cases hu'
        exact h
    cases hretry : u.retryable with
    | false =>
      rw [course_of_hopeless hu hretry]
      refine ⟨fun h => absurd h (not_breaksOff_undelivered u), fun h => ?_⟩
      have := (hendless h).1
      simp [hretry] at this
    | true =>
      cases left with
      | zero =>
        rw [course, hu]
        refine ⟨fun h => absurd h (not_breaksOff_undelivered u), fun h => ?_⟩
        have := (hendless h).2.1
        omega
      | succ left =>
        cases hd : (deliveryBackoff client).delay n u.retryAfter (c.jitter n) with
        | none =>
          obtain ⟨hzero, hn⟩ := (delay_eq_none_iff client n hreal (hj n)).1 hd
          rw [course_of_endless hu hretry hd]
          exact ⟨fun _ => .breach (.endless hu hretry (by simp; omega) hzero hn),
            fun _ => ⟨.endlessDelay, rfl, rfl⟩⟩
        | some d =>
          have hrest := course_aborts_iff hw hj left (n + 1) (sent + 1) (by omega)
          rw [course_of_again hu hretry hd, List.length_cons]
          rwa [Nat.add_right_comm n, Nat.add_right_comm sent] at hrest
  · have hended := fun u h => hu ⟨u, h⟩
    rw [course_of_ended hended]
    refine ⟨abort_of_result hw, fun h => ?_⟩
    rcases result_of_abort h with h | ⟨u, h, -⟩
    · exact h
    · exact absurd h (hended u)
termination_by left

/-- **The reasons to break off are all.**  If what is posted is whole, a delivery breaks off if and
    only if there is one at its last attempt. -/
theorem delivery_aborts_iff (hw : c.IsWhole) (hj : ∀ n, (c.jitter n).toReal?.isSome = true)
    (sent : Nat) :
    BreaksOff (delivery c client path body sent).2 ↔
      Abort c client path body (delivery c client path body sent).1.length
        (sent + (delivery c client path body sent).1.length) := by
  have h := course_aborts_iff c client path body hw hj client.maxRetries.toNat 0 sent
    (Nat.zero_add _)
  rwa [Nat.zero_add] at h

/-- If what is posted is orderly, the reasons are those of a breach. -/
theorem delivery_breaks_iff (ho : c.IsOrderly)
    (hj : ∀ n, (c.jitter n).toReal?.isSome = true) (sent : Nat) :
    BreaksOff (delivery c client path body sent).2 ↔
      Breach c client path body (delivery c client path body sent).1.length
        (sent + (delivery c client path body sent).1.length) := by
  have hw : c.IsWhole := fun call sent => (ho call sent).isWhole
  rw [delivery_aborts_iff c client path body hw hj, abort_iff_breach ho]

end Course

/-! ## Sample answers -/

/-- Nothing is no document. -/
theorem isWhole_busyOnce : Connector.busyOnce.IsWhole ({} : Limits).reply := by
  intro n call content h
  cases h
  change Json.readBytes ({} : Limits).reply [] ≠ _
  decide +kernel

theorem isOrderly_busyOnce : Connector.busyOnce.IsOrderly := by
  intro n call v hv
  cases hv

theorem isWhole_garbled : Connector.garbled.IsWhole ({} : Limits).reply := by
  intro n call content h
  cases h
  decide +kernel

/-- A text that is not in its charset comes in an orderly answer. -/
theorem isOrderly_garbled : Connector.garbled.IsOrderly := by
  intro n call v hv
  have hnone : headerValue? [("content-type", "text/plain; charset=utf-16")] "retry-after" =
      none := by decide +kernel
  have hv : v ∈ headerValue? [("content-type", "text/plain; charset=utf-16")] "retry-after" := hv
  rw [hnone] at hv
  cases hv

end ChatRelay

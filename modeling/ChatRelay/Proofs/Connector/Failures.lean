/-
  The failures that a delivery ends in.

  A batch may go on after a failure that concerns the session of an item, the call of a tool
  tells the model of arguments that do not fit, and a request is answered by the sort of its
  failure.  So it has to be known which failures come out of a delivery: `Failure.OfDelivery`
  lists them, and no delivery ends in another one (`ofDelivery_delivery`).
-/
import ChatRelay.Proofs.Connector.Course
import ChatRelay.Proofs.Connector.Outcome

namespace ChatRelay

/-- The failure lies with what was given: there is no usable session, or something does not fit its
    form. -/
def Failure.isInputFailure : Failure → Bool
  | .missingSession | .invalidSession _ | .invalid _ => true
  | _ => false

/-- The failures that a delivery may end in: it failed as a delivery, or the delay until another
    attempt is not known, or the client met with a mishap. -/
inductive Failure.OfDelivery : Failure → Prop
  | undelivered (u : Undelivered) : OfDelivery (.undelivered u)
  | numeral (e : NumeralError) : OfDelivery (.numeral e)
  | endlessDelay : OfDelivery .endlessDelay
  | mishap (m : Mishap) : OfDelivery m.failure

/-- None of them lies with the input. -/
theorem Failure.OfDelivery.not_isInputFailure {f : Failure} (h : f.OfDelivery) :
    f.isInputFailure = false := by
  cases h with
  | mishap m => cases m <;> rfl
  | _ => rfl

/-- One that is no failed delivery has no category. -/
theorem Failure.OfDelivery.category? {f : Failure} (h : f.OfDelivery)
    (hnot : f.isUndelivered = false) : f.category? = none := by
  cases h with
  | undelivered u => cases hnot
  | mishap m => cases m <;> rfl
  | _ => rfl

/-- The result is no failure other than those of a delivery. -/
def OfDelivery {α : Type} (r : Except Failure α) : Prop := FailsOnly Failure.OfDelivery r

/-! ## Attempts -/

section Attempts

variable (path : String) (call : Call)

theorem ofDelivery_rejection (status : Nat) (hint : Option String) :
    (rejection path call status hint).OfDelivery := by
  unfold rejection
  split
  · exact .numeral _
  · exact .undelivered _

theorem ofDelivery_breakdown (m : Mishap) : (breakdown path call m).OfDelivery := by
  cases hm : m.isHttp with
  | false =>
    rw [breakdown_of_not_isHttp hm]
    exact .mishap m
  | true =>
    cases m with
    | incident i =>
      obtain ⟨name, sort, message⟩ := i
      cases sort with
      | status code hint => exact ofDelivery_rejection path call code hint
      | transport | exchange => exact .undelivered _
      | _ => cases hm
    | _ => cases hm

theorem ofDelivery_read (p : Posted) : OfDelivery (p.read path call) := by
  cases p with
  | mishap m => exact failsOnly_error (ofDelivery_breakdown path call m)
  | reply r =>
    dsimp only [Posted.read]
    split
    · exact failsOnly_mapError Failure.OfDelivery.mishap _
    · exact failsOnly_error (ofDelivery_rejection path call _ _)

theorem not_isTimeout_of_rejection (status : Nat) (hint : Option String) :
    (rejection path call status hint).isTimeout = false := by
  unfold rejection
  split <;> rfl

/-- If no time ran out outside of an exchange, then none is told of. -/
theorem not_isTimeout_of_read {p : Posted} (hp : p.IsPunctual) :
    FailsOnly (fun f => f.isTimeout = false) (p.read path call) := by
  cases p with
  | reply r =>
    dsimp only [Posted.read]
    split
    · have hfields : FailsOnly (fun m => m.failure.isTimeout = false) r.fields := hp
      cases hr : r.fields with
      | ok fs => exact failsOnly_ok fs
      | error m => exact failsOnly_error (hfields m hr)
    · exact failsOnly_error (not_isTimeout_of_rejection path call _ _)
  | mishap m =>
    have hm : m.failure.isTimeout = false := hp
    refine failsOnly_error ?_
    cases hhttp : m.isHttp with
    | false => rwa [breakdown_of_not_isHttp hhttp]
    | true =>
      cases m with
      | incident i =>
        obtain ⟨name, sort, message⟩ := i
        cases sort with
        | status code hint => exact not_isTimeout_of_rejection path call code hint
        | transport | exchange => rfl
        | _ => cases hhttp
      | _ => cases hhttp

end Attempts

/-! ## Deliveries -/

section Deliveries

variable (c : Conditions) (client : Client) (path : String) (body : Json) (sent : Nat)

/-- **No delivery ends in any other failure.** -/
theorem ofDelivery_delivery : OfDelivery (delivery c client path body sent).2 := by
  rcases delivery_end c client path body sent with h | h <;> rw [h]
  · exact failsOnly_error .endlessDelay
  · exact ofDelivery_read path _ _

/-- Nor does one tell of a time that ran out, if none did outside of an exchange. -/
theorem not_isTimeout_of_delivery (hp : c.IsPunctual) :
    FailsOnly (fun f => f.isTimeout = false) (delivery c client path body sent).2 := by
  rcases delivery_end c client path body sent with h | h <;> rw [h]
  · exact failsOnly_error rfl
  · exact not_isTimeout_of_read path _ (hp _ _)

/-- No delivery ends in a failure that lies with the input. -/
theorem not_isInputFailure_of_delivery {f : Failure}
    (h : (delivery c client path body sent).2 = .error f) : f.isInputFailure = false :=
  (ofDelivery_delivery c client path body sent f h).not_isInputFailure

end Deliveries

end ChatRelay

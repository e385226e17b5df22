/-
  How deliveries end.

  `Ending` tells how each end of a delivery is counted and logged: that of one that
  succeeded, that of one that failed, with the body that was posted, and that of one
  that broke off.  A delivery has one of these ends, and it is known when it breaks
  off (`deliver_ends`).
-/
import ChatRelay.Proofs.Connector.Breach

namespace ChatRelay

/-- How the delivery of a body ends, and what is then counted and logged. -/
inductive Ending (c : Conditions) (path : String) (body session : Json) :
    Except Failure Fields → List Entry → Prop
  | delivered {fs : Fields} : Ending c path body session (.ok fs)
      [.count (.delivered path true), .event (.delivered session path c.elapsed)]
  | undelivered {u : Undelivered} : u.body = body →
      Ending c path body session (.error (.undelivered u))
        [.count (.delivered path false), .event (.failed session path u)]
  | brokenOff {f : Failure} : f.isUndelivered = false →
      Ending c path body session (.error f) []

section Ending

variable (c : Conditions) (client : Client) (path : String) (body : Json)

theorem ending_delivery (session : Json) (sent : Nat) :
    Ending c path body session (delivery c client path body sent).2
      (closing c path session (delivery c client path body sent).2) := by
  have hend := delivery_end c client path body sent
  cases hr : (delivery c client path body sent).2 with
  | ok fs => exact .delivered
  | error f =>
    cases hf : f.isUndelivered with
    | true =>
      obtain ⟨u, rfl⟩ := exists_undelivered hf
      rw [hr] at hend
      rcases hend with hend | hend
      · cases hend
      · obtain ⟨-, hbody, -⟩ := failed_of_result hend.symm
        exact .undelivered hbody
    | false =>
      have hclosing : closing c path session (.error f) = [] := by
        cases f with
        | undelivered u => cases hf
        | _ => rfl
      rw [hclosing]
      exact .brokenOff hf

variable {c path body} in
theorem Ending.filter {session : Json} {r : Except Failure Fields} {e : List Entry}
    (h : Ending c path body session r e) : e.filter Entry.isCall = [] ∧
      e.countP Entry.isPause = 0 ∧ e.filter Entry.isReckoning = e := by
  cases h <;> exact ⟨rfl, rfl, rfl⟩

/-- **A delivery ends in one of three ways**, after a row of attempts, and breaks off if and only
    if there is a reason for it at the last of them. -/
theorem deliver_ends (hw : c.IsWhole) (hj : ∀ n, (c.jitter n).toReal?.isSome = true)
    (session : Json) (h : History) :
    ∃ ds r e h', exec (deliver c client path body session) h = (r, h') ∧
      h'.trace = h.trace ++ (attemptsTrace client path body 0 ds ++ e) ∧
      Ending c path body session r e ∧
      (BreaksOff r ↔ Abort c client path body ds.length (h.sent + ds.length)) :=
  ⟨(delivery c client path body h.sent).1, (delivery c client path body h.sent).2, _, _,
    exec_deliver c client path body session h, rfl, ending_delivery c client path body session _,
    delivery_aborts_iff c client path body hw hj h.sent⟩

end Ending

end ChatRelay

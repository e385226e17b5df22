/-
  Computations that do not look back.

  A computation `Adds` a result, a number of attempts and entries of the trace if
  it ends in that result and adds these, whatever happened before.  It is
  `Uniform` if there are such.  Both are kept when computations are put one after
  the other.
-/
import ChatRelay.Proofs.Connector.Attempt

namespace ChatRelay

/-- Whatever happened before, the computation ends in `r`, makes the connector see `n`
    attempts, and adds `t` to the trace. -/
def Adds {α : Type} (x : Relay α) (r : Except Failure α) (n : Nat) (t : List Entry) : Prop :=
  ∀ h, exec x h = (r, { sent := h.sent + n, trace := h.trace ++ t })

/-- The computation does the same whatever happened before. -/
def Uniform {α : Type} (x : Relay α) : Prop := ∃ r n t, Adds x r n t

section Adds

variable {α β : Type} {x : Relay α} {f : α → Relay β} {n m : Nat} {t u : List Entry}

theorem adds_pure (a : α) : Adds (pure a) (.ok a) 0 [] := fun h => by simp

theorem adds_liftM (r : Except Failure α) : Adds (liftM r) r 0 [] := fun h => by simp

theorem Adds.bind {a : α} {r : Except Failure β} (hx : Adds x (.ok a) n t)
    (hf : Adds (f a) r m u) : Adds (x >>= f) r (n + m) (t ++ u) := fun h => by
  rw [exec_bind_ok (hx h), hf, Nat.add_assoc, List.append_assoc]

theorem Adds.bind_error {e : Failure} (hx : Adds x (.error e) n t) :
    Adds (x >>= f) (.error e) n t := fun h => exec_bind_error (hx h)

theorem adds_liftM_bind_ok {r : Except Failure α} {a : α} {q : Except Failure β} (hr : r = .ok a)
    (hf : Adds (f a) q m u) : Adds (liftM r >>= f) q m u := fun h => by
  rw [hr]
  exact hf h

theorem adds_liftM_bind_error {r : Except Failure α} {e : Failure} (hr : r = .error e) :
    Adds (liftM r >>= f) (.error e) 0 [] := by
  rw [hr]
  exact (adds_liftM (.error e)).bind_error

end Adds

section Uniform

variable {α β : Type} {x : Relay α} {f : α → Relay β}

theorem uniform_liftM (r : Except Failure α) : Uniform (liftM r : Relay α) :=
  ⟨_, _, _, adds_liftM r⟩

theorem Uniform.bind (hx : Uniform x) (hf : ∀ a, Uniform (f a)) : Uniform (x >>= f) := by
  obtain ⟨r, n, t, hx⟩ := hx
  cases r with
  | error e => exact ⟨_, _, _, hx.bind_error⟩
  | ok a =>
    obtain ⟨_, _, _, hf⟩ := hf a
    exact ⟨_, _, _, hx.bind hf⟩

end Uniform

end ChatRelay

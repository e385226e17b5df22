/-
  What computations post.

  A computation `PostsOnly` bodies of a sort if all attempts that it adds to the trace
  post such bodies.  A delivery posts only its body (`postsOnly_deliver`); the property
  passes from the last part of a computation to the whole if the parts before it post
  nothing.
-/
import ChatRelay.Proofs.Connector.Course
import ChatRelay.Proofs.Uniform

namespace ChatRelay

/-- The computation adds to the trace, and every attempt it adds posts a body of the sort. -/
def PostsOnly (P : Json → Prop) {α : Type} (x : Relay α) : Prop :=
  ∀ h, ∃ t, (exec x h).2.trace = h.trace ++ t ∧ ∀ call, .call call ∈ t → P call.body

/-- The entries are counts. -/
def AreCounts (t : List Entry) : Prop := ∀ e ∈ t, ∃ k, e = .count k

theorem areCounts_map (ks : List Count) : AreCounts (ks.map .count) := by
  intro e he
  obtain ⟨k, -, rfl⟩ := List.mem_map.1 he
  exact ⟨k, rfl⟩

theorem AreCounts.append {t u : List Entry} (ht : AreCounts t) (hu : AreCounts u) :
    AreCounts (t ++ u) := fun e he => (List.mem_append.1 he).elim (ht e) (hu e)

theorem AreCounts.call_not_mem {t : List Entry} (ht : AreCounts t) (call : Call) :
    .call call ∉ t := fun hmem => by
  obtain ⟨k, hk⟩ := ht _ hmem
  cases hk

section Posts

variable {α β : Type} {P Q : Json → Prop} {x : Relay α} {f : α → Relay β}
  {r : Except Failure α} {n : Nat} {t : List Entry}

theorem PostsOnly.mono (hx : PostsOnly P x) (hPQ : ∀ body, P body → Q body) : PostsOnly Q x := by
  intro h
  obtain ⟨t, ht, hP⟩ := hx h
  exact ⟨t, ht, fun call hmem => hPQ _ (hP call hmem)⟩

/-- A computation that only counts posts nothing. -/
theorem Adds.postsOnly (hx : Adds x r n t) (ht : AreCounts t) : PostsOnly P x := fun h =>
  ⟨t, by rw [hx h], fun call hmem => absurd hmem (ht.call_not_mem call)⟩

/-- After a computation that only counts, what follows decides. -/
theorem PostsOnly.adds_bind (hx : Adds x r n t) (ht : AreCounts t)
    (hf : ∀ a, r = .ok a → PostsOnly P (f a)) : PostsOnly P (x >>= f) := by
  cases r with
  | error e => exact hx.bind_error.postsOnly ht
  | ok a =>
    intro h
    obtain ⟨u, hu, hP⟩ := hf a rfl { sent := h.sent + n, trace := h.trace ++ t }
    refine ⟨t ++ u, by rw [exec_bind_ok (hx h), hu, List.append_assoc], fun call hmem => ?_⟩
    exact hP call ((List.mem_append.1 hmem).resolve_left (ht.call_not_mem call))

/-- What is done with the result posts nothing. -/
theorem PostsOnly.map {y : Relay β} {g : Except Failure α → Except Failure β}
    (hx : PostsOnly P x) (hy : ∀ h, exec y h = (exec x h).map g id) : PostsOnly P y := by
  intro h
  obtain ⟨t, ht, hP⟩ := hx h
  exact ⟨t, by rw [hy]; exact ht, hP⟩

end Posts

section Delivery

variable {c : Conditions} {client : Client} {path : String} {body : Json}

/-- **A delivery posts its body.** -/
theorem postsOnly_deliver (session : Json) :
    PostsOnly (· = body) (deliver c client path body session) := by
  intro h
  refine ⟨_, by rw [exec_deliver], fun call hmem => ?_⟩
  have hcall : .call call ∈ (deliveryTrace c client path body session h.sent).filter Entry.isCall :=
    List.mem_filter.2 ⟨hmem, rfl⟩
  rw [calls_deliveryTrace] at hcall
  obtain ⟨k, -, hk⟩ := List.mem_map.1 hcall
  cases hk
  rfl

end Delivery

end ChatRelay

/-
  The items of a batch do not touch each other.

  If the connector answers a call alike whatever it saw before, then so does a
  delivery (`adds_deliver`), and the work on an item is uniform: it never looks
  back at what the items before it did (`uniform_runItem`).  `batch_isolated` draws
  the conclusion for whole batches.
-/
import ChatRelay.Proofs.Batch.Item
import Mathlib.Algebra.GroupWithZero.Nat

namespace ChatRelay

/-- The connector answers a call alike whatever it saw before: by the address, the body
    and the number of the attempt. -/
def Connector.IsStateless (k : Connector) : Prop := ∀ n m call, k n call = k m call

section Stateless

variable {c : Conditions}

theorem course_of_stateless (hk : c.connector.IsStateless) (client : Client) (path : String)
    (body : Json) (left n sent sent' : Nat) :
    course c client path body n sent left = course c client path body n sent' left := by
  have hresult : ∀ k sent sent', (attemptCall client path body k).result c path sent =
      (attemptCall client path body k).result c path sent' := fun k sent sent' => by
    unfold Call.result Conditions.posted
    rw [show c.connector sent = c.connector sent' from funext fun call => hk sent sent' call]
  induction left generalizing n sent sent' with
  | zero => rw [course, course, hresult n sent sent']
  | succ left ih => rw [course, course, hresult n sent sent', ih (n + 1) (sent + 1) (sent' + 1)]

theorem adds_deliver (hk : c.connector.IsStateless) (client : Client) (path : String) (body : Json)
    (session : Json) : Adds (deliver c client path body session) (delivery c client path body 0).2
      (deliverySent c client path body 0) (deliveryTrace c client path body session 0) := by
  intro h
  have hcourse : ∀ sent, delivery c client path body sent = delivery c client path body 0 :=
    fun sent => course_of_stateless hk client path body _ 0 sent 0
  rw [exec_deliver, deliverySent, deliveryTrace, hcourse]
  rfl

theorem Adds.map {α β : Type} {x : Relay α} {y : Relay β} {g : Except Failure α → Except Failure β}
    {r : Except Failure α} {n : Nat} {t : List Entry} (hx : Adds x r n t)
    (hy : ∀ h, exec y h = (exec x h).map g id) : Adds y (g r) n t := fun h => by
  rw [hy, hx h]
  rfl

theorem uniform_sendMessage (hk : c.connector.IsStateless) (ctx : Context) (e : Envelope) :
    Uniform (sendMessage c ctx e) :=
  ⟨_, _, _, (adds_deliver hk _ _ _ _).map (exec_sendMessage c ctx e)⟩

theorem uniform_sendRequest (hk : c.connector.IsStateless) (ctx : Context) (r : ControlRequest) :
    Uniform (sendRequest c ctx r) :=
  ⟨_, _, _, (adds_deliver hk _ _ _ _).map (exec_sendRequest c ctx r)⟩

theorem uniform_run (hk : c.connector.IsStateless) (ctx : Context) (job : Job) (record : Json) :
    Uniform (job.run c ctx record) := by
  refine (uniform_liftM _).bind fun session => ?_
  cases job with
  | control => exact (uniform_liftM _).bind fun r => uniform_sendRequest hk ctx r
  | message m => exact Uniform.bind ⟨_, _, _, adds_build c ctx _ m⟩ (uniform_sendMessage hk ctx)

/-- **The work on an item never looks back.** -/
theorem uniform_runItem (hk : c.connector.IsStateless) (ctx : Context) (job : Job) (item : Json) :
    Uniform (runItem c ctx job item) := by
  obtain ⟨r, n, t, hrun⟩ := uniform_run hk ctx job (recordOf item)
  exact ⟨_, _, _, hrun.map (exec_runItem c ctx job item)⟩

end Stateless

/-! ## Batches -/

theorem adds_mapM {α β : Type} {f : α → Relay β} {r : α → β} {n : α → Nat}
    {t : α → List Entry} {xs : List α} (hf : ∀ x ∈ xs, Adds (f x) (.ok (r x)) (n x) (t x)) :
    Adds (xs.mapM f) (.ok (xs.map r)) (xs.map n).sum (xs.flatMap t) := by
  induction xs with
  | nil => exact adds_pure []
  | cons x xs ih =>
    have hx := hf x (by simp)
    have hrest := ih fun y hy => hf y (by simp [hy])
    rw [List.mapM_cons, List.map_cons, List.map_cons, List.sum_cons, List.flatMap_cons]
    refine hx.bind fun h => ?_
    rw [exec_bind_ok (hrest h), exec_pure]

/-- Where a computation run over a list succeeds, it succeeds on every element. -/
theorem ok_of_mapM {α β : Type} {f : α → Relay β} {r : α → Except Failure β} {n : α → Nat}
    {t : α → List Entry} (hf : ∀ x, Adds (f x) (r x) (n x) (t x)) {xs : List α} {ys : List β}
    {h h' : History} (hrun : exec (xs.mapM f) h = (.ok ys, h')) : ∀ x ∈ xs, ∃ y, r x = .ok y := by
  intro x hx
  obtain ⟨g, y, g', hx⟩ := ok_of_mem_exec_mapM hrun x hx
  exact ⟨y, congrArg Prod.fst ((hf x g).symm.trans hx)⟩

/-- **The items of a batch are isolated.**  Each item has a result and a part of the trace of its
    own.  A batch that is worked off gives these results and leaves these parts, in the order of
    the items; and then any items of it, in any order and number, are worked off as a batch of
    their own and do the same there, whatever happened before. -/
theorem batch_isolated {c : Conditions} (hk : c.connector.IsStateless) (ctx : Context) (job : Job) :
    ∃ (result : Json → Fields) (part : Json → List Entry), ∀ items, items ≠ [] →
      ∀ h rs h', exec (runBatch c ctx job (.array items)) h = (.ok rs, h') →
        rs = items.map result ∧ h'.trace = h.trace ++ items.flatMap part ∧
        ∀ others, others ≠ [] → (∀ o ∈ others, o ∈ items) → ∀ g, ∃ g',
          exec (runBatch c ctx job (.array others)) g = (.ok (others.map result), g') ∧
            g'.trace = g.trace ++ others.flatMap part := by
  choose r n t hitem using uniform_runItem hk ctx job
  refine ⟨fun item => (r item).toOption.getD [], t, fun items hne h rs h' hrun => ?_⟩
  rw [runBatch_eq, worklist_of_ne hne] at hrun
  -- Every item of the batch succeeds, so any of them do together.
  have hok : ∀ item ∈ items,
      Adds (runItem c ctx job item) (.ok ((r item).toOption.getD [])) (n item) (t item) := by
    intro item hmem
    obtain ⟨fs, hfs⟩ := ok_of_mapM hitem hrun item hmem
    have hadds := hitem item
    rw [hfs] at hadds ⊢
    exact hadds
  rw [adds_mapM hok h] at hrun
  cases hrun
  refine ⟨rfl, rfl, fun others hothers hsub g => ?_⟩
  rw [runBatch_eq, worklist_of_ne hothers]
  exact ⟨_, adds_mapM (fun o ho => hok o (hsub o ho)) g, rfl⟩

/-- An item that is delivered at the second attempt has the same result alone and behind an item
    without a session. -/
theorem isolated_behind_failure : ∃ result : Json → Fields,
    ∀ items ∈ [[.null, itemOf "a"], [itemOf "a"]], ∃ h',
      exec (runBatch (.plain .busyOnce) (.showing "<b>x</b>") (.message .html) (.array items)) {} =
        (.ok (items.map result), h') := by
  have hstateless : (Conditions.plain .busyOnce).connector.IsStateless := fun _ _ _ => rfl
  obtain ⟨result, part, hall⟩ :=
    batch_isolated hstateless (.showing "<b>x</b>") (.message .html)
  have hok : (exec (runBatch (.plain .busyOnce) (.showing "<b>x</b>") (.message .html)
      (.array [.null, itemOf "a"])) {}).1.isOk = true := by decide +kernel
  rcases hrun : exec (runBatch (.plain .busyOnce) (.showing "<b>x</b>") (.message .html)
      (.array [.null, itemOf "a"])) {} with ⟨f | rs, h'⟩
  · rw [hrun] at hok
    cases hok
  · obtain ⟨-, -, hothers⟩ := hall _ (by simp) {} rs h' hrun
    refine ⟨result, fun items hitems => ?_⟩
    obtain ⟨g', hg, -⟩ := hothers items (by rintro rfl; simp at hitems) (fun o ho => by
      simp only [List.mem_cons, List.not_mem_nil, or_false] at hitems
      rcases hitems with rfl | rfl
      · exact ho
      · exact List.mem_cons_of_mem _ ho) {}
    exact ⟨g', hg⟩

end ChatRelay

/-
  Running computations that may fail and keep a state.

  `exec` runs such a computation from a state.  The state is kept also when the
  computation fails.  `FailsOnly` bounds the failures that a result may be.
-/
import ChatRelay.Proofs.Sequence

namespace ChatRelay

variable {ε σ α β : Type}

/-- What a computation ends in when it starts in a state, and the state it leaves. -/
def exec (m : ExceptT ε (StateM σ) α) (s : σ) : Except ε α × σ := m.run.run s

theorem run_bind (m : StateM σ α) (f : α → StateM σ β) (s : σ) :
    (m >>= f).run s = (f (m.run s).1).run (m.run s).2 := rfl

@[simp] theorem exec_pure (a : α) (s : σ) :
    exec (pure a : ExceptT ε (StateM σ) α) s = (.ok a, s) := rfl

/-- A computation that cannot fail. -/
theorem exec_lift (m : StateM σ α) (s : σ) :
    exec (ExceptT.lift m : ExceptT ε (StateM σ) α) s = (.ok (m.run s).1, (m.run s).2) := rfl

@[simp] theorem exec_throw (e : ε) (s : σ) :
    exec (throw e : ExceptT ε (StateM σ) α) s = (.error e, s) := rfl

@[simp] theorem exec_liftM (x : Except ε α) (s : σ) :
    exec (liftM x : ExceptT ε (StateM σ) α) s = (x, s) := rfl

/-- What comes after the end of a computation: one thing after a result, another after a
    failure. -/
def after (f : α → σ → Except ε β × σ) (g : ε → σ → Except ε β × σ) :
    Except ε α × σ → Except ε β × σ
  | (.ok a, s) => f a s
  | (.error e, s) => g e s

theorem exec_bind (m : ExceptT ε (StateM σ) α) (f : α → ExceptT ε (StateM σ) β) (s : σ) :
    exec (m >>= f) s =
      after (fun a => exec (f a)) (fun e s' => (.error e, s')) (exec m s) := by
  -- the computation is run from this state only
  have h : exec (m >>= f) s = exec (ExceptT.mk (fun _ => exec m s) >>= f) s := rfl
  rw [h]
  rcases exec m s with ⟨_ | _, s'⟩ <;> rfl

theorem exec_bind_ok {m : ExceptT ε (StateM σ) α} {f : α → ExceptT ε (StateM σ) β} {s s' : σ}
    {a : α} (h : exec m s = (.ok a, s')) : exec (m >>= f) s = exec (f a) s' := by
  rw [exec_bind, h, after]

theorem exec_bind_error {m : ExceptT ε (StateM σ) α} {f : α → ExceptT ε (StateM σ) β} {s s' : σ}
    {e : ε} (h : exec m s = (.error e, s')) : exec (m >>= f) s = (.error e, s') := by
  rw [exec_bind, h, after]

/-- A computation whose result is only used by a function leaves the same state. -/
theorem exec_bind_pure {m : ExceptT ε (StateM σ) α} {f : α → β} {s s' : σ} {r : Except ε α}
    (h : exec m s = (r, s')) : exec (m >>= fun a => pure (f a)) s = (r.map f, s') := by
  cases r with
  | ok a => exact exec_bind_ok h
  | error e => exact exec_bind_error h

/-- What handles a failure starts in the state that the failure left. -/
theorem exec_tryCatch (m : ExceptT ε (StateM σ) α) (f : ε → ExceptT ε (StateM σ) α) (s : σ) :
    exec (tryCatch m f) s =
      after (fun a s' => (.ok a, s')) (fun e => exec (f e)) (exec m s) := by
  have h : exec (tryCatch m f) s = exec (tryCatch (ExceptT.mk fun _ => exec m s) f) s := rfl
  rw [h]
  rcases exec m s with ⟨_ | _, s'⟩ <;> rfl

section Lists

variable {f : α → ExceptT ε (StateM σ) β} {x : α} {xs : List α} {s s' : σ}

theorem exec_mapM_cons {y : β} {ys : List β} {t : σ} (hx : exec (f x) s = (.ok y, t))
    (hxs : exec (xs.mapM f) t = (.ok ys, s')) :
    exec ((x :: xs).mapM f) s = (.ok (y :: ys), s') := by
  rw [List.mapM_cons, exec_bind_ok hx, exec_bind_ok hxs, exec_pure]

theorem exec_mapM_cons_error {e : ε} (hx : exec (f x) s = (.error e, s')) :
    exec ((x :: xs).mapM f) s = (.error e, s') := by
  rw [List.mapM_cons, exec_bind_error hx]

/-- A computation that succeeds over a list succeeds on the first element, and on the others from
    there. -/
theorem ok_of_exec_mapM_cons {zs : List β} (h : exec ((x :: xs).mapM f) s = (.ok zs, s')) :
    ∃ y ys t, exec (f x) s = (.ok y, t) ∧ exec (xs.mapM f) t = (.ok ys, s') ∧ zs = y :: ys := by
  rcases hx : exec (f x) s with ⟨e | y, t⟩
  · rw [exec_mapM_cons_error hx] at h
    cases h
  · rw [List.mapM_cons, exec_bind_ok hx] at h
    rcases hxs : exec (xs.mapM f) t with ⟨e | ys, u⟩
    · rw [exec_bind_error hxs] at h
      cases h
    · rw [exec_bind_ok hxs] at h
      cases h
      exact ⟨y, ys, t, rfl, hxs, rfl⟩

/-- Where a computation run over a list succeeds, there is a result for each element. -/
theorem length_of_exec_mapM {zs : List β} (h : exec (xs.mapM f) s = (.ok zs, s')) :
    zs.length = xs.length := by
  induction xs generalizing s zs with
  | nil =>
    cases h
    rfl
  | cons x xs ih =>
    obtain ⟨y, ys, t, -, hxs, rfl⟩ := ok_of_exec_mapM_cons h
    rw [List.length_cons, List.length_cons, ih hxs]

/-- It succeeds on every element, from some state. -/
theorem ok_of_mem_exec_mapM {zs : List β} (h : exec (xs.mapM f) s = (.ok zs, s')) :
    ∀ a ∈ xs, ∃ t y t', exec (f a) t = (.ok y, t') := by
  induction xs generalizing s zs with
  | nil => nofun
  | cons x xs ih =>
    obtain ⟨y, ys, t, hx, hxs, -⟩ := ok_of_exec_mapM_cons h
    intro a ha
    rcases List.mem_cons.1 ha with rfl | ha
    · exact ⟨s, y, t, hx⟩
    · exact ih hxs a ha

/-- One that fails over a list fails on the first element, or on the others from there. -/
theorem error_of_exec_mapM_cons {e : ε} (h : exec ((x :: xs).mapM f) s = (.error e, s')) :
    exec (f x) s = (.error e, s') ∨
      ∃ y t, exec (f x) s = (.ok y, t) ∧ exec (xs.mapM f) t = (.error e, s') := by
  rcases hx : exec (f x) s with ⟨e' | y, t⟩
  · rw [exec_mapM_cons_error hx] at h
    cases h
    exact Or.inl rfl
  · rw [List.mapM_cons, exec_bind_ok hx] at h
    rcases hxs : exec (xs.mapM f) t with ⟨e' | ys, u⟩
    · rw [exec_bind_error hxs] at h
      cases h
      exact Or.inr ⟨y, t, rfl, hxs⟩
    · rw [exec_bind_ok hxs] at h
      cases h

/-- **A computation run over a list fails at the first element where it fails**, after it
    succeeded on those before. -/
theorem exec_mapM_error_iff {e : ε} :
    exec (xs.mapM f) s = (.error e, s') ↔ ∃ before x rest ys t, xs = before ++ x :: rest ∧
      exec (before.mapM f) s = (.ok ys, t) ∧ exec (f x) t = (.error e, s') := by
  constructor
  · intro h
    induction xs generalizing s with
    | nil => cases h
    | cons x xs ih =>
      rcases error_of_exec_mapM_cons h with hx | ⟨y, t, hx, hxs⟩
      · exact ⟨[], x, xs, [], s, rfl, rfl, hx⟩
      · obtain ⟨before, x', rest, ys, u, rfl, hbefore, hx'⟩ := ih hxs
        exact ⟨x :: before, x', rest, y :: ys, u, rfl, exec_mapM_cons hx hbefore, hx'⟩
  · rintro ⟨before, x, rest, ys, t, rfl, hbefore, hx⟩
    induction before generalizing s ys with
    | nil =>
      cases hbefore
      exact exec_mapM_cons_error hx
    | cons b before ih =>
      obtain ⟨y, zs, u, hb, hrest, rfl⟩ := ok_of_exec_mapM_cons hbefore
      rw [List.cons_append, List.mapM_cons, exec_bind_ok hb, exec_bind_error (ih zs hrest)]

end Lists

theorem except_map_map {γ : Type} (r : Except ε α) (f : α → β) (g : β → γ) :
    (r.map f).map g = r.map fun a => g (f a) := by
  cases r <;> rfl

theorem ok_of_map {x : Except ε α} {f : α → β} {b : β} (h : x.map f = .ok b) :
    ∃ a, x = .ok a ∧ f a = b := by
  cases x with
  | error e => cases h
  | ok a => exact ⟨a, rfl, Except.ok.inj h⟩

theorem error_of_map {x : Except ε α} {f : α → β} {e : ε} (h : x.map f = .error e) :
    x = .error e := by
  cases x with
  | error e' => exact congrArg _ (Except.error.inj h)
  | ok a => cases h

theorem ok_bind (a : α) (f : α → Except ε β) : (.ok a : Except ε α) >>= f = f a := rfl

theorem exists_error_iff {x : Except ε α} : (∃ e, x = .error e) ↔ ¬ ∃ a, x = .ok a := by
  cases x <;> simp

theorem exists_ok_map_iff {x : Except ε α} {f : α → β} :
    (∃ b, x.map f = .ok b) ↔ ∃ a, x = .ok a := by
  cases x <;> simp [Except.map]

theorem ok_of_bind {x : Except ε α} {f : α → Except ε β} {b : β} (h : x >>= f = .ok b) :
    ∃ a, x = .ok a ∧ f a = .ok b := by
  cases x with
  | error e => cases h
  | ok a => exact ⟨a, rfl, h⟩

/-! ## Failures -/

/-- If the result is a failure, then one that is allowed. -/
def FailsOnly (allowed : ε → Prop) (r : Except ε α) : Prop := ∀ e, r = .error e → allowed e

section FailsOnly

variable {allowed : ε → Prop} {r : Except ε α}

theorem failsOnly_ok (a : α) : FailsOnly allowed (.ok a : Except ε α) := nofun

theorem failsOnly_error {e : ε} (h : allowed e) : FailsOnly allowed (.error e : Except ε α) := by
  rintro _ ⟨⟩
  exact h

theorem FailsOnly.mono {allowed' : ε → Prop} (hr : FailsOnly allowed r)
    (h : ∀ e, allowed e → allowed' e) : FailsOnly allowed' r :=
  fun e he => h e (hr e he)

theorem FailsOnly.bind {f : α → Except ε β} (hr : FailsOnly allowed r)
    (hf : ∀ a, FailsOnly allowed (f a)) : FailsOnly allowed (r >>= f) := by
  cases r with
  | ok a => exact hf a
  | error e => exact failsOnly_error (hr e rfl)

theorem FailsOnly.map (hr : FailsOnly allowed r) (f : α → β) : FailsOnly allowed (r.map f) :=
  fun e he => hr e (error_of_map he)

theorem failsOnly_mapError {δ : Type} {g : δ → ε} (hg : ∀ d, allowed (g d)) (x : Except δ α) :
    FailsOnly allowed (x.mapError g) := by
  cases x with
  | ok a => exact failsOnly_ok a
  | error d => exact failsOnly_error (hg d)

theorem failsOnly_mapM {f : β → Except ε α} (hf : ∀ b, FailsOnly allowed (f b)) (bs : List β) :
    FailsOnly allowed (bs.mapM f) := by
  induction bs with
  | nil => exact failsOnly_ok []
  | cons b bs ih =>
    rw [List.mapM_cons]
    exact (hf b).bind fun a => ih.bind fun as => failsOnly_ok (a :: as)

end FailsOnly

end ChatRelay

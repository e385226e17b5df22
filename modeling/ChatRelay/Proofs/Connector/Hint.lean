/-
  Pauses that the connector asks for.

  An answer that is worth another attempt may say in a header after how many seconds.
  `deliveryTrial` are the attempts of a delivery as a trial, with any delays: in floating
  point it is the delivery itself (`delivery_of_course`), and in exact arithmetic it tells
  how long the pauses are meant to be.

  * `retryAfter_of_result`: the seconds that a failed attempt carries are those of the header;
  * `hints_replace_delays`: a pause of one second or more that is asked for takes the place of
    the computed one, and is cut to the largest delay;
  * `computed_for_zero`: one of no seconds does not.
-/
import ChatRelay.Proofs.Connector.Protocol
import ChatRelay.Proofs.Connector.Trial

namespace ChatRelay

/-! ## Seconds in a header -/

/-- The text writes the number in ASCII digits. -/
def IsSeconds (v : String) (r : Nat) : Prop :=
  v.toList ≠ [] ∧ IsDigits v.toList ∧ Text.ofDigits (v.toList.map Json.digitValue) = r

instance (v : String) (r : Nat) : Decidable (IsSeconds v r) :=
  inferInstanceAs (Decidable (_ ∧ _ ∧ _))

/-- The seconds that a header of decimal digits asks for, blanks around them apart. -/
def secondsAsked (header : Option String) : Option Nat :=
  header.bind fun v =>
    let cs := (Text.trimBlank v).toList
    if cs = [] then none else (cs.mapM Text.decimalValue?).map Text.ofDigits

/-- Seconds in floating point. -/
def floatSeconds (r : Nat) : Number := .real (.ofDecimal false r 0)

/-- **What is read from a header are the seconds that it asks for.** -/
theorem after_of_hintSeconds {header : Option String} {after : Option Number}
    (h : hintSeconds header = .ok after) : after = (secondsAsked header).map floatSeconds := by
  cases header with
  | none =>
    cases h
    rfl
  | some v =>
    rw [hintSeconds_some] at h
    simp only [secondsAsked, Option.bind_some]
    generalize Text.trimBlank v = s at h ⊢
    split at h
    · rename_i hdigits
      simp only [Bool.and_eq_true, List.all_eq_true] at hdigits
      obtain ⟨hne, hall⟩ := hdigits
      have hne : s.toList ≠ [] := by simpa using hne
      obtain ⟨x, hx, rfl⟩ := ok_of_map h
      obtain ⟨ds, hds⟩ := exists_decimals ((readReal_of_digits_iff hall hne).1 ⟨x, hx⟩)
      rw [readReal_of_decimals hds hne] at hx
      cases hx
      rw [if_neg hne, hds]
      rfl
    · rename_i hdigits
      cases h
      by_cases hne : s.toList = []
      · rw [if_pos hne, Option.map_none]
      · -- a character that is no digit is none of the decimal ones
        cases hds : s.toList.mapM Text.decimalValue? with
        | none => rw [if_neg hne, Option.map_none, Option.map_none]
        | some ds =>
          refine absurd ?_ hdigits
          rw [List.all_eq_true.2 (isDigit_of_decimals hds)]
          simpa using hne

/-- **ASCII digits ask for the number that they write.** -/
theorem secondsAsked_of_isSeconds {v : String} {r : Nat} (h : IsSeconds v r) :
    secondsAsked (some v) = some r := by
  obtain ⟨hne, hdigits, rfl⟩ := h
  have hvalues : v.toList.mapM Text.decimalValue? = some (v.toList.map Json.digitValue) := by
    rw [mapM_eq_some_iff, List.forall₂_map_right_iff, List.forall₂_same]
    exact fun c hc => decimalValue?_of_isDigit (hdigits c hc)
  have htrim : Text.trimBlank v = v := by
    rw [Text.trimBlank, Text.trimChars, dropTrailing_of_none fun c hc =>
      Text.not_isBlank_of_isDigit (isDigit_of_decimals hvalues c hc), String.ofList_toList]
  simp only [secondsAsked, Option.bind_some, htrim, if_neg hne, hvalues, Option.map_some]

/-! ## Hints -/

/-- The header in which an answer, or an error that tells of one, says when to come back, if it is
    worth another attempt by its status. -/
def Posted.hint (p : Posted) : Option String :=
  p.verdict?.bind fun (status, hint) => if retryableStatus status then hint else none

/-- The seconds that it asks for. -/
def Posted.asked (p : Posted) : Option Nat := secondsAsked p.hint

section Carried

variable {path : String} {call : Call} {u : Undelivered}

theorem retryAfter_of_rejection {status : Nat} {hint : Option String}
    (h : rejection path call status hint = .undelivered u) : u.retryAfter =
      (secondsAsked (if retryableStatus status then hint else none)).map floatSeconds := by
  rw [rejection, classifyStatus] at h
  cases hretry : retryableStatus status with
  | false =>
    rw [hretry] at h
    cases h
    rfl
  | true =>
    rw [hretry, if_pos rfl] at h
    rw [if_pos rfl]
    cases hafter : hintSeconds hint with
    | error e =>
      rw [hafter] at h
      cases h
    | ok after =>
      rw [hafter] at h
      cases h
      exact after_of_hintSeconds hafter

theorem retryAfter_of_reply {r : Reply}
    (h : (Posted.reply r).read path call = .error (.undelivered u)) :
    u.retryAfter = (Posted.reply r).asked.map floatSeconds := by
  cases hs : isSuccess r.status with
  | false =>
    rw [read_of_not_success path call hs] at h
    exact retryAfter_of_rejection (Except.error.inj h)
  | true =>
    rw [read_of_success path call hs] at h
    cases hfields : r.fields with
    | ok fs =>
      rw [hfields] at h
      cases h
    | error m =>
      rw [hfields] at h
      have hm : m.failure = .undelivered u := Except.error.inj h
      cases m <;> cases hm

theorem retryAfter_of_mishap {m : Mishap}
    (h : (Posted.mishap m).read path call = .error (.undelivered u)) :
    u.retryAfter = (Posted.mishap m).asked.map floatSeconds := by
  have h : breakdown path call m = .undelivered u := Except.error.inj h
  cases m with
  | incident i =>
    obtain ⟨name, sort, message⟩ := i
    cases sort with
    | status code hint => exact retryAfter_of_rejection h
    | transport | exchange =>
      cases h
      rfl
    | _ => cases h
  | _ => cases h

/-- **A failed attempt carries the seconds of the header.** -/
theorem retryAfter_of_result {c : Conditions} {sent : Nat}
    (h : call.result c path sent = .error (.undelivered u)) :
    u.retryAfter = (c.posted call sent).asked.map floatSeconds := by
  rw [Call.result] at h
  cases hp : c.posted call sent with
  | reply r => exact retryAfter_of_reply (hp ▸ h)
  | mishap m => exact retryAfter_of_mishap (hp ▸ h)

end Carried

/-! ## A delivery as a trial -/

/-- The attempts of a delivery, before which the connector saw `sent` others, as a trial with any
    delays.  A failure comes with the seconds that its outcome asks for. -/
def deliveryTrial {ν : Type} (c : Conditions) (client : Client) (path : String) (body : Json)
    (sent : Nat) (b : Backoff ν) (jitter : Nat → ν) (seconds : Nat → ν) :
    Trial (Failure × Option Nat) ν Fields where
  backoff := b
  jitter := jitter
  outcome n := ((attemptCall client path body n).result c path (sent + n)).mapError fun f =>
    (f, (attemptOutcome c client path body sent n).asked)
  handles e := e.1.isUndelivered
  prospect e := ((prospect e.1).map fun p => ⟨p.retryable, e.2.map seconds⟩).mapError fun f =>
    (f, e.2)
  overflow := (.endlessDelay, none)

section DeliveryTrial

variable {ν : Type} {c : Conditions} {client : Client} {path : String} {body : Json} {sent : Nat}
  {b : Backoff ν} {jitter seconds : Nat → ν} {n : Nat} {e : Failure × Option Nat}

theorem outcome_deliveryTrial :
    (deliveryTrial c client path body sent b jitter seconds).outcome n =
      ((attemptCall client path body n).result c path (sent + n)).mapError fun f =>
        (f, (attemptOutcome c client path body sent n).asked) := rfl

theorem result_of_outcome {r : Except (Failure × Option Nat) Fields}
    (h : (deliveryTrial c client path body sent b jitter seconds).outcome n = r) :
    (attemptCall client path body n).result c path (sent + n) = r.mapError Prod.fst := by
  rw [← h, outcome_deliveryTrial]
  cases (attemptCall client path body n).result c path (sent + n) <;> rfl

theorem asked_of_outcome
    (h : (deliveryTrial c client path body sent b jitter seconds).outcome n = .error e) :
    e.2 = (attemptOutcome c client path body sent n).asked := by
  rw [outcome_deliveryTrial] at h
  cases hr : (attemptCall client path body n).result c path (sent + n) with
  | ok fs =>
    rw [hr] at h
    cases h
  | error f =>
    rw [hr] at h
    cases h
    rfl

theorem prospect_undelivered (u : Undelivered) (asked : Option Nat) :
    (deliveryTrial c client path body sent b jitter seconds).prospect (.undelivered u, asked) =
      .ok ⟨u.retryable, asked.map seconds⟩ := rfl

theorem isClassified_deliveryTrial :
    (deliveryTrial c client path body sent b jitter seconds).IsClassified := by
  rintro n ⟨f, asked⟩ - hhandled
  obtain ⟨u, rfl⟩ := exists_undelivered hhandled
  exact ⟨_, prospect_undelivered u asked⟩

end DeliveryTrial

/-! ### Floating point -/

section Float

variable {c : Conditions} {client : Client} {path : String} {body : Json} {sent : Nat}

variable (c client path body sent) in
/-- The attempts of a delivery with its own delays. -/
def floatTrial : Trial (Failure × Option Nat) Number Fields :=
  deliveryTrial c client path body sent (deliveryBackoff client) c.jitter floatSeconds

variable {n left : Nat} {r : Except (Failure × Option Nat) Fields}

/-- What a handled failure that is worth another attempt says is what it carries. -/
theorem undelivered_of_promising {e : Failure × Option Nat} {p : Prospect Number}
    (ho : (floatTrial c client path body sent).outcome n = .error e)
    (hh : (floatTrial c client path body sent).handles e = true)
    (hp : (floatTrial c client path body sent).prospect e = .ok p) (hr : p.retryable = true) :
    ∃ u, (attemptCall client path body n).result c path (sent + n) = .error (.undelivered u) ∧
      u.retryable = true ∧ u.retryAfter = p.after := by
  obtain ⟨f, asked⟩ := e
  obtain ⟨u, rfl⟩ := exists_undelivered hh
  have hasked := asked_of_outcome ho
  have hresult := result_of_outcome ho
  cases hp.symm.trans (prospect_undelivered u asked)
  exact ⟨u, hresult, hr, (retryAfter_of_result hresult).trans (hasked ▸ rfl)⟩

theorem not_retried_of_outcome {r : Except Failure Fields}
    (h : (attemptCall client path body n).result c path (sent + n) = r)
    (hr : ∀ u, r = .error (.undelivered u) → u.retryable = false) :
    ¬ IsRetried c client path body n (sent + n) := by
  rintro ⟨u, hu, hretry⟩
  cases (hr u (h.symm.trans hu)).symm.trans hretry

theorem course_of_ends (h : (floatTrial c client path body sent).Ends n r)
    (hleft : (client.maxRetries - n).toNat = left) :
    course c client path body n (sent + n) left = ([], r.mapError Prod.fst) := by
  cases h with
  | overflows ho hh hp hr hmore hd =>
    have hmore : (n : Int) < client.maxRetries := hmore
    obtain ⟨left, rfl⟩ : ∃ m, left = m + 1 := Nat.exists_eq_add_one.2 (by omega)
    obtain ⟨u, hresult, hretry, hafter⟩ := undelivered_of_promising ho hh hp hr
    exact course_of_endless hresult hretry (hafter ▸ hd)
  | settles hsettles =>
    cases hsettles with
    | value ho =>
      have hresult := result_of_outcome ho
      rw [course_of_not_retried (not_retried_of_outcome hresult nofun), hresult]
    | @unhandled e ho hh =>
      have hresult := result_of_outcome ho
      obtain ⟨f, asked⟩ := e
      rw [course_of_not_retried (not_retried_of_outcome hresult _), hresult]
      rintro u hu
      cases hu
      cases hh
    | @hopeless e p ho hp hr =>
      have hresult := result_of_outcome ho
      obtain ⟨f, asked⟩ := e
      rw [course_of_not_retried (not_retried_of_outcome hresult _), hresult]
      rintro u hu
      cases hu
      cases hp.symm.trans (prospect_undelivered u asked)
      exact hr
    | @spent e ho hspent =>
      have hspent : client.maxRetries ≤ n := hspent
      obtain rfl : left = 0 := by omega
      rw [course, result_of_outcome ho]

theorem course_of_retries {e : Failure × Option Nat} {d : Number}
    (h : (floatTrial c client path body sent).Retries n e d) (left : Nat) :
    course c client path body n (sent + n) (left + 1) =
      (d :: (course c client path body (n + 1) (sent + (n + 1)) left).1,
        (course c client path body (n + 1) (sent + (n + 1)) left).2) := by
  obtain ⟨ho, hh, -, p, hp, hr, hd⟩ := h
  obtain ⟨u, hresult, hretry, hafter⟩ := undelivered_of_promising ho hh hp hr
  exact course_of_again hresult hretry (hafter ▸ hd)

theorem course_of_retried (retried : List ((Failure × Option Nat) × Number))
    (hends : (floatTrial c client path body sent).Ends (n + retried.length) r)
    (hall : ∀ j e d, retried[j]? = some (e, d) →
      (floatTrial c client path body sent).Retries (n + j) e d)
    (hleft : (client.maxRetries - n).toNat = left) :
    course c client path body n (sent + n) left =
      (retried.map Prod.snd, r.mapError Prod.fst) := by
  induction retried generalizing n left with
  | nil => exact course_of_ends hends hleft
  | cons first rest ih =>
    obtain ⟨e, d⟩ := first
    have hfirst : (floatTrial c client path body sent).Retries n e d := hall 0 e d rfl
    have hmore : (n : Int) < client.maxRetries := hfirst.left
    obtain ⟨left, rfl⟩ : ∃ m, left = m + 1 := Nat.exists_eq_add_one.2 (by omega)
    rw [List.length_cons, Nat.add_comm rest.length, ← Nat.add_assoc] at hends
    have hrest : ∀ j e d, rest[j]? = some (e, d) →
        (floatTrial c client path body sent).Retries (n + 1 + j) e d := fun j e d hj => by
      rw [Nat.add_assoc, Nat.add_comm 1]
      exact hall (j + 1) e d hj
    rw [course_of_retries hfirst, ih hends hrest (by omega)]
    rfl

/-- **In floating point, the trial is the delivery.** -/
theorem delivery_of_course {k : Nat} {retried : List ((Failure × Option Nat) × Number)}
    (h : (floatTrial c client path body sent).Course k r retried) :
    delivery c client path body sent = (retried.map Prod.snd, r.mapError Prod.fst) := by
  have hends := h.ends
  rw [← h.count, ← Nat.zero_add retried.length] at hends
  exact course_of_retried retried hends (fun j e d hj => by
    rw [Nat.zero_add]
    exact h.retries j e d hj) (by simp)

end Float

/-! ### Exact arithmetic -/

section Exact

variable {K : Type} [Field K] [LinearOrder K] {c : Conditions} {client : Client} {path : String}
  {body : Json} {sent : Nat} {b : Backoff K} {jitter : Nat → K} {n : Nat}
  {e : Failure × Option Nat} {d : K}

/-- A pause is as long as one that is due, and longer by a part of a tenth of it. -/
structure IsPutOff (due part d : K) : Prop where
  eq : d = due + due / 10 * part
  least : due ≤ d
  most : d ≤ 11 / 10 * due

/-- What a retried attempt asks for. -/
theorem hint_deliveryTrial
    (h : (deliveryTrial c client path body sent b jitter Nat.cast).Retries n e d) :
    (deliveryTrial c client path body sent b jitter Nat.cast).hint n =
      (attemptOutcome c client path body sent n).asked.map Nat.cast := by
  obtain ⟨ho, hh, -⟩ := h
  obtain ⟨f, asked⟩ := e
  obtain ⟨u, rfl⟩ := exists_undelivered hh
  rw [Trial.hint, ho, ← asked_of_outcome ho]
  rfl

/-- If nothing is asked for, or no seconds, the computed pause is due. -/
theorem due_of_unasked {after : Option K} (h : ∀ x ∈ after, x = 0) :
    b.due n after = min (b.initialDelay * b.base ^ n) b.maxDelay := by
  have hnone : after.filter (· ≠ 0) = none := by
    rw [Option.filter_eq_none_iff]
    exact fun x hx => by simp [h x hx]
  rw [Backoff.due, hnone, Option.getD_none]

/-- An attempt that is worth another one is retried while retries are left. -/
theorem exists_retries (h : IsRetried c client path body n (sent + n))
    (hleft : (n : Int) < b.maxRetries) :
    ∃ e d, (deliveryTrial c client path body sent b jitter Nat.cast).Retries n e d := by
  obtain ⟨u, hu, hretry⟩ := h
  refine ⟨(.undelivered u, (attemptOutcome c client path body sent n).asked), _, ?_, rfl, hleft, _,
    prospect_undelivered u _, hretry, Backoff.delay_eq _ _ _ _⟩
  rw [outcome_deliveryTrial, hu]
  rfl

variable [IsStrictOrderedRing K]

/-- If any seconds are asked for, they are due. -/
theorem due_of_asked {s : Nat} (hs : 0 < s) :
    b.due n (some (s : K)) = min (s : K) b.maxDelay := by
  have hne : (s : K) ≠ 0 := Nat.cast_ne_zero.2 hs.ne'
  simp [Backoff.due, Option.filter, hne]

theorem isPutOff_of_retries {due : K}
    (h : (deliveryTrial c client path body sent b jitter Nat.cast).Retries n e d)
    (hdue : b.due n ((attemptOutcome c client path body sent n).asked.map Nat.cast) = due)
    (hnonneg : 0 ≤ due) (hjitter : 0 ≤ jitter n ∧ jitter n ≤ 1) : IsPutOff due (jitter n) d := by
  have hpause : d = due + due / 10 * jitter n := by
    have hpause := Trial.pause_of_retries h
    rwa [Trial.due, hint_deliveryTrial h, deliveryTrial, hdue] at hpause
  obtain ⟨hleast, hmost⟩ := Trial.putOff_bounds hnonneg hjitter
  exact ⟨hpause, hpause ▸ hleast, hpause ▸ hmost⟩

end Exact

/-- **Pauses that are asked for replace the computed ones.**  In floating point, the trial is what
    a delivery does.  In exact arithmetic, with any delays, a retried attempt that asks for one
    second or more is followed by a pause of as many, but at most the largest delay, or up to a
    tenth longer, whatever its number and the other delays are.  One that asks for nothing, or for
    no seconds, is followed so by the computed pause. -/
theorem hints_replace_delays (c : Conditions) (client : Client) (path : String) (body : Json)
    (session : Json) (h : History) :
    (∃ k r retried h' t, (floatTrial c client path body h.sent).Course k r retried ∧
      exec (deliver c client path body session) h = (r.mapError Prod.fst, h') ∧
      h'.trace = h.trace ++ t ∧
      t.filter Entry.isPause = retried.map (fun x => .pause x.2)) ∧
    ∀ {K : Type} [Field K] [LinearOrder K] [IsStrictOrderedRing K] (b : Backoff K)
      (jitter : Nat → K), 0 ≤ b.maxDelay → (∀ n, 0 ≤ jitter n ∧ jitter n ≤ 1) →
      ∃ k r retried,
        (deliveryTrial c client path body h.sent b jitter Nat.cast).Course k r retried ∧
        ∀ j e d, retried[j]? = some (e, d) →
          (∀ v s, (attemptOutcome c client path body h.sent j).hint = some v →
            IsSeconds v s → 0 < s → IsPutOff (min (s : K) b.maxDelay) (jitter j) d) ∧
          ((∀ v ∈ (attemptOutcome c client path body h.sent j).hint, IsSeconds v 0) →
            0 ≤ b.initialDelay → 0 ≤ b.base →
            IsPutOff (min (b.initialDelay * b.base ^ j) b.maxDelay) (jitter j) d) := by
  constructor
  · have hclassified : (floatTrial c client path body h.sent).IsClassified :=
      isClassified_deliveryTrial
    obtain ⟨k, r, retried, hcourse⟩ := Trial.exists_course hclassified
    have hrun := exec_deliver c client path body session h
    rw [deliveryTrace, delivery_of_course hcourse] at hrun
    refine ⟨k, r, retried, _, _, hcourse, hrun, rfl, ?_⟩
    rw [List.filter_append, pauses_attemptsTrace,
      filter_closing session (fun _ => rfl) (fun _ => rfl), List.append_nil, List.map_map]
    rfl
  · intro K _ _ _ b jitter hmax hjitter
    have hclassified : (deliveryTrial c client path body h.sent b jitter Nat.cast).IsClassified :=
      isClassified_deliveryTrial
    obtain ⟨k, r, retried, hcourse⟩ := Trial.exists_course hclassified
    refine ⟨k, r, retried, hcourse, fun j e d hj => ⟨fun v s hv hs hpos => ?_,
      fun hv hinitial hbase => ?_⟩⟩
    · refine isPutOff_of_retries (hcourse.retries j e d hj) ?_
        (le_min (Nat.cast_nonneg s) hmax) (hjitter j)
      rw [Posted.asked, hv, secondsAsked_of_isSeconds hs]
      exact due_of_asked hpos
    · refine isPutOff_of_retries (hcourse.retries j e d hj) (due_of_unasked ?_)
        (le_min (mul_nonneg hinitial (pow_nonneg hbase j)) hmax) (hjitter j)
      intro x hx
      obtain ⟨s, hs, rfl⟩ := Option.mem_map.1 hx
      cases hhint : (attemptOutcome c client path body h.sent j).hint with
      | none =>
        rw [Posted.asked, hhint] at hs
        cases hs
      | some v =>
        rw [Posted.asked, hhint, secondsAsked_of_isSeconds (hv v hhint)] at hs
        cases hs
        exact Nat.cast_zero

/-! ## Sample hints -/

/-- A connector that is always busy, and asks for a pause. -/
def Connector.asking (seconds : String) : Connector := fun _ _ => .answer {
  status := 503
  headers := [("retry-after", seconds)] }

/-- The attempts of a delivery to it, with doubling delays. -/
def askingTrial (seconds : String) : Trial (Failure × Option Nat) ℚ Fields :=
  deliveryTrial (.plain (.asking seconds)) .retryingOnce messagePath (.object []) 0 .doubling
    (fun _ => 1 / 2) Nat.cast

/-- A pause of three seconds is asked for, and kept. -/
theorem pause_of_three_asked : ∃ k r retried, (askingTrial "3").Course k r retried ∧
    ∃ e d, retried[0]? = some (e, d) ∧ 3 ≤ d ∧ d ≤ 33 / 10 := by
  obtain ⟨k, r, retried, hcourse, hpauses⟩ := (hints_replace_delays (.plain (.asking "3"))
    .retryingOnce messagePath (.object []) .null {}).2 Backoff.doubling (fun _ => 1 / 2)
    (by norm_num [Backoff.doubling]) (fun _ => by norm_num)
  refine ⟨k, r, retried, hcourse, ?_⟩
  have hretried : IsRetried (.plain (.asking "3")) .retryingOnce messagePath (.object []) 0 0 := by
    decide +kernel
  have hretries : ∃ e d, (askingTrial "3").Retries 0 e d := exists_retries hretried (by decide)
  obtain ⟨e, d, hretries⟩ := hretries
  have hsome : retried ≠ [] := by
    rintro rfl
    obtain rfl : 0 = k := hcourse.count
    exact Trial.not_ends_of_retries hretries hcourse.ends
  obtain ⟨⟨e, d⟩, rest, rfl⟩ := List.exists_cons_of_ne_nil hsome
  have hpause := (hpauses 0 e d rfl).1 "3" 3 (by decide +kernel) (by decide) (by decide)
  have hmin : min ((3 : Nat) : ℚ) Backoff.doubling.maxDelay = 3 := by norm_num [Backoff.doubling]
  rw [hmin] at hpause
  exact ⟨e, d, rfl, hpause.least, hpause.most.trans_eq (by norm_num)⟩

/-- A pause of no seconds is asked for, and the computed one is made, in floating point as in exact
    arithmetic. -/
theorem computed_for_zero : IsSeconds "0" 0 ∧
    (attemptOutcome (.plain (.asking "0")) .retryingOnce messagePath (.object []) 0 0).hint =
      some "0" ∧
    (∃ r h', exec (deliver (.plain (.asking "0")) .retryingOnce messagePath (.object []) .null)
        {} = (r, h') ∧
      h'.trace.filter Entry.isPause = [.pause (.real (.ofDecimal false 5 (-1)))]) ∧
    ∃ e d, (askingTrial "0").Retries 0 e d ∧
      ¬ d ≤ 11 / 10 * min ((0 : Nat) : ℚ) Backoff.doubling.maxDelay := by
  have hretried : IsRetried (.plain (.asking "0")) .retryingOnce messagePath (.object []) 0 0 := by
    decide +kernel
  have hretries : ∃ e d, (askingTrial "0").Retries 0 e d := exists_retries hretried (by decide)
  obtain ⟨e, d, hretries⟩ := hretries
  refine ⟨by decide, by decide +kernel, ⟨_, _, rfl, by decide +kernel⟩, e, d, hretries, ?_⟩
  have hdue : Backoff.doubling.due 0 ((attemptOutcome (.plain (.asking "0")) .retryingOnce
      messagePath (.object []) 0 0).asked.map Nat.cast) = 1 := by
    rw [due_of_unasked]
    · norm_num [Backoff.doubling]
    · intro x hx
      have hasked : (attemptOutcome (.plain (.asking "0")) .retryingOnce messagePath (.object [])
          0 0).asked = some 0 := by decide +kernel
      rw [hasked] at hx
      cases hx
      exact Nat.cast_zero
  have hpause : (1 : ℚ) ≤ d := (isPutOff_of_retries hretries hdue zero_le_one (by norm_num)).least
  have hmin : min ((0 : Nat) : ℚ) Backoff.doubling.maxDelay = 0 := by norm_num [Backoff.doubling]
  rw [hmin]
  linarith

end ChatRelay

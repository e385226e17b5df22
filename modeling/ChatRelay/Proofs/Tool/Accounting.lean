/-
  What a call that returns leaves on the trace.

  `DeliveredOnce` says that a trace is that of one delivery, and how it ended.  A call that
  returns leaves just its count, or such a trace and then its count (`Leaves`,
  `leaves_of_call`).  So the status that is counted can be told from the call and from the
  deliveries that were made, in both directions (`call_accounted`).
-/
import ChatRelay.Proofs.Tool.Ending

namespace ChatRelay

/-! ## One delivery -/

/-- The entry counts or logs how a delivery ended. -/
def Entry.isEnding : Entry → Bool
  | .count (.delivered _ _) | .event (.delivered _ _ _) | .event (.failed _ _ _) => true
  | _ => false

/-- Exactly one delivery was made, in attempts that post one body to one path; it was counted and
    logged once, as the failure or, without one, as a success. -/
inductive DeliveredOnce (c : Conditions) (client : Client) (part : List Entry) :
    Option Undelivered → Prop
  | success {path : String} {body session : Json} {k : Nat} :
      part.filter Entry.isCall =
        (List.range (k + 1)).map (fun n => .call (attemptCall client path body n)) →
      part.filter Entry.isEnding =
        [.count (.delivered path true), .event (.delivered session path c.elapsed)] →
      DeliveredOnce c client part none
  | failure {path : String} {body session : Json} {k : Nat} {u : Undelivered} :
      part.filter Entry.isCall =
        (List.range (k + 1)).map (fun n => .call (attemptCall client path body n)) →
      part.filter Entry.isEnding =
        [.count (.delivered path false), .event (.failed session path u)] →
      DeliveredOnce c client part (some u)

section DeliveredOnce

variable {c : Conditions} {client : Client} {part : List Entry} {failure : Option Undelivered}

/-- A delivery makes at least one attempt. -/
theorem DeliveredOnce.filter_ne_nil (h : DeliveredOnce c client part failure) :
    part.filter Entry.isCall ≠ [] := by
  cases h with
  | success hcalls _ | failure hcalls _ =>
    rw [hcalls, List.range_succ]
    simp

/-- A delivery ends in one way. -/
theorem DeliveredOnce.unique {other : Option Undelivered} (h : DeliveredOnce c client part failure)
    (h' : DeliveredOnce c client part other) : failure = other := by
  cases h with
  | success _ hend =>
    cases h' with
    | success _ _ => rfl
    | failure _ hend' => cases hend.symm.trans hend'
  | failure _ hend =>
    cases h' with
    | success _ hend' => cases hend.symm.trans hend'
    | failure _ hend' => cases hend.symm.trans hend'; rfl

/-- Counts of other things may be added. -/
theorem DeliveredOnce.of_filter {whole : List Entry} (h : DeliveredOnce c client part failure)
    (hcalls : whole.filter Entry.isCall = part.filter Entry.isCall)
    (hend : whole.filter Entry.isEnding = part.filter Entry.isEnding) :
    DeliveredOnce c client whole failure := by
  cases h with
  | success hcalls' hend' => exact .success (hcalls.trans hcalls') (hend.trans hend')
  | failure hcalls' hend' => exact .failure (hcalls.trans hcalls') (hend.trans hend')

variable {path : String} {body session : Json} {sent : Nat}

theorem endings_deliveryTrace :
    (deliveryTrace c client path body session sent).filter Entry.isEnding =
      closing c path session (delivery c client path body sent).2 := by
  have hattempts : (attemptsTrace client path body 0
      (delivery c client path body sent).1).filter Entry.isEnding = [] :=
    List.filter_eq_nil_iff.2 (List.countP_eq_zero.1
      (countP_attemptsTrace client path body _ (fun _ => rfl) (fun _ => rfl) 0))
  rw [deliveryTrace, List.filter_append, hattempts, List.nil_append]
  rcases (delivery c client path body sent).2 with f | fs
  · cases f <;> rfl
  · rfl

/-- A delivery that succeeds leaves the trace of one. -/
theorem deliveredOnce_of_ok {fs : Fields} (h : (delivery c client path body sent).2 = .ok fs) :
    DeliveredOnce c client (deliveryTrace c client path body session sent) none :=
  .success (calls_deliveryTrace session sent) (by rw [endings_deliveryTrace, h]; rfl)

/-- So does one that fails. -/
theorem deliveredOnce_of_undelivered {u : Undelivered}
    (h : (delivery c client path body sent).2 = .error (.undelivered u)) :
    DeliveredOnce c client (deliveryTrace c client path body session sent) (some u) :=
  .failure (calls_deliveryTrace session sent) (by rw [endings_deliveryTrace, h]; rfl)

end DeliveredOnce

namespace Tool

open Schema

/-! ## What a call leaves -/

/-- The arguments do not fit the form of the tool, which finds the faults. -/
def Rejects (t : Tool) (args : Json) (faults : List Fault) : Prop :=
  ∃ form, t.form? = some form ∧ form.read (argumentsOf args) = .faulty faults

/-- The status that is counted, what the model is told, and what is left on the trace. -/
inductive Leaves (c : Conditions) (client : Client) (t : Tool) (session : Option String)
    (args : Json) : ToolStatus → String → List Entry → Prop
  | missingSession : (∀ id, ¬ IsSession session id) →
      Leaves c client t session args .missingSession missingSession
        [.count (.toolCalled t.name .missingSession)]
  | invalidInput {id : String} {faults : List Fault} : IsSession session id →
      t.Rejects args faults →
      Leaves c client t session args .invalidInput (t.invalidText faults.length)
        [.count (.toolCalled t.name .invalidInput)]
  | failure {id : String} {part : List Entry} {u : Undelivered} : IsSession session id →
      (∀ faults, ¬ t.Rejects args faults) → part.filter Entry.isToolCall = [] →
      DeliveredOnce c client part (some u) →
      Leaves c client t session args .failure (t.failureText client u)
        (part ++ [.count (.toolCalled t.name .failure)])
  | success {id : String} {part : List Entry} : IsSession session id →
      (∀ faults, ¬ t.Rejects args faults) → part.filter Entry.isToolCall = [] →
      DeliveredOnce c client part none →
      Leaves c client t session args .success t.confirmation
        (part ++ [.count (.toolCalled t.name .success)])

section Call

variable {c : Conditions} {client : Client} {t : Tool} {session : Option String} {id : String}
  {args : Json} {h h' : History} {text : String}

theorem not_rejects_of_parcel {p : Parcel} (hp : t.parcel c.limits id (argumentsOf args) = .ok p)
    (faults : List Fault) : ¬ t.Rejects args faults := by
  rintro ⟨form, hform, hread⟩
  cases hp.symm.trans (parcel_of_faulty hform hread c.limits id)

/-- Without a parcel, the model is told of nothing but faults. -/
theorem parcel_error_cases {f : Failure} (hp : t.parcel c.limits id (argumentsOf args) = .error f) :
    (∃ faults, t.Rejects args faults ∧ f = .invalid faults) ∨ isReported f = false := by
  cases hform : t.form? with
  | some form =>
    cases hread : form.read (argumentsOf args) with
    | fits fs =>
      obtain ⟨p, hp'⟩ := parcel_of_fits hform hread c.limits id
      cases hp'.symm.trans hp
    | faulty faults =>
      cases (parcel_of_faulty hform hread c.limits id).symm.trans hp
      exact Or.inl ⟨faults, ⟨form, hform, hread⟩, rfl⟩
  | none =>
    obtain rfl : t = requestAgent := by
      cases t with
      | requestAgent => rfl
      | _ => cases hform
    exact Or.inr (not_isReported_of_request c.limits id (argumentsOf args) f hp)

theorem leaves_of_parcel {p : Parcel} (hs : IsSession session id)
    (hp : t.parcel c.limits id (argumentsOf args) = .ok p)
    (hrun : exec (t.call c client (Json.ofText? session) args) h = (.ok text, h')) :
    ∃ status part, h'.trace = h.trace ++ part ∧
      Leaves c client t session args status text part := by
  have hcounts {q : Entry → Bool} := filter_counts_of_parcel hp (q := q)
  have hcalls : (p.counts.map Entry.count ++ deliveryTrace c client p.path p.body p.session
      h.sent).filter Entry.isToolCall = [] := by
    rw [List.filter_append, hcounts (fun _ _ => rfl) (fun _ => rfl),
      filter_deliveryTrace _ (fun _ => rfl) (fun _ => rfl) (fun _ => rfl) (fun _ => rfl)]
    rfl
  -- what the parcel counts beforehand tells of no delivery
  have honce : ∀ {failure}, DeliveredOnce c client
      (deliveryTrace c client p.path p.body p.session h.sent) failure →
      DeliveredOnce c client (p.counts.map Entry.count ++
        deliveryTrace c client p.path p.body p.session h.sent) failure := fun hd =>
    hd.of_filter (by rw [List.filter_append, hcounts (fun _ _ => rfl) (fun _ => rfl)]; rfl)
      (by rw [List.filter_append, hcounts (fun _ _ => rfl) (fun _ => rfl)]; rfl)
  rw [exec_call_parcel hs, hp, Parcel.outcomeOf, Parcel.outcome] at hrun
  cases hr : (delivery c client p.path p.body h.sent).2 with
  | ok fs =>
    rw [hr] at hrun
    cases hrun
    exact ⟨_, _, List.append_assoc _ _ _,
      .success hs (not_rejects_of_parcel hp) hcalls (honce (deliveredOnce_of_ok hr))⟩
  | error f =>
    cases hu : f.isUndelivered with
    | true =>
      obtain ⟨u, rfl⟩ := exists_undelivered hu
      rw [hr] at hrun
      cases hrun
      exact ⟨_, _, List.append_assoc _ _ _,
        .failure hs (not_rejects_of_parcel hp) hcalls (honce (deliveredOnce_of_undelivered hr))⟩
    | false =>
      rw [hr, Except.map, verdict_of_not_isReported (not_isReported_of_delivery hr hu)] at hrun
      cases hrun

/-- **A call that returns leaves its count**, after the trace of one delivery if its parcel was
    delivered. -/
theorem leaves_of_call
    (hrun : exec (t.call c client (Json.ofText? session) args) h = (.ok text, h')) :
    ∃ status part, h'.trace = h.trace ++ part ∧
      Leaves c client t session args status text part := by
  by_cases hs : ∃ id, IsSession session id
  · obtain ⟨id, hs⟩ := hs
    cases hp : t.parcel c.limits id (argumentsOf args) with
    | ok p => exact leaves_of_parcel hs hp hrun
    | error f =>
      rw [exec_call_parcel hs, hp, Parcel.outcomeOf] at hrun
      rcases parcel_error_cases hp with ⟨faults, hrejects, rfl⟩ | hnot
      · cases hrun
        exact ⟨_, _, rfl, .invalidInput hs hrejects⟩
      · rw [verdict_of_not_isReported hnot] at hrun
        cases hrun
  · have hnone : ∀ id, ¬ IsSession session id := fun id hid => hs ⟨id, hid⟩
    rw [exec_call_missing c client args t (not_isTruthy_of_not_isSession hnone)] at hrun
    cases hrun
    exact ⟨_, _, rfl, .missingSession hnone⟩

/-! ## Telling the status -/

/-- The text tells of an error. -/
def TellsError (text : String) : Prop := ∃ rest, text = "Error" ++ rest

theorem TellsError.append (h : TellsError text) (more : String) : TellsError (text ++ more) := by
  obtain ⟨rest, rfl⟩ := h
  exact ⟨rest ++ more, String.append_assoc⟩

theorem tellsError_missingSession : TellsError missingSession :=
  .append ⟨": Could not determine Session ID. ", by decide⟩ _

theorem tellsError_invalidText (t : Tool) (faults : Nat) : TellsError (t.invalidText faults) :=
  .append (.append (.append (.append ⟨": invalid input for ", by decide⟩ _) _) _) _

theorem tellsError_failureText (t : Tool) (client : Client) (u : Undelivered) :
    TellsError (t.failureText client u) :=
  .append (.append (.append (.append (.append ⟨" sending ", by decide⟩ _) _) _) _) _

/-- No tool confirms in words that tell of an error. -/
theorem TellsError.ne_confirmation (h : TellsError text) (t : Tool) : text ≠ t.confirmation := by
  obtain ⟨rest, rfl⟩ := h
  intro heq
  have hstart := congrArg (fun s => s.toList.take 2) heq
  rw [String.toList_append, List.take_append_of_le_length (by decide)] at hstart
  cases t <;> exact absurd hstart (by decide)

/-- What a call that returns comes to.  Its count is the only one of a call, and the status in it
    follows from the call and from the delivery that was made, and they from the status. -/
structure Accounted (c : Conditions) (client : Client) (t : Tool) (session : Option String)
    (args : Json) (status : ToolStatus) (text : String) (part : List Entry) : Prop where
  counted : part.filter Entry.isToolCall = [.count (.toolCalled t.name status)]
  missingSession_iff : status = .missingSession ↔ ∀ id, ¬ IsSession session id
  invalidInput_iff : status = .invalidInput ↔
    (∃ id, IsSession session id) ∧ ∃ faults, t.Rejects args faults
  failure_iff : status = .failure ↔ ∃ u, DeliveredOnce c client part (some u)
  success_iff : status = .success ↔ DeliveredOnce c client part none
  /-- nothing else happens if the connector is not called -/
  alone : status = .missingSession ∨ status = .invalidInput →
    part = [.count (.toolCalled t.name status)]
  missing_text : status = .missingSession → text = missingSession
  invalid_text : ∀ faults, t.Rejects args faults → status = .invalidInput →
    text = t.invalidText faults.length
  failure_text : ∀ u, DeliveredOnce c client part (some u) → text = t.failureText client u
  /-- the model is told that all is done just if it is -/
  confirmed_iff : text = t.confirmation ↔ status = .success

theorem Rejects.unique {faults others : List Fault} (h : t.Rejects args faults)
    (h' : t.Rejects args others) : faults = others := by
  obtain ⟨form, hform, hread⟩ := h
  obtain ⟨form', hform', hread'⟩ := h'
  cases hform.symm.trans hform'
  exact Reading.faulty.inj (hread.symm.trans hread')

/-- A count of the call tells of no delivery. -/
theorem not_deliveredOnce_count {status : ToolStatus} (failure : Option Undelivered) :
    ¬ DeliveredOnce c client [.count (.toolCalled t.name status)] failure := fun hd =>
  hd.filter_ne_nil rfl

theorem deliveredOnce_counted_iff {part : List Entry} {status : ToolStatus}
    {failure other : Option Undelivered} (hd : DeliveredOnce c client part failure) :
    DeliveredOnce c client (part ++ [.count (.toolCalled t.name status)]) other ↔
      other = failure := by
  have hcounted : DeliveredOnce c client (part ++ [.count (.toolCalled t.name status)]) failure :=
    hd.of_filter (by rw [List.filter_append]; exact List.append_nil _)
      (by rw [List.filter_append]; exact List.append_nil _)
  constructor
  · exact fun hother => hother.unique hcounted
  · rintro rfl
    exact hcounted

/-- **The status follows from what was left, and the other way round.** -/
theorem Leaves.accounted {status : ToolStatus} {part : List Entry}
    (hl : Leaves c client t session args status text part) :
    t.Accounted c client session args status text part := by
  cases hl with
  | missingSession hnone => exact {
      counted := rfl
      missingSession_iff := iff_of_true rfl hnone
      invalidInput_iff := iff_of_false nofun fun ⟨⟨id, hid⟩, _⟩ => hnone id hid
      failure_iff := iff_of_false nofun fun ⟨_, hd⟩ => not_deliveredOnce_count _ hd
      success_iff := iff_of_false nofun (not_deliveredOnce_count _)
      alone := fun _ => rfl
      missing_text := fun _ => rfl
      invalid_text := nofun
      failure_text := fun _ hd => absurd hd (not_deliveredOnce_count _)
      confirmed_iff := iff_of_false (tellsError_missingSession.ne_confirmation t) nofun }
  | @invalidInput id faults hs hrejects => exact {
      counted := rfl
      missingSession_iff := iff_of_false nofun fun hnone => hnone id hs
      invalidInput_iff := iff_of_true rfl ⟨⟨id, hs⟩, faults, hrejects⟩
      failure_iff := iff_of_false nofun fun ⟨_, hd⟩ => not_deliveredOnce_count _ hd
      success_iff := iff_of_false nofun (not_deliveredOnce_count _)
      alone := fun _ => rfl
      missing_text := nofun
      invalid_text := fun others hothers _ => by rw [hrejects.unique hothers]
      failure_text := fun _ hd => absurd hd (not_deliveredOnce_count _)
      confirmed_iff := iff_of_false ((tellsError_invalidText t _).ne_confirmation t) nofun }
  | @failure id part u hs hfits hcalls hd => exact {
      counted := by rw [List.filter_append, hcalls]; rfl
      missingSession_iff := iff_of_false nofun fun hnone => hnone id hs
      invalidInput_iff := iff_of_false nofun fun ⟨_, faults, hfaults⟩ => hfits faults hfaults
      failure_iff := iff_of_true rfl ⟨u, (deliveredOnce_counted_iff hd).2 rfl⟩
      success_iff := iff_of_false nofun fun hok => nomatch (deliveredOnce_counted_iff hd).1 hok
      alone := nofun
      missing_text := nofun
      invalid_text := nofun
      failure_text := fun v hv => by cases (deliveredOnce_counted_iff hd).1 hv; rfl
      confirmed_iff := iff_of_false ((tellsError_failureText t client u).ne_confirmation t) nofun }
  | @success id part hs hfits hcalls hd => exact {
      counted := by rw [List.filter_append, hcalls]; rfl
      missingSession_iff := iff_of_false nofun fun hnone => hnone id hs
      invalidInput_iff := iff_of_false nofun fun ⟨_, faults, hfaults⟩ => hfits faults hfaults
      failure_iff := iff_of_false nofun fun ⟨_, hu⟩ => nomatch (deliveredOnce_counted_iff hd).1 hu
      success_iff := iff_of_true rfl ((deliveredOnce_counted_iff hd).2 rfl)
      alone := nofun
      missing_text := nofun
      invalid_text := nofun
      failure_text := fun _ hu => nomatch (deliveredOnce_counted_iff hd).1 hu
      confirmed_iff := iff_of_true rfl rfl }

/-- No tool has the name. -/
theorem named_of_unknown {name : String} (hname : ∀ t : Tool, t.name ≠ name) :
    named (.text name) = .error (.unknownTool (.text name)) := by
  have hnone : ofName? name = none := List.find?_eq_none.2 fun t _ => by simpa using hname t
  simp only [named, Json.text?, Option.bind_some, hnone]

end Call

/-- **The calls of tools are accounted for.**  A call that returns is counted once, and the status
    in the count is that there is no session, that the arguments do not fit, that exactly one
    delivery was made and failed, or that exactly one was made and succeeded, just if it is so.
    Nothing is delivered in the first two cases, and the text tells which it was.  A name that no
    tool has is complained about, and nothing happens. -/
theorem call_accounted (c : Conditions) (client : Client) (session : Option String) (args : Json)
    (h : History) :
    (∀ (t : Tool) text h',
      exec (execute c client (.text t.name) (Json.ofText? session) args) h = (.ok text, h') →
      ∃ status part, h'.trace = h.trace ++ part ∧
        t.Accounted c client session args status text part) ∧
    ∀ name, (∀ t : Tool, t.name ≠ name) →
      exec (execute c client (.text name) (Json.ofText? session) args) h =
        (.error (.unknownTool (.text name)), h) ∧
      (Failure.unknownTool (.text name)).complaint? = some ("Unknown chat tool: " ++ name) := by
  constructor
  · intro t text h' hrun
    rw [exec_execute] at hrun
    obtain ⟨status, part, htrace, hleaves⟩ := leaves_of_call hrun
    exact ⟨status, part, htrace, hleaves.accounted⟩
  · intro name hname
    refine ⟨?_, rfl⟩
    rw [execute, named_of_unknown hname]
    rfl

/-- A message that is delivered at the second attempt is one delivery; a tool that there is not does
    nothing. -/
theorem accounted_html_busyOnce : (∃ h', exec (execute (.plain .busyOnce) .retryingOnce
      (.text html.name) (.text "a") (.object [("html", .text "<b>x</b>")])) {} =
        (.ok html.confirmation, h') ∧
    h'.trace.countP Entry.isCall = 2 ∧
    DeliveredOnce (.plain .busyOnce) .retryingOnce h'.trace none ∧
    h'.trace.filter Entry.isToolCall = [.count (.toolCalled html.name .success)]) ∧
    exec (execute (.plain .busyOnce) .retryingOnce (.text "send_sms") (.text "a")
      (.object [("html", .text "<b>x</b>")])) {} =
        (.error (.unknownTool (.text "send_sms")), {}) := by
  have hrun : (exec (execute (.plain .busyOnce) .retryingOnce (.text html.name) (.text "a")
      (.object [("html", .text "<b>x</b>")])) {}).map id
        (fun h' => h'.trace.countP Entry.isCall) = (.ok html.confirmation, 2) := by decide +kernel
  obtain ⟨hok, htwo⟩ := Prod.mk.inj hrun
  obtain ⟨hknown, hunknown⟩ := call_accounted (.plain .busyOnce) .retryingOnce (some "a")
    (.object [("html", .text "<b>x</b>")]) {}
  obtain ⟨status, part, htrace, hacc⟩ := hknown html html.confirmation _ (Prod.ext hok rfl)
  rw [List.nil_append] at htrace
  subst htrace
  obtain rfl : status = .success := hacc.confirmed_iff.1 rfl
  have hname : ∀ t : Tool, t.name ≠ "send_sms" := by
    intro t
    cases t <;> decide
  exact ⟨⟨_, Prod.ext hok rfl, htwo, hacc.success_iff.1 rfl, hacc.counted⟩,
    (hunknown "send_sms" hname).1⟩

end Tool

end ChatRelay

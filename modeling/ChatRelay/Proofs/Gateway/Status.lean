/-
  The status of the answer to a batch.

  A request that submits a batch is answered by how the batch ends (`batchResult`): with its
  records, by the category of its failure, or with a complaint about a value.  `batch_status`
  says which status this is.  Unless the batch is disturbed (`Disturbed`), the status is that
  of its end (`StatusOf`), and for messages that of their fate, whatever the connector answers.
-/
import ChatRelay.Proofs.Batch.Ended
import ChatRelay.Proofs.Gateway.Passage
import ChatRelay.Proofs.Gateway.Submitted

namespace ChatRelay.Gateway

/-! ## The answer to a batch -/

/-- What a batch is answered with: its records and their number. -/
def batchReport (rs : List Fields) : Json :=
  .object [("results", .array (rs.map .object)), ("count", .int rs.length)]

/-- What the answer is made from, by how the batch ended. -/
def batchResult : Except Failure (List Fields) → Except Failure Response
  | .ok rs => .ok (Response.json 200 (batchReport rs))
  | .error f => match f.complaint? with
    | some complaint => .ok (Response.detail 400 complaint)
    | none => .error f

theorem exec_batchAnswer {c : Conditions} {job : Job} {b : BatchRequest} {h h' : History}
    {e : Except Failure (List Fields)}
    (hrun : exec (runBatch c (b.context c.settings) job b.records) h = (e, h')) :
    exec (batchAnswer c job b) h = (batchResult e, h') := by
  unfold batchAnswer
  simp only [exec_bind, exec_tryCatch, hrun]
  cases e with
  | ok rs => rfl
  | error f =>
    unfold batchResult
    cases hf : f.complaint? <;> simp only [after, hf] <;> rfl

section Ends

variable {limits : Limits} {f : Failure}

theorem complaint?_of_category {k : Category} (h : f.category? = some k) : f.complaint? = none := by
  cases f with
  | missingSession | invalidSession _ | content _ | malformed _ _ | undelivered _ => rfl
  | _ => cases h

/-- A batch that returns is answered with its records, as far as they can be written. -/
theorem relayed_ok {rs : List Fields}
    (h : (batchReport rs).isWithin (3 + limits.levels) = true) :
    relayed limits 3 (batchResult (.ok rs)) =
      .ok (Response.json 200 (batchReport rs).finitePart) := by
  have hwithin : (Response.json 200 (batchReport rs)).isWithin (3 + limits.levels) = true := h
  simp only [batchResult, relayed, hwithin, if_true]
  rfl

theorem relayed_too_deep {rs : List Fields}
    (h : (batchReport rs).isWithin (3 + limits.levels) = false) :
    relayed limits 3 (batchResult (.ok rs)) = .error .crash := by
  have hwithin : (Response.json 200 (batchReport rs)).isWithin (3 + limits.levels) = false := h
  simp only [batchResult, relayed, hwithin, Bool.false_eq_true, if_false]

/-- A failure with a category is answered by that. -/
theorem relayed_of_category {k : Category} (h : f.category? = some k) :
    ∃ v, relayed limits 3 (batchResult (.error f)) = .ok (Response.json (categoryStatus k) v) := by
  simp only [batchResult, complaint?_of_category h, relayed, Failure.answer?, h, Option.map_some]
  exact ⟨_, rfl⟩

/-- A stray failure is answered as a complaint, or not at all. -/
theorem relayed_of_stray (h : f.IsStray) :
    (∃ v, relayed limits 3 (batchResult (.error f)) = .ok (Response.json 400 v)) ∨
      relayed limits 3 (batchResult (.error f)) = .error .crash := by
  cases hf : f.complaint? with
  | some complaint =>
    have hwithin : (Response.detail 400 complaint).isWithin (3 + limits.levels) = true := by
      rw [Nat.add_comm]
      rfl
    refine Or.inl ⟨.object [("detail", .text complaint)], ?_⟩
    simp only [batchResult, hf, relayed, hwithin, if_true]
    rfl
  | none =>
    have hcollapse : Failure.collapse f = .crash := by
      cases f with
      | incident i => exact if_neg (by simpa [Failure.isTimeout] using h.2)
      | _ => rfl
    right
    simp only [batchResult, hf, relayed, Failure.answer?, h.1, Option.map_none, hcollapse]

end Ends

/-! ## Requests -/

/-- The status for the fate of a batch of messages. -/
def fateStatus : Fate → Nat
  | .returned => 200
  | .lost => 400
  | .refused => 422

theorem status_of_returned {F : Fate} {rs : List Fields} (h : F.Met (.ok rs)) :
    fateStatus F = 200 := by
  cases h
  rfl

theorem status_of_lost {F : Fate} {f : Failure} (h : F.Met (.error f))
    (hf : f.isSessionFailure = true) : fateStatus F = 400 := by
  cases h with
  | lost _ => rfl
  | refused _ => cases hf

theorem status_of_refused {F : Fate} {x : Content.ContentError}
    (h : F.Met (.error (.content x))) : fateStatus F = 422 := by
  cases h with
  | lost hf => cases hf
  | refused _ => rfl

/-- The answer to a request is not that to the end of its batch: the batch reaches an upset item, or
    has a record with too many levels to be written. -/
inductive Disturbed (c : Conditions) (job : Job) (b : BatchRequest) (h : History) : Prop
  | upset : ReachesUpset c (b.context c.settings) job (b.items.map .object) h → Disturbed c job b h
  | tooDeep {rs : List Fields} {h' : History} :
      exec (runBatch c (b.context c.settings) job b.records) h = (.ok rs, h') →
      (batchReport rs).isWithin (3 + c.limits.levels) = false → Disturbed c job b h

/-- The response tells how the batch ended: with the status for that, and for a batch that returned
    with a record for each item.  There is no other status. -/
structure StatusOf (s : Settings) (job : Job) (b : BatchRequest)
    (e : Except Failure (List Fields)) (response : Response) : Prop where
  returned : response.status = 200 ↔ ∃ rs, e = .ok rs
  lost : response.status = 400 ↔ ∃ f, e = .error f ∧ f.isSessionFailure = true
  refused : response.status = 422 ↔ ∃ x, e = .error (.content x)
  undelivered : response.status = 502 ↔ ∃ u, e = .error (.undelivered u)
  known : response.status ∈ [200, 400, 422, 502]
  /-- the number that is told is that of the records, one for each item -/
  counts : ∀ rs, e = .ok rs → rs.length = max 1 b.items.length ∧
    response.body = .json (.object [
      ("results", .array (rs.map fun fs => (Json.object fs).finitePart)),
      ("count", .int rs.length)])
  /-- only a reply is refused, for its content, by the strict policy -/
  ofReply : response.status = 422 → job = .message .reply ∧ ∃ x, (b.context s).Refuses x
  ofControl : response.status = 502 → job = .control
  goesOn : (b.context s).continueOnFail = true → response.status ≠ 400 ∧ response.status ≠ 502
  /-- for messages, the connector has no part in it -/
  fated : ∀ m, job = .message m →
    response.status = fateStatus (m.fate (b.context s) s (b.items.map .object))

section Requests

variable {g : Gateway} {c : Conditions} {r : Request} {route : Route} {job : Job}
  {b : BatchRequest} {h h' : History}

theorem itemsFinitePart_eq_map (vs : List Json) :
    Json.itemsFinitePart vs = vs.map Json.finitePart := by
  induction vs with
  | nil => rfl
  | cons v rest ih => rw [Json.itemsFinitePart, ih, List.map_cons]

theorem finitePart_batchReport (rs : List Fields) : (batchReport rs).finitePart = .object [
    ("results", .array (rs.map fun fs => (Json.object fs).finitePart)),
    ("count", .int rs.length)] := by
  have hitems := itemsFinitePart_eq_map (rs.map .object)
  rw [List.map_map] at hitems
  simp only [batchReport, Json.finitePart, Json.fieldsFinitePart, Json.fieldFinitePart, hitems]
  rfl

section Told

variable {response : Response} {f : Failure}

/-- A batch that returns is told as such. -/
theorem statusOf_returned {rs : List Fields} (hstatus : response.status = 200)
    (hbody : response.body = .json (batchReport rs).finitePart)
    (hlen : rs.length = max 1 b.items.length)
    (hfate : ∀ m, job = .message m →
      (m.fate (b.context c.settings) c.settings (b.items.map .object)).Met (.ok rs)) :
    StatusOf c.settings job b (.ok rs) response where
  returned := by simp [hstatus]
  lost := by simp [hstatus]
  refused := by simp [hstatus]
  undelivered := by simp [hstatus]
  known := by simp [hstatus]
  counts := by
    rintro _ ⟨⟩
    exact ⟨hlen, hbody.trans (congrArg _ (finitePart_batchReport rs))⟩
  ofReply := by simp [hstatus]
  ofControl := by simp [hstatus]
  goesOn := by simp [hstatus]
  fated m hm := by rw [hstatus, status_of_returned (hfate m hm)]

/-- So is one that an item without a usable session ends. -/
theorem statusOf_lost (hstatus : response.status = 400) (hf : f.isSessionFailure = true)
    (hc : (b.context c.settings).continueOnFail = false)
    (hfate : ∀ m, job = .message m →
      (m.fate (b.context c.settings) c.settings (b.items.map .object)).Met (.error f)) :
    StatusOf c.settings job b (.error f) response where
  returned := by simp [hstatus]
  lost := by simp [hstatus, hf]
  refused := by
    have hnot : ∀ x, f ≠ .content x := by
      rintro x rfl
      cases hf
    simp [hstatus, hnot]
  undelivered := by
    have hnot : ∀ u, f ≠ .undelivered u := by
      rintro u rfl
      cases hf
    simp [hstatus, hnot]
  known := by simp [hstatus]
  counts := nofun
  ofReply := by simp [hstatus]
  ofControl := by simp [hstatus]
  goesOn := by simp [hc]
  fated m hm := by rw [hstatus, status_of_lost (hfate m hm) hf]

/-- So is one of replies, the content of which is refused. -/
theorem statusOf_refused {x : Content.ContentError} (hstatus : response.status = 422)
    (hx : (b.context c.settings).Refuses x)
    (hfate : (MessageJob.fate (b.context c.settings) c.settings .reply
      (b.items.map .object)).Met (.error (.content x))) :
    StatusOf c.settings (.message .reply) b (.error (.content x)) response where
  returned := by simp [hstatus]
  lost := by simp [hstatus, Failure.isSessionFailure]
  refused := by simp [hstatus]
  undelivered := by simp [hstatus]
  known := by simp [hstatus]
  counts := nofun
  ofReply _ := ⟨rfl, x, hx⟩
  ofControl := by simp [hstatus]
  goesOn := by simp [hstatus]
  fated := by
    rintro _ ⟨⟩
    rw [hstatus, status_of_refused hfate]

/-- So is one of changes of state, one of which is not delivered. -/
theorem statusOf_undelivered {u : Undelivered} (hstatus : response.status = 502)
    (hc : (b.context c.settings).continueOnFail = false) :
    StatusOf c.settings .control b (.error (.undelivered u)) response where
  returned := by simp [hstatus]
  lost := by simp [hstatus, Failure.isSessionFailure]
  refused := by simp [hstatus]
  undelivered := by simp [hstatus]
  known := by simp [hstatus]
  counts := nofun
  ofReply := by simp [hstatus]
  ofControl _ := rfl
  goesOn := by simp [hc]
  fated := nofun

/-- What a stray failure is answered with does not tell how the batch ended. -/
theorem not_statusOf_of_stray (hf : f.IsStray)
    (hstatus : response.status = 400 ∨ response.status = 500) :
    ¬ StatusOf c.settings job b (.error f) response := by
  intro htold
  rcases hstatus with hstatus | hstatus
  · obtain ⟨f', hf', hsession⟩ := htold.lost.1 hstatus
    cases hf'
    cases (category?_of_isSessionFailure hsession).symm.trans hf.1
  · have hknown := htold.known
    simp [hstatus] at hknown

end Told

/-- The response to a batch that ended so. -/
def told (g : Gateway) (c : Conditions) (r : Request) (e : Except Failure (List Fields)) :
    Response := answered g c r (relayed c.limits 3 (batchResult e))

theorem status_told_of_category {f : Failure} {k : Category} (h : f.category? = some k) :
    (told g c r (.error f)).status = categoryStatus k := by
  obtain ⟨v, hv⟩ := relayed_of_category h
  rw [told, hv, status_answered]
  rfl

theorem status_told_of_stray {f : Failure} (h : f.IsStray) :
    (told g c r (.error f)).status = 400 ∨ (told g c r (.error f)).status = 500 := by
  rcases relayed_of_stray h with ⟨v, hv⟩ | hv <;> rw [told, hv]
  · exact Or.inl (status_answered _)
  · exact Or.inr rfl

/-- What cuts off a batch is told, unless the work on the item was upset. -/
theorem statusOf_cut {item : Json} {sent : Nat} {f : Failure}
    (hcut : Cut c (b.context c.settings) job item sent f)
    (hnot : ¬ Upset c (b.context c.settings) job item sent)
    (hfate : ∀ m, job = .message m →
      (m.fate (b.context c.settings) c.settings (b.items.map .object)).Met (.error f)) :
    StatusOf c.settings job b (.error f) (told g c r (.error f)) := by
  cases hcut with
  | unusable hid hc =>
    have hsession := isSessionFailure_of_resolveSession hid
    exact statusOf_lost (status_told_of_category (category?_of_isSessionFailure hsession)) hsession
      hc hfate
  | refused _ hjob hx =>
    subst hjob
    exact statusOf_refused (status_told_of_category (k := .content) rfl) hx (hfate _ rfl)
  | @undelivered u _ hjob hc =>
    subst hjob
    have hstatus : categoryStatus u.category = 502 := by
      unfold Undelivered.category
      split <;> rfl
    exact statusOf_undelivered ((status_told_of_category rfl).trans hstatus) hc
  | upset hupset _ => exact absurd hupset hnot

section Batch

variable (hf : job.IsFormed (b.context c.settings))
  (hwhole : IsWholePayload c.limits b.params.payload) (ho : c.IsOrderly) (hp : c.IsPunctual)
  (hj : ∀ n, (c.jitter n).toReal?.isSome = true) {e : Except Failure (List Fields)}
  (hrun : exec (runBatch c (b.context c.settings) job b.records) h = (e, h'))

include hf hwhole ho hp hj hrun in
theorem statusOf_of_calm (hcalm : ¬ Disturbed c job b h) :
    StatusOf c.settings job b e (told g c r e) := by
  have hnone : ¬ ReachesUpset c (b.context c.settings) job (b.items.map .object) h :=
    fun hupset => hcalm (.upset hupset)
  have hfate : ∀ m, job = .message m →
      (m.fate (b.context c.settings) c.settings (b.items.map .object)).Met e := by
    rintro m rfl
    exact fate_met hf hwhole ho hp hj hrun hnone
  cases e with
  | ok rs =>
    have hwithin : (batchReport rs).isWithin (3 + c.limits.levels) = true := by
      by_contra hdeep
      exact hcalm (.tooDeep hrun (by simpa using hdeep))
    have hlen : rs.length = max 1 b.items.length := by
      rw [length_of_runBatch hrun, List.length_map]
    rw [told, relayed_ok hwithin]
    exact statusOf_returned (status_answered _) (body_answered _) hlen hfate
  | error f =>
    obtain ⟨before, item, rest, rs, h₀, hitems, hbefore, hcut⟩ :=
      cut_of_runBatch hf hwhole ho hp hj hrun
    exact statusOf_cut hcut
      (fun hupset => hnone ⟨before, item, rest, rs, h₀, hitems, hbefore, hupset⟩) hfate

include hf hwhole ho hp hj hrun in
theorem status_of_disturbed (hd : Disturbed c job b h) :
    ((told g c r e).status = 400 ∨ (told g c r e).status = 500) ∧
      ¬ StatusOf c.settings job b e (told g c r e) := by
  cases hd with
  | upset hupset =>
    obtain ⟨f, rfl, hstray⟩ := (reachesUpset_iff hf hwhole ho hp hj hrun).1 hupset
    have hstatus := status_told_of_stray (g := g) (c := c) (r := r) hstray
    exact ⟨hstatus, not_statusOf_of_stray hstray hstatus⟩
  | @tooDeep rs _ hrun' hdeep =>
    cases hrun.symm.trans hrun'
    have hstatus : (told g c r (.ok rs)).status = 500 := by
      rw [told, relayed_too_deep hdeep]
      rfl
    refine ⟨Or.inr hstatus, fun htold => ?_⟩
    cases hstatus.symm.trans (htold.returned.2 ⟨rs, rfl⟩)

end Batch

/-- **The status tells how the batch ended, unless the batch is disturbed.**  A request that submits
    a batch, in time and not too large, is answered by the status for the end of its batch just if
    the batch is not disturbed; otherwise it is answered as a bad request, or as a server error. -/
theorem batch_status (hs : Submits c.limits r route job b) (hpost : r.method = "POST")
    (hsize : isTooLarge c.settings r = .ok false) (htime : leavesNoTime g.timeLimit = false)
    (hwhole : IsWholePayload c.limits b.params.payload) (ho : c.IsOrderly) (hp : c.IsPunctual)
    (hj : ∀ n, (c.jitter n).toReal?.isSome = true) (h : History) :
    ∃ e h₁ response h₂, exec (runBatch c (b.context c.settings) job b.records) h = (e, h₁) ∧
      (handle g c r).run h = (response, h₂) ∧
      (StatusOf c.settings job b e response ↔ ¬ Disturbed c job b h) ∧
      (Disturbed c job b h → response.status = 400 ∨ response.status = 500) := by
  have hformed := isFormed_of_submits hs c.settings
  have hreaches : Reaches g c r route :=
    ⟨hpost, by rw [hpost]; exact resolve_of_submits hs, hsize, htime⟩
  rcases hrun : exec (runBatch c (b.context c.settings) job b.records) h with ⟨e, h₁⟩
  have hserve : exec (route.serve c r) h = (relayed c.limits 3 (batchResult e), h₁) := by
    rw [serve_of_submits hs]
    exact exec_ofRelay (exec_batchAnswer hrun) c.limits 3
  have hdisturbed := status_of_disturbed (g := g) (r := r) hformed hwhole ho hp hj hrun
  refine ⟨e, h₁, told g c r e, _, rfl, handle_of_reaches hreaches hserve, ⟨?_, ?_⟩, ?_⟩
  · exact fun htold hd => (hdisturbed hd).2 htold
  · exact statusOf_of_calm hformed hwhole ho hp hj hrun
  · exact fun hd => (hdisturbed hd).1

end Requests

/-- A request to show the HTML `x` to the session `a`. -/
def Request.page : Request where
  method := "POST"
  target := { path := "/messages/html" }
  body := [0x7B, 0x22, 0x69, 0x74, 0x65, 0x6D, 0x73, 0x22, 0x3A, 0x5B, 0x7B, 0x22, 0x73, 0x65, 0x73,
    0x73, 0x69, 0x6F, 0x6E, 0x49, 0x64, 0x22, 0x3A, 0x22, 0x61, 0x22, 0x7D, 0x5D, 0x2C, 0x22, 0x68,
    0x74, 0x6D, 0x6C, 0x22, 0x3A, 0x22, 0x78, 0x22, 0x7D]

/-- The batch that it submits. -/
def BatchRequest.page : BatchRequest where
  session := none
  items := [[("sessionId", .text "a")]]
  outputs := none
  continueOnFail := none
  policy := none
  params := { html := .text "x" }

theorem submits_page : Submits {} .page (.message .html) (.message .html) .page := by
  have hread : Json.readBytes 970 Request.page.body = .ok (.object [
      ("items", .array [itemOf "a"]), ("html", .text "x")]) := by decide +kernel
  have hsubmission : Request.page.submission {} = .ok (.value (.object [
      ("items", .array [itemOf "a"]), ("html", .text "x")])) := by
    unfold Request.submission
    rw [hread]
    rfl
  exact .message (by decide) hsubmission rfl rfl

/-- It is answered with one record, though the connector is busy. -/
theorem status_page : ∃ e h₁ response h₂,
    exec (runBatch (.plain .busyOnce) (BatchRequest.page.context {}) (.message .html)
      BatchRequest.page.records) {} = (e, h₁) ∧
    (handle (.ofSettings {}) (.plain .busyOnce) .page).run {} = (response, h₂) ∧
    (∃ rs, e = .ok rs ∧ rs.length = 1) ∧ response.status = 200 ∧
    StatusOf {} (.message .html) .page e response := by
  have horderly : (Conditions.plain .busyOnce).IsOrderly :=
    isOrderly_usual rfl isWhole_busyOnce isOrderly_busyOnce
  have hpunctual : (Conditions.plain .busyOnce).IsPunctual :=
    isPunctual_usual rfl isOrderly_busyOnce
  have hwhole : IsWholePayload {} BatchRequest.page.params.payload := by rintro _ ⟨⟩
  obtain ⟨e, h₁, response, h₂, hrun, hhandle, hstatus, -⟩ :=
    batch_status (g := .ofSettings {}) (c := .plain .busyOnce) submits_page rfl rfl
      (by decide +kernel) hwhole horderly hpunctual (fun _ => rfl) {}
  have hwritten : (match (exec (runBatch (.plain .busyOnce) (BatchRequest.page.context {})
      (.message .html) BatchRequest.page.records) {}).1 with
    | .ok rs => (batchReport rs).isWithin (3 + ({} : Limits).levels)
    | .error _ => false) = true := by decide +kernel
  have hrun' : exec (runBatch (.plain .busyOnce) (BatchRequest.page.context {}) (.message .html)
      BatchRequest.page.records) {} = (e, h₁) := hrun
  rw [hrun'] at hwritten
  cases e with
  | error f => cases hwritten
  | ok rs =>
    have hcalm : ¬ Disturbed (.plain .busyOnce) (.message .html) .page {} := by
      intro hdisturbed
      cases hdisturbed with
      | upset hupset =>
        obtain ⟨f, hf, -⟩ := (reachesUpset_iff (isFormed_of_submits submits_page {}) hwhole
          horderly hpunctual (fun _ => rfl) hrun).1 hupset
        cases hf
      | tooDeep hrun'' hdeep =>
        cases hrun.symm.trans hrun''
        exact absurd (hdeep.symm.trans hwritten) Bool.false_ne_true
    have htold := hstatus.2 hcalm
    exact ⟨_, h₁, response, h₂, hrun, hhandle, ⟨rs, rfl, (htold.counts rs rfl).1⟩,
      htold.returned.2 ⟨rs, rfl⟩, htold⟩

/-- It is answered as a bad request, if the connector answers with a text which is not in the
    charset that it names, though its session can be used. -/
theorem status_page_garbled : Submits {} .page (.message .html) (.message .html) .page ∧
    (isTooLarge (Conditions.plain .garbled).settings .page).toOption = some false ∧
    leavesNoTime (ofSettings {}).timeLimit = false ∧ (Conditions.plain .garbled).IsOrderly ∧
    ((handle (.ofSettings {}) (.plain .busyOnce) .page).run {}).1.status = 200 ∧
    ((handle (.ofSettings {}) (.plain .garbled) .page).run {}).1.status = 400 ∧
    ∃ f h', exec (runBatch (.plain .garbled) (BatchRequest.page.context {}) (.message .html)
      BatchRequest.page.records) {} = (.error f, h') ∧ f.isSessionFailure = false := by
  refine ⟨submits_page, rfl, by decide +kernel,
    isOrderly_usual rfl isWhole_garbled isOrderly_garbled, by decide +kernel, by decide +kernel, ?_⟩
  rcases hrun : exec (runBatch (.plain .garbled) (BatchRequest.page.context {}) (.message .html)
    BatchRequest.page.records) {} with ⟨e, h'⟩
  have hfails : (match (exec (runBatch (.plain .garbled) (BatchRequest.page.context {})
      (.message .html) BatchRequest.page.records) {}).1 with
    | .ok _ => true
    | .error f => f.isSessionFailure) = false := by decide +kernel
  rw [hrun] at hfails
  cases e with
  | ok rs => cases hfails
  | error f => exact ⟨f, h', rfl, hfails⟩

end ChatRelay.Gateway

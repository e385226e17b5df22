/-
  What is posted to a trigger comes back.

  The body of a request to a trigger is taken as one value (`Taken`): nothing as the empty
  object, a document as what it says, and what is no document as a text.  A body whose parts
  stand too deep inside one another is not taken, and such a request fails.  Every other one
  is counted and logged once, and answered with the value, unless that has too many levels to
  be written (`webhook_echoes`).
-/
import ChatRelay.Proofs.Gateway.Passage
import ChatRelay.Proofs.Trigger

namespace ChatRelay.Gateway

/-! ## Bodies -/

/-- The value that the octets of a body are taken as. -/
inductive Taken (limits : Limits) : List UInt8 → Json → Prop
  | nothing : Taken limits [] (.object [])
  | document {octets : List UInt8} {v : Json} : octets ≠ [] →
      Json.readBytes limits.event octets = .ok v → Taken limits octets v
  | text {octets : List UInt8} {e : Json.BytesError} : octets ≠ [] →
      Json.readBytes limits.event octets = .error e → e ≠ .unread .deep → e ≠ .unread .half →
      Taken limits octets (.text (Text.Utf8.decodeLossy octets))

/-- The octets are a document whose parts stand too deep inside one another to be read. -/
def IsTooDeep (limits : Limits) (octets : List UInt8) : Prop :=
  octets ≠ [] ∧ Json.readBytes limits.event octets = .error (.unread .deep)

/-- The octets are no document that spells half of a character. -/
def IsWholeBody (limits : Limits) (octets : List UInt8) : Prop :=
  Json.readBytes limits.event octets ≠ .error (.unread .half)

section Bodies

variable {limits : Limits} {octets : List UInt8}

theorem eventBody_of_ne (hne : octets ≠ []) :
    eventBody limits octets = match Json.readBytes limits.event octets with
    | .ok v => .ok v
    | .error (.unread .deep) => .error .tooDeep
    | .error (.unread .half) => .error (.incident .half)
    | .error _ => .ok (.text (Text.Utf8.decodeLossy octets)) :=
  if_neg (by simp [hne])

theorem eventBody_of_taken {v : Json} (h : Taken limits octets v) :
    eventBody limits octets = .ok v := by
  cases h with
  | nothing => rfl
  | document hne hread => rw [eventBody_of_ne hne, hread]
  | @text octets e hne hread hdeep hhalf =>
    rw [eventBody_of_ne hne, hread]
    cases e with
    | unread e =>
      cases e with
      | deep => exact absurd rfl hdeep
      | half => exact absurd rfl hhalf
      | _ => rfl
    | _ => rfl

/-- A body is taken as one value only. -/
theorem taken_unique {v w : Json} (hv : Taken limits octets v) (hw : Taken limits octets w) :
    v = w :=
  Except.ok.inj ((eventBody_of_taken hv).symm.trans (eventBody_of_taken hw))

theorem eventBody_of_tooDeep (h : IsTooDeep limits octets) :
    eventBody limits octets = .error .tooDeep := by
  rw [eventBody_of_ne h.1, h.2]

/-- **Every body that is not too deep is taken as some value.** -/
theorem exists_taken (hwhole : IsWholeBody limits octets) (h : ¬ IsTooDeep limits octets) :
    ∃ v, Taken limits octets v := by
  by_cases hne : octets = []
  · subst hne
    exact ⟨_, .nothing⟩
  · cases hread : Json.readBytes limits.event octets with
    | ok v => exact ⟨v, .document hne hread⟩
    | error e =>
      exact ⟨_, .text hne hread (fun he => h ⟨hne, he ▸ hread⟩) fun he => hwhole (he ▸ hread)⟩

end Bodies

/-! ## Answers -/

/-- What a call of a trigger is answered with. -/
def echo (node : String) (v : Json) : Json :=
  .object [("status", .text "received"), ("trigger", .text node),
    ("workflowData", .array [.array [.object [("json", v)]]])]

/-- The value stands below the levels that every answer to a trigger has. -/
theorem isWithin_echo (node : String) (v : Json) (limits : Limits) :
    (echo node v).isWithin (4 + limits.levels) = v.isWithin limits.levels := by
  obtain ⟨n, hn⟩ := Nat.exists_eq_add_one.2 limits.levels_pos
  rw [hn, Nat.add_comm 4]
  simp [echo, Json.isWithin, Json.fieldsWithin, Json.fieldWithin, Json.itemsWithin]

section Calls

variable {g : Gateway} {c : Conditions} {r : Request} {path node : String}

/-- The paths of the triggers lead to them. -/
theorem resolve_webhook (hpath : triggerNode? path = some node) :
    resolve "POST" ("/webhook/" ++ path) = .found (.webhook path) := by
  have hall : ∀ entry ∈ nodes,
      resolve "POST" ("/webhook/" ++ entry.1) = .found (.webhook entry.1) := by
    decide +kernel
  obtain ⟨before, after, hnodes, -⟩ := List.lookup_eq_some_iff.1 hpath
  exact hall (path, node) (by rw [hnodes]; simp)

/-- The call of a trigger by a request. -/
def Request.event (r : Request) (path : String) (v : Json) : TriggerEvent where
  path
  body := v
  query := .object r.target.fields

/-- What a call of a trigger leaves on the trace. -/
def eventTrace (e : TriggerEvent) (node : String) : List Entry :=
  [.count (.triggered e.path), .event (.received e.session e.path node e.query)]

theorem exec_webhookAnswer (hpath : triggerNode? path = some node) {v : Json}
    (hbody : eventBody c.limits r.body = .ok v) (h : History) :
    exec (webhookAnswer path r.body (.object r.target.fields) c.limits) h =
      (.ok (Response.json 200 (echo node v)),
        { h with trace := h.trace ++ eventTrace (r.event path v) node }) := by
  have hreceive := exec_receive (e := r.event path v) hpath h
  unfold webhookAnswer
  rw [hpath, hbody]
  exact (exec_bind_ok (exec_liftM _ h)).trans (exec_bind_ok hreceive)

theorem exec_webhookAnswer_of_error (hpath : triggerNode? path = some node) {f : Failure}
    (hbody : eventBody c.limits r.body = .error f) (h : History) :
    exec (webhookAnswer path r.body (.object r.target.fields) c.limits) h = (.error f, h) := by
  unfold webhookAnswer
  rw [hpath, hbody]
  exact exec_bind_error (exec_liftM _ h)

/-- **What is posted to a trigger comes back.**  A request to the path of a trigger that is not too
    large is taken as a value: nothing as the empty object, a document as what it says, anything
    else as a text.  The call is counted once and logged once, with the session that the value
    names.  The answer holds the value as it is, but for null in the place of numbers that are not
    finite; there is no answer just if the value has too many levels to be written.  A document too
    deep to be read is taken as no value, and the request fails before the call is counted. -/
theorem webhook_echoes (hpath : triggerNode? path = some node) (hpost : r.method = "POST")
    (htarget : r.target.path = "/webhook/" ++ path) (hsize : isTooLarge c.settings r = .ok false)
    (htime : leavesNoTime g.timeLimit = false) (hwhole : IsWholeBody c.limits r.body)
    (h : History) :
    ∃ response h', (handle g c r).run h = (response, h') ∧ h'.sent = h.sent ∧
      (IsTooDeep c.limits r.body ∧ response.status = 500 ∧
          h'.trace = h.trace ++ [.count (.requested "POST" (Route.webhook path).template 500)] ∨
        ¬ IsTooDeep c.limits r.body ∧ ∃ v, Taken c.limits r.body v ∧
          h'.trace = h.trace ++ eventTrace (r.event path v) node ++
            [.count (.requested "POST" (Route.webhook path).template response.status)] ∧
          (response.status = 200 ↔ v.isWithin c.limits.levels = true) ∧
          (response.status = 200 → response.body = .json (echo node v.finitePart) ∧
            (v.isFinite = true → response.body = .json (echo node v))) ∧
          (response.status ≠ 200 → response.status = 500)) := by
  have hreaches : Reaches g c r (.webhook path) :=
    ⟨hpost, by rw [hpost, htarget]; exact resolve_webhook hpath, hsize, htime⟩
  by_cases hdeep : IsTooDeep c.limits r.body
  · have hanswer := exec_webhookAnswer_of_error hpath (eventBody_of_tooDeep hdeep) h
    have hrun := exec_ofRelay hanswer c.limits 4
    refine ⟨_, _, handle_of_reaches hreaches hrun, rfl, Or.inl ⟨hdeep, rfl, ?_⟩⟩
    simp only [counted, hpost]
    rfl
  · obtain ⟨v, hv⟩ := exists_taken hwhole hdeep
    have hrun := exec_ofRelay (exec_webhookAnswer hpath (eventBody_of_taken hv) h) c.limits 4
    refine ⟨_, _, handle_of_reaches hreaches hrun, rfl, Or.inr ⟨hdeep, v, hv, ?_⟩⟩
    have hlevels : (Response.json 200 (echo node v)).isWithin (4 + c.limits.levels) =
        v.isWithin c.limits.levels := isWithin_echo node v c.limits
    cases hwithin : v.isWithin c.limits.levels with
    | true =>
      have hresult : relayed c.limits 4 (.ok (Response.json 200 (echo node v))) =
          .ok (Response.json 200 (echo node v.finitePart)) := by
        rw [relayed, hlevels, hwithin]
        rfl
      rw [hresult, status_answered, body_answered, counted, hpost]
      refine ⟨rfl, by simp [Response.json], fun _ => ⟨rfl, fun hfinite => ?_⟩, fun hnot => ?_⟩
      · rw [Json.finitePart_of_isFinite hfinite]
        rfl
      · exact absurd rfl hnot
    | false =>
      have hresult :
          relayed c.limits 4 (.ok (Response.json 200 (echo node v))) = .error .crash := by
        rw [relayed, hlevels, hwithin]
        rfl
      have hstatus : (answered g c r (.error .crash)).status = 500 := rfl
      rw [hresult, hstatus, counted, hpost]
      exact ⟨rfl, by decide, nofun, fun _ => rfl⟩

end Calls

/-- A request to a trigger. -/
def Request.greeting (octets : List UInt8) : Request where
  method := "POST"
  target := { path := "/webhook/greeting" }
  body := octets

/-- An object comes back as it is. -/
theorem echoes_object : ∃ octets response h',
    (handle (.ofSettings {}) (.plain .busyOnce) (.greeting octets)).run {} = (response, h') ∧
    octets ≠ [] ∧ response.status = 200 ∧
    response.body = .json (echo "Cobalt Greeting Trigger" (itemOf "a")) ∧
    h'.trace = [.count (.triggered "greeting"),
      .event (.received (.text "a") "greeting" "Cobalt Greeting Trigger" (.object [])),
      .count (.requested "POST" "/webhook/\x7bpath\x7d" 200)] := by
  have hpath : triggerNode? "greeting" = some "Cobalt Greeting Trigger" := by decide
  have htarget : "/webhook/greeting" = "/webhook/" ++ "greeting" := by decide
  have hevent : eventTrace ((Request.greeting []).event "greeting" (itemOf "a"))
        "Cobalt Greeting Trigger" =
      [.count (.triggered "greeting"), .event (.received (.text "a") "greeting"
        "Cobalt Greeting Trigger" (.object []))] := by decide +kernel
  obtain ⟨octets, hne, hread⟩ : ∃ octets, octets ≠ [] ∧
      Json.readBytes 970 octets = .ok (itemOf "a") :=
    ⟨Text.Utf8.encode "\x7b\"sessionId\":\"a\"\x7d", by decide +kernel, by decide +kernel⟩
  obtain ⟨response, h', hrun, -, ⟨⟨-, hdeep⟩, -⟩ | ⟨-, v, hv, htrace, hstatus, hbody, -⟩⟩ :=
    webhook_echoes (g := .ofSettings {}) (c := .plain .busyOnce) (r := .greeting octets) hpath rfl
      htarget rfl (by decide +kernel) (fun hhalf => by cases hread.symm.trans hhalf) {}
  · cases hread.symm.trans hdeep
  · cases taken_unique hv (.document hne hread)
    have hstatus := hstatus.2 (by decide)
    refine ⟨octets, response, h', hrun, hne, hstatus, (hbody hstatus).2 (by decide), ?_⟩
    rw [htrace, hstatus]
    exact congrArg (· ++ [_]) hevent

/-- A list of lists inside one another, as many as cannot be written. -/
def brackets : List UInt8 := List.replicate 300 0x5B ++ List.replicate 300 0x5D

/-- It is read, but it does not come back. -/
theorem fails_brackets : triggerNode? "greeting" = some "Cobalt Greeting Trigger" ∧
    (isTooLarge (Conditions.plain .busyOnce).settings (.greeting brackets)).toOption = some false ∧
    leavesNoTime (ofSettings {}).timeLimit = false ∧ (∃ v, Json.readBytes 970 brackets = .ok v) ∧
    ¬ ∃ response h', (handle (.ofSettings {}) (.plain .busyOnce) (.greeting brackets)).run {} =
      (response, h') ∧ response.status = 200 := by
  have hread : (Json.readBytes 970 brackets).isOk = true := by decide +kernel
  refine ⟨by decide, by decide +kernel, by decide +kernel, ?_, ?_⟩
  · cases hv : Json.readBytes 970 brackets with
    | ok v => exact ⟨v, rfl⟩
    | error e => simp [hv, Except.isOk, Except.toBool] at hread
  · rintro ⟨response, h', hrun, hstatus⟩
    have hfails : ((handle (.ofSettings {}) (.plain .busyOnce)
        (.greeting brackets)).run {}).1.status = 500 := by decide +kernel
    rw [hrun] at hfails
    exact absurd (hstatus.symm.trans hfails) (by decide)

end ChatRelay.Gateway

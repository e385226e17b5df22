/-
  Whom the messages of a batch are sent to.

  What a batch does is done item by item, up to the one it ends at (`Leaves`).  All that
  is posted for an item names the session that was found for it, and an item without a
  proper session leaves nothing on the trace (`Addressed`).  `batch_addressed` says this
  of every job, whatever the connector answers and however the batch ends.
-/
import ChatRelay.Proofs.Batch.Item
import ChatRelay.Proofs.Connector.Posting
import ChatRelay.Proofs.Session

namespace ChatRelay

/-! ## Messages and requests name their session -/

/-- The body is an object that names the session. -/
def NamesSession (id : String) (body : Json) : Prop :=
  ∃ fs, body = .object fs ∧ Json.get? fs "sessionId" = some (.text id)

theorem namesSession_wire (e : Envelope) : NamesSession e.session (.object e.wire) := ⟨_, rfl, rfl⟩

theorem namesSession_body (r : ControlRequest) : NamesSession r.session (.object r.body) :=
  ⟨_, rfl, rfl⟩

section Built

variable {id : String} {e : Envelope} {limits : Limits}

theorem session_of_readParties {session : String} {participant : Json} {name : Option String}
    (h : (readParties (.text id) participant).get = .ok (session, name)) : session = id := by
  have hread : readParties (.text id) participant = Prod.mk id <$>
      (Schema.orNull Schema.asText participant).under (.key "participant") := by
    unfold readParties
    cases (Schema.orNull Schema.asText participant).under (.key "participant") <;> rfl
  rw [hread] at h
  cases hp : (Schema.orNull Schema.asText participant).under (.key "participant") with
  | fits name =>
    rw [hp] at h
    cases h
    rfl
  | faulty faults =>
    rw [hp] at h
    cases h

theorem session_of_messageEnvelope {b : Content.Bundle} {flags : MetaInput} {participant : Json}
    (h : messageEnvelope (.text id) b flags participant limits = .ok e) : e.session = id := by
  obtain ⟨m, -, h⟩ := ok_of_bind h
  obtain ⟨flags', -, h⟩ := ok_of_bind h
  obtain ⟨⟨session, participant'⟩, hparties, h⟩ := ok_of_bind h
  cases h
  exact session_of_readParties hparties

theorem session_of_surveyEnvelope {c : Conditions} {title : Json} {pages : List Survey.Page}
    (h : surveyEnvelope c (.text id) title pages = .ok e) : e.session = id := by
  obtain ⟨item, -, h⟩ := ok_of_bind h
  obtain ⟨session, hsession, h⟩ := ok_of_bind h
  cases hsession
  cases h
  rfl

theorem session_of_htmlEnvelope {html : Json} (h : htmlEnvelope (.text id) html = .ok e) :
    e.session = id := by
  obtain ⟨s, -, h⟩ := ok_of_bind h
  obtain ⟨session, hsession, h⟩ := ok_of_bind h
  cases hsession
  cases h
  rfl

theorem session_of_escalationEnvelope {text reason : Json}
    (h : escalationEnvelope (.text id) text reason limits = .ok e) : e.session = id := by
  obtain ⟨s, -, h⟩ := ok_of_bind h
  obtain ⟨flags, -, h⟩ := ok_of_bind h
  obtain ⟨session, hsession, h⟩ := ok_of_bind h
  cases hsession
  cases h
  rfl

/-- **Whatever message a job builds, it is for the session it is built for.** -/
theorem session_of_envelope {c : Conditions} {ctx : Context} {m : MessageJob}
    (h : m.envelope c ctx (.text id) = .ok e) : e.session = id := by
  cases m with
  | survey =>
    obtain ⟨pages, -, h⟩ := ok_of_bind h
    exact session_of_surveyEnvelope h
  | html => exact session_of_htmlEnvelope h
  | escalation => exact session_of_escalationEnvelope h
  | reply =>
    obtain ⟨records, -, h⟩ := ok_of_bind h
    obtain ⟨b, -, h⟩ := ok_of_bind h
    exact session_of_messageEnvelope h

theorem session_of_build {operation payload value : Json} {r : ControlRequest}
    (h : ControlRequest.build operation (.text id) payload value limits = .ok r) :
    r.session = id := by
  obtain ⟨o, -, h⟩ := ok_of_bind h
  obtain ⟨p, -, h⟩ := ok_of_bind h
  obtain ⟨session, hsession, h⟩ := ok_of_bind h
  cases hsession
  cases h
  rfl

end Built

/-! ## Items -/

/-- The session that is found for an item of a batch. -/
def Context.sessionOf (ctx : Context) (s : Settings) (item : Json) : Except Failure String :=
  Session.resolve ctx.session ctx.outputs (recordOf item) (some s.triggerNode)

/-- What an item may leave on the trace: if a proper session is found for it, then only attempts to
    post bodies that name this session, besides what is no attempt; otherwise nothing. -/
inductive Addressed (c : Conditions) (ctx : Context) (item : Json) : List Entry → Prop
  | named {id : String} {part : List Entry} : ctx.sessionOf c.settings item = .ok id →
      IsProper id → (∀ call, .call call ∈ part → NamesSession id call.body) →
      Addressed c ctx item part
  | nameless : (∀ id, ctx.sessionOf c.settings item = .ok id → ¬ IsProper id) →
      Addressed c ctx item []

section Item

variable {c : Conditions} {ctx : Context} {job : Job} {item : Json}

theorem postsOnly_sendMessage (e : Envelope) :
    PostsOnly (NamesSession e.session) (sendMessage c ctx e) :=
  ((postsOnly_deliver _).mono fun _ hbody => hbody ▸ namesSession_wire e).map
    (exec_sendMessage c ctx e)

theorem postsOnly_sendRequest (r : ControlRequest) :
    PostsOnly (NamesSession r.session) (sendRequest c ctx r) :=
  ((postsOnly_deliver _).mono fun _ hbody => hbody ▸ namesSession_body r).map
    (exec_sendRequest c ctx r)

/-- **The work on a record posts only bodies that name its session.** -/
theorem postsOnly_run (job : Job) {record : Json} {id : String}
    (hid : ctx.resolveSession c.settings record = .ok id) :
    PostsOnly (NamesSession id) (job.run c ctx record) := by
  have hsilent : AreCounts [] := nofun
  refine .adds_bind (adds_liftM _) hsilent fun session hsession => ?_
  obtain rfl : id = session := Except.ok.inj (hid.symm.trans hsession)
  cases job with
  | control =>
    refine .adds_bind (adds_liftM _) hsilent fun r hr => ?_
    exact session_of_build hr ▸ postsOnly_sendRequest r
  | message m =>
    refine .adds_bind (adds_build c ctx _ m) ?_ fun e he => ?_
    · refine (areCounts_map _).append ?_
      cases m.envelope c ctx (.text id) with
      | error f => exact hsilent
      | ok e => exact areCounts_map [.built e.kind]
    · exact session_of_envelope he ▸ postsOnly_sendMessage e

/-- **What an item leaves is addressed**, from whatever history it is worked off. -/
theorem exists_addressed (c : Conditions) (ctx : Context) (job : Job) (item : Json) (h : History) :
    ∃ part, (exec (runItem c ctx job item) h).2.trace = h.trace ++ part ∧
      Addressed c ctx item part := by
  rw [exec_runItem]
  cases hid : ctx.resolveSession c.settings (recordOf item) with
  | error f =>
    refine ⟨[], ?_, .nameless fun id hfound hproper => ?_⟩
    · have hrun : exec (job.run c ctx (recordOf item)) h = (.error f, h) := by
        unfold Job.run
        rw [hid]
        rfl
      rw [hrun, List.append_nil]
      rfl
    · rw [resolveSession_eq_ok_iff.2 ⟨hfound, hproper⟩] at hid
      cases hid
  | ok id =>
    obtain ⟨hfound, hproper⟩ := resolveSession_eq_ok_iff.1 hid
    obtain ⟨part, htrace, hnames⟩ := postsOnly_run job hid h
    exact ⟨part, htrace, .named hfound hproper hnames⟩

end Item

/-! ## Batches -/

/-- The parts of the trace that items leave which are worked off one after the other, and the
    history after them.  At an item that fails the batch ends, and those after it leave nothing. -/
inductive Leaves (c : Conditions) (ctx : Context) (job : Job) :
    List Json → History → List (List Entry) → History → Prop
  | nil (h : History) : Leaves c ctx job [] h [] h
  | next {item : Json} {rest : List Json} {h h' h'' : History} {fs : Fields} {part : List Entry}
      {parts : List (List Entry)} : exec (runItem c ctx job item) h = (.ok fs, h') →
      h'.trace = h.trace ++ part → Leaves c ctx job rest h' parts h'' →
      Leaves c ctx job (item :: rest) h (part :: parts) h''
  | last {item : Json} {rest : List Json} {h h' : History} {f : Failure} {part : List Entry} :
      exec (runItem c ctx job item) h = (.error f, h') → h'.trace = h.trace ++ part →
      Leaves c ctx job (item :: rest) h (part :: rest.map fun _ => []) h'

section Batch

variable {c : Conditions} {ctx : Context} {job : Job}

theorem trace_of_leaves {items : List Json} {h h' : History} {parts : List (List Entry)}
    (hl : Leaves c ctx job items h parts h') : h'.trace = h.trace ++ parts.flatten := by
  induction hl with
  | nil h => simp
  | next _ hpart _ ih => rw [ih, hpart, List.flatten_cons, List.append_assoc]
  | last _ hpart => simp [hpart]

/-- An item that was not reached leaves nothing, whatever its session. -/
theorem addressed_nil (item : Json) : Addressed c ctx item [] := by
  by_cases hid : ∃ id, ctx.sessionOf c.settings item = .ok id ∧ IsProper id
  · obtain ⟨id, hfound, hproper⟩ := hid
    exact .named hfound hproper nofun
  · exact .nameless fun id hfound hproper => hid ⟨id, hfound, hproper⟩

theorem exists_leaves (c : Conditions) (ctx : Context) (job : Job) (items : List Json)
    (h : History) : ∃ parts, Leaves c ctx job items h parts
        (exec (items.mapM (runItem c ctx job)) h).2 ∧
      List.Forall₂ (Addressed c ctx) items parts := by
  induction items generalizing h with
  | nil => exact ⟨[], .nil h, .nil⟩
  | cons item rest ih =>
    obtain ⟨part, hpart, haddressed⟩ := exists_addressed c ctx job item h
    rw [List.mapM_cons]
    rcases hitem : exec (runItem c ctx job item) h with ⟨f | fs, h'⟩
    · rw [hitem] at hpart
      rw [exec_bind_error hitem]
      refine ⟨_, .last hitem hpart, .cons haddressed ?_⟩
      rw [List.forall₂_map_right_iff, List.forall₂_same]
      exact fun other _ => addressed_nil other
    · rw [hitem] at hpart
      obtain ⟨parts, hleaves, hrest⟩ := ih h'
      rw [exec_bind_ok hitem]
      refine ⟨part :: parts, .next hitem hpart ?_, .cons haddressed hrest⟩
      rcases hrun : exec (rest.mapM (runItem c ctx job)) h' with ⟨f | rs, h''⟩
      · rw [exec_bind_error hrun]
        rwa [hrun] at hleaves
      · rw [exec_bind_ok hrun]
        rwa [hrun] at hleaves

/-- **Only proper sessions leave a batch.**  The trace of a batch consists of the parts that its
    items leave, one after the other, however the batch ends.  All that is posted for an item names
    the session found for it, which is proper; an item without a proper session leaves nothing: no
    attempt, no message counted, no delivery counted. -/
theorem batch_addressed (c : Conditions) (ctx : Context) (job : Job) (items : List Json)
    (h : History) : ∃ parts h', (exec (runBatch c ctx job (.array items)) h).2 = h' ∧
      Leaves c ctx job (worklist items) h parts h' ∧ h'.trace = h.trace ++ parts.flatten ∧
      List.Forall₂ (Addressed c ctx) (worklist items) parts := by
  obtain ⟨parts, hleaves, haddressed⟩ := exists_leaves c ctx job (worklist items) h
  rw [← runBatch_eq] at hleaves
  exact ⟨parts, _, rfl, hleaves, trace_of_leaves hleaves, haddressed⟩

end Batch

end ChatRelay

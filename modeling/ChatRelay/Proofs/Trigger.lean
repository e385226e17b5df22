/-
  What a trigger emits, and who reads it.

  A call of a trigger with a known path is counted and logged once, and the node of the
  trigger emits what it was called with (`exec_receive`).  The node wraps the body in a
  record, and a later lookup of a session unwraps it again.  The two agree: what is found in
  the output of the node is the id that the body names (`fromOutputs_of_record`).
  `trigger_feeds_session` draws the conclusion for the sessions that are found.
-/
import ChatRelay.Proofs.Batch.Item
import ChatRelay.Proofs.Session
import ChatRelay.Trigger

namespace ChatRelay

/-! ## Receiving -/

/-- **A call is counted and logged, and emitted as it is.** -/
theorem exec_receive {e : TriggerEvent} {node : String} (hnode : e.node? = some node)
    (h : History) : exec e.receive h = (.ok e.workflowData, { h with
      trace := h.trace ++ [.count (.triggered e.path),
        .event (.received e.session e.path node e.query)] }) := by
  unfold TriggerEvent.receive
  rw [exec_bind_ok (exec_count (.triggered e.path) h), hnode]
  refine (exec_bind_ok (exec_log _ _)).trans ?_
  simp

/-- The nodes of the triggers have names. -/
theorem ne_empty_of_triggerNode? {path node : String} (h : triggerNode? path = some node) :
    node ≠ "" := by
  have hall : ∀ entry ∈ nodes, entry.2 ≠ "" := by decide
  obtain ⟨l₁, l₂, hnodes, -⟩ := List.lookup_eq_some_iff.1 h
  exact hall (path, node) (by rw [hnodes]; simp)

namespace Session

/-! ## Lookups -/

section Lookups

variable {ε : Type} {lookups : List (Id (Except ε Json))}

/-- A lookup that finds nothing is passed over. -/
theorem firstSuccess_null : firstSuccess (m := Id) (.ok .null :: lookups) =
    firstSuccess lookups := rfl

/-- Also behind another one. -/
theorem firstSuccess_cons_null (lookup : Except ε Json) :
    firstSuccess (m := Id) (lookup :: .ok .null :: lookups) =
      firstSuccess (m := Id) (lookup :: lookups) := by
  rcases lookup with e | v
  · rfl
  · rfl

/-- One that finds something is the last. -/
theorem firstSuccess_of_isTruthy {v : Json} (h : v.isTruthy = true) :
    firstSuccess (m := Id) (.ok v :: lookups) = some v := by
  change (if v.isTruthy then some v else (firstSuccess lookups).run) = some v
  rw [if_pos h]

end Lookups

/-- What the outputs hold counts as if it were given as a parameter. -/
theorem resolve_of_fromOutputs {v outputs : Json} {node : Option String}
    (h : fromOutputs outputs node = .ok (cleaned v)) (record : Json) (node' : Option String) :
    resolve .null outputs record node = resolve v .null record node' := by
  have hleft : firstSuccess (m := Id) [fromParameter .null, fromOutputs outputs node,
      fromRecord record] = firstSuccess (m := Id) [fromParameter v, fromRecord record] := by
    rw [h]
    exact firstSuccess_null
  have hright : firstSuccess (m := Id) [fromParameter v, fromOutputs .null node',
      fromRecord record] = firstSuccess (m := Id) [fromParameter v, fromRecord record] :=
    firstSuccess_cons_null _
  unfold resolve
  rw [hleft, hright]

/-- An id that is given as a parameter is found, whatever the other places hold. -/
theorem resolve_of_parameter {v : Json} {id : String} (h : cleaned v = .text id)
    (outputs record : Json) (node : Option String) : resolve v outputs record node = .ok id := by
  have hne : id ≠ "" := by
    rcases isTrimmed_cleaned v with hnull | ⟨s, hs, hne, -⟩
    · cases h.symm.trans hnull
    · cases h.symm.trans hs
      exact hne
  have hfound : firstSuccess (m := Id) [fromParameter v, fromOutputs outputs node,
      fromRecord record] = some (.text id) := by
    rw [fromParameter, h]
    exact firstSuccess_of_isTruthy (by simp [Json.isTruthy, hne])
  unfold resolve
  rw [hfound]
  rfl

/-- A parameter that names no id counts as none. -/
theorem resolve_of_blank {v : Json} (h : cleaned v = .null) (outputs record : Json)
    (node : Option String) :
    resolve v outputs record node = resolve .null outputs record node := by
  unfold resolve fromParameter
  rw [h]
  rfl

/-! ## The record of a trigger -/

/-- **What is found in the record that a trigger emits is the id that its body names**: the record
    is unwrapped once, and the body is not. -/
theorem fromFirst_record (e : TriggerEvent) :
    fromFirst (.array [.object [("json", e.body)]]) = .ok (cleaned e.session) := by
  unfold fromFirst TriggerEvent.session idIn unwrapped
  cases e.body with
  | object fs => rfl
  | _ => rfl

theorem fromOutputs_record (e : TriggerEvent) (node : String) :
    fromOutputs (.object [(node, .array [.object [("json", e.body)]])]) (some node) =
      .ok (cleaned e.session) := by
  have hget : Json.get? [(node, Json.array [.object [("json", e.body)]])] node =
      some (.array [.object [("json", e.body)]]) := by
    rw [Json.get?_cons]
    simp
  change fromFirst ((Json.get? [(node, Json.array [.object [("json", e.body)]])] node).getD .null) =
    _
  rw [hget]
  exact fromFirst_record e

end Session

/-! ## What a trigger feeds -/

/-- The body names no session: it is no object, or one without fields. -/
theorem session_of_bare {e : TriggerEvent}
    (h : (∀ fs, e.body ≠ .object fs) ∨ e.body = .object []) : e.session = .null := by
  unfold TriggerEvent.session
  cases hb : e.body with
  | object fs =>
    rcases h with hnot | hempty
    · exact absurd hb (hnot fs)
    · cases hb.symm.trans hempty
      rfl
  | _ => rfl

/-- **The output of a trigger feeds the lookup of sessions.**  Looked up in the output of the node
    of the trigger, a session is found just as if the body's `sessionId` were given as a parameter
    and no node had emitted anything.  So the id of the body is found whatever other fields the
    body has, a field `json` among them; and a body that names no session leaves the input record
    to look in. -/
theorem trigger_feeds_session {e : TriggerEvent} {node : String} (hnode : e.node? = some node)
    (h : History) : ∃ records h', exec e.receive h = (.ok (.array [records]), h') ∧
      ∀ (record : Json) (usual : String) (node' : Option String),
        let found := Session.resolve .null (.object [(node, records)]) record
          (Session.nodeOr usual (.text node))
        found = Session.resolve e.session .null record node' ∧
        (∀ fs v id, e.body = .object fs → Json.get? fs Session.idField = some v →
          Session.cleaned v = .text id → found = .ok id) ∧
        (Session.cleaned e.session = .null →
          found = Session.resolve .null .null record node') ∧
        ((∀ fs, e.body ≠ .object fs) ∨ e.body = .object [] →
          found = Session.resolve .null .null record node') := by
  refine ⟨.array [.object [("json", e.body)]], _, exec_receive hnode h, ?_⟩
  intro record usual node'
  have hname : Session.nodeOr usual (.text node) = some node := by
    have hne := ne_empty_of_triggerNode? hnode
    simp [Session.nodeOr, Json.isTruthy, Json.text?, hne]
  have hfound := Session.resolve_of_fromOutputs (Session.fromOutputs_record e node) record node'
  have hblank : Session.cleaned e.session = .null →
      Session.resolve e.session .null record node' =
        Session.resolve .null .null record node' := fun hnull =>
    Session.resolve_of_blank hnull _ _ _
  rw [hname]
  refine ⟨hfound, ?_, fun hnull => hfound.trans (hblank hnull), fun hbare => ?_⟩
  · intro fs v id hbody hv hid
    have hsession : e.session = v := by
      unfold TriggerEvent.session
      simp only [hbody, hv, Option.getD_some]
    rw [hsession] at hfound
    exact hfound.trans (Session.resolve_of_parameter hid _ _ _)
  · have hnull : Session.cleaned e.session = .null := by
      rw [session_of_bare hbare]
      rfl
    exact hfound.trans (hblank hnull)

/-- A body with a field `json` that names another session. -/
def TriggerEvent.nested : TriggerEvent where
  path := "greeting"
  body := .object [("json", itemOf "inner"), ("sessionId", .text " outer ")]

/-- Its own session is found. -/
theorem session_of_nested : ∃ records h',
    exec TriggerEvent.nested.receive {} = (.ok (.array [records]), h') ∧
    Session.resolve .null (.object [("Cobalt Greeting Trigger", records)]) (itemOf "record")
      (Session.nodeOr "Cobalt Trigger" (.text "Cobalt Greeting Trigger")) = .ok "outer" := by
  have hnode : TriggerEvent.nested.node? = some "Cobalt Greeting Trigger" := by decide
  obtain ⟨records, h', hrun, hall⟩ := trigger_feeds_session hnode {}
  obtain ⟨-, hid, -⟩ := hall (itemOf "record") "Cobalt Trigger" none
  exact ⟨records, h', hrun, hid _ (.text " outer ") "outer" rfl (by decide) (by decide +kernel)⟩

end ChatRelay

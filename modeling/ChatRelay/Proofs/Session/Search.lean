/-
  The search for a session.

  Lookups are run in order up to the first that gives something.  `AllMiss` tells what the
  ones before it do: each gives nothing or fails, and the next starts in the state that it
  leaves.  So a search ends in the state of the first hit, and what comes after that is not
  run (`run_firstSuccess_some_iff`); it gives nothing just if all miss
  (`run_firstSuccess_none_iff`).

  The id of a session is searched in three places.  `Sources.Holds` tells which value stands in
  a place, whatever the places are made of, and `Names` which id the value names.
  `session_found` says that the id of the first place that gives one is found, and that the
  session is missing just if no place gives one.
-/
import ChatRelay.Proofs.Session

namespace ChatRelay

/-! ## Searching -/

section Search

variable {σ ε : Type}

/-- The lookups miss, one after the other: each gives what counts as nothing or fails, and the
    next one starts in the state that it leaves. -/
inductive AllMiss : List (StateM σ (Except ε Json)) → σ → σ → Prop
  | nil {s : σ} : AllMiss [] s s
  | nothing {lookup : StateM σ (Except ε Json)} {rest s t u v} :
      lookup.run s = (.ok v, t) → v.isTruthy = false → AllMiss rest t u →
      AllMiss (lookup :: rest) s u
  | failed {lookup : StateM σ (Except ε Json)} {rest s t u e} :
      lookup.run s = (.error e, t) → AllMiss rest t u → AllMiss (lookup :: rest) s u

variable {lookups before rest : List (StateM σ (Except ε Json))}
  {lookup : StateM σ (Except ε Json)} {s t u : σ} {v : Json}

/-- A hit is the last lookup. -/
theorem run_firstSuccess_of_hit (h : lookup.run s = (.ok v, t)) (hv : v.isTruthy = true) :
    (firstSuccess (lookup :: rest)).run s = (some v, t) := by
  rw [firstSuccess, run_bind, h]
  simp only [hv, if_true]
  rfl

/-- What counts as nothing is passed over. -/
theorem run_firstSuccess_of_nothing (h : lookup.run s = (.ok v, t)) (hv : v.isTruthy = false) :
    (firstSuccess (lookup :: rest)).run s = (firstSuccess rest).run t := by
  rw [firstSuccess, run_bind, h]
  simp only [hv, Bool.false_eq_true, if_false]

/-- So is a failure. -/
theorem run_firstSuccess_of_failed {e : ε} (h : lookup.run s = (.error e, t)) :
    (firstSuccess (lookup :: rest)).run s = (firstSuccess rest).run t := by
  rw [firstSuccess, run_bind, h]

/-- Lookups that miss are passed over. -/
theorem AllMiss.run_append (h : AllMiss before s t) :
    (firstSuccess (before ++ rest)).run s = (firstSuccess rest).run t := by
  induction h with
  | nil => rfl
  | nothing hrun hv _ ih => rw [List.cons_append, run_firstSuccess_of_nothing hrun hv, ih]
  | failed hrun _ ih => rw [List.cons_append, run_firstSuccess_of_failed hrun, ih]

/-- If there are no others, nothing is found. -/
theorem AllMiss.run_eq (h : AllMiss lookups s t) : (firstSuccess lookups).run s = (none, t) := by
  have hrun : (firstSuccess (lookups ++ [])).run s = (none, t) := h.run_append
  rwa [List.append_nil] at hrun

/-- All lookups miss, or there is a first that does not. -/
theorem allMiss_or_hit (lookups : List (StateM σ (Except ε Json))) (s : σ) :
    (∃ t, AllMiss lookups s t) ∨ ∃ before lookup after u v t,
      lookups = before ++ lookup :: after ∧ AllMiss before s u ∧ lookup.run u = (.ok v, t) ∧
        v.isTruthy = true := by
  -- the others start in the state that the first one leaves
  induction lookups generalizing s with
  | nil => exact Or.inl ⟨s, .nil⟩
  | cons lookup rest ih =>
    rcases hrun : lookup.run s with ⟨e | v, t⟩
    · rcases ih t with ⟨u, hall⟩ | ⟨before, hit, after, u, v, t', rfl, hbefore, hhit⟩
      · exact Or.inl ⟨u, .failed hrun hall⟩
      · exact Or.inr ⟨lookup :: before, hit, after, u, v, t', rfl, .failed hrun hbefore, hhit⟩
    · cases hv : v.isTruthy with
      | true => exact Or.inr ⟨[], lookup, rest, s, v, t, rfl, .nil, hrun, hv⟩
      | false =>
        rcases ih t with ⟨u, hall⟩ | ⟨before, hit, after, u, w, t', rfl, hbefore, hhit⟩
        · exact Or.inl ⟨u, .nothing hrun hv hall⟩
        · exact Or.inr ⟨lookup :: before, hit, after, u, w, t', rfl, .nothing hrun hv hbefore,
            hhit⟩

/-- **The search ends with the first hit**, in the state that it leaves. -/
theorem run_firstSuccess_some_iff : (firstSuccess lookups).run s = (some v, t) ↔
    ∃ before lookup after u, lookups = before ++ lookup :: after ∧ AllMiss before s u ∧
      lookup.run u = (.ok v, t) ∧ v.isTruthy = true := by
  constructor
  · intro h
    rcases allMiss_or_hit lookups s with ⟨u, hall⟩ | ⟨before, hit, after, u, w, t', rfl, hbefore,
      hhit, hw⟩
    · cases h.symm.trans hall.run_eq
    · rw [hbefore.run_append, run_firstSuccess_of_hit hhit hw] at h
      cases h
      exact ⟨before, hit, after, u, rfl, hbefore, hhit, hw⟩
  · rintro ⟨before, hit, after, u, rfl, hbefore, hhit, hv⟩
    rw [hbefore.run_append, run_firstSuccess_of_hit hhit hv]

/-- **It gives nothing just if all lookups miss.** -/
theorem run_firstSuccess_none_iff :
    (firstSuccess lookups).run s = (none, t) ↔ AllMiss lookups s t := by
  constructor
  · intro h
    rcases allMiss_or_hit lookups s with ⟨u, hall⟩ | ⟨before, hit, after, u, w, t', rfl, hbefore,
      hhit, hw⟩
    · cases h.symm.trans hall.run_eq
      exact hall
    · rw [hbefore.run_append, run_firstSuccess_of_hit hhit hw] at h
      cases h
  · exact AllMiss.run_eq

end Search

namespace Session

/-! ## Places -/

/-- Where a session is looked for. -/
structure Sources where
  parameter : Json
  /-- what the earlier nodes emitted, by their names -/
  outputs : Json
  record : Json
  /-- the node that is to be looked at -/
  node : Json
  /-- the node that is looked at if no other is named -/
  usual : String

/-- The places where an id may stand. -/
inductive Place where
  | parameter
  | outputs
  | record

/-- The places in the order in which they are looked at. -/
def Place.all : List Place := [parameter, outputs, record]

namespace Sources

variable (s : Sources)

/-- The name of the node that is looked at; what is no text names none. -/
inductive Looks : String → Prop
  | named {name : String} : s.node = .text name → name ≠ "" → Looks name
  | usual : s.node.isTruthy = false → Looks s.usual

/-- The object is the first record that the node emitted. -/
def Emitted (first : Fields) : Prop :=
  ∃ nodes name rest, s.outputs = .object nodes ∧ s.Looks name ∧
    Json.get? nodes name = some (.array (.object first :: rest))

/-- The value stands in the place.  In the outputs that is the field of the object which the first
    record holds under `json`, or else of the record itself. -/
inductive Holds : Place → Json → Prop
  | parameter : Holds .parameter s.parameter
  | wrapped {first inner : Fields} {v : Json} : s.Emitted first →
      Json.get? first "json" = some (.object inner) → Json.get? inner "sessionId" = some v →
      Holds .outputs v
  | bare {first : Fields} {v : Json} : s.Emitted first →
      (∀ inner, Json.get? first "json" ≠ some (.object inner)) →
      Json.get? first "sessionId" = some v → Holds .outputs v
  | record {fs : Fields} {v : Json} : s.record = .object fs →
      Json.get? fs "sessionId" = some v → Holds .record v

end Sources

/-- The value names the id: it is not null, and the id is its text without blanks around it, of
    which something is left. -/
def Names (v : Json) (id : String) : Prop :=
  v ≠ .null ∧ Text.trimBlank v.display = id ∧ id ≠ ""

/-- The place holds a value that names the id. -/
def Sources.Gives (s : Sources) (p : Place) (id : String) : Prop := ∃ v, s.Holds p v ∧ Names v id

/-- The id is the one of the first place that gives any. -/
def Sources.GivesFirst (s : Sources) (id : String) : Prop :=
  ∃ before p after, Place.all = before ++ p :: after ∧
    (∀ q ∈ before, ∀ other, ¬ s.Gives q other) ∧ s.Gives p id

/-! ## Lookups -/

theorem cleaned_eq_text_iff {v : Json} {id : String} : cleaned v = .text id ↔ Names v id := by
  unfold cleaned Names
  cases v with
  | null => simp
  | _ =>
    simp only [ne_eq, reduceCtorEq, not_false_eq_true, true_and]
    split
    · rename_i h
      simp only [reduceCtorEq, false_iff, not_and, not_not]
      rintro rfl
      simpa using h
    · rename_i h
      simp only [Json.text.injEq]
      constructor
      · rintro rfl
        exact ⟨rfl, by simpa using h⟩
      · exact And.left

/-- The lookup at a place. -/
def Sources.lookup (s : Sources) : Place → Except Obstacle Json
  | .parameter => fromParameter s.parameter
  | .outputs => fromOutputs s.outputs (nodeOr s.usual s.node)
  | .record => fromRecord s.record

namespace Sources

variable {s : Sources} {p : Place} {v : Json} {id : String}

theorem nodeOr_eq_some_iff {name : String} :
    nodeOr s.usual s.node = some name ↔ s.Looks name := by
  unfold nodeOr
  constructor
  · intro h
    cases hnode : s.node.isTruthy with
    | true =>
      rw [hnode, if_pos rfl] at h
      unfold Json.text? at h
      split at h <;> cases h
      rename_i htext
      refine .named htext ?_
      rintro rfl
      rw [htext] at hnode
      cases hnode
    | false =>
      rw [hnode] at h
      cases h
      exact .usual hnode
  · rintro (⟨hnode, hne⟩ | hnode)
    · simp [hnode, Json.isTruthy, hne, Json.text?]
    · simp [hnode]

theorem unwrapped_of_bare {first : Fields}
    (h : ∀ inner, Json.get? first "json" ≠ some (.object inner)) : unwrapped first = first := by
  unfold unwrapped
  split
  · rename_i inner hinner
    exact absurd hinner (h inner)
  · rfl

/-- What stands in a place is looked up there. -/
theorem lookup_of_holds (h : s.Holds p v) : s.lookup p = .ok (cleaned v) := by
  cases h with
  | parameter => rfl
  | wrapped hfirst hjson hid =>
    obtain ⟨nodes, name, rest, houtputs, hlooks, hnode⟩ := hfirst
    simp [lookup, fromOutputs, houtputs, nodeOr_eq_some_iff.2 hlooks, hnode, fromFirst, unwrapped,
      hjson, idIn, idField, hid]
  | bare hfirst hjson hid =>
    obtain ⟨nodes, name, rest, houtputs, hlooks, hnode⟩ := hfirst
    simp [lookup, fromOutputs, houtputs, nodeOr_eq_some_iff.2 hlooks, hnode, fromFirst,
      unwrapped_of_bare hjson, idIn, idField, hid]
  | record hrecord hid => simp [lookup, fromRecord, hrecord, idIn, idField, hid]

/-- A value that cannot be looked into is no hit. -/
theorem hit?_obstacle (b : Bool) :
    hit? (if b then .error Obstacle.obstacle else .ok .null) = none := by
  cases b <;> rfl

/-- An object in which an id is found has the field. -/
theorem get?_of_hit {fs : Fields} (h : hit? (.ok (idIn fs) : Except Obstacle Json) = some v) :
    ∃ w, Json.get? fs "sessionId" = some w ∧ v = cleaned w := by
  obtain ⟨hv, htruthy⟩ := hit?_eq_some_iff.1 h
  cases hv
  unfold idIn idField at htruthy ⊢
  cases hid : Json.get? fs "sessionId" with
  | none =>
    rw [hid] at htruthy
    cases htruthy
  | some w => exact ⟨w, rfl, rfl⟩

/-- What is found in a place stands there. -/
theorem holds_of_hit (h : hit? (s.lookup p) = some v) : ∃ w, s.Holds p w ∧ v = cleaned w := by
  cases p with
  | parameter =>
    obtain ⟨hv, -⟩ := hit?_eq_some_iff.1 h
    cases hv
    exact ⟨s.parameter, .parameter, rfl⟩
  | outputs =>
    simp only [lookup, fromOutputs] at h
    split at h
    · rename_i nodes houtputs
      unfold fromFirst at h
      split at h
      · rename_i first rest hnode
        obtain ⟨w, hid, rfl⟩ := get?_of_hit h
        -- the array came from the outputs, not from the default for a missing node
        have hfirst : s.Emitted first := by
          cases hname : nodeOr s.usual s.node with
          | none => simp [hname] at hnode
          | some name =>
            refine ⟨nodes, name, rest, houtputs, nodeOr_eq_some_iff.1 hname, ?_⟩
            cases hget : Json.get? nodes name with
            | none => simp [hname, hget] at hnode
            | some records => simpa [hname, hget] using hnode
        unfold unwrapped at hid
        split at hid
        · rename_i inner hjson
          exact ⟨w, .wrapped hfirst hjson hid, rfl⟩
        · rename_i hjson
          exact ⟨w, .bare hfirst hjson hid, rfl⟩
      · rw [hit?_obstacle] at h
        cases h
    · rw [hit?_obstacle] at h
      cases h
  | record =>
    simp only [lookup, fromRecord] at h
    split at h
    · rename_i fs hrecord
      obtain ⟨w, hid, rfl⟩ := get?_of_hit h
      exact ⟨w, .record hrecord hid, rfl⟩
    · rw [hit?_obstacle] at h
      cases h

/-- **The ids that are found in a place are those that it gives.** -/
theorem hit?_lookup_iff : hit? (s.lookup p) = some v ↔ ∃ id, v = .text id ∧ s.Gives p id := by
  constructor
  · intro h
    obtain ⟨w, hholds, rfl⟩ := holds_of_hit h
    obtain ⟨-, htruthy⟩ := hit?_eq_some_iff.1 h
    rcases isTrimmed_cleaned w with hnull | ⟨id, hid, -, -⟩
    · rw [hnull] at htruthy
      cases htruthy
    · exact ⟨id, hid, w, hholds, cleaned_eq_text_iff.1 hid⟩
  · rintro ⟨id, rfl, w, hholds, hnames⟩
    rw [lookup_of_holds hholds, cleaned_eq_text_iff.2 hnames, hit?_eq_some_iff]
    exact ⟨rfl, by simpa [Json.isTruthy] using hnames.2.2⟩

/-- Nothing is found in a place just if it gives no id. -/
theorem hit?_lookup_eq_none_iff : hit? (s.lookup p) = none ↔ ∀ id, ¬ s.Gives p id := by
  constructor
  · intro h id hid
    cases h.symm.trans (hit?_lookup_iff.2 ⟨id, rfl, hid⟩)
  · intro h
    cases hhit : hit? (s.lookup p) with
    | none => rfl
    | some v =>
      obtain ⟨id, -, hid⟩ := hit?_lookup_iff.1 hhit
      exact absurd hid (h id)

/-! ## The id that is found -/

/-- What the three lookups come to. -/
def found (s : Sources) : Option Json := Place.all.findSome? fun p => hit? (s.lookup p)

theorem found_eq_some_iff : s.found = some v ↔ ∃ id, v = .text id ∧ s.GivesFirst id := by
  unfold found
  rw [List.findSome?_eq_some_iff]
  constructor
  · rintro ⟨before, p, after, hall, hhit, hbefore⟩
    obtain ⟨id, rfl, hid⟩ := hit?_lookup_iff.1 hhit
    exact ⟨id, rfl, before, p, after, hall,
      fun q hq => hit?_lookup_eq_none_iff.1 (hbefore q hq), hid⟩
  · rintro ⟨id, rfl, before, p, after, hall, hbefore, hid⟩
    exact ⟨before, p, after, hall, hit?_lookup_iff.2 ⟨id, rfl, hid⟩,
      fun q hq => hit?_lookup_eq_none_iff.2 (hbefore q hq)⟩

theorem found_eq_none_iff : s.found = none ↔ ∀ p id, ¬ s.Gives p id := by
  unfold found
  rw [List.findSome?_eq_none_iff]
  constructor
  · intro h p
    exact hit?_lookup_eq_none_iff.1 (h p (by cases p <;> simp [Place.all]))
  · intro h p _
    exact hit?_lookup_eq_none_iff.2 (h p)

/-- The session that is resolved is the id that is found. -/
theorem resolve_eq : resolve s.parameter s.outputs s.record (nodeOr s.usual s.node) =
    match s.found.bind Json.text? with
    | some id => .ok id
    | none => .error .missingSession := by
  have hfound : s.found = (firstSuccess (m := Id) [s.lookup .parameter, s.lookup .outputs,
      s.lookup .record]).run := by
    rw [firstSuccess_eq_findSome?]
    rfl
  rw [hfound]
  rfl

theorem resolve_eq_ok_iff : resolve s.parameter s.outputs s.record (nodeOr s.usual s.node) =
    .ok id ↔ s.GivesFirst id := by
  rw [resolve_eq]
  cases hfound : s.found with
  | none =>
    constructor
    · rintro ⟨⟩
    · intro hid
      cases hfound.symm.trans (found_eq_some_iff.2 ⟨id, rfl, hid⟩)
  | some v =>
    obtain ⟨first, rfl, hfirst⟩ := found_eq_some_iff.1 hfound
    constructor
    · rintro ⟨⟩
      exact hfirst
    · intro hid
      cases hfound.symm.trans (found_eq_some_iff.2 ⟨id, rfl, hid⟩)
      rfl

theorem resolve_eq_error_iff {e : Failure} :
    resolve s.parameter s.outputs s.record (nodeOr s.usual s.node) = .error e ↔
      e = .missingSession ∧ ∀ p id, ¬ s.Gives p id := by
  rw [resolve_eq, ← found_eq_none_iff]
  cases hfound : s.found with
  | none =>
    constructor
    · rintro ⟨⟩
      exact ⟨rfl, rfl⟩
    · rintro ⟨rfl, -⟩
      rfl
  | some v =>
    obtain ⟨first, rfl, -⟩ := found_eq_some_iff.1 hfound
    constructor
    · rintro ⟨⟩
    · rintro ⟨-, ⟨⟩⟩

end Sources

/-- **The session is the id of the first place that gives one.**  It is missing just if no place
    gives one, and nothing else goes wrong.  In any search, whatever the lookups give and leave
    behind, the first hit ends it, what comes after is not run, and a failure is passed over. -/
theorem session_found (s : Sources) :
    (∀ id, resolve s.parameter s.outputs s.record (nodeOr s.usual s.node) = .ok id ↔
      s.GivesFirst id) ∧
    (∀ e, resolve s.parameter s.outputs s.record (nodeOr s.usual s.node) = .error e ↔
      e = .missingSession ∧ ∀ p id, ¬ s.Gives p id) ∧
    ∀ (σ ε : Type) (lookups : List (StateM σ (Except ε Json))) (u t : σ),
      (∀ v, (firstSuccess lookups).run u = (some v, t) ↔ ∃ before lookup after w,
        lookups = before ++ lookup :: after ∧ AllMiss before u w ∧ lookup.run w = (.ok v, t) ∧
          v.isTruthy = true) ∧
      ((firstSuccess lookups).run u = (none, t) ↔ AllMiss lookups u t) := by
  refine ⟨fun id => Sources.resolve_eq_ok_iff, fun e => Sources.resolve_eq_error_iff, ?_⟩
  intro σ ε lookups u t
  exact ⟨fun v => run_firstSuccess_some_iff, run_firstSuccess_none_iff⟩

/-- An id in the second place that is no text, behind a blank parameter. -/
example : resolve (.text "  ") (.object [("Hook", .array [.object [("json",
      .object [("sessionId", .bool true)])]])]) (.text "no record") (some "Hook") = .ok "True" := by
  decide +kernel

end Session

end ChatRelay

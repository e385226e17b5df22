/-
  Requests for a change of state.

  A payload is an object or the text of one, and nothing counts as the empty object.
  Read strictly, what is neither of them is refused and the failure says why
  (`parseObject_cases`); read leniently, it counts as the empty object.  Only a text too large
  to be read fails both ways.

  * `request_built`: the request of every operation and its body, and how the two ways of
    reading a payload go together.
-/
import ChatRelay.Proofs.Batch.Formed

namespace ChatRelay

/-! ## Payloads -/

/-- The text of the value, if it is one, is either read as a document or found to be none. -/
def IsReadable (limits : Limits) (v : Json) : Prop :=
  ∀ s e, v = .text s → Json.read limits.payload s = .error e →
    ∃ flaw position, e = .flawed flaw position

/-- The object that a value is or spells out; nothing spells out the empty one. -/
inductive SpellsOut (limits : Limits) : Json → Fields → Prop
  | null : SpellsOut limits .null []
  | empty : SpellsOut limits (.text "") []
  | object {fs : Fields} : SpellsOut limits (.object fs) fs
  | text {s : String} {fs : Fields} : Json.read limits.payload s = .ok (.object fs) →
      SpellsOut limits (.text s) fs

/-- Why a value is no payload. -/
inductive Malformed (limits : Limits) : Json → PayloadFlaw → Prop
  | unread {s : String} {flaw : Json.Flaw} {position : Json.Position} : s ≠ "" →
      Json.read limits.payload s = .error (.flawed flaw position) →
      Malformed limits (.text s) (.unread flaw position)
  | notObject {s : String} {v : Json} : s ≠ "" → Json.read limits.payload s = .ok v →
      (∀ fs, v ≠ .object fs) → Malformed limits (.text s) .notObject
  | unsupported {v : Json} : v ≠ .null → (∀ s, v ≠ .text s) → (∀ fs, v ≠ .object fs) →
      Malformed limits v (.unsupported v.sortName)

section Payloads

variable {limits : Limits} {field v : Json}

/-- **A value spells out an object, or is malformed, or is too large to be read**, unless it spells
    out half of a character. -/
theorem parseObject_cases (hwhole : IsWholePayload limits v) (field : Json) :
    (∃ fs, parseObject field v limits = .ok fs ∧ SpellsOut limits v fs) ∨
      (∃ flaw, parseObject field v limits = .error (.malformed field flaw) ∧
        Malformed limits v flaw) ∨
      ∃ f, Oversized limits v f := by
  cases v with
  | null => exact Or.inl ⟨[], rfl, .null⟩
  | object fs => exact Or.inl ⟨fs, rfl, .object⟩
  | text s =>
    by_cases hs : s = ""
    · subst hs
      exact Or.inl ⟨[], rfl, .empty⟩
    · have hempty : s.isEmpty = false := by simpa using hs
      simp only [parseObject, hempty, Bool.false_eq_true, if_false]
      cases hread : Json.read limits.payload s with
      | ok w =>
        cases w with
        | object fs => exact Or.inl ⟨fs, rfl, .text hread⟩
        | _ => exact Or.inr (Or.inl ⟨_, rfl, .notObject hs hread (by simp)⟩)
      | error e =>
        cases e with
        | flawed flaw position => exact Or.inr (Or.inl ⟨_, rfl, .unread hs hread⟩)
        | numeral e => exact Or.inr (Or.inr ⟨_, .numeral hs hread⟩)
        | deep => exact Or.inr (Or.inr ⟨_, .deep hs hread⟩)
        | half => exact absurd hread (hwhole s rfl)
  | _ => exact Or.inr (Or.inl ⟨_, rfl, .unsupported (by simp) (by simp) (by simp)⟩)

theorem IsReadable.isWhole (h : IsReadable limits v) : IsWholePayload limits v := by
  intro s hs hread
  obtain ⟨_, _, he⟩ := h s _ hs hread
  cases he

theorem not_oversized (h : IsReadable limits v) (f : Failure) : ¬ Oversized limits v f := by
  rintro (⟨-, hread⟩ | ⟨-, hread⟩)
  · obtain ⟨_, _, he⟩ := h _ _ rfl hread
    cases he
  · obtain ⟨_, _, he⟩ := h _ _ rfl hread
    cases he

/-- A value is malformed if it is a text but not the one of an object, or neither nothing nor a
    text nor an object. -/
theorem exists_malformed_iff (h : IsReadable limits v) : (∃ flaw, Malformed limits v flaw) ↔
    (∃ s, v = .text s ∧ s ≠ "" ∧ ∀ fs, Json.read limits.payload s ≠ .ok (.object fs)) ∨
      v ≠ .null ∧ (∀ s, v ≠ .text s) ∧ ∀ fs, v ≠ .object fs := by
  constructor
  · rintro ⟨_, ⟨hs, hread⟩ | ⟨hs, hread, hobject⟩ | ⟨hnull, htext, hobject⟩⟩
    · exact Or.inl ⟨_, rfl, hs, fun fs hfs => by cases hread.symm.trans hfs⟩
    · refine Or.inl ⟨_, rfl, hs, fun fs hfs => ?_⟩
      cases hread.symm.trans hfs
      exact hobject fs rfl
    · exact Or.inr ⟨hnull, htext, hobject⟩
  · rintro (⟨s, rfl, hs, hobject⟩ | ⟨hnull, htext, hobject⟩)
    · cases hread : Json.read limits.payload s with
      | ok w => exact ⟨_, .notObject hs hread fun fs hw => hobject fs (hw ▸ hread)⟩
      | error e =>
        obtain ⟨flaw, position, rfl⟩ := h s e rfl hread
        exact ⟨_, .unread hs hread⟩
    · exact ⟨_, .unsupported hnull htext hobject⟩

theorem SpellsOut.read {s : String} {fs : Fields} (h : SpellsOut limits (.text s) fs)
    (hs : s ≠ "") : Json.read limits.payload s = .ok (.object fs) := by
  cases h with
  | empty => exact absurd rfl hs
  | text hread => exact hread

/-- What spells out an object is not malformed. -/
theorem SpellsOut.not_malformed {fs : Fields} (h : SpellsOut limits v fs) (flaw : PayloadFlaw) :
    ¬ Malformed limits v flaw := by
  intro hflaw
  cases h with
  | null =>
    cases hflaw with
    | unsupported hnull _ _ => exact hnull rfl
  | empty =>
    cases hflaw with
    | unread hs _ => exact hs rfl
    | notObject hs _ _ => exact hs rfl
    | unsupported _ htext _ => exact htext _ rfl
  | object =>
    cases hflaw with
    | unsupported _ _ hobject => exact hobject _ rfl
  | text hread =>
    cases hflaw with
    | unread _ hread' => cases hread.symm.trans hread'
    | notObject _ hread' hobject =>
      cases hread.symm.trans hread'
      exact hobject _ rfl
    | unsupported _ htext _ => exact htext _ rfl

/-- What the two ways of reading a payload make of a value. -/
structure ReadsPayload (limits : Limits) (field v : Json) : Prop where
  /-- strict reading gives what the value spells out -/
  spelled : ∀ fs, parseObject field v limits = .ok fs → SpellsOut limits v fs
  /-- where strict reading gives an object, lenient reading gives the same -/
  agree : ∀ fs, parseObject field v limits = .ok fs → parseObjectLeniently field v limits = .ok fs
  /-- where it fails, lenient reading gives the empty one -/
  emptied : ∀ f, parseObject field v limits = .error f →
    parseObjectLeniently field v limits = .ok []
  /-- it only fails on what is malformed, and says why -/
  malformed : ∀ f, parseObject field v limits = .error f → ∃ flaw, f = .malformed field flaw ∧
    Malformed limits v flaw
  /-- it fails on texts that are not those of objects, and on what is neither nothing nor a text
      nor an object -/
  refused : (∃ f, parseObject field v limits = .error f) ↔
    (∃ s, v = .text s ∧ s ≠ "" ∧ ∀ fs, Json.read limits.payload s ≠ .ok (.object fs)) ∨
      v ≠ .null ∧ (∀ s, v ≠ .text s) ∧ ∀ fs, v ≠ .object fs

theorem parseObjectLeniently_of_ok {fs : Fields} (h : parseObject field v limits = .ok fs) :
    parseObjectLeniently field v limits = .ok fs := by
  rw [parseObjectLeniently, h]

theorem parseObjectLeniently_of_malformed {flaw : PayloadFlaw}
    (h : parseObject field v limits = .error (.malformed field flaw)) :
    parseObjectLeniently field v limits = .ok [] := by
  rw [parseObjectLeniently, h]

/-- Of what is not too large, one of two things comes. -/
theorem parseObject_of_readable (h : IsReadable limits v) (field : Json) :
    (∃ fs, parseObject field v limits = .ok fs ∧ SpellsOut limits v fs) ∨
      ∃ flaw, parseObject field v limits = .error (.malformed field flaw) ∧
        Malformed limits v flaw := by
  rcases parseObject_cases h.isWhole field with hok | herror | ⟨f, hover⟩
  · exact Or.inl hok
  · exact Or.inr herror
  · exact absurd hover (not_oversized h f)

theorem readsPayload (h : IsReadable limits v) (field : Json) : ReadsPayload limits field v := by
  rcases parseObject_of_readable h field with ⟨fs, hok, hspelled⟩ | ⟨flaw, herror, hflaw⟩
  · refine ⟨fun gs hgs => ?_, fun gs hgs => parseObjectLeniently_of_ok hgs, fun f hf => ?_,
      fun f hf => ?_, ?_⟩
    · cases hok.symm.trans hgs
      exact hspelled
    · cases hok.symm.trans hf
    · cases hok.symm.trans hf
    · rw [← exists_malformed_iff h]
      constructor
      · rintro ⟨f, hf⟩
        cases hok.symm.trans hf
      · rintro ⟨flaw, hflaw⟩
        exact absurd hflaw (hspelled.not_malformed flaw)
  · refine ⟨fun gs hgs => ?_, fun gs hgs => ?_,
      fun f _ => parseObjectLeniently_of_malformed herror, fun f hf => ?_, ?_⟩
    · cases herror.symm.trans hgs
    · cases herror.symm.trans hgs
    · cases herror.symm.trans hf
      exact ⟨flaw, rfl, hflaw⟩
    · rw [← exists_malformed_iff h]
      exact ⟨fun _ => ⟨flaw, hflaw⟩, fun _ => ⟨_, herror⟩⟩

end Payloads

/-! ## Requests -/

/-- The object that the payload of a request carries: the one it spells out, or else an empty
    one. -/
inductive Carried (limits : Limits) : Json → Fields → Prop
  | spelled {v : Json} {fs : Fields} : SpellsOut limits v fs → Carried limits v fs
  | nothing {v : Json} : (∀ fs, ¬ SpellsOut limits v fs) → Carried limits v []

/-- What is posted for an operation. -/
inductive RequestBody (limits : Limits) (session : String) (payload value : Json) :
    Operation → Fields → Prop
  | switch {o : Operation} : o = .bot ∨ o = .agent ∨ o = .finish →
      RequestBody limits session payload value o [("sessionId", .text session)]
  | carrying {o : Operation} {fs : Fields} : o = .email ∨ o = .datastore →
      Carried limits payload fs → RequestBody limits session payload value o
        [("sessionId", .text session), ("payload", .object fs)]
  | flag : RequestBody limits session payload value .liveAgentRequested
      [("sessionId", .text session),
        ("payload", .object [("liveAgentRequested", .bool value.isTruthy)])]

/-- The request is the one of an operation. -/
structure IsRequest (limits : Limits) (o : Operation) (session : String) (payload value : Json)
    (r : ControlRequest) : Prop where
  path : r.path = if o = .liveAgentRequested then "datastore" else o.name
  known : r.path ∈ ["bot", "agent", "end", "email", "datastore"]
  addressed : r.session = session
  body : RequestBody limits session payload value o r.body
  carries : (∃ v, Json.get? r.body "payload" = some v) ↔
    o = .email ∨ o = .datastore ∨ o = .liveAgentRequested

section Requests

variable {limits : Limits} {session : String} {payload value : Json} {o : Operation}

theorem path_eq (p : Option Fields) : (ControlRequest.mk o session p).path =
    if o = .liveAgentRequested then "datastore" else o.name := by
  cases o <;> rfl

theorem path_mem (r : ControlRequest) : r.path ∈ ["bot", "agent", "end", "email", "datastore"] := by
  obtain ⟨o, _, _⟩ := r
  cases o <;> simp [ControlRequest.path, Operation.target, Operation.name]

/-- A payload is posted for the operations that have one. -/
theorem RequestBody.carries {fs : Fields} (h : RequestBody limits session payload value o fs) :
    (∃ v, Json.get? fs "payload" = some v) ↔
      o = .email ∨ o = .datastore ∨ o = .liveAgentRequested := by
  cases h with
  | switch ho =>
    have hnone : Json.get? [("sessionId", .text session)] "payload" = none := rfl
    rcases ho with rfl | rfl | rfl <;> simp [hnone]
  | carrying ho _ => exact ⟨fun _ => by tauto, fun _ => ⟨_, rfl⟩⟩
  | flag => exact ⟨fun _ => by tauto, fun _ => ⟨_, rfl⟩⟩

theorem exists_carried (h : IsReadable limits payload) (field : Json) :
    ∃ fs, parseObjectLeniently field payload limits = .ok fs ∧ Carried limits payload fs := by
  rcases parseObject_of_readable h field with ⟨fs, hok, hspelled⟩ | ⟨flaw, herror, hflaw⟩
  · exact ⟨fs, parseObjectLeniently_of_ok hok, .spelled hspelled⟩
  · exact ⟨[], parseObjectLeniently_of_malformed herror,
      .nothing fun fs hspelled => hspelled.not_malformed flaw hflaw⟩

theorem exists_posted (h : IsReadable limits payload) (o : Operation) (session : String)
    (value : Json) :
    ∃ p, ControlRequest.payloadFor o payload value limits = .ok p ∧
      RequestBody limits session payload value o (ControlRequest.mk o session p).body := by
  obtain ⟨fs, hfs, hcarried⟩ := exists_carried h (.text "payload")
  cases o with
  | bot | agent | finish => exact ⟨none, rfl, .switch (by simp)⟩
  | email | datastore =>
    rw [ControlRequest.payloadFor, hfs]
    exact ⟨some fs, rfl, .carrying (by simp) hcarried⟩
  | liveAgentRequested => exact ⟨_, rfl, .flag⟩

end Requests

/-- **A request for a change of state is built for every operation, whatever its payload**, and
    the two ways of reading a payload go together. -/
theorem request_built {limits : Limits} (o : Operation) (session : String)
    (payload value field : Json) (h : IsReadable limits payload) :
    (∃ r, ControlRequest.build (.text o.name) (.text session) payload value limits = .ok r ∧
      IsRequest limits o session payload value r) ∧ ReadsPayload limits field payload := by
  obtain ⟨p, hp, hposted⟩ := exists_posted h o session value
  have hbuild : ControlRequest.build (.text o.name) (.text session) payload value limits =
      .ok ⟨o, session, p⟩ := by
    rw [build_of_read rfl, hp]
    rfl
  exact ⟨⟨_, hbuild, path_eq p, path_mem _, rfl, hposted, hposted.carries⟩, readsPayload h field⟩

/-- The text of an array is refused strictly, and mailed as the empty object. -/
theorem array_mailed_empty : IsReadable {} (.text "[1, 2]") ∧
    (∃ r, ControlRequest.build (.text "email") (.text "s1") (.text "[1, 2]") .null = .ok r ∧
      r.path = "email" ∧ r.body = [("sessionId", .text "s1"), ("payload", .object [])]) ∧
    ∃ f, parseObject (.text "payload") (.text "[1, 2]") = .error f := by
  have hread : Json.read 970 "[1, 2]" = .ok (.array [.int 1, .int 2]) := by decide +kernel
  have hno : ∀ fs, Json.read 970 "[1, 2]" ≠ .ok (.object fs) := fun fs h => by
    cases hread.symm.trans h
  have hreadable : IsReadable {} (.text "[1, 2]") := by
    rintro s e ⟨⟩ he
    cases hread.symm.trans he
  obtain ⟨⟨r, hr, hrequest⟩, hpayload⟩ :=
    request_built .email "s1" (.text "[1, 2]") .null (.text "payload") hreadable
  refine ⟨hreadable, ⟨r, hr, hrequest.path, ?_⟩,
    hpayload.refused.2 (.inl ⟨_, rfl, by decide, hno⟩)⟩
  have hbody := hrequest.body
  generalize r.body = body at hbody
  cases hbody with
  | switch ho => simp at ho
  | carrying _ hcarried =>
    cases hcarried with
    | spelled hspelled => exact absurd (hspelled.read (by decide)) (hno _)
    | nothing _ => rfl

end ChatRelay

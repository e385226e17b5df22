/-
  Rich content of tools and of workflows.

  The tool for rich content reads its arguments by a form, and normalizes what the form
  then holds.  A workflow gives a record that is normalized as it is.  `workflowRecord` is
  the record that says what the arguments say: its buttons and entries have the fields
  that the form knows, its flag is the one that is read, and its kind is that of a text if
  none is named.  What the form holds is alike (`alike_of_read`), so that the tool posts
  what the workflow would (`posts_as_workflow`).
-/
import ChatRelay.Proofs.Content.Alike
import ChatRelay.Proofs.Tool.Ending
import ChatRelay.Proofs.Tool.Nulls

namespace ChatRelay

/-- The entry counts what was left out of content. -/
def Entry.isDropped : Entry → Bool
  | .count (.dropped _ _) => true
  | _ => false

namespace Tool

open Schema Content

/-! ## The record of a workflow -/

/-- The fields of a button that the tool takes. -/
def buttonNames : List String := ["text", "bot_action", "link", "icon", "type", "title"]

/-- The fields of an entry, or of a card, that the tool takes. -/
def itemNames : List String :=
  ["text", "bot_action", "link", "title", "subtitle", "imageUrl", "imageAlt", "buttonText",
    "buttonAction"]

/-- The object with the fields of these names only. -/
def restricted (names : List String) : Json → Json
  | .object fs => .object (fs.filter fun f => names.contains f.1)
  | v => v

/-- The array with its objects restricted. -/
def restrictedEntries (names : List String) : Json → Json
  | .array vs => .array (vs.map (restricted names))
  | v => v

/-- The flag that is read from the value, if one is. -/
def flagged (v : Json) : Json :=
  match asFlag v with
  | .fits b => .bool b
  | .faulty _ => v

/-- What stands for an argument in the record of a workflow. -/
def workflowValue (name : String) (v : Json) : Json :=
  if name = "buttons" then restrictedEntries buttonNames v
  else if name = "items" then restrictedEntries itemNames v
  else if name = "ordered" then flagged v
  else v

/-- The record of a workflow that says what the arguments say. -/
def workflowRecord (fs : Fields) : Fields :=
  fs.map (fun f => (f.1, workflowValue f.1 f.2)) ++
    if (Json.get? fs "type").isNone then [("type", .text "text")] else []

section Record

variable {fs : Fields} {name : String}

theorem get?_workflowRecord (h : name ≠ "type") :
    Json.get? (workflowRecord fs) name = (Json.get? fs name).map (workflowValue name) := by
  have hkind : Json.get? (if (Json.get? fs "type").isNone then [("type", .text "text")] else [])
      name = none := by
    split
    · rw [Json.get?_cons, if_neg h]
      rfl
    · rfl
  rw [workflowRecord, Json.get?_append, Json.get?_map, hkind, Option.or_none]

theorem get?_workflowRecord_kind : Json.get? (workflowRecord fs) "type" =
    some ((Json.get? fs "type").getD (.text "text")) := by
  rw [workflowRecord, Json.get?_append, Json.get?_map]
  cases Json.get? fs "type" <;> rfl

theorem workflowValue_of_plain (h : name ∉ ["buttons", "items", "ordered"]) (v : Json) :
    workflowValue name v = v := by
  simp only [List.mem_cons, List.not_mem_nil, or_false, not_or] at h
  rw [workflowValue, if_neg h.1, if_neg h.2.1, if_neg h.2.2]

end Record

/-! ## Fields -/

section Values

variable {v w : Option Json}

/-- What is read as it is says what was given. -/
theorem given_of_takes {check : Json → Reading Json} (hcheck : ∀ v x, check v = .fits x → x = v)
    (h : Takes false check none v w) : w.filter isGiven = v.filter isGiven := by
  cases (h : Optional check none v w) with
  | absent => rfl
  | null => rfl
  | given _ hx => rw [hcheck _ _ hx]

theorem eq_of_read_text {absent : Option String} (v x : Json)
    (h : (Shape.text absent).read v = .fits x) : x = v := by
  obtain ⟨s, hs, rfl⟩ := map_eq_fits_iff.1 h
  rw [asText_eq_fits_iff.1 hs]

theorem eq_of_read_texts (v x : Json) (h : Shape.texts.read v = .fits x) : x = v := by
  obtain ⟨ss, hss, rfl⟩ := map_eq_fits_iff.1 h
  obtain ⟨vs, rfl, hall⟩ := asItems_eq_fits_iff.1 hss
  clear h hss
  congr 1
  induction hall with
  | nil => rfl
  | cons hv _ ih => rw [List.map_cons, ih, asText_eq_fits_iff.1 hv]

theorem given_of_takes_field {needed : Bool} {s : Option String}
    (h : Takes needed asText none v s) : (s.map Json.text).filter isGiven = v.filter isGiven := by
  unfold Takes at h
  split at h
  · obtain ⟨x, t, rfl, ht, rfl⟩ := h
    rw [asText_eq_fits_iff.1 ht]
    rfl
  · cases h with
    | absent => rfl
    | null => rfl
    | given _ ht =>
      rw [asText_eq_fits_iff.1 ht]
      rfl

/-- The kind is that of a text if none is named; a null is passed over. -/
theorem given_of_takes_kind
    (h : Takes false (Shape.text (some "text")).read (some (.text "text")) v w) :
    w.filter isGiven = (some (v.getD (.text "text"))).filter isGiven := by
  cases (h : Optional _ _ v w) with
  | absent => rfl
  | null => rfl
  | given _ hx =>
    rw [eq_of_read_text _ _ hx]
    rfl

theorem given_of_takes_flag (h : Takes false Shape.flag.read none v w) :
    w.filter isGiven = (v.map flagged).filter isGiven := by
  cases (h : Optional _ _ v w) with
  | absent => rfl
  | null => rfl
  | given _ hx =>
    obtain ⟨b, hb, rfl⟩ := map_eq_fits_iff.1 hx
    simp only [Option.map_some, flagged, hb]

end Values

section Fields

variable {fs gs : Fields}

/-- Every parameter is optional.  Besides four of them, they are texts or arrays of texts. -/
theorem parameter_cases : ∀ p ∈ richContentForm.parameters, p.needed = false ∧
    (p.name ∉ ["type", "buttons", "items", "ordered"] →
      p.shape = .text none ∨ p.shape = .texts) := by
  simp [richContentForm, optionalText]

/-- Only the kind has a value of its own for when it is absent. -/
theorem absent_of_parameter : ∀ p ∈ richContentForm.parameters, p.name ≠ "type" →
    p.shape.absent = none := by
  simp [richContentForm, optionalText, Shape.absent]

theorem nodup_parameters : (richContentForm.parameters.map (·.name)).Nodup := by decide

variable (hread : richContentForm.read (.object fs) = .fits gs)

include hread in
theorem takes_of_read {name : String} {shape : Shape}
    (h : ∃ p ∈ richContentForm.parameters, p.name = name ∧ p.shape = shape) :
    Takes false shape.read shape.absent (Json.get? fs name) (Json.get? gs name) := by
  obtain ⟨p, hp, rfl, rfl⟩ := h
  have htakes := get?_of_read hread nodup_parameters hp
  rwa [(parameter_cases p hp).1] at htakes

include hread in
theorem given_kind : (Json.get? gs "type").filter isGiven =
    (Json.get? (workflowRecord fs) "type").filter isGiven := by
  rw [get?_workflowRecord_kind]
  exact given_of_takes_kind (takes_of_read hread ⟨_, List.mem_cons_self, rfl, rfl⟩)

include hread in
theorem given_flag : (Json.get? gs "ordered").filter isGiven =
    (Json.get? (workflowRecord fs) "ordered").filter isGiven := by
  have hflag : ∃ p ∈ richContentForm.parameters, p.name = "ordered" ∧ p.shape = .flag := by
    simp [richContentForm, optionalText]
  rw [get?_workflowRecord (by decide)]
  exact given_of_takes_flag (takes_of_read hread hflag)

include hread in
/-- **Apart from the repeated parts, the form holds what the record of the workflow does.** -/
theorem given_of_read (hfs : (fs.map Prod.fst).Nodup) {name : String}
    (hname : name ≠ "buttons" ∧ name ≠ "items") :
    (Json.get? gs name).filter isGiven = (Json.get? (workflowRecord fs) name).filter isGiven := by
  by_cases hkind : name = "type"
  · subst hkind
    exact given_kind hread
  by_cases hflag : name = "ordered"
  · subst hflag
    exact given_flag hread
  have hplain : name ∉ ["buttons", "items", "ordered"] := by simp [hname, hflag]
  have hvalue : workflowValue name = id := funext (workflowValue_of_plain hplain)
  rw [get?_workflowRecord hkind, hvalue, Option.map_id_apply]
  by_cases hmem : name ∈ richContentForm.parameters.map (·.name)
  · obtain ⟨p, hp, rfl⟩ := List.mem_map.1 hmem
    rcases (parameter_cases p hp).2 (by simp [hname, hflag, hkind]) with hshape | hshape
    · exact given_of_takes eq_of_read_text (takes_of_read hread ⟨p, hp, rfl, hshape⟩)
    · exact given_of_takes eq_of_read_texts (takes_of_read hread ⟨p, hp, rfl, hshape⟩)
  · rw [get?_other_of_read hread rfl hfs hmem]
    cases Json.get? fs name with
    | none => rfl
    | some v => cases v <;> rfl

end Fields

/-! ## Repeated parts -/

/-- The array that a value is, or that it holds under a name. -/
def arrayIn (key : String) : Option Json → Option (List Json)
  | some (.array xs) => some xs
  | some (.object inner) => match Json.get? inner key with
    | some (.array xs) => some xs
    | _ => none
  | _ => none

theorem arrayAt_eq (key name : String) (fs : Fields) :
    arrayAt key name fs = arrayIn key (Json.get? fs name) := by
  unfold arrayAt arrayIn
  cases Json.get? fs name with
  | none => rfl
  | some v => cases v <;> rfl

theorem arrayIn_filter (key : String) (v : Option Json) :
    arrayIn key (v.filter isGiven) = arrayIn key v := by
  cases v with
  | none => rfl
  | some v =>
    cases v with
    | text s => rw [Option.filter_some]; split <;> rfl
    | _ => rfl

section Parts

variable {lists : List (List String)} {p : Part} {v w : Json}

/-- A part that was read says what the object restricted to its fields does. -/
theorem entryAlike_of_read (hnames : (p.fields.map (·.name)).Nodup) (h : p.read v = .fits w) :
    EntryAlike lists w (restricted (p.fields.map (·.name)) v) := by
  obtain ⟨es, rfl⟩ := Part.isObject_of_read h
  obtain ⟨vs, hvs, rfl⟩ := Part.read_eq_fits_iff.1 h
  have hname : ∀ (f : TextField) key w, f.read es = .fits (key, w) → key = f.name :=
    fun f key w hr => (TextField.read_eq_fits_iff.1 hr).1
  refine .object fun names _ => pick_congr fun n _ => ?_
  rw [Json.get?_filter_name]
  by_cases hn : n ∈ p.fields.map (·.name)
  · obtain ⟨f, hf, rfl⟩ := List.mem_map.1 hn
    have hread := get?_of_reads hname hvs hnames hf
    obtain ⟨-, s, hs, htakes⟩ := TextField.read_eq_fits_iff.1 hread
    rw [if_pos (by simpa using hn), hs]
    exact given_of_takes_field htakes
  · rw [if_neg (by simpa using hn),
      get?_present_of_not_mem (by rwa [names_of_reads hname hvs])]

/-- The arrays are alike, entry by entry, or there is none. -/
def ArraysAlike (lists : List (List String)) : Option (List Json) → Option (List Json) → Prop :=
  Option.Rel (List.Forall₂ (EntryAlike lists))

theorem arraysAlike_of_eq {o o' : Option (List Json)} (h : o = o') : ArraysAlike lists o o' := by
  subst h
  cases o with
  | none => exact .none
  | some xs => exact .some (forall₂_entryAlike_of_eq rfl)

theorem arraysAlike_of_takes (hnames : (p.fields.map (·.name)).Nodup) {key : String}
    {v w : Option Json} (h : Takes false (Shape.parts p).read none v w) :
    ArraysAlike lists (arrayIn key w)
      (arrayIn key (v.map (restrictedEntries (p.fields.map (·.name))))) := by
  cases (h : Optional _ none v w) with
  | absent => exact .none
  | null => exact .none
  | given _ hx =>
    obtain ⟨ws, hws, rfl⟩ := map_eq_fits_iff.1 hx
    obtain ⟨vs, rfl, hall⟩ := asItems_eq_fits_iff.1 hws
    refine .some (List.forall₂_map_right_iff.2 ?_)
    exact hall.flip.imp fun w v hv => entryAlike_of_read hnames hv

theorem entries_alike {c : Collection} {fs fs' : Fields}
    (hname : ArraysAlike lists (arrayAt c.key c.name fs) (arrayAt c.key c.name fs'))
    (hother : ∀ n ∈ c.other, arrayAt c.key n fs = arrayAt c.key n fs') :
    List.Forall₂ (EntryAlike lists) (entries c fs) (entries c fs') := by
  have heq : (c.other.bind fun n => arrayAt c.key n fs) =
      c.other.bind fun n => arrayAt c.key n fs' := Option.bind_congr hother
  unfold entries
  rw [heq]
  generalize arrayAt c.key c.name fs = o at hname ⊢
  generalize arrayAt c.key c.name fs' = o' at hname ⊢
  cases hname with
  | none => exact forall₂_entryAlike_of_eq rfl
  | some hall => exact hall

end Parts

section Alike

variable {fs gs : Fields} (hread : richContentForm.read (.object fs) = .fits gs)
  (hfs : (fs.map Prod.fst).Nodup)

include hread hfs in
/-- What is no array of parts holds the same array. -/
theorem arrayAt_of_read {key name : String} (hname : name ≠ "buttons" ∧ name ≠ "items") :
    arrayAt key name gs = arrayAt key name (workflowRecord fs) := by
  rw [arrayAt_eq, arrayAt_eq, ← arrayIn_filter, given_of_read hread hfs hname, arrayIn_filter]

include hread in
/-- **The parts that the form holds are alike to those of the record**, restricted. -/
theorem parts_alike {lists : List (List String)} {key name : String} {part : Part}
    (hpart : ∃ p ∈ richContentForm.parameters, p.name = name ∧ p.shape = .parts part)
    (hnames : (part.fields.map (·.name)).Nodup) (hkind : name ≠ "type")
    (hvalue : workflowValue name = restrictedEntries (part.fields.map (·.name))) :
    ArraysAlike lists (arrayAt key name gs) (arrayAt key name (workflowRecord fs)) := by
  rw [arrayAt_eq, arrayAt_eq, get?_workflowRecord hkind, hvalue]
  exact arraysAlike_of_takes hnames (takes_of_read hread hpart)

/-- No field of a record has the name of a repeated part. -/
theorem not_mem_fields (k : Kind) : ∀ names ∈ Names.kind :: k.fields,
    ∀ n ∈ names, n ≠ "buttons" ∧ n ≠ "items" := by
  cases k <;> decide +kernel

include hread hfs in
/-- **What the form holds is alike to the record of the workflow**, whatever its kind. -/
theorem alike_of_read (k : Kind) : Alike k gs (workflowRecord fs) where
  fields := fun names hnames => pick_congr fun n hn =>
    given_of_read hread hfs (not_mem_fields k names (List.mem_cons_of_mem _ hnames) n hn)
  parts := fun c hc => by
    have hother : ∀ n ∈ c.other, n ≠ "buttons" ∧ n ≠ "items" := by
      cases k <;> cases hc <;> decide
    have hbuttons : ∃ p ∈ richContentForm.parameters,
        p.name = "buttons" ∧ p.shape = .parts buttonPart := by
      simp [richContentForm, optionalText]
    have hitems : ∃ p ∈ richContentForm.parameters,
        p.name = "items" ∧ p.shape = .parts itemPart := by
      simp [richContentForm, optionalText]
    refine entries_alike ?_ fun n hn => arrayAt_of_read hread hfs (hother n hn)
    cases k with
    | buttons | splash =>
      cases hc
      exact parts_alike hread hbuttons (by decide) (by decide) rfl
    | list | carousel =>
      cases hc
      exact parts_alike hread hitems (by decide) (by decide) rfl
    | quickReply =>
      cases hc
      -- replies are texts in the form, which it gives as they are
      exact arraysAlike_of_eq (arrayAt_of_read hread hfs (by decide))
    | _ => cases hc

include hread hfs in
/-- What the form holds is read as the record of the workflow is. -/
theorem content_of_read : content gs = content (workflowRecord fs) := by
  have hkind : kindName gs = kindName (workflowRecord fs) := by
    rw [kindName, kindName, textOf, textOf]
    congr 2
    exact pick_congr fun n hn =>
      given_of_read hread hfs (not_mem_fields .text _ List.mem_cons_self n hn)
  have hrecord : readRecord .lenient (.object gs) =
      readRecord .lenient (.object (workflowRecord fs)) :=
    readRecord_of_alike .lenient hkind fun k _ => alike_of_read hread hfs k
  have hall : Content.readAll .lenient [.object gs] =
      Content.readAll .lenient [.object (workflowRecord fs)] := by
    simp only [Content.readAll, hrecord]
  rw [content, content, exec_ofRecords, exec_ofRecords, hall]

end Alike

/-! ## What is posted -/

section Post

variable {fs fs' gs : Fields} {id : String} {c : Conditions} {client : Client} {h : History}

theorem argumentsOf_object (fs : Fields) : argumentsOf (.object fs) = .object fs := by
  cases fs <;> rfl

/-- At its end, a call leaves at most that it is counted. -/
theorem exists_closed (t : Tool) (h : History) (r : Except Failure (ToolStatus × String)) :
    ∃ last, (t.closed h r).2.trace = h.trace ++ last ∧ ∀ p : Entry → Bool,
      (∀ status, p (.count (.toolCalled t.name status)) = false) → last.filter p = [] := by
  rcases r with f | ⟨status, text⟩
  · exact ⟨[], (List.append_nil _).symm, fun _ _ => rfl⟩
  · exact ⟨_, rfl, fun p hp => List.filter_cons_of_neg (by rw [hp]; exact Bool.false_ne_true)⟩

theorem nodup_parts : ∀ part ∈ richContentForm.parts, (part.fields.map (·.name)).Nodup := by
  decide

/-- The null of any parameter but the kind may be left out. -/
theorem quieted_of_null {name : String} (hname : name ∈ richContentForm.parameters.map (·.name))
    (hkind : name ≠ "type") (hnull : Json.get? fs name = some .null) :
    Quieted richContentForm fs (Json.without name fs) := by
  obtain ⟨p, hp, rfl⟩ := List.mem_map.1 hname
  exact .parameter hp (parameter_cases p hp).1 (absent_of_parameter p hp hkind) hnull

/-- **A null that may be left out makes no difference to a call.** -/
theorem exec_call_of_quieted {session : Option String} (hs : IsSession session id)
    (hq : Relation.ReflTransGen (Quieted richContentForm) fs fs') :
    exec (richContent.call c client (Json.ofText? session) (.object fs')) h =
      exec (richContent.call c client (Json.ofText? session) (.object fs)) h := by
  have hread : richContentForm.read (.object fs) = richContentForm.read (.object fs') := by
    induction hq with
    | refl => rfl
    | tail _ hstep ih => exact ih.trans (Form.read_of_quieted nodup_parameters nodup_parts hstep)
  have hparcel : richContent.parcel c.limits id (.object fs') =
      richContent.parcel c.limits id (.object fs) := by
    unfold parcel
    rw [hread]
  rw [exec_call_parcel hs, exec_call_parcel hs, argumentsOf_object, argumentsOf_object, hparcel]

variable (c client h) in
/-- The attempts that are made for rich content, and the counts of what is left out of it. -/
theorem trace_of_parcel {session : Option String} {args : Json} {d : Content.Drops} {e : Envelope}
    (hs : IsSession session id) (hp : richContent.parcel c.limits id (argumentsOf args) =
      .ok (.ofEnvelope (Relay.dropCounts d) e)) : ∃ part,
    (exec (richContent.call c client (Json.ofText? session) args) h).2.trace = h.trace ++ part ∧
    (∃ n, part.filter Entry.isCall = (List.range (n + 1)).map fun k =>
      .call (attemptCall client messagePath (.object e.wire) k)) ∧
    part.filter Entry.isDropped = (Relay.dropCounts d).map .count := by
  rw [exec_call_parcel hs, hp, Parcel.outcomeOf, Parcel.outcome]
  obtain ⟨last, htrace, hlast⟩ := exists_closed richContent _ _
  refine ⟨_, htrace.trans (List.append_assoc _ _ _), ?_, ?_⟩
  · have hcounts : ∀ ks : List Count, (ks.map Entry.count).filter Entry.isCall = [] := by
      simp [Entry.isCall]
    rw [List.filter_append, List.filter_append, hcounts, hlast _ (fun _ => rfl),
      List.append_nil]
    exact ⟨_, calls_deliveryTrace _ h.sent⟩
  · have hdrops : ((Relay.dropCounts d).map Entry.count).filter Entry.isDropped =
        (Relay.dropCounts d).map Entry.count := by
      rw [List.filter_eq_self]
      intro entry hentry
      obtain ⟨k, hk, rfl⟩ := List.mem_map.1 hentry
      obtain ⟨reason, n, rfl⟩ := exists_of_mem_dropCounts hk
      rfl
    rw [List.filter_append, List.filter_append, hlast _ (fun _ => rfl),
      filter_deliveryTrace _ (fun _ => rfl) (fun _ => rfl) (fun _ => rfl) (fun _ => rfl),
      List.append_nil, List.append_nil, Parcel.ofEnvelope, List.map_append, List.filter_append,
      hdrops]
    exact List.append_nil _

/-- **Rich content is posted as a workflow would post it.**  Arguments of different names that the
    form takes are posted as the message that is built of the record of a workflow which says the
    same (`workflowRecord`), in every attempt and with the same counts of what is left out.  A
    null that may be left out makes no difference. -/
theorem posts_as_workflow (hfs : (fs.map Prod.fst).Nodup)
    (hread : richContentForm.read (.object fs) = .fits gs) (hid : id ≠ "") (c : Conditions)
    (client : Client) (h : History) :
    (∃ b d e part,
      exec (Content.Bundle.ofRecords .lenient [.object (workflowRecord fs)]) {} = (.ok b, d) ∧
      (∀ g, (exec (buildMessage (.text id) b (.raw .null) (.text Envelope.bot) c.limits) g).1 =
        .ok e) ∧
      (exec (execute c client (.text richContent.name) (.text id) (.object fs)) h).2.trace =
        h.trace ++ part ∧
      (∃ n, part.filter Entry.isCall = (List.range (n + 1)).map fun k =>
        .call (attemptCall client messagePath (.object e.wire) k)) ∧
      part.filter Entry.isDropped = (Relay.dropCounts d).map .count) ∧
    ∀ fs', Relation.ReflTransGen (Quieted richContentForm) fs fs' →
      exec (execute c client (.text richContent.name) (.text id) (.object fs')) h =
        exec (execute c client (.text richContent.name) (.text id) (.object fs)) h := by
  have hs : IsSession (some id) id := ⟨rfl, hid⟩
  simp only [exec_execute]
  refine ⟨?_, fun fs' hq => exec_call_of_quieted hs hq⟩
  obtain ⟨b, hb⟩ := exists_content gs
  have hp : richContent.parcel c.limits id (.object fs) = _ := parcel_richContent hread hb
  rw [← argumentsOf_object] at hp
  obtain ⟨part, htrace, hcalls, hdrops⟩ := trace_of_parcel c client h hs hp
  rw [content_of_read hread hfs] at hb hdrops
  exact ⟨b, _, _, part, Prod.ext hb rfl, fun g => rfl, htrace, hcalls, hdrops⟩

/-- A list as a model describes it: with a spelled flag, a field of a workflow, a stray field in its
    entry, and two nulls. -/
def modelList : Fields :=
  [("type", .text "list"), ("listTitle", .text "T"), ("ordered", .text "yes"), ("footer", .null),
    ("items", .array [.object [("text", .text "a"), ("note", .text "x"), ("link", .null)]])]

/-- The same list without the nulls. -/
def quietList : Fields :=
  [("type", .text "list"), ("listTitle", .text "T"), ("ordered", .text "yes"),
    ("items", .array [.object [("text", .text "a"), ("note", .text "x")]])]

/-- The list is posted as that of a workflow, twice since the connector is busy at first, with or
    without the nulls. -/
theorem list_posted_as_workflow : ∃ b e,
    exec (Content.Bundle.ofRecords .lenient [.object (workflowRecord modelList)]) {} =
      (.ok b, {}) ∧
    (exec (buildMessage (.text "a") b (.raw .null) (.text Envelope.bot)) {}).1 = .ok e ∧
    (exec (execute (.plain .busyOnce) .retryingOnce (.text richContent.name) (.text "a")
      (.object modelList)) {}).2.trace.filter Entry.isCall = (List.range 2).map (fun k =>
        .call (attemptCall .retryingOnce messagePath (.object e.wire) k)) ∧
    exec (execute (.plain .busyOnce) .retryingOnce (.text richContent.name) (.text "a")
        (.object quietList)) {} =
      exec (execute (.plain .busyOnce) .retryingOnce (.text richContent.name) (.text "a")
        (.object modelList)) {} := by
  obtain ⟨gs, hread⟩ : ∃ gs, richContentForm.read (.object modelList) = .fits gs := ⟨_, rfl⟩
  obtain ⟨⟨b, d, e, part, hb, he, htrace, ⟨n, hcalls⟩, -⟩, hquiet⟩ := posts_as_workflow
    (by decide) hread (show "a" ≠ "" by decide) (.plain .busyOnce) .retryingOnce {}
  have hlength : ((exec (execute (.plain .busyOnce) .retryingOnce (.text richContent.name)
      (.text "a") (.object modelList)) {}).2.trace.filter Entry.isCall).length = 2 := by
    decide +kernel
  have hdrops : (exec (Content.Bundle.ofRecords .lenient
      [.object (workflowRecord modelList)]) {}).2 = {} := by decide +kernel
  rw [hb] at hdrops
  obtain rfl : d = {} := hdrops
  rw [htrace, List.nil_append, hcalls, List.length_map, List.length_range] at hlength
  obtain rfl : n = 1 := Nat.succ.inj hlength
  refine ⟨b, e, hb, he {}, by rw [htrace, List.nil_append, hcalls], hquiet quietList ?_⟩
  have hfooter : Quieted richContentForm modelList (Json.without "footer" modelList) :=
    quieted_of_null (by decide) (by decide) rfl
  have hlink : Quieted richContentForm (Json.without "footer" modelList) quietList :=
    @Quieted.field richContentForm _ [("text", .text "a"), ("note", .text "x"), ("link", .null)]
      _ _ _ [] [] (List.mem_of_getElem? (i := 13) rfl) rfl rfl (List.mem_of_getElem? (i := 2) rfl)
      rfl rfl
  exact .tail (.single hfooter) hlink

end Post

end Tool

end ChatRelay

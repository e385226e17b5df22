/-
  What the body of a message holds.

  The body repeats the content of the message: its items in their order, a plain text for
  front ends that show nothing else, and the parts of its splash at the top.  `IsBodyOf`
  lists what it holds, from the records of the message on.

  * `isFirstFilled_plainTextOf`: the plain text is the first of three that is not empty;
  * `head?_of_null`: nothing in a body is null, but what is given with it as flags;
  * `message_body`: every message that is built has such a body, and one is built just if
    its flags can be written.
-/
import ChatRelay.Proofs.Content.Conformance
import ChatRelay.Proofs.Content.Selection
import ChatRelay.Proofs.Envelope.Building
import ChatRelay.Proofs.Lookup

namespace ChatRelay

open Content

/-! ## The body of a message -/

/-- The text is the first one that is not empty. -/
def IsFirstFilled (texts : List String) (s : String) : Prop :=
  ∃ before after, texts = before ++ s :: after ∧ (∀ t ∈ before, t = "") ∧ s ≠ ""

/-- The body is the one of a message that shows the records, with the flags, to the session. -/
structure IsBodyOf (policy : Policy) (records : List Json) (b : Bundle) (m : Meta)
    (session : String) (participant : Option String) (body : Fields) : Prop where
  distinct : (body.map Prod.fst).Nodup
  session : Json.get? body "sessionId" = some (.text session)
  participant : Json.get? body "participant" = participant.map .text
  /-- what the items show comes first, then what the splash shows -/
  plainText : ∃ shown s, ShowsText b.items shown ∧
    IsFirstFilled (shown :: (b.splash.map (·.text)).toList ++ ["Rich Content"]) s ∧
    Json.get? body "plainText" = some (.text s)
  content : Json.get? body "richContent" = some (.array (b.items.map Item.wire))
  kind : Json.get? body "type" = some (.text (if b.splash.isSome then "splash" else "text"))
  title : Json.get? body "title" = b.splash.map fun s => .text s.title
  text : Json.get? body "text" = b.splash.map fun s => .text s.text
  buttons : Json.get? body "buttons" =
    b.splash.map fun s => .array (s.buttons.map Button.wire)
  /-- without a splash record, the buttons at the top are those of an item -/
  promoted : (∀ r ∈ records, ∀ s, ¬ Gives policy r (some (.splash s))) →
    ∀ v, Json.get? body "buttons" = some v →
      ∃ i ∈ b.items, ∃ fs, i.wire = .object fs ∧ Json.get? fs "buttons" = some v
  flags : Json.get? body "meta" = if m.wire = [] then none else some (.object m.wire)
  /-- a null stands in the flags only -/
  filled : ∀ path, LeafAt path .null (.object body) → path.head? = some "meta"

/-- The parts of the body of content, those that may be missing among them. -/
def bodyParts (session : String) (b : Bundle) (m : Meta) (participant : Option String) :
    List (String × Option Json) := [
  ("sessionId", some (.text session)),
  ("type", some (.text (if b.splash.isSome then "splash" else "text"))),
  ("plainText", some (.text (Envelope.plainTextOf b))),
  ("text", b.splash.map fun s => .text s.text),
  ("richContent", some (.array (b.items.map Item.wire))),
  ("meta", if m.wire = [] then none else some (.object m.wire)),
  ("participant", participant.map .text),
  ("title", b.splash.map fun s => .text s.title),
  ("buttons", b.splash.map fun s => .array (s.buttons.map Button.wire))]

section Parts

variable (session : String) (b : Bundle) (m : Meta) (participant : Option String)

theorem wire_ofBundle : (Envelope.ofBundle session b m.wire? participant).wire =
    present (bodyParts session b m participant) := by
  have hflags : m.wire?.map Json.object =
      if m.wire = [] then none else some (.object m.wire) := by
    unfold Meta.wire?
    cases m.wire <;> rfl
  have hcontent : (b.items.map RichContent.item).map RichContent.wire = b.items.map Item.wire :=
    List.map_map
  rw [Envelope.wire, bodyParts, ← hflags, ← hcontent]
  cases hsplash : b.splash <;> simp only [Envelope.ofBundle, hsplash] <;> rfl

theorem distinct_bodyParts : ((bodyParts session b m participant).map Prod.fst).Nodup := by
  change ["sessionId", "type", "plainText", "text", "richContent", "meta", "participant", "title",
    "buttons"].Nodup
  decide

end Parts

/-! ## Plain text -/

theorem isFirstFilled_cons {s : String} (h : s ≠ "") (texts : List String) :
    IsFirstFilled (s :: texts) s :=
  ⟨[], texts, rfl, by simp, h⟩

theorem IsFirstFilled.cons {texts : List String} {s : String} (h : IsFirstFilled texts s) :
    IsFirstFilled ("" :: texts) s := by
  obtain ⟨before, after, rfl, hbefore, hs⟩ := h
  exact ⟨"" :: before, after, rfl, by simpa using hbefore, hs⟩

/-- **The plain text is that of the items, or else of the splash, or else the placeholder.** -/
theorem isFirstFilled_plainTextOf (b : Bundle) : IsFirstFilled
    ((firstPlainText b.items).getD "" :: (b.splash.map (·.text)).toList ++ ["Rich Content"])
    (Envelope.plainTextOf b) := by
  have hholder : IsFirstFilled ["Rich Content"] Envelope.placeholder :=
    isFirstFilled_cons (by decide) []
  unfold Envelope.plainTextOf Bundle.plainText?
  cases hshown : firstPlainText b.items with
  | some s =>
    obtain ⟨i, -, hi⟩ := List.exists_of_findSome?_eq_some hshown
    obtain ⟨-, -, hs⟩ := plainText?_eq_some_iff.1 hi
    exact isFirstFilled_cons hs _
  | none =>
    cases b.splash with
    | none => exact hholder.cons
    | some splash =>
      by_cases hs : splash.text = ""
      · simp only [Option.getD_none, Option.map_some, Option.toList_some, hs]
        exact hholder.cons.cons
      · simp only [Option.getD_none, Option.map_some, Option.toList_some]
        rw [if_neg (by simpa using hs)]
        exact (isFirstFilled_cons hs _).cons

/-! ## Nulls -/

/-- Nothing in the value is null. -/
def NullFree (v : Json) : Prop := ∀ path, ¬ LeafAt path .null v

theorem nullFree_text (s : String) : NullFree (.text s) := nofun

theorem nullFree_array_map {α : Type} {f : α → Json} {xs : List α} (h : ∀ x ∈ xs, NullFree (f x)) :
    NullFree (.array (xs.map f)) := by
  intro path hpath
  cases hpath with
  | item hmem hleaf =>
    obtain ⟨x, hx, rfl⟩ := List.mem_map.1 hmem
    exact h x hx path hleaf

theorem nullFree_button (b : Button) : NullFree b.wire := by
  intro path hpath
  obtain ⟨s, hs⟩ := holdsTexts_isButton _ (isButton_wire b) path _ hpath
  cases hs

theorem nullFree_item {i : Item} (h : i.IsFilled) : NullFree i.wire := by
  intro path hpath
  rcases leaf_of_grammar (grammar_wire h) hpath with ⟨s, hs⟩ | ⟨-, b, hb⟩
  · cases hs
  · cases hb

section Body

variable {session : String} {b : Bundle} {m : Meta} {participant : Option String}

/-- Of the parts of a body, only the flags may hold a null. -/
theorem nullFree_bodyParts (hb : ∀ i ∈ b.items, i.IsFilled) :
    ∀ f ∈ bodyParts session b m participant, f.1 ≠ "meta" → ∀ v ∈ f.2, NullFree v := by
  have hitems : NullFree (.array (b.items.map Item.wire)) :=
    nullFree_array_map fun i hi => nullFree_item (hb i hi)
  have hbuttons : ∀ bs : List Button, NullFree (.array (bs.map Button.wire)) := fun bs =>
    nullFree_array_map fun b _ => nullFree_button b
  simp [bodyParts, nullFree_text, hitems, hbuttons]

/-- **A null in the body stands in the flags.** -/
theorem head?_of_null (hb : ∀ i ∈ b.items, i.IsFilled) {path : List String}
    (h : LeafAt path .null (.object (present (bodyParts session b m participant)))) :
    path.head? = some "meta" := by
  cases h with
  | @field rest _ name v _ hmem hleaf =>
    by_cases hname : name = "meta"
    · subst hname
      rfl
    · exact absurd hleaf (nullFree_bodyParts hb _ (mem_present.1 hmem) hname v rfl rest)

end Body

/-! ## Content that is read -/

section Read

variable {policy : Policy} {records : List Json} {b : Bundle} {d d' : Drops}

/-- The items of a message that is read have entries where their kinds ask for them. -/
theorem filled_of_ofRecords (h : exec (Bundle.ofRecords policy records) d = (.ok b, d')) :
    ∀ i ∈ b.items, i.IsFilled := by
  intro i hi
  obtain ⟨⟨os, hos, hitems, -⟩, -, -⟩ := splash_selected h
  rw [hitems] at hi
  obtain ⟨x, hx, hxi⟩ := List.mem_filterMap.1 hi
  cases x with
  | splash s => cases hxi
  | item j =>
    cases hxi
    obtain ⟨r, -, hr⟩ := exists_of_forall₂_right hos _ (List.reduceOption_mem_iff.1 hx)
    obtain ⟨fs, k, -, -, hread⟩ := item_of_readRecord (gives_iff.1 hr)
    exact (item_of_readAs hread).2

/-- The buttons of a splash that no record gives are those of an item. -/
theorem exists_item_of_promoted (h : exec (Bundle.ofRecords policy records) d = (.ok b, d'))
    (hnone : ∀ r ∈ records, ∀ s, ¬ Gives policy r (some (.splash s))) {s : Splash}
    (hs : b.splash = some s) : .buttons s.buttons ∈ b.items := by
  obtain ⟨⟨os, hos, hitems, hselected⟩, -, -⟩ := splash_selected h
  rw [hs] at hselected
  rw [hitems]
  cases hselected with
  | @given before after _ hsplit =>
    -- a splash among the results was given by a record
    have hmem : .splash s ∈ os.reduceOption := by simp [hsplit]
    obtain ⟨r, hr, hgives⟩ := exists_of_forall₂_right hos _ (List.reduceOption_mem_iff.1 hmem)
    exact absurd hgives (hnone r hr s)
  | promoted _ hsplit =>
    rw [hsplit]
    simp

/-- **The body of content that was read.** -/
theorem isBodyOf_present (h : exec (Bundle.ofRecords policy records) d = (.ok b, d')) (m : Meta)
    (session : String) (participant : Option String) :
    IsBodyOf policy records b m session participant
      (present (bodyParts session b m participant)) := by
  have hdistinct := distinct_bodyParts session b m participant
  have hget : ∀ {name v}, (name, v) ∈ bodyParts session b m participant →
      Json.get? (present (bodyParts session b m participant)) name = v :=
    get?_present_of_mem hdistinct
  have hbuttons : Json.get? (present (bodyParts session b m participant)) "buttons" =
      b.splash.map fun s => .array (s.buttons.map Button.wire) := hget (by simp [bodyParts])
  exact {
    distinct := (keys_present_sublist _).nodup hdistinct
    session := hget (by simp [bodyParts])
    participant := hget (by simp [bodyParts])
    plainText := ⟨_, _, showsText_firstPlainText b.items, isFirstFilled_plainTextOf b,
      hget (by simp [bodyParts])⟩
    content := hget (by simp [bodyParts])
    kind := hget (by simp [bodyParts])
    title := hget (by simp [bodyParts])
    text := hget (by simp [bodyParts])
    buttons := hbuttons
    promoted := by
      intro hnone v hv
      rw [hbuttons] at hv
      obtain ⟨s, hs, rfl⟩ := Option.map_eq_some_iff.1 hv
      exact ⟨_, exists_item_of_promoted h hnone hs, _, rfl, rfl⟩
    flags := hget (by simp [bodyParts])
    filled := fun _ => head?_of_null (filled_of_ofRecords h) }

end Read

/-- **The body of a message.**  Content that was read is built into a message for any session if
    the flags that go along can be written, and its body repeats the content; otherwise it is
    refused. -/
theorem message_body {policy : Policy} {records : List Json} {b : Bundle} {d d' : Drops}
    {flags : MetaInput} {m : Meta}
    (hread : exec (Bundle.ofRecords policy records) d = (.ok b, d'))
    (hflags : flags.flags = .fits m) (session : String) (participant : Option String)
    (limits : Limits) (h : History) :
    (m.isWritable limits = true → ∃ e h',
      exec (buildMessage (.text session) b flags (.ofText? participant) limits) h = (.ok e, h') ∧
      IsBodyOf policy records b m session participant e.wire) ∧
    (m.isWritable limits = false → ∃ h',
      exec (buildMessage (.text session) b flags (.ofText? participant) limits) h =
        (.error .tooManyLevels, h')) := by
  have hexec := adds_buildMessage (.text session) b flags (.ofText? participant) limits h
  constructor
  · intro hm
    rw [messageEnvelope_ok hflags hm] at hexec
    refine ⟨_, _, hexec, ?_⟩
    rw [wire_ofBundle]
    exact isBodyOf_present hread m session participant
  · intro hm
    rw [messageEnvelope_overloaded hflags hm] at hexec
    exact ⟨_, hexec⟩

/-- A block whose only button asks for a splash, and a flag that is set. -/
theorem body_of_splash_block : ∃ e h',
    exec (buildMessage (.text "s1")
      ⟨[.buttons [{ text := "Go", style := some .splash }]],
        some ⟨"", "", [{ text := "Go", style := some .splash }]⟩⟩
      (.raw (.object [("lock_input", .bool true)])) (.ofText? none)) {} = (.ok e, h') ∧
    IsBodyOf .lenient
      [.null, .object [("type", .text "buttons"), ("buttons", .array [
        .object [("text", .text "Go"), ("style", .text "splash")]])]]
      ⟨[.buttons [{ text := "Go", style := some .splash }]],
        some ⟨"", "", [{ text := "Go", style := some .splash }]⟩⟩
      { flags := [("lockInput", true)] } "s1" none e.wire :=
  (message_body (show exec (Bundle.ofRecords .lenient _) {} = (_, { malformed := 1 }) by decide)
    rfl "s1" none {} {}).1 rfl

end ChatRelay

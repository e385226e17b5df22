/-
  The grammar of content on the wire.

  What a front end receives is built from texts, flags, arrays and objects with
  known parts; an object has no part twice and none that its shape does not
  name.

  * `IsText`, `IsWord`, `IsArrayOf`, `IsObjectOf` and the shapes after them are
    the grammar, `Kind.Grammar` the one of a kind of item;
  * `grammar_wire`: an item with entries where its kind asks for them is written
    in the grammar of its kind;
  * `leaf_of_grammar`: in that grammar every leaf is a text, but for the flag of
    a list, so that nothing is null.
-/
import ChatRelay.Content.Wire
import ChatRelay.Proofs.Sequence
import Mathlib.Data.List.Nodup

namespace ChatRelay.Content

/-! ## Shapes -/

/-- A text. -/
def IsText (v : Json) : Prop := ∃ s, v = .text s

/-- A text with a character in it. -/
def IsPhrase (v : Json) : Prop := ∃ s, s ≠ "" ∧ v = .text s

/-- One of the words. -/
def IsWord (words : List String) (v : Json) : Prop := ∃ s ∈ words, v = .text s

/-- A flag. -/
def IsFlag (v : Json) : Prop := ∃ b, v = .bool b

/-- An array of values of a shape. -/
def IsArrayOf (shape : Json → Prop) (v : Json) : Prop := ∃ xs, v = .array xs ∧ ∀ x ∈ xs, shape x

/-- An array of values of a shape, at least one. -/
def IsFilledArrayOf (shape : Json → Prop) (v : Json) : Prop :=
  ∃ xs, v = .array xs ∧ xs ≠ [] ∧ ∀ x ∈ xs, shape x

/-- A part of an object. -/
structure Part where
  name : String
  required : Bool
  shape : Json → Prop

/-- A part that is always there. -/
def must (name : String) (shape : Json → Prop) : Part := ⟨name, true, shape⟩

/-- A part that may be missing. -/
def may (name : String) (shape : Json → Prop) : Part := ⟨name, false, shape⟩

/-- An object with the given parts, none of them twice and no others. -/
def IsObjectOf (parts : List Part) (v : Json) : Prop :=
  ∃ fs, v = .object fs ∧ (fs.map Prod.fst).Nodup ∧
    (∀ p ∈ parts, p.required = true → ∃ x, (p.name, x) ∈ fs) ∧
    ∀ f ∈ fs, ∃ p ∈ parts, p.name = f.1 ∧ p.shape f.2

/-! ## The grammar of items -/

/-- A button on the wire. -/
def IsButton : Json → Prop := IsObjectOf [
  must "text" IsText, may "bot_action" IsText, may "link" IsText, may "icon" IsText,
  may "type" (IsWord ["primary", "secondary", "danger", "splash"]), may "title" IsText]

/-- A picture on the wire. -/
def IsImage : Json → Prop := IsObjectOf [may "src" IsText, may "alt" IsText, may "link" IsText]

/-- A card on the wire. -/
def IsCard : Json → Prop := IsObjectOf [
  must "type" (IsWord ["card"]), may "title" IsText, may "subtitle" IsText, may "text" IsText,
  may "image" IsImage, may "button" IsButton]

/-- An entry of a list on the wire. -/
def IsEntry : Json → Prop :=
  IsObjectOf [may "text" IsText, may "bot_action" IsText, may "link" IsText]

/-- A list on the wire; its flag is always there. -/
def IsListing : Json → Prop := IsObjectOf [
  may "title" IsText, may "text" IsText, must "ordered" IsFlag, may "footer" IsText,
  must "items" (IsArrayOf IsEntry)]

/-- A link below a map on the wire. -/
def IsMapLink : Json → Prop := IsObjectOf [must "url" IsText, may "text" IsText]

/-- The modes of a map. -/
def mapModes : List String := ["place", "view", "directions", "streetview", "search"]

/-- The grammar of the items of a kind.  A splash is no item. -/
def Kind.Grammar : Kind → Json → Prop
  | .text => IsObjectOf [
      must "type" (IsWord ["text"]), must "text" IsText, must "plainText" IsText]
  | .image => IsObjectOf [must "type" (IsWord ["image"]), must "image" IsImage]
  | .card => IsCard
  | .buttons => IsObjectOf [
      must "type" (IsWord ["buttons"]), must "buttons" (IsFilledArrayOf IsButton)]
  | .quickReply => IsObjectOf [
      must "type" (IsWord ["quickReply"]), must "replies" (IsFilledArrayOf IsPhrase),
      must "format" (IsWord ["default", "cloud"])]
  | .list => IsObjectOf [must "type" (IsWord ["list"]), must "list" IsListing]
  | .carousel => IsObjectOf [
      must "type" (IsWord ["carousel"]), must "items" (IsFilledArrayOf IsCard)]
  | .file => IsObjectOf [
      must "type" (IsWord ["file"]), may "name" IsText, may "size" IsText, may "url" IsText]
  | .map => IsObjectOf [
      must "type" (IsWord ["map"]), may "mapMode" (IsWord mapModes), may "parameters" IsText,
      may "title" IsText, may "text" IsText, may "link" IsMapLink]
  | .information => IsObjectOf [must "type" (IsWord ["information"]), must "text" IsText]
  | .splash => fun _ => False

/-! ## Writing in the grammar -/

/-- The field fits the part: it has its name, is there if it has to be, and its
    value is of the shape. -/
def Fills (f : String × Option Json) (p : Part) : Prop :=
  f.1 = p.name ∧ (p.required = true → f.2.isSome) ∧ ∀ x ∈ f.2, p.shape x

theorem fills_must {name : String} {shape : Json → Prop} {v : Json} (h : shape v) :
    Fills (name, some v) (must name shape) :=
  ⟨rfl, fun _ => rfl, fun _ hx => Option.some.inj hx ▸ h⟩

theorem fills_may {name : String} {shape : Json → Prop} {v : Option Json}
    (h : ∀ x ∈ v, shape x) : Fills (name, v) (may name shape) :=
  ⟨rfl, fun hr => absurd hr (by simp [may]), h⟩

theorem isText_text (s : String) : IsText (.text s) := ⟨s, rfl⟩

theorem isText_of_mem_wireText {s : Option String} : ∀ x ∈ wireText s, IsText x := by
  intro x hx
  obtain ⟨t, -, rfl⟩ := Option.map_eq_some_iff.1 hx
  exact isText_text t

theorem keys_present_sublist (fields : List (String × Option Json)) :
    ((present fields).map Prod.fst).Sublist (fields.map Prod.fst) := by
  induction fields with
  | nil => exact .slnil
  | cons f rest ih =>
    obtain ⟨name, v⟩ := f
    cases v with
    | none => exact ih.cons name
    | some v => exact ih.cons_cons name

theorem mem_present {fields : List (String × Option Json)} {name : String} {v : Json} :
    (name, v) ∈ present fields ↔ (name, some v) ∈ fields := by
  simp only [present, List.mem_filterMap, Option.map_eq_some_iff]
  constructor
  · rintro ⟨⟨n, w⟩, hf, x, rfl, he⟩
    cases he; exact hf
  · intro h
    exact ⟨_, h, v, rfl, rfl⟩

/-- **The fields that there are make an object of the parts they fill.** -/
theorem isObjectOf_present {fields : List (String × Option Json)} {parts : List Part}
    (hf : List.Forall₂ Fills fields parts) (hn : (parts.map Part.name).Nodup) :
    IsObjectOf parts (.object (present fields)) := by
  have hnames : fields.map Prod.fst = parts.map Part.name := by
    induction hf with
    | nil => rfl
    | cons h _ ih => simp only [List.map_cons] at hn ⊢; rw [h.1, ih hn.of_cons]
  refine ⟨_, rfl, (keys_present_sublist fields).nodup (hnames ▸ hn), ?_, ?_⟩
  · intro p hp hr
    obtain ⟨⟨name, v⟩, hmem, hname, hsome, -⟩ := exists_of_forall₂_right hf p hp
    obtain ⟨x, hx⟩ := Option.isSome_iff_exists.1 (hsome hr)
    simp only at hname hx
    exact ⟨x, mem_present.2 (by rw [← hname, ← hx]; exact hmem)⟩
  · rintro ⟨name, v⟩ hmem
    obtain ⟨p, hp, hname, -, hshape⟩ := exists_of_forall₂_left hf _ (mem_present.1 hmem)
    exact ⟨p, hp, hname.symm, hshape v rfl⟩

theorem isButton_wire (b : Button) : IsButton b.wire := by
  refine isObjectOf_present (.cons (fills_must (isText_text _)) (.cons (fills_may ?_)
    (.cons (fills_may ?_) (.cons (fills_may ?_) (.cons (fills_may ?_)
    (.cons (fills_may ?_) .nil)))))) (by decide)
  · exact isText_of_mem_wireText
  · exact isText_of_mem_wireText
  · exact isText_of_mem_wireText
  · intro x hx
    obtain ⟨s, hs, rfl⟩ := Option.map_eq_some_iff.1 hx
    obtain ⟨style, -, rfl⟩ := Option.map_eq_some_iff.1 hs
    exact ⟨style.name, by cases style <;> decide, rfl⟩
  · exact isText_of_mem_wireText

theorem isImage_wire (i : Image) : IsImage i.wire :=
  isObjectOf_present (.cons (fills_may isText_of_mem_wireText)
    (.cons (fills_may isText_of_mem_wireText)
    (.cons (fills_may isText_of_mem_wireText) .nil))) (by decide)

theorem isCard_wire (c : Card) : IsCard c.wire := by
  refine isObjectOf_present (.cons (fills_must ⟨_, by decide, rfl⟩) (.cons (fills_may ?_)
    (.cons (fills_may ?_) (.cons (fills_may ?_) (.cons (fills_may ?_)
    (.cons (fills_may ?_) .nil)))))) (by decide)
  · exact isText_of_mem_wireText
  · exact isText_of_mem_wireText
  · exact isText_of_mem_wireText
  · intro x hx
    obtain ⟨i, -, rfl⟩ := Option.map_eq_some_iff.1 hx
    exact isImage_wire i
  · intro x hx
    obtain ⟨b, -, rfl⟩ := Option.map_eq_some_iff.1 hx
    exact isButton_wire b

theorem isEntry_wire (e : Entry) : IsEntry e.wire :=
  isObjectOf_present (.cons (fills_may isText_of_mem_wireText)
    (.cons (fills_may isText_of_mem_wireText)
    (.cons (fills_may isText_of_mem_wireText) .nil))) (by decide)

theorem isListing_wire (l : Listing) : IsListing l.wire := by
  refine isObjectOf_present (.cons (fills_may isText_of_mem_wireText)
    (.cons (fills_may isText_of_mem_wireText) (.cons (fills_must ⟨_, rfl⟩)
    (.cons (fills_may isText_of_mem_wireText) (.cons (fills_must ⟨_, rfl, ?_⟩) .nil))))) (by decide)
  intro x hx
  obtain ⟨e, -, rfl⟩ := List.mem_map.1 hx
  exact isEntry_wire e

theorem isMapLink_wire (l : MapLink) : IsMapLink l.wire :=
  isObjectOf_present (.cons (fills_must (isText_text _))
    (.cons (fills_may isText_of_mem_wireText) .nil)) (by decide)

/-- An item has entries where its kind asks for them, and no empty reply. -/
def Item.IsFilled : Item → Prop
  | .buttons bs => bs ≠ []
  | .quickReply replies _ => replies ≠ [] ∧ "" ∉ replies
  | .carousel cards => cards ≠ []
  | _ => True

theorem isFilledArrayOf_map {α : Type} {shape : Json → Prop} {f : α → Json} {xs : List α}
    (hne : xs ≠ []) (h : ∀ x ∈ xs, shape (f x)) : IsFilledArrayOf shape (.array (xs.map f)) := by
  refine ⟨_, rfl, by simpa using hne, fun y hy => ?_⟩
  obtain ⟨x, hx, rfl⟩ := List.mem_map.1 hy
  exact h x hx

/-- **A filled item is written in the grammar of its kind.** -/
theorem grammar_wire {i : Item} (h : i.IsFilled) : i.kind.Grammar i.wire := by
  have hword : ∀ {s : String}, IsWord [s] (.text s) := fun {s} => ⟨s, by simp, rfl⟩
  cases i with
  | text words plain =>
    exact isObjectOf_present (.cons (fills_must hword) (.cons (fills_must (isText_text _))
      (.cons (fills_must (isText_text _)) .nil))) (by decide)
  | image i =>
    exact isObjectOf_present (.cons (fills_must hword)
      (.cons (fills_must (isImage_wire i)) .nil)) (by decide)
  | card c => exact isCard_wire c
  | buttons bs =>
    exact isObjectOf_present (.cons (fills_must hword)
      (.cons (fills_must (isFilledArrayOf_map h fun b _ => isButton_wire b)) .nil)) (by decide)
  | quickReply replies format =>
    have hreply : ∀ s ∈ replies, IsPhrase (.text s) := fun s hs =>
      ⟨s, fun he => h.2 (he ▸ hs), rfl⟩
    have hformat : IsWord ["default", "cloud"] (.text format.name) :=
      ⟨format.name, by cases format <;> decide, rfl⟩
    exact isObjectOf_present (.cons (fills_must hword)
      (.cons (fills_must (isFilledArrayOf_map h.1 hreply))
      (.cons (fills_must hformat) .nil))) (by decide)
  | list l =>
    exact isObjectOf_present (.cons (fills_must hword)
      (.cons (fills_must (isListing_wire l)) .nil)) (by decide)
  | carousel cards =>
    exact isObjectOf_present (.cons (fills_must hword)
      (.cons (fills_must (isFilledArrayOf_map h fun c _ => isCard_wire c)) .nil)) (by decide)
  | file name size url =>
    exact isObjectOf_present (.cons (fills_must hword)
      (.cons (fills_may isText_of_mem_wireText) (.cons (fills_may isText_of_mem_wireText)
      (.cons (fills_may isText_of_mem_wireText) .nil)))) (by decide)
  | map m =>
    refine isObjectOf_present (.cons (fills_must hword) (.cons (fills_may ?_)
      (.cons (fills_may isText_of_mem_wireText) (.cons (fills_may isText_of_mem_wireText)
      (.cons (fills_may isText_of_mem_wireText) (.cons (fills_may ?_) .nil)))))) (by decide)
    · intro x hx
      obtain ⟨s, hs, rfl⟩ := Option.map_eq_some_iff.1 hx
      obtain ⟨mode, -, rfl⟩ := Option.map_eq_some_iff.1 hs
      exact ⟨mode.name, by cases mode <;> decide, rfl⟩
    · intro x hx
      obtain ⟨l, -, rfl⟩ := Option.map_eq_some_iff.1 hx
      exact isMapLink_wire l
  | information words =>
    exact isObjectOf_present (.cons (fills_must hword)
      (.cons (fills_must (isText_text _)) .nil)) (by decide)

/-! ## Leaves -/

/-- A value without parts of its own stands in a value; the path names the
    fields that lead there. -/
inductive LeafAt : List String → Json → Json → Prop
  | null : LeafAt [] .null .null
  | bool (b : Bool) : LeafAt [] (.bool b) (.bool b)
  | number (n : Number) : LeafAt [] (.number n) (.number n)
  | text (s : String) : LeafAt [] (.text s) (.text s)
  | item {path x y xs} : y ∈ xs → LeafAt path x y → LeafAt path x (.array xs)
  | field {path x name y fs} : (name, y) ∈ fs → LeafAt path x y →
      LeafAt (name :: path) x (.object fs)

/-- Every leaf of a value of the shape is a text. -/
def HoldsTexts (shape : Json → Prop) : Prop := ∀ v, shape v → ∀ path x, LeafAt path x v → IsText x

@[simp] theorem holdsTexts_isText : HoldsTexts IsText := by
  rintro v ⟨s, rfl⟩ path x hx
  cases hx
  exact isText_text s

@[simp] theorem holdsTexts_isPhrase : HoldsTexts IsPhrase := by
  rintro v ⟨s, -, rfl⟩
  exact holdsTexts_isText _ (isText_text s)

@[simp] theorem holdsTexts_isWord (words : List String) : HoldsTexts (IsWord words) := by
  rintro v ⟨s, -, rfl⟩
  exact holdsTexts_isText _ (isText_text s)

@[simp] theorem holdsTexts_isArrayOf {shape : Json → Prop} (hs : HoldsTexts shape) :
    HoldsTexts (IsArrayOf shape) := by
  rintro v ⟨xs, rfl, hxs⟩ path x hx
  cases hx with
  | item hy hx => exact hs _ (hxs _ hy) path x hx

@[simp] theorem holdsTexts_isFilledArrayOf {shape : Json → Prop} (hs : HoldsTexts shape) :
    HoldsTexts (IsFilledArrayOf shape) := by
  rintro v ⟨xs, rfl, -, hxs⟩
  exact holdsTexts_isArrayOf hs _ ⟨xs, rfl, hxs⟩

/-- A leaf of an object stands in one of its parts. -/
theorem leafAt_object {parts : List Part} {v : Json} (h : IsObjectOf parts v) {path : List String}
    {x : Json} (hx : LeafAt path x v) :
    ∃ p ∈ parts, ∃ y rest, path = p.name :: rest ∧ p.shape y ∧ LeafAt rest x y := by
  obtain ⟨fs, rfl, -, -, hfs⟩ := h
  cases hx with
  | field hmem hx =>
    obtain ⟨p, hp, hname, hshape⟩ := hfs _ hmem
    exact ⟨p, hp, _, _, by rw [hname], hshape, hx⟩

theorem holdsTexts_isObjectOf {parts : List Part} (hp : ∀ p ∈ parts, HoldsTexts p.shape) :
    HoldsTexts (IsObjectOf parts) := by
  intro v h path x hx
  obtain ⟨p, hmem, y, rest, -, hy, hx⟩ := leafAt_object h hx
  exact hp p hmem y hy rest x hx

@[simp] theorem holdsTexts_isButton : HoldsTexts IsButton :=
  holdsTexts_isObjectOf (by simp [must, may])

@[simp] theorem holdsTexts_isImage : HoldsTexts IsImage :=
  holdsTexts_isObjectOf (by simp [may])

@[simp] theorem holdsTexts_isCard : HoldsTexts IsCard :=
  holdsTexts_isObjectOf (by simp [must, may])

@[simp] theorem holdsTexts_isEntry : HoldsTexts IsEntry :=
  holdsTexts_isObjectOf (by simp [may])

@[simp] theorem holdsTexts_isMapLink : HoldsTexts IsMapLink :=
  holdsTexts_isObjectOf (by simp [must, may])

/-- A leaf of a list is a text or the flag of the list. -/
theorem leaf_of_isListing {v : Json} (h : IsListing v) {path : List String} {x : Json}
    (hx : LeafAt path x v) : IsText x ∨ path = ["ordered"] ∧ IsFlag x := by
  obtain ⟨p, hp, y, rest, rfl, hy, hy'⟩ := leafAt_object h hx
  simp only [List.mem_cons, List.not_mem_nil, or_false] at hp
  rcases hp with rfl | rfl | rfl | rfl | rfl
  · exact Or.inl (holdsTexts_isText y hy rest x hy')
  · exact Or.inl (holdsTexts_isText y hy rest x hy')
  · obtain ⟨b, rfl⟩ := hy
    cases hy'
    exact Or.inr ⟨rfl, b, rfl⟩
  · exact Or.inl (holdsTexts_isText y hy rest x hy')
  · exact Or.inl (holdsTexts_isArrayOf holdsTexts_isEntry y hy rest x hy')

/-- The items of all kinds but lists hold texts only. -/
theorem holdsTexts_grammar {k : Kind} (h : k ≠ .list) : HoldsTexts k.Grammar := by
  cases k with
  | list => exact absurd rfl h
  | card => exact holdsTexts_isCard
  | splash => exact fun _ h => h.elim
  | _ => exact holdsTexts_isObjectOf (by simp [must, may])

/-- **Every leaf is a text, but for the flag of a list.** -/
theorem leaf_of_grammar {k : Kind} {v : Json} (h : k.Grammar v) {path : List String} {x : Json}
    (hx : LeafAt path x v) : IsText x ∨ path = ["list", "ordered"] ∧ IsFlag x := by
  by_cases hk : k = .list
  · subst hk
    obtain ⟨p, hp, y, rest, rfl, hy, hy'⟩ := leafAt_object h hx
    simp only [List.mem_cons, List.not_mem_nil, or_false] at hp
    rcases hp with rfl | rfl
    · exact Or.inl (holdsTexts_isWord _ y hy rest x hy')
    · rcases leaf_of_isListing hy hy' with htext | ⟨rfl, hflag⟩
      · exact Or.inl htext
      · exact Or.inr ⟨rfl, hflag⟩
  · exact Or.inl (holdsTexts_grammar hk v h path x hx)

end ChatRelay.Content

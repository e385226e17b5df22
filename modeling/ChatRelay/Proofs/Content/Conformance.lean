/-
  Records are read into items that keep the grammar of the wire.

  * `item_of_readRecord`: an item comes from an object and is of the kind the
    object selects;
  * `isFilled_of_readAs`: it has entries where its kind asks for them;
  * `Kind.Reflects` says which of the parts of an item that may be missing are
    there: those of a card and of the cards of a carousel, and the link of a map;
  * `conforms_normalize` puts these together.
-/
import ChatRelay.Proofs.Content.Field
import ChatRelay.Proofs.Content.Grammar
import ChatRelay.Proofs.Content.Reading

namespace ChatRelay.Content

/-! ## The kind of an item -/

theorem ofName?_eq_some_iff {s : String} {k : Kind} : Kind.ofName? s = some k ↔ k.name = s := by
  constructor
  · intro h
    simpa using List.find?_some h
  · rintro rfl
    cases k <;> decide

/-- An item comes from an object and is read by the rules of the kind that the
    object selects. -/
theorem item_of_readRecord {policy : Policy} {record : Json} {i : Item}
    (h : (readRecord policy record).1 = .ok (some (.item i))) :
    ∃ fs k, record = .object fs ∧ k.name = kindName fs ∧
      readAs policy fs k = .ok (some (.item i)) := by
  cases record with
  | object fs =>
    cases hk : Kind.ofName? (kindName fs) with
    | none => cases policy <;> simp [readRecord, hk] at h
    | some k =>
      simp only [readRecord, hk] at h
      exact ⟨fs, k, rfl, ofName?_eq_some_iff.1 hk, h⟩
  | _ => cases policy <;> simp [readRecord] at h

theorem filled_eq_some_iff {α : Type} {item : List α → Item} {xs : List α} {i : Item} :
    filled item xs = some (.item i) ↔ xs ≠ [] ∧ item xs = i := by
  cases xs <;> simp [filled]

/-- A reply is never empty. -/
theorem replyText?_ne_empty {v : Json} {s : String} (h : replyText? v = some s) : s ≠ "" := by
  cases v with
  | text t =>
    by_cases ht : t.isEmpty = true
    · simp [replyText?, ht] at h
    · obtain rfl : t = s := by simpa [replyText?, ht] using h
      simpa using ht
  | object fs => exact textOf_ne_empty h
  | _ => cases h

theorem item_of_quickReplyItem {fs : Fields} {i : Item} (h : quickReplyItem fs = some i) :
    i.kind = .quickReply ∧ i.IsFilled := by
  simp only [quickReplyItem] at h
  split at h
  · cases h
  · rename_i hne
    cases h
    refine ⟨rfl, hne, fun hmem => ?_⟩
    obtain ⟨v, -, hv⟩ := List.mem_filterMap.1 hmem
    exact replyText?_ne_empty hv rfl

/-- **An item is of the kind it was read as, and filled.** -/
theorem item_of_readAs {policy : Policy} {fs : Fields} {k : Kind} {i : Item}
    (h : readAs policy fs k = .ok (some (.item i))) : i.kind = k ∧ i.IsFilled := by
  cases k with
  | text | image | file | map | information => cases h; exact ⟨rfl, trivial⟩
  | card =>
    obtain ⟨c, -, hi⟩ := ok_of_map h
    cases hi
    exact ⟨rfl, trivial⟩
  | buttons =>
    obtain ⟨bs, -, hi⟩ := ok_of_map h
    obtain ⟨hne, rfl⟩ := filled_eq_some_iff.1 hi
    exact ⟨rfl, hne⟩
  | quickReply =>
    obtain ⟨j, hj, hi⟩ := Option.map_eq_some_iff.1 (Except.ok.inj h)
    cases hi
    exact item_of_quickReplyItem hj
  | list =>
    obtain ⟨es, -, hi⟩ := ok_of_map h
    cases hi
    exact ⟨rfl, trivial⟩
  | carousel =>
    obtain ⟨cs, -, hi⟩ := ok_of_map h
    obtain ⟨hne, rfl⟩ := filled_eq_some_iff.1 hi
    exact ⟨rfl, hne⟩
  | splash =>
    obtain ⟨bs, -, hi⟩ := ok_of_map h
    cases hi

/-! ## Parts that may be missing -/

/-- The value is an object with a field of that name. -/
def HasField (name : String) (v : Json) : Prop := ∃ fs x, v = .object fs ∧ (name, x) ∈ fs

/-- A card on the wire has a picture and a button as its record asks for them. -/
def ReflectsCard (fs : Fields) (v : Json) : Prop :=
  (HasField "image" v ↔ GivesScalar ["imageUrl", "cardImageUrl", "imageSrc"] fs) ∧
  (HasField "button" v ↔ GivesScalar ["buttonText", "cardButtonText"] fs)

/-- The parts of an item on the wire that may be missing are there as its record
    asks for them; the cards of a carousel reflect the object entries of its
    record, one after the other. -/
def Kind.Reflects : Kind → Fields → Json → Prop
  | .card, fs, v => ReflectsCard fs v
  | .carousel, fs, v => ∃ parts ws, v = .object parts ∧ ("items", .array ws) ∈ parts ∧
      List.Forall₂ ReflectsCard (subrecords cardEntries fs) ws
  | .map, fs, v => HasField "link" v ↔ GivesScalar ["mapLinkUrl"] fs
  | _, _, _ => True

theorem hasField_present {name : String} {fields : List (String × Option Json)} :
    HasField name (.object (present fields)) ↔ ∃ x, (name, some x) ∈ fields := by
  constructor
  · rintro ⟨_, x, ⟨rfl⟩, hx⟩
    exact ⟨x, mem_present.1 hx⟩
  · rintro ⟨x, hx⟩
    exact ⟨_, x, rfl, mem_present.2 hx⟩

/-- A card has the picture of its record, and a button if its record has a text for
    one. -/
theorem parts_of_card {policy : Policy} {fs : Fields} {c : Card} (h : card policy fs = .ok c) :
    c.image = cardImage fs ∧ (c.button.isSome ↔ (textOf Names.cardButton fs).isSome) := by
  obtain ⟨b, hb, hc⟩ := ok_of_bind h
  cases hc
  refine ⟨rfl, ?_⟩
  cases ht : textOf Names.cardButton fs with
  | none =>
    rw [cardButton, ht] at hb
    cases hb
    simp
  | some text =>
    rw [cardButton, ht] at hb
    obtain ⟨action, -, hb⟩ := ok_of_bind hb
    cases hb
    simp

theorem exists_map_eq_some {α β : Type} {f : α → β} {o : Option α} :
    (∃ y, o.map f = some y) ↔ o.isSome := by
  cases o <;> simp

theorem isSome_cardImage (fs : Fields) :
    (cardImage fs).isSome = (textOf Names.cardImage fs).isSome := by
  unfold cardImage
  cases textOf Names.cardImage fs <;> rfl

theorem reflectsCard_wire {policy : Policy} {fs : Fields} {c : Card}
    (h : card policy fs = .ok c) : ReflectsCard fs c.wire := by
  obtain ⟨himage, hbutton⟩ := parts_of_card h
  constructor
  · have hwire : HasField "image" c.wire ↔ ∃ x, c.image.map Image.wire = some x := by
      rw [Card.wire, hasField_present]
      simp [Card.parts, eq_comm]
    rw [hwire, exists_map_eq_some, himage, isSome_cardImage]
    exact isSome_textOf
  · have hwire : HasField "button" c.wire ↔ ∃ x, c.button.map Button.wire = some x := by
      rw [Card.wire, hasField_present]
      simp [Card.parts, eq_comm]
    rw [hwire, exists_map_eq_some, hbutton]
    exact isSome_textOf

theorem reflects_map (fs : Fields) : Kind.map.Reflects fs (mapItem fs).wire := by
  have hwire : HasField "link" (mapItem fs).wire ↔ (textOf Names.mapLinkUrl fs).isSome := by
    rw [Item.wire, hasField_present]
    cases h : textOf Names.mapLinkUrl fs <;> simp [mapItem, Item.parts, h]
  exact hwire.trans isSome_textOf

/-- **The parts of an item that may be missing are there as its record asks for.** -/
theorem reflects_wire {policy : Policy} {fs : Fields} {k : Kind} {i : Item}
    (h : readAs policy fs k = .ok (some (.item i))) : k.Reflects fs i.wire := by
  cases k with
  | card =>
    obtain ⟨c, hc, hi⟩ := ok_of_map h
    cases hi
    exact reflectsCard_wire hc
  | carousel =>
    obtain ⟨cs, hcs, hi⟩ := ok_of_map h
    obtain ⟨-, rfl⟩ := filled_eq_some_iff.1 hi
    have hcards := mapM_eq_ok_iff.1 hcs
    refine ⟨_, cs.map Card.wire, rfl, mem_present.2 (by simp [Item.parts]), ?_⟩
    rw [List.forall₂_map_right_iff]
    exact hcards.imp fun _ _ hc => reflectsCard_wire hc
  | map => cases h; exact reflects_map fs
  | _ => trivial

/-! ## Records -/

/-- What is written for a record keeps the grammar of the kind that the record selects,
    a text by default.  Every leaf of it is a text, but for the flag of a list, so that
    nothing is null; and the parts that may be missing are there as the record asks for
    them. -/
def Conforms (record written : Json) : Prop :=
  ∃ fs k, record = .object fs ∧ Kind.name k = (textOf ["type", "kind"] fs).getD "text" ∧
    k.Grammar written ∧
    (∀ path x, LeafAt path x written → IsText x ∨ path = ["list", "ordered"] ∧ IsFlag x) ∧
    k.Reflects fs written

/-- **Whatever the record, the item it is read into conforms.** -/
theorem conforms_normalize {policy : Policy} {record : Json} {d d' : Drops} {i : Item}
    (h : exec (normalize policy record) d = (.ok (some (.item i)), d')) :
    Conforms record i.wire := by
  rw [exec_normalize] at h
  obtain ⟨fs, k, rfl, hname, hread⟩ := item_of_readRecord (congrArg Prod.fst h)
  obtain ⟨hkind, hfilled⟩ := item_of_readAs hread
  have hgrammar : k.Grammar i.wire := hkind ▸ grammar_wire hfilled
  exact ⟨fs, k, rfl, hname, hgrammar, fun _ _ hx => leaf_of_grammar hgrammar hx,
    reflects_wire hread⟩

/-- A carousel with one card in it, whose picture is named by a number and whose button
    is given by an array. -/
theorem conforms_carousel : Conforms
    (.object [("kind", .text "carousel"), ("items", .array [.null, .object [
      ("imageUrl", .text ""), ("cardImageUrl", .number (.int 7)), ("buttonText", .array [])]])])
    (Item.carousel [⟨none, none, none, some ⟨some "7", none, none⟩, none⟩]).wire :=
  conforms_normalize (show exec (normalize .strict _) {} = (_, { malformed := 1 }) by decide)

end ChatRelay.Content

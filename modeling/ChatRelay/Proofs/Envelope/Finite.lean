/-
  Every message can be written.

  The only numbers in a message are those of a survey, which are integers, and
  those in the flags, which are written as null unless they are finite.  So the
  body of every message is finite (`isFinite_wire`).
-/
import ChatRelay.Proofs.Envelope.Building

namespace ChatRelay

/-! ## Values -/

theorem itemsFinite_iff {xs : List Json} :
    Json.itemsFinite xs = true ↔ ∀ x ∈ xs, x.isFinite = true := by
  induction xs with
  | nil => simp [Json.itemsFinite]
  | cons x xs ih => simp [Json.itemsFinite, ih]

theorem fieldsFinite_iff {fs : Fields} :
    Json.fieldsFinite fs = true ↔ ∀ f ∈ fs, f.2.isFinite = true := by
  induction fs with
  | nil => simp [Json.fieldsFinite]
  | cons f fs ih =>
    obtain ⟨name, v⟩ := f
    simp [Json.fieldsFinite, Json.fieldFinite, ih]

@[simp] theorem isFinite_text (s : String) : (Json.text s).isFinite = true := rfl

@[simp] theorem isFinite_bool (b : Bool) : (Json.bool b).isFinite = true := rfl

@[simp] theorem isFinite_int (i : Int) : (Json.int i).isFinite = true := rfl

@[simp] theorem isFinite_array {xs : List Json} :
    (Json.array xs).isFinite = true ↔ ∀ x ∈ xs, x.isFinite = true := itemsFinite_iff

@[simp] theorem isFinite_object {fs : Fields} :
    (Json.object fs).isFinite = true ↔ ∀ f ∈ fs, f.2.isFinite = true := fieldsFinite_iff

/-- The fields that there are can be written if each of them can. -/
theorem isFinite_present {fields : List (String × Option Json)}
    (h : ∀ f ∈ fields, ∀ v ∈ f.2, v.isFinite = true) :
    (Json.object (present fields)).isFinite = true := by
  rw [isFinite_object]
  intro f hf
  obtain ⟨⟨name, o⟩, hmem, ho⟩ := List.mem_filterMap.1 hf
  obtain ⟨v, hv, rfl⟩ := Option.map_eq_some_iff.1 ho
  exact h _ hmem v hv

section Parts

variable {fs : Fields} {name : String} {v : Json}

theorem isFinite_of_get? (h : (Json.object fs).isFinite = true) (hv : Json.get? fs name = some v) :
    v.isFinite = true := by
  obtain ⟨before, after, rfl, -⟩ := List.lookup_eq_some_iff.1 hv
  exact isFinite_object.1 h (name, v) (by simp)

theorem isFinite_put (h : (Json.object fs).isFinite = true) (hv : v.isFinite = true) :
    (Json.object (Json.put name v fs)).isFinite = true := by
  induction fs with
  | nil => simpa [Json.put] using hv
  | cons f rest ih =>
    obtain ⟨hf, hrest⟩ := List.forall_mem_cons.1 (isFinite_object.1 h)
    rw [Json.put]
    split
    · exact isFinite_object.2 (List.forall_mem_cons.2 ⟨hv, hrest⟩)
    · exact isFinite_object.2 (List.forall_mem_cons.2
        ⟨hf, isFinite_object.1 (ih (isFinite_object.2 hrest))⟩)

theorem isFinite_without (h : (Json.object fs).isFinite = true) :
    (Json.object (Json.without name fs)).isFinite = true :=
  isFinite_object.2 fun f hf => isFinite_object.1 h f (List.mem_of_mem_filter hf)

/-- What can be gone through in a finite value is finite. -/
theorem isFinite_of_elementsOrNone? (h : v.isFinite = true) {es : List Json}
    (hes : v.elementsOrNone? = some es) : ∀ e ∈ es, e.isFinite = true := by
  unfold Json.elementsOrNone? at hes
  split at hes
  · cases v with
    | array xs => cases hes; exact isFinite_array.1 h
    | object fs => cases hes; exact List.forall_mem_map.2 fun _ _ => rfl
    | text s => cases hes; exact List.forall_mem_map.2 fun _ _ => rfl
    | _ => cases hes
  · cases hes
    simp

end Parts

/-! ## Content -/

namespace Content

@[simp] theorem isFinite_of_mem_wireText {s : Option String} :
    ∀ v ∈ wireText s, v.isFinite = true := by
  intro v hv
  obtain ⟨t, -, rfl⟩ := Option.map_eq_some_iff.1 hv
  rfl

@[simp] theorem isFinite_button (b : Button) : b.wire.isFinite = true :=
  isFinite_present (by simp [wireText])

@[simp] theorem isFinite_image (i : Image) : i.wire.isFinite = true :=
  isFinite_present (by simp [wireText])

theorem isFinite_of_mem_cardParts (c : Card) : ∀ f ∈ c.parts, ∀ v ∈ f.2, v.isFinite = true := by
  simp [Card.parts, wireText]

@[simp] theorem isFinite_card (c : Card) : c.wire.isFinite = true :=
  isFinite_present (by simpa using isFinite_of_mem_cardParts c)

@[simp] theorem isFinite_entry (e : Entry) : e.wire.isFinite = true :=
  isFinite_present (by simp [wireText])

@[simp] theorem isFinite_listing (l : Listing) : l.wire.isFinite = true :=
  isFinite_present (by simp [wireText])

@[simp] theorem isFinite_mapLink (l : MapLink) : l.wire.isFinite = true :=
  isFinite_present (by simp [wireText])

@[simp] theorem isFinite_item (i : Item) : i.wire.isFinite = true := by
  refine isFinite_present ?_
  cases i with
  | card c => simpa [Item.parts] using isFinite_of_mem_cardParts c
  | _ => simp [Item.parts, wireText]

end Content

/-! ## Surveys -/

namespace Survey

@[simp] theorem isFinite_options (o : Options) : o.wire.isFinite = true := by
  cases o with
  | choices cs => simp [Options.wire, Choice.wire]
  | range least greatest => simp [Options.wire]

@[simp] theorem isFinite_page (p : Page) : p.wire.isFinite = true := by
  have hanswers : ∀ f ∈ p.answers, f.2.isFinite = true := by
    intro f hf
    unfold Page.answers at hf
    split at hf
    · obtain rfl := List.mem_singleton.1 hf
      simp
    · obtain ⟨r, -, rfl⟩ := List.mem_map.1 hf
      simp [targetWire]
  refine isFinite_present ?_
  simpa using hanswers

@[simp] theorem isFinite_survey (i : Item) : i.wire.isFinite = true := by
  simp [Item.wire, expiration]

end Survey

/-! ## Envelopes -/

/-- The flags can be written, whatever they are. -/
theorem isFinite_meta (m : Meta) : ∀ f ∈ m.wire, f.2.isFinite = true := by
  intro f hf
  rcases List.mem_append.1 hf with hf | hf
  · obtain ⟨g, -, rfl⟩ := List.mem_map.1 hf
    rfl
  · exact fieldsFinite_iff.1 (Json.fieldsFinite_fieldsFinitePart _) f hf

/-- The flags of the envelope can be written. -/
def Envelope.HasFiniteFlags (e : Envelope) : Prop :=
  ∀ fs ∈ e.flags, ∀ f ∈ fs, f.2.isFinite = true

/-- **The body of a message can be written if its flags can.** -/
theorem isFinite_wire {e : Envelope} (h : e.HasFiniteFlags) :
    (Json.object e.wire).isFinite = true := by
  have hcontent : ∀ r : RichContent, r.wire.isFinite = true := fun r => by
    cases r <;> simp [RichContent.wire]
  have hflags : ∀ v ∈ e.flags.map Json.object, v.isFinite = true := by
    intro v hv
    obtain ⟨fs, hfs, rfl⟩ := Option.map_eq_some_iff.1 hv
    exact isFinite_object.2 (h fs hfs)
  refine isFinite_present ?_
  simpa [hcontent] using hflags

theorem hasFiniteFlags_ofBundle (session : String) (b : Content.Bundle) (m : Meta)
    (participant : Option String) :
    (Envelope.ofBundle session b m.wire? participant).HasFiniteFlags := by
  intro fs hfs
  change m.wire? = some fs at hfs
  unfold Meta.wire? at hfs
  split at hfs <;> cases hfs
  exact isFinite_meta m

theorem hasFiniteFlags_ofSurvey (session : String) (stamp : Survey.Stamp) (title : String)
    (pages : List Survey.Page) :
    (Envelope.ofSurvey session stamp title pages).HasFiniteFlags := by
  intro fs hfs
  cases hfs
  simp [Survey.expiration]

theorem hasFiniteFlags_ofHtml (session html : String) :
    (Envelope.ofHtml session html).HasFiniteFlags := by
  intro fs hfs
  cases hfs

theorem hasFiniteFlags_ofEscalation (session text : String) (reason : Json) :
    (Envelope.ofEscalation session text reason).HasFiniteFlags := by
  intro fs hfs
  cases hfs
  exact isFinite_meta _

end ChatRelay

/-
  The shapes of producers agree.

  One producer writes a record with plain arrays and short names, another one with arrays
  inside objects and names of its own.  `Renamed` moves the value of a field to another of
  its names, `Holds` tells the shapes in which an array may stand as a repeated part.  A
  record is `Reshaped` by moving one value or one array, the fields of its entries along
  with it; nothing else changes.  `shapes_agree` says that however often this is done, the
  record is read alike.
-/
import ChatRelay.Proofs.Content.Alike
import ChatRelay.Proofs.Content.Conformance
import ChatRelay.Proofs.Lookup
import Mathlib.Data.List.Nodup
import Mathlib.Data.List.Pairwise
import Mathlib.Logic.Relation

namespace ChatRelay.Content

/-! ## Moving values -/

/-- The value stands under one of the names, and nothing is given under the others. -/
def StandsAlone (names : List String) (fs : Fields) (v : Json) : Prop :=
  ∃ name ∈ names, Json.get? fs name = some v ∧
    ∀ other ∈ names, other ≠ name → ∀ w, Json.get? fs other = some w → w = .null ∨ w = .text ""

/-- The records agree but for what stands under the names. -/
def AgreeBut (names : List String) (fs fs' : Fields) : Prop :=
  ∀ name, name ∉ names → Json.get? fs name = Json.get? fs' name

/-- The value of a field is moved to another of its names. -/
def Renamed (names : List String) (fs fs' : Fields) : Prop :=
  AgreeBut names fs fs' ∧ ∃ v, StandsAlone names fs v ∧ StandsAlone names fs' v

/-- In an entry, values of its fields are moved to other names. -/
inductive EntryRenamed (lists : List (List String)) : Json → Json → Prop
  | object {fs fs' : Fields} :
      Relation.ReflTransGen (fun r r' => ∃ names ∈ lists, Renamed names r r') fs fs' →
      EntryRenamed lists (.object fs) (.object fs')
  | same (v : Json) : EntryRenamed lists v v

/-! ## Moving arrays -/

/-- The array stands under the name, plain or as the field `key` of an object. -/
inductive StandsAt (key name : String) (fs : Fields) (xs : List Json) : Prop
  | plain : Json.get? fs name = some (.array xs) → StandsAt key name fs xs
  | nested {inner : Fields} : Json.get? fs name = some (.object inner) →
      Json.get? inner key = some (.array xs) → StandsAt key name fs xs

/-- The record holds the array as the repeated part: under its name, or under its other name if
    no array stands under the first. -/
inductive Holds (c : Collection) (fs : Fields) (xs : List Json) : Prop
  | here : StandsAt c.key c.name fs xs → Holds c fs xs
  | there {other : String} : c.other = some other → (∀ ys, ¬ StandsAt c.key c.name fs ys) →
      StandsAt c.key other fs xs → Holds c fs xs

/-- The names under which the repeated part may stand. -/
def Collection.names (c : Collection) : List String := c.name :: c.other.toList

/-- From one shape of a record to another: its kind, one of its fields or its repeated part is
    moved, with fields of the entries. -/
inductive Reshaped : Fields → Fields → Prop
  | kind {fs fs' : Fields} : Renamed Names.kind fs fs' → Reshaped fs fs'
  | field {k : Kind} {names : List String} {fs fs' : Fields} : k.name = kindName fs →
      names ∈ k.fields → Renamed names fs fs' → Reshaped fs fs'
  | part {k : Kind} {c : Collection} {xs ys : List Json} {fs fs' : Fields} :
      k.name = kindName fs → k.part? = some c → Holds c fs xs → Holds c fs' ys →
      List.Forall₂ (EntryRenamed k.entryFields) xs ys → AgreeBut c.names fs fs' →
      Reshaped fs fs'

/-! ## No two fields share a name -/

/-- All names under which a record of the kind is looked into, field by field. -/
def Kind.nameLists (k : Kind) : List (List String) :=
  Names.kind :: (k.part?.map Collection.names).toList ++ k.fields

/-- **No name belongs to two fields of a kind.** -/
theorem nodup_nameLists (k : Kind) : k.nameLists.flatten.Nodup := by
  cases k <;> decide +kernel

theorem nodup_entryFields (k : Kind) : k.entryFields.flatten.Nodup := by
  cases k <;> decide +kernel

/-- Two of the lists are the same, or have no name in common. -/
theorem eq_or_disjoint {lists : List (List String)} (h : lists.flatten.Nodup)
    {names others : List String} (hn : names ∈ lists) (ho : others ∈ lists) :
    names = others ∨ names.Disjoint others := by
  have : Std.Symm (List.Disjoint (α := String)) := ⟨fun _ _ hd => List.disjoint_symm hd⟩
  by_cases heq : names = others
  · exact Or.inl heq
  · exact Or.inr ((List.nodup_flatten.1 h).2.forall hn ho heq)

/-! ## What a move leaves as it is -/

section Moves

variable {names others : List String} {fs fs' : Fields} {v : Json}

/-- A value given under one name may be given under another one in its place. -/
theorem renamed_in_place {names : List String} {name other : String}
    (front : Fields) {rest : Fields} (hn : name ∈ names) (ho : other ∈ names)
    (hfree : ∀ f ∈ front ++ rest, f.1 ∉ names)
    (v : Json) : Renamed names (front ++ (name, v) :: rest) (front ++ (other, v) :: rest) := by
  have hfront : ∀ n ∈ names, Json.get? front n = none := fun n hmem =>
    Json.get?_eq_none_iff.2 fun f hf heq =>
      hfree f (List.mem_append_left rest hf) (heq ▸ hmem)
  have hrest : ∀ n ∈ names, Json.get? rest n = none := fun n hmem =>
    Json.get?_eq_none_iff.2 fun f hf heq =>
      hfree f (List.mem_append_right front hf) (heq ▸ hmem)
  have halone : ∀ key ∈ names, StandsAlone names (front ++ (key, v) :: rest) v := by
    intro key hkey
    refine ⟨key, hkey, ?_, fun n hmem hne w hw => ?_⟩
    · rw [Json.get?_append, hfront key hkey, Option.none_or, Json.get?_cons, if_pos rfl]
    · rw [Json.get?_append, hfront n hmem, Option.none_or, Json.get?_cons, if_neg hne,
        hrest n hmem] at hw
      cases hw
  refine ⟨fun n hnot => ?_, v, halone name hn, halone other ho⟩
  have hne : ∀ key ∈ names, n ≠ key := fun key hkey heq => hnot (heq ▸ hkey)
  rw [Json.get?_append, Json.get?_append, Json.get?_cons, Json.get?_cons, if_neg (hne name hn),
    if_neg (hne other ho)]

/-- A value that stands alone is what the field gives, if it says something. -/
theorem pick_of_standsAlone (h : StandsAlone names fs v) :
    pick names fs = (some v).filter isGiven := by
  obtain ⟨name, hname, hv, hothers⟩ := h
  have hsilent : ∀ other ∈ names, other ≠ name →
      (Json.get? fs other).filter isGiven = none := by
    intro other hmem hne
    rw [Option.filter_eq_none_iff]
    intro w hw
    rcases hothers other hmem hne w hw with rfl | rfl <;> decide
  by_cases hgiven : isGiven v = true
  · obtain ⟨before, after, hsplit, hnot⟩ := List.eq_append_cons_of_mem hname
    rw [pick, Option.filter_some, if_pos hgiven, List.findSome?_eq_some_iff]
    refine ⟨before, name, after, hsplit, by rw [hv, Option.filter_some, if_pos hgiven], ?_⟩
    intro other hother
    refine hsilent other (by rw [hsplit]; simp [hother]) ?_
    rintro rfl
    exact hnot hother
  · rw [pick, Option.filter_some, if_neg hgiven, List.findSome?_eq_none_iff]
    intro other hother
    by_cases heq : other = name
    · rw [heq, hv, Option.filter_some, if_neg hgiven]
    · exact hsilent other hother heq

theorem pick_of_renamed (h : Renamed names fs fs') : pick names fs = pick names fs' := by
  obtain ⟨-, v, hv, hv'⟩ := h
  rw [pick_of_standsAlone hv, pick_of_standsAlone hv']

theorem pick_of_agreeBut (h : AgreeBut names fs fs') (hd : names.Disjoint others) :
    pick others fs = pick others fs' :=
  pick_congr fun n hn => by rw [h n fun hmem => hd hmem hn]

theorem arrayAt_of_agreeBut (h : AgreeBut names fs fs') {name : String} (hn : name ∉ names)
    (key : String) : arrayAt key name fs = arrayAt key name fs' := by
  rw [arrayAt, arrayAt, h name hn]

theorem entries_of_agreeBut {c : Collection} (h : AgreeBut names fs fs')
    (hd : names.Disjoint c.names) : entries c fs = entries c fs' := by
  have hfree : ∀ name ∈ c.names, name ∉ names := fun name hc hn => hd hn hc
  have hother : (c.other.bind fun n => arrayAt c.key n fs) =
      c.other.bind fun n => arrayAt c.key n fs' := by
    refine Option.bind_congr fun n hn => ?_
    exact arrayAt_of_agreeBut h (hfree n (by simp [Collection.names, hn])) c.key
  rw [entries, entries, hother,
    arrayAt_of_agreeBut h (hfree c.name (by simp [Collection.names])) c.key]

/-- Moving a value within one of the lists changes nothing that the lists give. -/
theorem givesAlike_of_renamed {lists : List (List String)} (hd : lists.flatten.Nodup)
    (hn : names ∈ lists) (h : Renamed names fs fs') : GivesAlike lists fs fs' := by
  intro others ho
  rcases eq_or_disjoint hd hn ho with rfl | hdisjoint
  · exact pick_of_renamed h
  · exact pick_of_agreeBut h.1 hdisjoint

theorem entryAlike_of_renamed {lists : List (List String)} (hd : lists.flatten.Nodup)
    {w : Json} (h : EntryRenamed lists v w) : EntryAlike lists v w := by
  cases h with
  | same => exact .same v
  | object hsteps =>
    refine .object ?_
    induction hsteps with
    | refl => exact fun _ _ => rfl
    | tail _ hstep ih =>
      obtain ⟨names, hn, hrenamed⟩ := hstep
      exact fun others ho => (ih others ho).trans (givesAlike_of_renamed hd hn hrenamed others ho)

end Moves

section Arrays

variable {c : Collection} {key name : String} {fs : Fields} {xs : List Json}

theorem arrayAt_eq_some_iff : arrayAt key name fs = some xs ↔ StandsAt key name fs xs := by
  constructor
  · intro h
    unfold arrayAt at h
    split at h
    · cases h
      exact .plain ‹_›
    · split at h
      · cases h
        exact .nested ‹_› ‹_›
      · cases h
    · cases h
  · rintro (h | ⟨h, hinner⟩)
    · rw [arrayAt, h]
    · simp only [arrayAt, h, hinner]

/-- What the record holds as its repeated part is what is read. -/
theorem entries_of_holds (h : Holds c fs xs) : entries c fs = xs := by
  rcases h with hx | ⟨hother, hnone, hx⟩
  · rw [entries, arrayAt_eq_some_iff.2 hx]
    rfl
  · have hvacant : arrayAt c.key c.name fs = none :=
      Option.eq_none_iff_forall_ne_some.2 fun ys hys => hnone ys (arrayAt_eq_some_iff.1 hys)
    rw [entries, hvacant, hother, Option.bind_some, arrayAt_eq_some_iff.2 hx]
    rfl

end Arrays

/-! ## Reshaped records are alike -/

section Reshaped

variable {k : Kind} {fs fs' : Fields}

theorem kindName_of_pick (h : pick Names.kind fs = pick Names.kind fs') :
    kindName fs = kindName fs' := by
  rw [kindName, kindName, textOf, textOf, h]

theorem mem_nameLists_of_mem_fields {names : List String} (h : names ∈ k.fields) :
    names ∈ k.nameLists := by
  simp [Kind.nameLists, h]

theorem mem_nameLists_of_part {c : Collection} (h : k.part? = some c) :
    c.names ∈ k.nameLists := by
  simp [Kind.nameLists, h]

theorem kind_mem_nameLists : Names.kind ∈ k.nameLists := by
  simp [Kind.nameLists]

/-- Moving the kind or the value of a field leaves the record alike. -/
theorem alike_of_renamed {names : List String} (hn : names ∈ k.nameLists)
    (hpart : ∀ c, k.part? = some c → names ≠ c.names) (h : Renamed names fs fs') :
    Alike k fs fs' where
  fields := fun others ho => givesAlike_of_renamed (nodup_nameLists k) hn h others
    (mem_nameLists_of_mem_fields ho)
  parts := fun c hc => forall₂_entryAlike_of_eq (entries_of_agreeBut h.1
    ((eq_or_disjoint (nodup_nameLists k) hn (mem_nameLists_of_part hc)).resolve_left
      (hpart c hc)))

/-- **A record that is reshaped is of the same kind and says the same.** -/
theorem alike_of_reshaped (h : Reshaped fs fs') : kindName fs = kindName fs' ∧
    ∀ k, Kind.ofName? (kindName fs) = some k → Alike k fs fs' := by
  have hsame : ∀ {k k' : Kind}, k.name = kindName fs → Kind.ofName? (kindName fs) = some k' →
      k' = k := fun hk hk' => Option.some.inj (hk'.symm.trans (ofName?_eq_some_iff.2 hk))
  cases h with
  | kind hmoved =>
    refine ⟨kindName_of_pick (pick_of_renamed hmoved), fun k _ =>
      alike_of_renamed kind_mem_nameLists (fun c hc => ?_) hmoved⟩
    cases k <;> cases hc <;> decide
  | @field k names _ _ hk hn hmoved =>
    have hmem := mem_nameLists_of_mem_fields hn
    refine ⟨kindName_of_pick (givesAlike_of_renamed (nodup_nameLists k) hmem hmoved _
      kind_mem_nameLists), fun k' hk' => ?_⟩
    obtain rfl := hsame hk hk'
    refine alike_of_renamed hmem (fun c hc => ?_) hmoved
    rintro rfl
    cases k' <;> cases hc <;> revert hn <;> decide
  | @part k c xs ys _ _ hk hc hx hy hentries hrest =>
    have hdisjoint : ∀ others ∈ k.nameLists, others ≠ c.names → c.names.Disjoint others :=
      fun others ho hne => (eq_or_disjoint (nodup_nameLists k) (mem_nameLists_of_part hc)
        ho).resolve_left fun heq => hne heq.symm
    refine ⟨kindName_of_pick (pick_of_agreeBut hrest (hdisjoint _ kind_mem_nameLists ?_)),
      fun k' hk' => ?_⟩
    · cases k <;> cases hc <;> decide
    · obtain rfl := hsame hk hk'
      refine ⟨fun others ho => pick_of_agreeBut hrest (hdisjoint others
        (mem_nameLists_of_mem_fields ho) ?_), fun c' hc' => ?_⟩
      · rintro rfl
        cases k' <;> cases hc <;> revert ho <;> decide
      · obtain rfl : c = c' := Option.some.inj (hc.symm.trans hc')
        rw [entries_of_holds hx, entries_of_holds hy]
        exact hentries.imp fun _ _ => entryAlike_of_renamed (nodup_entryFields k')

end Reshaped

/-- **The shapes of producers agree.**  However often the values and arrays of a record are moved
    to other names and shapes, it is read into the same item or splash, or is dropped or refused
    for the same reason, and the counts of what is left out are the same. -/
theorem shapes_agree {fs fs' : Fields} (h : Relation.ReflTransGen Reshaped fs fs')
    (policy : Policy) (d : Drops) :
    exec (normalize policy (.object fs)) d = exec (normalize policy (.object fs')) d := by
  have hread : readRecord policy (.object fs) = readRecord policy (.object fs') := by
    induction h with
    | refl => rfl
    | tail _ hstep ih =>
      obtain ⟨hkind, halike⟩ := alike_of_reshaped hstep
      exact ih.trans (readRecord_of_alike policy hkind halike)
  rw [exec_normalize, exec_normalize, hread]

/-- A list with an entry and a stray number, as a workflow writes it. -/
def flatList : Fields :=
  [("type", .text "list"), ("title", .text "T"), ("ordered", .text "TRUE"),
    ("items", .array [.object [("text", .text "a"), ("bot_action", .text "custom"),
      ("customAction", .text "go")], .int 5])]

/-- The same list, as an editor writes it. -/
def nestedList : Fields :=
  [("kind", .text "list"), ("listTitle", .text "T"), ("listOrdered", .text "TRUE"),
    ("listItems", .object [("item", .array [.object [("text", .text "a"),
      ("action", .text "custom"), ("custom_action", .text "go")], .int 5])])]

/-- Both are read into the list, whose stray entry is counted. -/
theorem both_lists_agree :
    exec (normalize .strict (.object flatList)) {} = (.ok (some (.item (.list
      ⟨some "T", none, true, none, [⟨some "a", some "go", none⟩]⟩))), { malformed := 1 }) ∧
    Relation.ReflTransGen Reshaped flatList nestedList ∧
    exec (normalize .strict (.object flatList)) {} =
      exec (normalize .strict (.object nestedList)) {} := by
  have hkind : Reshaped flatList (nestedList.take 1 ++ flatList.drop 1) :=
    .kind (renamed_in_place [] (by decide) (by decide) (by decide) _)
  have htitle : Reshaped (nestedList.take 1 ++ flatList.drop 1)
      (nestedList.take 2 ++ flatList.drop 2) :=
    .field (k := .list) (by decide) (show Names.listTitle ∈ _ by decide)
      (renamed_in_place (nestedList.take 1) (by decide) (by decide) (by decide) _)
  have hordered : Reshaped (nestedList.take 2 ++ flatList.drop 2)
      (nestedList.take 3 ++ flatList.drop 3) :=
    .field (k := .list) (by decide) (show Names.listOrdered ∈ _ by decide)
      (renamed_in_place (nestedList.take 2) (by decide) (by decide) (by decide) _)
  have hentry : EntryRenamed entryFields
      (.object [("text", .text "a"), ("bot_action", .text "custom"), ("customAction", .text "go")])
      (.object [("text", .text "a"), ("action", .text "custom"),
        ("custom_action", .text "go")]) := by
    refine .object (.tail (b := [("text", .text "a"), ("action", .text "custom"),
      ("customAction", .text "go")]) (.single ⟨Names.action, by decide, ?_⟩)
      ⟨Names.entryCustomAction, by decide, ?_⟩)
    · exact renamed_in_place [("text", .text "a")]
        (by decide) (by decide) (by decide) _
    · exact renamed_in_place [("text", .text "a"), ("action", .text "custom")]
        (by decide) (by decide) (by decide) _
  have hpart : Reshaped (nestedList.take 3 ++ flatList.drop 3) nestedList := by
    refine .part (k := .list) (c := listEntries) (by decide) rfl (.here (.plain rfl))
      (.there rfl ?_ (.nested rfl rfl)) (.cons hentry (.cons (.same _) .nil)) ?_
    · rintro ys (h | ⟨h, -⟩) <;> cases h
    · intro n hn
      simp only [Collection.names, listEntries, Option.toList_some, List.mem_cons,
        List.not_mem_nil, or_false, not_or] at hn
      simp [flatList, nestedList, Json.get?_cons, hn]
  have h := (((Relation.ReflTransGen.single hkind).tail htitle).tail hordered).tail hpart
  exact ⟨by decide, h, shapes_agree h .strict {}⟩

end ChatRelay.Content

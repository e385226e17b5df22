/-
  Which splash takes over a message.

  `Selected` tells the splash of a message by the results of its records in their
  order: the first splash record, or else the first buttons item with a splash
  button, which shows the first plain text of the whole message.

  * `selected_ofResults`: putting results together selects that splash;
  * `splash_ofResults_insert`: a later splash, and a later buttons item with a
    splash button, do not count;
  * `splash_selected`: both of them for the records of a message.
-/
import ChatRelay.Proofs.Content.Reading
import Mathlib.Data.List.ReduceOption

namespace ChatRelay.Content

/-! ## The selection -/

/-- A buttons item that asks for a splash. -/
def Item.IsSplashBlock (i : Item) : Prop := ∃ bs, i = .buttons bs ∧ ∃ b ∈ bs, b.isSplash = true

/-- The plain text that items show: that of the first text item where it is not empty, and
    the empty one if there is none. -/
inductive ShowsText (items : List Item) : String → Prop
  | first {before after : List Item} {text plain : String} :
      items = before ++ .text text plain :: after → plain ≠ "" →
      (∀ w p, .text w p ∈ before → p = "") → ShowsText items plain
  | nowhere : (∀ w p, .text w p ∈ items → p = "") → ShowsText items ""

/-- The items among results, in order. -/
def itemsOf (rs : List Normalized) : List Item := rs.filterMap Normalized.item?

/-- The splash that results select: the first one among them; without one, that of the first
    splash button of the first buttons item that has any; without that, none. -/
inductive Selected (rs : List Normalized) : Option Splash → Prop
  | given {before after : List Normalized} {s : Splash} :
      rs = before ++ .splash s :: after → (∀ s', .splash s' ∉ before) → Selected rs (some s)
  | promoted {before after : List Item} {bs earlier later : List Button} {b : Button}
      {plain : String} :
      (∀ s, .splash s ∉ rs) →
      itemsOf rs = before ++ .buttons bs :: after → (∀ i ∈ before, ¬ i.IsSplashBlock) →
      bs = earlier ++ b :: later → b.isSplash = true → (∀ b' ∈ earlier, b'.isSplash = false) →
      ShowsText (itemsOf rs) plain →
      Selected rs (some { title := b.splashTitle.getD "", text := plain, buttons := bs })
  | nothing : (∀ s, .splash s ∉ rs) → (∀ i ∈ itemsOf rs, ¬ i.IsSplashBlock) → Selected rs none

section Items

variable {i : Item} {s : Splash}

theorem promotion?_eq_none_iff : i.promotion? = none ↔ ¬ i.IsSplashBlock := by
  cases i with
  | buttons bs =>
    simp only [Item.promotion?, Item.buttons?, Option.bind_eq_bind, Option.bind_some,
      Option.bind_eq_none_iff, reduceCtorEq, Item.IsSplashBlock, Item.buttons.injEq,
      exists_eq_left', ← List.find?_isSome, Option.isSome_iff_exists]
    simp
  | _ => simp [Item.promotion?, Item.buttons?, Item.IsSplashBlock]

theorem promotion?_eq_some_iff : i.promotion? = some s ↔
    ∃ bs earlier b later, i = .buttons bs ∧ bs = earlier ++ b :: later ∧ b.isSplash = true ∧
      (∀ b' ∈ earlier, b'.isSplash = false) ∧
      s = { title := b.splashTitle.getD "", text := "", buttons := bs } := by
  cases i with
  | buttons bs =>
    simp only [Item.promotion?, Item.buttons?, Option.bind_eq_bind, Option.bind_some,
      Option.bind_eq_some_iff, List.find?_eq_some_iff_append]
    constructor
    · rintro ⟨b, ⟨hb, earlier, later, hbs, hearlier⟩, hs⟩
      exact ⟨bs, earlier, b, later, rfl, hbs, hb, by simpa using hearlier,
        (Option.some.inj hs).symm⟩
    · rintro ⟨bs', earlier, b, later, hi, hbs, hb, hearlier, rfl⟩
      cases hi
      exact ⟨b, ⟨hb, earlier, later, hbs, by simpa using hearlier⟩, rfl⟩
  | _ => simp [Item.promotion?, Item.buttons?]

theorem plainText?_eq_none_iff : i.plainText? = none ↔ ∀ w p, i = .text w p → p = "" := by
  cases i <;> simp [Item.plainText?]

theorem plainText?_eq_some_iff {plain : String} :
    i.plainText? = some plain ↔ ∃ w, i = .text w plain ∧ plain ≠ "" := by
  cases i with
  | text w p =>
    by_cases hp : p = ""
    · subst hp
      have hnone : (Item.text w "").plainText? = none := rfl
      rw [hnone]
      constructor
      · nofun
      · rintro ⟨_, h, hne⟩
        cases h
        exact absurd rfl hne
    · have hsome : (Item.text w p).plainText? = some p := by simp [Item.plainText?, hp]
      rw [hsome]
      constructor
      · intro h
        cases h
        exact ⟨w, rfl, hp⟩
      · rintro ⟨_, h, -⟩
        cases h
        rfl
  | _ => simp [Item.plainText?]

/-- Buttons show no text. -/
theorem plainText?_of_isSplashBlock (h : i.IsSplashBlock) : i.plainText? = none := by
  obtain ⟨bs, rfl, -⟩ := h
  rfl

theorem showsText_firstPlainText (items : List Item) :
    ShowsText items ((firstPlainText items).getD "") := by
  cases h : firstPlainText items with
  | none =>
    refine .nowhere fun w p hmem => ?_
    exact plainText?_eq_none_iff.1 (List.findSome?_eq_none_iff.1 h _ hmem) w p rfl
  | some plain =>
    obtain ⟨before, i, after, rfl, hi, hbefore⟩ := List.findSome?_eq_some_iff.1 h
    obtain ⟨w, rfl, hne⟩ := plainText?_eq_some_iff.1 hi
    exact .first rfl hne fun w' p hmem =>
      plainText?_eq_none_iff.1 (hbefore _ hmem) w' p rfl

end Items

/-! ## Putting results together -/

section Results

variable {rs before after : List Normalized}

theorem itemsOf_append (rs qs : List Normalized) : itemsOf (rs ++ qs) = itemsOf rs ++ itemsOf qs :=
  List.filterMap_append

theorem itemsOf_splash (s : Splash) (rs : List Normalized) :
    itemsOf (.splash s :: rs) = itemsOf rs := List.filterMap_cons_none rfl

theorem itemsOf_item (i : Item) (rs : List Normalized) :
    itemsOf (.item i :: rs) = i :: itemsOf rs := List.filterMap_cons_some rfl

theorem findSome?_splash (s : Splash) (rs : List Normalized) :
    (Normalized.splash s :: rs).findSome? Normalized.splash? = some s :=
  List.findSome?_cons_of_isSome rfl

theorem findSome?_item (i : Item) (rs : List Normalized) :
    (Normalized.item i :: rs).findSome? Normalized.splash? = rs.findSome? Normalized.splash? :=
  List.findSome?_cons_of_isNone rfl

/-- One result after the other is taken in: the first splash and the first promotion are kept. -/
theorem foldl_add (rs : List Normalized) (a : Assembly) : rs.foldl Assembly.add a = {
    items := a.items ++ itemsOf rs
    given := a.given.or (rs.findSome? Normalized.splash?)
    promoted := a.promoted.or ((itemsOf rs).findSome? Item.promotion?) } := by
  induction rs generalizing a with
  | nil => simp [itemsOf]
  | cons r rs ih =>
    rw [List.foldl_cons, ih]
    cases r with
    | splash s =>
      rw [itemsOf_splash, findSome?_splash, Assembly.add, Option.or_assoc, Option.some_or]
    | item i =>
      rw [itemsOf_item, findSome?_item, Assembly.add, List.findSome?_cons, Option.or_assoc,
        List.append_assoc, List.singleton_append]
      cases i.promotion? <;> rfl

theorem items_ofResults (rs : List Normalized) : (Bundle.ofResults rs).items = itemsOf rs := by
  simp [Bundle.ofResults, Assembly.bundle, foldl_add]

theorem splash_ofResults (rs : List Normalized) : (Bundle.ofResults rs).splash =
    (rs.findSome? Normalized.splash?).or (((itemsOf rs).findSome? Item.promotion?).map fun s =>
      { s with text := (firstPlainText (itemsOf rs)).getD "" }) := by
  simp [Bundle.ofResults, Assembly.bundle, foldl_add]

theorem splash?_eq_some_iff {r : Normalized} {s : Splash} :
    r.splash? = some s ↔ r = .splash s := by
  cases r <;> simp [Normalized.splash?]

theorem findSome?_splash?_eq_none_iff :
    rs.findSome? Normalized.splash? = none ↔ ∀ s, .splash s ∉ rs := by
  rw [List.findSome?_eq_none_iff]
  constructor
  · intro h s hmem
    simpa [Normalized.splash?] using h _ hmem
  · intro h r hmem
    cases r with
    | item i => rfl
    | splash s => exact absurd hmem (h s)

/-- **Putting results together selects their splash.** -/
theorem selected_ofResults (rs : List Normalized) : Selected rs (Bundle.ofResults rs).splash := by
  rw [splash_ofResults]
  cases hs : rs.findSome? Normalized.splash? with
  | some s =>
    obtain ⟨before, r, after, rfl, hr, hbefore⟩ := List.findSome?_eq_some_iff.1 hs
    cases splash?_eq_some_iff.1 hr
    exact .given rfl (findSome?_splash?_eq_none_iff.1 (List.findSome?_eq_none_iff.2 hbefore))
  | none =>
    have hnone := findSome?_splash?_eq_none_iff.1 hs
    cases hp : (itemsOf rs).findSome? Item.promotion? with
    | none =>
      exact .nothing hnone fun i hi =>
        promotion?_eq_none_iff.1 (List.findSome?_eq_none_iff.1 hp i hi)
    | some s =>
      obtain ⟨before, i, after, hitems, hi, hbefore⟩ := List.findSome?_eq_some_iff.1 hp
      obtain ⟨bs, earlier, b, later, rfl, hbs, hb, hearlier, rfl⟩ := promotion?_eq_some_iff.1 hi
      exact .promoted hnone hitems (fun j hj => promotion?_eq_none_iff.1 (hbefore j hj)) hbs hb
        hearlier (showsText_firstPlainText _)

/-- The result cannot change the splash when it comes after the others: it is a splash after a
    splash, or a buttons item with a splash button after another one. -/
inductive Normalized.Late (before : List Normalized) : Normalized → Prop
  | splash {s s' : Splash} : .splash s' ∈ before → Late before (.splash s)
  | block {i j : Item} : i.IsSplashBlock → .item j ∈ before → j.IsSplashBlock →
      Late before (.item i)

/-- **What comes late does not change the splash.** -/
theorem splash_ofResults_insert {r : Normalized} (h : r.Late before) (after : List Normalized) :
    (Bundle.ofResults (before ++ r :: after)).splash =
      (Bundle.ofResults (before ++ after)).splash := by
  rw [splash_ofResults, splash_ofResults]
  cases h with
  | @splash s s' hmem =>
    -- the items are the same, and the first splash stands before the late one
    have hitems : itemsOf (before ++ .splash s :: after) = itemsOf (before ++ after) := by
      rw [itemsOf_append, itemsOf_append, itemsOf_splash]
    have hsome : (before.findSome? Normalized.splash?).isSome = true :=
      List.findSome?_isSome_iff.2 ⟨_, hmem, rfl⟩
    obtain ⟨t, ht⟩ := Option.isSome_iff_exists.1 hsome
    rw [hitems]
    simp [ht]
  | @block i j hi hmem hj =>
    have hsplash : (before ++ .item i :: after).findSome? Normalized.splash? =
        (before ++ after).findSome? Normalized.splash? := by
      rw [List.findSome?_append, List.findSome?_append, findSome?_item]
    have hitems : itemsOf (before ++ .item i :: after) = itemsOf before ++ i :: itemsOf after := by
      rw [itemsOf_append, itemsOf_item]
    have htext : firstPlainText (itemsOf before ++ i :: itemsOf after) =
        firstPlainText (itemsOf before ++ itemsOf after) := by
      simp [firstPlainText, List.findSome?_append, plainText?_of_isSplashBlock hi]
    have hfirst : ((itemsOf before).findSome? Item.promotion?).isSome = true := by
      have hj' : j.promotion? ≠ none := fun h => promotion?_eq_none_iff.1 h hj
      exact List.findSome?_isSome_iff.2 ⟨j, List.mem_filterMap.2 ⟨_, hmem, rfl⟩,
        Option.isSome_iff_ne_none.2 hj'⟩
    obtain ⟨t, ht⟩ := Option.isSome_iff_exists.1 hfirst
    rw [hsplash, hitems, itemsOf_append, htext]
    simp [ht]

end Results

/-! ## The records of a message -/

/-- Reading the record ends in the result, none if the record is dropped. -/
def Gives (policy : Policy) (r : Json) (o : Option Normalized) : Prop :=
  ∀ d, ∃ d', exec (normalize policy r) d = (.ok o, d')

/-- The record has no say in the splash of a message where it comes after others: it is dropped,
    or it is a splash record after another one, or it gives a buttons item with a splash button,
    and so does a record before it. -/
inductive Redundant (policy : Policy) (before : List Json) (r : Json) : Prop
  | dropped : Gives policy r none → Redundant policy before r
  | splash {q : Json} {s s' : Splash} : q ∈ before → Gives policy q (some (.splash s')) →
      Gives policy r (some (.splash s)) → Redundant policy before r
  | block {q : Json} {i j : Item} : q ∈ before → Gives policy q (some (.item j)) →
      j.IsSplashBlock → Gives policy r (some (.item i)) → i.IsSplashBlock →
      Redundant policy before r

section Records

variable {policy : Policy} {r : Json} {before records : List Json} {rs : List Normalized}

theorem gives_iff {o : Option Normalized} : Gives policy r o ↔ (readRecord policy r).1 = .ok o := by
  simp only [Gives, exec_normalize]
  constructor
  · intro h
    obtain ⟨d', hd⟩ := h {}
    exact congrArg Prod.fst hd
  · intro h d
    exact ⟨_, by rw [h]⟩

/-- Records are read into the results that are not dropped, in order. -/
theorem readAll_eq_ok_iff : (readAll policy records).1 = .ok rs ↔
    ∃ os, List.Forall₂ (Gives policy) records os ∧ os.reduceOption = rs := by
  induction records generalizing rs with
  | nil =>
    constructor
    · intro h
      cases h
      exact ⟨[], .nil, rfl⟩
    · rintro ⟨os, hos, rfl⟩
      cases hos
      rfl
  | cons r records ih =>
    rw [readAll_cons]
    constructor
    · intro h
      obtain ⟨o, ho, h⟩ := ok_of_bind h
      obtain ⟨rs', hrs, rfl⟩ := ok_of_map h
      obtain ⟨os, hos, rfl⟩ := ih.1 hrs
      exact ⟨o :: os, .cons (gives_iff.2 ho) hos, by cases o <;> simp⟩
    · rintro ⟨os, hos, rfl⟩
      cases hos with
      | @cons _ o _ os ho hos =>
        have hrest := ih.2 ⟨os, hos, rfl⟩
        rw [gives_iff.1 ho, hrest]
        cases o <;> simp [Except.bind, Except.map]

theorem readAll_append (policy : Policy) (before after : List Json) :
    (readAll policy (before ++ after)).1 = (readAll policy before).1.bind fun rs =>
      (readAll policy after).1.map (rs ++ ·) := by
  induction before with
  | nil =>
    change (readAll policy after).1 = (readAll policy after).1.map ([] ++ ·)
    cases (readAll policy after).1 <;> rfl
  | cons r before ih =>
    rw [List.cons_append, readAll_cons, readAll_cons, ih]
    cases (readRecord policy r).1 with
    | error e => rfl
    | ok o =>
      cases (readAll policy before).1 with
      | error e => rfl
      | ok rs => cases (readAll policy after).1 <;> simp [Except.bind, Except.map]

/-- What a record gives is among the results. -/
theorem mem_of_readAll {q : Json} {x : Normalized} (h : (readAll policy records).1 = .ok rs)
    (hq : q ∈ records) (hx : Gives policy q (some x)) : x ∈ rs := by
  obtain ⟨os, hos, rfl⟩ := readAll_eq_ok_iff.1 h
  obtain ⟨o, ho, hqo⟩ := exists_of_forall₂_left hos q hq
  have heq : o = some x := Except.ok.inj ((gives_iff.1 hqo).symm.trans (gives_iff.1 hx))
  exact List.reduceOption_mem_iff.2 (heq ▸ ho)

theorem late_of_redundant (h : Redundant policy before r)
    (hrs : (readAll policy before).1 = .ok rs) :
    Gives policy r none ∨ ∃ x, Gives policy r (some x) ∧ x.Late rs := by
  cases h with
  | dropped hr => exact Or.inl hr
  | splash hq hq' hr => exact Or.inr ⟨_, hr, .splash (mem_of_readAll hrs hq hq')⟩
  | block hq hq' hj hr hi => exact Or.inr ⟨_, hr, .block hi (mem_of_readAll hrs hq hq') hj⟩

theorem exists_gives (h : Redundant policy before r) : ∃ o, Gives policy r o := by
  cases h with
  | dropped hr => exact ⟨_, hr⟩
  | splash _ _ hr => exact ⟨_, hr⟩
  | block _ _ _ hr _ => exact ⟨_, hr⟩

/-- A redundant record changes neither whether a message is read nor its splash. -/
theorem splash_readAll_insert (h : Redundant policy before r) (after : List Json) :
    (readAll policy (before ++ r :: after)).1.map (fun rs => (Bundle.ofResults rs).splash) =
      (readAll policy (before ++ after)).1.map fun rs => (Bundle.ofResults rs).splash := by
  obtain ⟨o, ho⟩ := exists_gives h
  rw [readAll_append, readAll_append, readAll_cons, gives_iff.1 ho]
  cases hb : (readAll policy before).1 with
  | error e => rfl
  | ok rs =>
    cases (readAll policy after).1 with
    | error e => rfl
    | ok qs =>
      change Except.ok (Bundle.ofResults (rs ++ (o.toList ++ qs))).splash =
        Except.ok (Bundle.ofResults (rs ++ qs)).splash
      rcases late_of_redundant h hb with hr | ⟨x, hr, hlate⟩
      · obtain rfl : o = none := Except.ok.inj ((gives_iff.1 ho).symm.trans (gives_iff.1 hr))
        rfl
      · obtain rfl : o = some x := Except.ok.inj ((gives_iff.1 ho).symm.trans (gives_iff.1 hr))
        exact congrArg Except.ok (splash_ofResults_insert hlate qs)

theorem exists_of_splash_eq {other : List Json} {d d' : Drops} {b : Bundle}
    (h : exec (Bundle.ofRecords policy records) d = (.ok b, d'))
    (hsame : (readAll policy other).1.map (fun rs => (Bundle.ofResults rs).splash) =
      (readAll policy records).1.map fun rs => (Bundle.ofResults rs).splash) :
    ∃ b₁ d₁, exec (Bundle.ofRecords policy other) d = (.ok b₁, d₁) ∧ b₁.splash = b.splash := by
  rw [exec_ofRecords] at h
  obtain ⟨rs, hrs, rfl⟩ := ok_of_map (congrArg Prod.fst h)
  rw [hrs] at hsame
  obtain ⟨qs, hqs, hsplash⟩ := ok_of_map hsame
  exact ⟨_, _, by rw [exec_ofRecords, hqs]; rfl, hsplash⟩

end Records

/-- **The splash of a message.**  A message that is read has the items among the results of its
    records, in order, and the splash that these results select.  It keeps this splash when a
    redundant record is put in or taken out. -/
theorem splash_selected {policy : Policy} {records : List Json} {d d' : Drops} {b : Bundle}
    (h : exec (Bundle.ofRecords policy records) d = (.ok b, d')) :
    (∃ os, List.Forall₂ (Gives policy) records os ∧ b.items = itemsOf os.reduceOption ∧
      Selected os.reduceOption b.splash) ∧
    (∀ before r after, records = before ++ after → Redundant policy before r →
      ∃ b₁ d₁, exec (Bundle.ofRecords policy (before ++ r :: after)) d = (.ok b₁, d₁) ∧
        b₁.splash = b.splash) ∧
    ∀ before r after, records = before ++ r :: after → Redundant policy before r →
      ∃ b₁ d₁, exec (Bundle.ofRecords policy (before ++ after)) d = (.ok b₁, d₁) ∧
        b₁.splash = b.splash := by
  refine ⟨?_, ?_, ?_⟩
  · rw [exec_ofRecords] at h
    obtain ⟨rs, hrs, rfl⟩ := ok_of_map (congrArg Prod.fst h)
    obtain ⟨os, hos, rfl⟩ := readAll_eq_ok_iff.1 hrs
    exact ⟨os, hos, items_ofResults _, selected_ofResults _⟩
  · rintro before r after rfl hr
    exact exists_of_splash_eq h (splash_readAll_insert hr after)
  · rintro before r after rfl hr
    exact exists_of_splash_eq h (splash_readAll_insert hr after).symm

/-- A block whose second button asks for a splash, before the text that the splash shows. -/
theorem selected_before_text : ∃ os, List.Forall₂ (Gives .strict)
    [.object [("type", .text "buttons"), ("buttons", .array [
      .object [("text", .text "A")],
      .object [("text", .text "B"), ("type", .text "splash"), ("title", .text "T")]])],
      .object [("text", .text "Hi")]] os ∧
    [.buttons [{ text := "A" }, { text := "B", style := some .splash, splashTitle := some "T" }],
      .text "Hi" "Hi"] = itemsOf os.reduceOption ∧
    Selected os.reduceOption (some { title := "T", text := "Hi", buttons := [
      { text := "A" }, { text := "B", style := some .splash, splashTitle := some "T" }] }) :=
  (splash_selected (show exec (Bundle.ofRecords .strict _) {} = (.ok ⟨_, _⟩, {}) by
    decide +kernel)).1

end ChatRelay.Content

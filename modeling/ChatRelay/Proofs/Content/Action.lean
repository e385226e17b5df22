/-
  The actions of buttons, cards and list entries.

  An action is selected by name, and the selector `custom` stands for what a companion field
  holds.  `Site` lists the parts that may have an action and under which names it stands in
  their records; the names are not the same for all of them.  `Bears` finds these parts in a
  record and `Shows` in what is written for it, so that `actions_resolved` can say for all of
  them at once which action is written.
-/
import ChatRelay.Proofs.Content.Refusal
import ChatRelay.Proofs.Lookup

namespace ChatRelay.Content

/-! ## Parts with an action -/

/-- A part that may have an action. -/
inductive Site where
  | button
  | entry
  | cardButton

/-- The names of the selector. -/
def Site.selector : Site → List String
  | button | entry => ["bot_action", "action"]
  | cardButton => ["buttonAction", "cardButtonAction"]

/-- The names of the custom action. -/
def Site.companion : Site → List String
  | button => ["customAction", "custom_action", "customBotAction"]
  | entry => ["customAction", "custom_action"]
  | cardButton => ["customAction", "cardCustomAction", "buttonCustomAction"]

/-- A record of the kind has such a part, the `i`-th of its repeated part, which is read from the
    object `r`.  Cards have one only if they have a text for a button. -/
inductive Bears (fs : Fields) : Kind → Nat → Site → Fields → Prop
  | buttons {i r} : (subrecords buttonEntries fs)[i]? = some r → Bears fs .buttons i .button r
  | splash {i r} : (subrecords buttonEntries fs)[i]? = some r → Bears fs .splash i .button r
  | list {i r} : (subrecords listEntries fs)[i]? = some r → Bears fs .list i .entry r
  | card : GivesScalar ["buttonText", "cardButtonText"] fs → Bears fs .card 0 .cardButton fs
  | carousel {i r} : (subrecords cardEntries fs)[i]? = some r →
      GivesScalar ["buttonText", "cardButtonText"] r → Bears fs .carousel i .cardButton r

/-- The object is what is written for the `i`-th of these parts. -/
inductive Shows : Kind → Json → Nat → Fields → Prop
  | buttons {k fs ws i w} : k = .buttons ∨ k = .splash → Json.get? fs "buttons" = some (.array ws) →
      ws[i]? = some (.object w) → Shows k (.object fs) i w
  | list {fs inner ws i w} : Json.get? fs "list" = some (.object inner) →
      Json.get? inner "items" = some (.array ws) → ws[i]? = some (.object w) →
      Shows .list (.object fs) i w
  | card {fs w} : Json.get? fs "button" = some (.object w) → Shows .card (.object fs) 0 w
  | carousel {fs ws i c w} : Json.get? fs "items" = some (.array ws) → ws[i]? = some (.object c) →
      Json.get? c "button" = some (.object w) → Shows .carousel (.object fs) i w

/-- What is written for a result. -/
def Normalized.wire : Normalized → Json
  | item i => i.wire
  | splash s => s.wire

/-- The custom action is selected and none is given. -/
def Site.Unresolved (s : Site) (r : Fields) : Prop :=
  textOf s.selector r = some "custom" ∧ ¬ GivesScalar s.companion r

/-- The action that a part gets from its record. -/
structure Site.Resolves (s : Site) (r : Fields) (action : Option String) : Prop where
  custom : ∀ v, textOf s.selector r = some "custom" → FirstGiven s.companion r (.text v) →
    action = some v
  unresolved : s.Unresolved r → action = none
  passed : ∀ a, textOf s.selector r = some a → a ≠ "custom" → action = some a
  unselected : textOf s.selector r = none → action = none

section Resolving

variable {s : Site} {r : Fields}

/-- A text that is given is what the field says. -/
theorem textOf_of_firstGiven {names : List String} {v : String}
    (h : FirstGiven names r (.text v)) : textOf names r = some v := by
  rw [textOf, pick_eq_some_iff.2 h]
  rfl

theorem Site.unresolved_iff : s.Unresolved r ↔ Content.Unresolved s.selector s.companion r := by
  unfold Site.Unresolved Content.Unresolved
  rw [← isSome_textOf, Option.not_isSome_iff_eq_none]

/-- **An action is resolved leniently.** -/
theorem resolves_of_actionOf {action : Option String}
    (h : actionOf .lenient s.selector s.companion r = .ok action) : s.Resolves r action := by
  unfold actionOf resolveAction at h
  split at h
  · rename_i hs
    cases h
    exact {
      custom := fun v hcustom => absurd hcustom hs
      unresolved := fun hu => absurd hu.1 hs
      passed := fun a ha _ => ha
      unselected := id }
  · rename_i hs
    have hs : textOf s.selector r = some "custom" := not_not.1 hs
    exact {
      custom := fun v _ hv => by
        have htext := textOf_of_firstGiven hv
        have hne : v.isEmpty = false := by simpa using textOf_ne_empty htext
        rw [htext] at h
        simp only [Option.filter_some, hne, Bool.not_false, if_true] at h
        cases h
        rfl
      unresolved := fun hu => by
        rw [(Site.unresolved_iff.1 hu).2] at h
        cases h
        rfl
      passed := fun a ha hne => absurd (Option.some.inj (ha.symm.trans hs)) hne
      unselected := fun hnone => by
        cases hnone.symm.trans hs }

end Resolving

/-! ## What is written -/

/-- The object on the wire has the action that the record gives. -/
def Site.Answers (s : Site) (r w : Fields) : Prop :=
  ∃ action, s.Resolves r action ∧ Json.get? w "bot_action" = action.map .text

section Written

variable {r : Fields}

theorem get?_action_button (b : Button) :
    ∃ w, b.wire = .object w ∧ Json.get? w "bot_action" = b.action.map .text :=
  ⟨_, rfl, get?_present_of_mem (by
    change ["text", "bot_action", "link", "icon", "type", "title"].Nodup
    decide) (by simp [wireText])⟩

theorem get?_action_entry (e : Entry) :
    ∃ w, e.wire = .object w ∧ Json.get? w "bot_action" = e.action.map .text :=
  ⟨_, rfl, get?_present_of_mem (by
    change ["text", "bot_action", "link"].Nodup
    decide) (by simp [wireText])⟩

theorem get?_button_card (c : Card) :
    ∃ w, c.wire = .object w ∧ Json.get? w "button" = c.button.map Button.wire :=
  ⟨_, rfl, get?_present_of_mem (by
    change ["type", "title", "subtitle", "text", "image", "button"].Nodup
    decide) (by simp [Card.parts])⟩

theorem get?_items_listing (l : Listing) : ∃ w, l.wire = .object w ∧
    Json.get? w "items" = some (.array (l.entries.map Entry.wire)) :=
  ⟨_, rfl, get?_present_of_mem (by
    change ["title", "text", "ordered", "footer", "items"].Nodup
    decide) (by simp)⟩

theorem answers_button {b : Button} (h : button .lenient r = .ok b) :
    ∃ w, b.wire = .object w ∧ Site.button.Answers r w := by
  obtain ⟨w, hw, hget⟩ := get?_action_button b
  obtain ⟨action, ha, hb⟩ := ok_of_bind h
  cases hb
  exact ⟨w, hw, action, resolves_of_actionOf ha, hget⟩

theorem answers_listEntry {e : Entry} (h : listEntry .lenient r = .ok e) :
    ∃ w, e.wire = .object w ∧ Site.entry.Answers r w := by
  obtain ⟨w, hw, hget⟩ := get?_action_entry e
  obtain ⟨action, ha, he⟩ := ok_of_bind h
  cases he
  exact ⟨w, hw, action, resolves_of_actionOf ha, hget⟩

/-- A card shows a button if its record has a text for one. -/
def ButtonAnswers (r w : Fields) : Prop := GivesScalar ["buttonText", "cardButtonText"] r →
  ∃ b, Json.get? w "button" = some (.object b) ∧ Site.cardButton.Answers r b

theorem answers_card {c : Card} (h : card .lenient r = .ok c) :
    ∃ w, c.wire = .object w ∧ ButtonAnswers r w := by
  obtain ⟨w, hw, hget⟩ := get?_button_card c
  refine ⟨w, hw, fun hgiven => ?_⟩
  obtain ⟨text, htext⟩ := Option.isSome_iff_exists.1 (isSome_textOf.2 hgiven)
  obtain ⟨o, ho, hc⟩ := ok_of_bind h
  cases hc
  rw [cardButton, show textOf Names.cardButton r = some text from htext] at ho
  obtain ⟨action, ha, hb⟩ := ok_of_bind ho
  cases hb
  obtain ⟨b, hwire, hbutton⟩ := get?_action_button { text, action }
  exact ⟨b, hget.trans (congrArg some hwire), action, resolves_of_actionOf ha, hbutton⟩

/-- What the parts of a lenient reading hold on the wire, where each of them is an object. -/
theorem exists_part {α : Type} {read : Fields → Except ContentError α} {wire : α → Json}
    {P : Fields → Fields → Prop} (hpart : ∀ {r y}, read r = .ok y → ∃ w, wire y = .object w ∧ P r w)
    {xs : List Fields} {ys : List α} (h : xs.mapM read = .ok ys) {i : Nat} (hr : xs[i]? = some r) :
    ys ≠ [] ∧ ∃ w, (ys.map wire)[i]? = some (.object w) ∧ P r w := by
  obtain ⟨y, hy, hread⟩ := getElem?_of_forall₂ (mapM_eq_ok_iff.1 h) hr
  obtain ⟨w, hw, hP⟩ := hpart hread
  refine ⟨List.ne_nil_of_mem (List.mem_of_getElem? hy), w, ?_, hP⟩
  rw [List.getElem?_map, hy, Option.map_some, hw]

end Written

/-! ## Records -/

section Records

variable {fs r : Fields} {k : Kind} {i : Nat} {s : Site}

/-- **What is written for a record shows the actions of its parts.** -/
theorem exists_shows (h : Bears fs k i s r) :
    ∃ n w, readAs .lenient fs k = .ok (some n) ∧ Shows k n.wire i w ∧ s.Answers r w := by
  -- a lenient reading always ends in something; it is cut up kind by kind
  obtain ⟨o, ho⟩ := (tightens_readAs fs k).succeeds
  cases h with
  | buttons hr =>
    obtain ⟨bs, hbs, rfl⟩ := ok_of_map ho
    obtain ⟨hne, w, hw, hanswers⟩ := exists_part answers_button hbs hr
    have hfilled : filled .buttons bs = some (.item (.buttons bs)) :=
      filled_eq_some_iff.2 ⟨hne, rfl⟩
    exact ⟨_, w, ho.trans (congrArg _ hfilled), .buttons (Or.inl rfl) rfl hw, hanswers⟩
  | splash hr =>
    obtain ⟨bs, hbs, rfl⟩ := ok_of_map ho
    obtain ⟨-, w, hw, hanswers⟩ := exists_part answers_button hbs hr
    exact ⟨_, w, ho, .buttons (Or.inr rfl) rfl hw, hanswers⟩
  | list hr =>
    obtain ⟨es, hes, rfl⟩ := ok_of_map ho
    obtain ⟨-, w, hw, hanswers⟩ := exists_part answers_listEntry hes hr
    obtain ⟨inner, hinner, hitems⟩ := get?_items_listing (listingOf fs es)
    exact ⟨_, w, ho, .list (congrArg some hinner) hitems hw, hanswers⟩
  | card hgiven =>
    obtain ⟨c, hread, rfl⟩ := ok_of_map ho
    obtain ⟨w, hw, hbutton⟩ := answers_card hread
    obtain ⟨b, hb, hanswers⟩ := hbutton hgiven
    have hwire : (Normalized.item (.card c)).wire = .object w := hw
    exact ⟨_, b, ho, hwire ▸ .card hb, hanswers⟩
  | carousel hr hgiven =>
    obtain ⟨cs, hcs, rfl⟩ := ok_of_map ho
    obtain ⟨hne, w, hw, hbutton⟩ := exists_part answers_card hcs hr
    obtain ⟨b, hb, hanswers⟩ := hbutton hgiven
    have hfilled : filled .carousel cs = some (.item (.carousel cs)) :=
      filled_eq_some_iff.2 ⟨hne, rfl⟩
    exact ⟨_, b, ho.trans (congrArg _ hfilled), .carousel rfl hw hb, hanswers⟩

theorem exists_getElem?_of_mem {α : Type} {P : α → Prop} {xs : List α} (h : ∃ x ∈ xs, P x) :
    ∃ (i : Nat) (x : α), xs[i]? = some x ∧ P x := by
  obtain ⟨x, hx, hP⟩ := h
  obtain ⟨i, hi⟩ := List.mem_iff_getElem?.1 hx
  exact ⟨i, x, hi, hP⟩

/-- An action of a record is unresolved just if that of one of these parts is. -/
theorem exists_unresolved_iff :
    k.Unresolved fs ↔ ∃ i s r, Bears fs k i s r ∧ s.Unresolved r := by
  constructor
  · intro h
    cases k with
    | buttons =>
      obtain ⟨i, r, hi, hu⟩ := exists_getElem?_of_mem h
      exact ⟨i, .button, r, .buttons hi, Site.unresolved_iff.2 hu⟩
    | splash =>
      obtain ⟨i, r, hi, hu⟩ := exists_getElem?_of_mem h
      exact ⟨i, .button, r, .splash hi, Site.unresolved_iff.2 hu⟩
    | list =>
      obtain ⟨i, r, hi, hu⟩ := exists_getElem?_of_mem h
      exact ⟨i, .entry, r, .list hi, Site.unresolved_iff.2 hu⟩
    | card => exact ⟨0, .cardButton, fs, .card h.1, Site.unresolved_iff.2 h.2⟩
    | carousel =>
      obtain ⟨i, r, hi, hgiven, hu⟩ := exists_getElem?_of_mem h
      exact ⟨i, .cardButton, r, .carousel hi hgiven, Site.unresolved_iff.2 hu⟩
    | _ => exact h.elim
  · rintro ⟨i, s, r, hbears, hu⟩
    have hu := Site.unresolved_iff.1 hu
    cases hbears with
    | buttons hi | splash hi | list hi => exact ⟨r, List.mem_of_getElem? hi, hu⟩
    | card hgiven => exact ⟨hgiven, hu⟩
    | carousel hi hgiven => exact ⟨r, List.mem_of_getElem? hi, hgiven, hu⟩

theorem readRecord_of_kind (hkind : k.name = kindName fs) (policy : Policy) :
    readRecord policy (.object fs) = (readAs policy fs k, k.drops fs (readAs policy fs k)) := by
  simp only [readRecord, ofName?_eq_some_iff.2 hkind]

end Records

/-- **The actions of content.**  Each part that bears an action shows on the wire the action that
    its own record gives: with the selector `custom` what its companion field holds, or nothing,
    and any other selector as it is, whatever the companion field holds.  The strict policy shows
    the same, unless the custom action of some part is missing. -/
theorem actions_resolved {fs r : Fields} {k : Kind} {i : Nat} {s : Site}
    (hkind : k.name = kindName fs) (h : Bears fs k i s r) (d : Drops) :
    ∃ n w d', exec (normalize .lenient (.object fs)) d = (.ok (some n), d') ∧
      Shows k n.wire i w ∧ s.Answers r w ∧
      ((∃ j s' r', Bears fs k j s' r' ∧ s'.Unresolved r') →
        ∃ d'', exec (normalize .strict (.object fs)) d = (.error .unresolvedAction, d'')) ∧
      ((∀ j s' r', Bears fs k j s' r' → ¬ s'.Unresolved r') →
        exec (normalize .strict (.object fs)) d = (.ok (some n), d')) := by
  obtain ⟨n, w, hread, hshows, hanswers⟩ := exists_shows h
  have htight := tightens_readAs fs k
  have hexec : ∀ policy, exec (normalize policy (.object fs)) d =
      (readAs policy fs k, d.add (k.drops fs (readAs policy fs k))) := fun policy => by
    rw [exec_normalize, readRecord_of_kind hkind]
  refine ⟨n, w, d.add (k.drops fs (.ok (some n))), ?_, hshows, hanswers, ?_, ?_⟩
  · rw [hexec, hread]
  · intro hu
    rw [hexec, htight.stops (exists_unresolved_iff.2 hu)]
    exact ⟨_, rfl⟩
  · intro hnone
    have hagrees : ¬ k.Unresolved fs := fun hu => by
      obtain ⟨j, s', r', hbears, hu⟩ := exists_unresolved_iff.1 hu
      exact hnone j s' r' hbears hu
    rw [hexec, htight.agrees hagrees, hread]

/-- The second entry of a list, whose custom action stands under the second name. -/
theorem action_of_second_entry : ∃ n w d',
    exec (normalize .lenient (.object [("kind", .text "list"), ("items", .array [
      .object [("action", .text "go")], .null,
      .object [("bot_action", .text "custom"), ("custom_action", .text "stay")]])])) {} =
        (.ok (some n), d') ∧
    Shows .list n.wire 1 w ∧
    Site.entry.Answers [("bot_action", .text "custom"), ("custom_action", .text "stay")] w := by
  have hbears : Bears [("kind", .text "list"), ("items", .array [
      .object [("action", .text "go")], .null,
      .object [("bot_action", .text "custom"), ("custom_action", .text "stay")]])] .list 1 .entry
      [("bot_action", .text "custom"), ("custom_action", .text "stay")] := .list rfl
  obtain ⟨n, w, d', hexec, hshows, hanswers, -⟩ := actions_resolved (by decide) hbears {}
  exact ⟨n, w, d', hexec, hshows, hanswers⟩

/-- The names are not those of a button everywhere: the same object gives a button a custom action,
    but an entry of a list none. -/
theorem entry_without_custom_action :
    exec (normalize .strict (.object [("type", .text "buttons"), ("buttons", .array [
      .object [("text", .text "Pizza"), ("bot_action", .text "custom"),
        ("customBotAction", .text "order_pizza")]])])) {} =
      (.ok (some (.item (.buttons [{ text := "Pizza", action := some "order_pizza" }]))), {}) ∧
    exec (normalize .lenient (.object [("type", .text "list"), ("items", .array [
      .object [("text", .text "Pizza"), ("bot_action", .text "custom"),
        ("customBotAction", .text "order_pizza")]])])) {} =
      (.ok (some (.item (.list ⟨none, none, false, none, [⟨some "Pizza", none, none⟩]⟩))), {}) ∧
    exec (normalize .strict (.object [("type", .text "list"), ("items", .array [
      .object [("text", .text "Pizza"), ("bot_action", .text "custom"),
        ("customBotAction", .text "order_pizza")]])])) {} = (.error .unresolvedAction, {}) := by
  decide

end ChatRelay.Content

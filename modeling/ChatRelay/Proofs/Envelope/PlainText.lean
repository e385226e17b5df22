/-
  Plain texts that are derived.

  A text item whose record gives no plain text gets one from its text, and a message that shows
  HTML from the HTML: the text without its tags.  Control characters are left out before the
  text is looked at, as one of them can stand between the characters of a tag.  What is derived
  has no markup of its own, so that reading the written item again changes nothing
  (`normalize_derived`), also if nothing is left of the text and the plain text counts as
  absent.

  * `Derives` says which plain text goes with a text, `Envelope.IsLegible` what can be read of a
    message;
  * `plain_text_derived` finds both in what is read and built.
-/
import ChatRelay.Proofs.Content.Action
import ChatRelay.Proofs.Envelope.Building
import ChatRelay.Proofs.Text.Cleaning

namespace ChatRelay

/-- No control character is in the text. -/
def IsClean (s : String) : Prop := ∀ c ∈ s.toList, ¬ IsControl c

/-! ## Texts without markup -/

namespace Text

theorem hasMarkup_of_not_mem {s : String} (h : '<' ∉ s.toList) : hasMarkup s = false := by
  rw [hasMarkup, ← Bool.not_eq_true, markupIn_iff]
  rintro ⟨before, d, after, hs, -⟩
  exact h (by simp [hs])

theorem isClean_clean (s : String) : IsClean (clean s) := not_control_of_mem_clean s

theorem isClean_stripTags {s : String} (h : IsClean s) : IsClean (stripTags s) := fun c hc =>
  h c ((stripsTags s).sublist.subset hc)

theorem clean_eq_self {s : String} (h : IsClean s) : clean s = s := by
  rw [← String.toList_inj, toList_clean, cleanChars_eq_filter, List.filter_eq_self]
  exact fun c hc => decide_eq_true (h c hc)

end Text

namespace Content

/-! ## Text items -/

/-- The plain text goes with the text of an item that has none of its own. -/
structure Derives (text plain : String) : Prop where
  cleanText : IsClean text
  cleanPlain : IsClean plain
  noMarkup : Text.hasMarkup plain = false
  kept : Text.hasMarkup text = false → plain = text
  tagless : Text.hasMarkup text = true → '<' ∉ plain.toList
  stripped : Text.hasMarkup text = true → plain = Text.stripTags text

section Derived

variable {text plain : String}

/-- What is derived from a clean text need not be cleaned. -/
theorem plainTextOf_none (h : IsClean text) : plainTextOf none text =
    if Text.hasMarkup text then Text.stripTags text else text := by
  rw [plainTextOf, Option.getD_none]
  split
  · exact Text.clean_eq_self (Text.isClean_stripTags h)
  · exact Text.clean_eq_self h

theorem derives_plainTextOf (h : IsClean text) : Derives text (plainTextOf none text) := by
  rw [plainTextOf_none h]
  by_cases hmarkup : Text.hasMarkup text = true
  · have htagless : '<' ∉ (Text.stripTags text).toList := Text.not_mem_stripTags text
    rw [if_pos hmarkup]
    exact {
      cleanText := h
      cleanPlain := Text.isClean_stripTags h
      noMarkup := Text.hasMarkup_of_not_mem htagless
      kept := fun hnone => absurd hmarkup (by simp [hnone])
      tagless := fun _ => htagless
      stripped := fun _ => rfl }
  · rw [if_neg hmarkup]
    exact {
      cleanText := h
      cleanPlain := h
      noMarkup := Bool.not_eq_true _ ▸ hmarkup
      kept := fun _ => rfl
      tagless := fun hsome => absurd hsome hmarkup
      stripped := fun hsome => absurd hsome hmarkup }

/-- No other plain text goes with a text. -/
theorem Derives.eq (h : Derives text plain) : plain = plainTextOf none text := by
  rw [plainTextOf_none h.cleanText]
  split
  · rename_i hmarkup
    exact h.stripped hmarkup
  · rename_i hmarkup
    exact h.kept (by simpa using hmarkup)

/-! ### Written and read again -/

/-- The fields of a text item on the wire. -/
def wireFields (text plain : String) : Fields :=
  [("type", .text "text"), ("text", .text text), ("plainText", .text plain)]

theorem wire_text : (Item.text text plain).wire = .object (wireFields text plain) := rfl

/-- The empty text counts as absent. -/
theorem textOf_of_pick {names : List String} {fs : Fields} {s : String}
    (h : pick names fs = if s = "" then none else some (.text s)) :
    textOf names fs = if s = "" then none else some s := by
  rw [textOf, h]
  split <;> rfl

theorem textOf_message_wireFields :
    textOf Names.message (wireFields text plain) = if text = "" then none else some text := by
  have hmessage : Json.get? (wireFields text plain) "message" = none := rfl
  have htext : Json.get? (wireFields text plain) "text" = some (.text text) := rfl
  refine textOf_of_pick ?_
  by_cases h : text = ""
  · subst h
    rfl
  · simp [pick, Names.message, hmessage, htext, isGiven, h]

theorem textOf_plainText_wireFields :
    textOf Names.plainText (wireFields text plain) = if plain = "" then none else some plain := by
  have hplain : Json.get? (wireFields text plain) "plainText" = some (.text plain) := rfl
  refine textOf_of_pick ?_
  by_cases h : plain = ""
  · subst h
    rfl
  · simp [pick, Names.plainText, hplain, isGiven, h]

theorem textItem_wireFields (h : Derives text plain) :
    textItem (wireFields text plain) = .text text plain := by
  have htext : (if text = "" then none else some text).getD "" = text := by
    by_cases hempty : text = "" <;> simp [hempty]
  -- an empty plain text is derived once more
  have hplain : plainTextOf (if plain = "" then none else some plain) text = plain := by
    split
    · exact h.eq.symm
    · exact Text.clean_eq_self h.cleanPlain
  rw [textItem, textOf_message_wireFields, textOf_plainText_wireFields, htext,
    Text.clean_eq_self h.cleanText, hplain]

/-- **A derived item is read again as it was written**, and nothing is left out. -/
theorem normalize_derived (h : Derives text plain) (policy : Policy) (d : Drops) :
    exec (normalize policy (Item.text text plain).wire) d =
      (.ok (some (.item (.text text plain))), d) := by
  have hread : readAs policy (wireFields text plain) .text =
      .ok (some (.item (.text text plain))) := by
    rw [readAs, textItem_wireFields h]
  rw [wire_text, exec_normalize, readRecord_of_kind (k := .text) rfl, hread]
  rfl

end Derived

/-- A record that is read into a text item and gives no plain text. -/
theorem derives_of_readRecord {policy : Policy} {record : Json} {text plain : String}
    (h : (readRecord policy record).1 = .ok (some (.item (.text text plain))))
    (hnone : ∀ fs, record = .object fs → ¬ GivesScalar ["plainText"] fs) : Derives text plain := by
  obtain ⟨fs, k, rfl, -, hread⟩ := item_of_readRecord h
  obtain ⟨hkind, -⟩ := item_of_readAs hread
  have habsent : textOf Names.plainText fs = none :=
    Option.not_isSome_iff_eq_none.1 (isSome_textOf.not.2 (hnone fs rfl))
  rw [← hkind] at hread
  cases hread
  rw [habsent]
  exact derives_plainTextOf (Text.isClean_clean _)

end Content

/-! ## Messages that show HTML -/

/-- The message has a clean text and a plain text without tags. -/
def Envelope.IsLegible (e : Envelope) : Prop :=
  ∃ text, e.text = some text ∧ IsClean text ∧ IsClean e.plainText ∧ '<' ∉ e.plainText.toList

theorem isLegible_ofHtml (id html : String) : (Envelope.ofHtml id html).IsLegible :=
  have hclean : IsClean (Text.clean html) := Text.isClean_clean html
  ⟨_, rfl, hclean, Text.isClean_stripTags hclean, Text.not_mem_stripTags _⟩

theorem ofHtml_clean (id html : String) :
    Envelope.ofHtml id (Text.clean html) = Envelope.ofHtml id html := by
  rw [Envelope.ofHtml, Text.clean_clean, ← Envelope.ofHtml]

theorem htmlEnvelope_text (session : Json) (html : String) :
    htmlEnvelope session (.text html) = (readSession session).get.map (.ofHtml · html) := by
  rw [htmlEnvelope, Text.readText_text, ok_bind]
  cases (readSession session).get <;> rfl

/-- It makes no difference whether HTML is cleaned before. -/
theorem exec_buildHtml_clean (session : Json) (html : String) (h : History) :
    exec (buildHtml session (.text (Text.clean html))) h =
      exec (buildHtml session (.text html)) h := by
  have henvelope : htmlEnvelope session (.text (Text.clean html)) =
      htmlEnvelope session (.text html) := by
    simp only [htmlEnvelope_text, ofHtml_clean]
  rw [adds_buildHtml, adds_buildHtml, henvelope]

theorem exec_buildHtml_text (id html : String) (h : History) :
    ∃ e h', exec (buildHtml (.text id) (.text html)) h = (.ok e, h') ∧ e.IsLegible :=
  ⟨_, _, (adds_buildHtml _ _ h).trans (by rw [htmlEnvelope_text]; rfl), isLegible_ofHtml id html⟩

/-! ## Plain texts -/

open Content in
/-- **The plain text of texts and of HTML.**  A record without a plain text that is read into a
    text item gives it the plain text that goes with its text, and the item is read again as it
    is written.  A message that shows HTML has a clean text and a plain text without tags, the
    same as if the HTML had been cleaned before. -/
theorem plain_text_derived :
    (∀ policy record text plain d d',
      exec (normalize policy record) d = (.ok (some (.item (.text text plain))), d') →
      (∀ fs, record = .object fs → ¬ GivesScalar ["plainText"] fs) →
      Derives text plain ∧ ∀ again d, exec (normalize again (Item.text text plain).wire) d =
        (.ok (some (.item (.text text plain))), d)) ∧
    (∀ id html h, ∃ e h', exec (buildHtml (.text id) (.text html)) h = (.ok e, h') ∧
      e.IsLegible) ∧
    ∀ session html h, exec (buildHtml session (.text (Text.clean html))) h =
      exec (buildHtml session (.text html)) h := by
  refine ⟨fun policy record text plain d d' hread hnone => ?_, exec_buildHtml_text,
    exec_buildHtml_clean⟩
  rw [exec_normalize] at hread
  have hderives : Derives text plain := derives_of_readRecord (congrArg Prod.fst hread) hnone
  exact ⟨hderives, normalize_derived hderives⟩

open Content in
/-- The control character stands between the characters of a tag, and the plain text is given
    by an array. -/
theorem plain_text_of_split_tag : Derives "<b>x" "x" ∧ ∀ again d,
    exec (normalize again (Item.text "<b>x" "x").wire) d =
      (.ok (some (.item (.text "<b>x" "x"))), d) :=
  plain_text_derived.1 .strict
    (.object [("message", .text "<\x00b>x"), ("plainText", .array [.text "y"])]) _ _ {} {}
    (by decide +kernel) fun fs hfs => by
      cases hfs
      exact isSome_textOf.not.1 (by decide)

end ChatRelay

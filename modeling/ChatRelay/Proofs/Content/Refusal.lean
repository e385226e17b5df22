/-
  The strict policy refuses some records and reads the others like the lenient one.

  * `Refused` tells which records are refused and why, without a word on how they
    are read;
  * `Tightens` relates a strict reading to a lenient one, and is kept by all that
    the readings are put together from;
  * `strict_refines_lenient` is about whole messages: the lenient policy reads every
    message, and the strict one reads it the same way unless it stops at the first
    record that is refused.
-/
import ChatRelay.Proofs.Content.Conformance

namespace ChatRelay.Content

/-! ## Refused records -/

/-- The custom action is selected and none is given. -/
def Unresolved (selector companion : List String) (fs : Fields) : Prop :=
  textOf selector fs = some "custom" ∧ textOf companion fs = none

/-- The action of a button is unresolved. -/
def UnresolvedButton : Fields → Prop :=
  Unresolved ["bot_action", "action"] ["customAction", "custom_action", "customBotAction"]

/-- The action of a list entry is unresolved. -/
def UnresolvedEntry : Fields → Prop :=
  Unresolved ["bot_action", "action"] ["customAction", "custom_action"]

/-- A card has a button, and its action is unresolved. -/
def UnresolvedCard (fs : Fields) : Prop :=
  GivesScalar ["buttonText", "cardButtonText"] fs ∧
    Unresolved ["buttonAction", "cardButtonAction"]
      ["customAction", "cardCustomAction", "buttonCustomAction"] fs

/-- An action that stands in a record of the kind is unresolved. -/
def Kind.Unresolved : Kind → Fields → Prop
  | .buttons, fs | .splash, fs => ∃ r ∈ subrecords buttonEntries fs, UnresolvedButton r
  | .list, fs => ∃ r ∈ subrecords listEntries fs, UnresolvedEntry r
  | .card, fs => UnresolvedCard fs
  | .carousel, fs => ∃ r ∈ subrecords cardEntries fs, UnresolvedCard r
  | _, _ => False

/-- The strict policy refuses the record with the error. -/
inductive Refused : Json → ContentError → Prop
  | notObject {v : Json} : (∀ fs, v ≠ .object fs) → Refused v .notObject
  | unknownKind {fs : Fields} : (∀ k, Kind.name k ≠ kindName fs) →
      Refused (.object fs) (.unknownKind (kindName fs))
  | unresolvedAction {fs : Fields} {k : Kind} : k.name = kindName fs → k.Unresolved fs →
      Refused (.object fs) .unresolvedAction

/-! ## Strict and lenient readings -/

/-- The lenient reading succeeds; the strict one does the same, unless it is refused
    with the error. -/
structure Tightens {ε α : Type} (refused : Prop) (e : ε) (strict lenient : Except ε α) :
    Prop where
  succeeds : ∃ a, lenient = .ok a
  stops : refused → strict = .error e
  agrees : ¬ refused → strict = lenient

section Tightens

variable {ε α β : Type} {refused : Prop} {e : ε}

theorem Tightens.map {strict lenient : Except ε α} (h : Tightens refused e strict lenient)
    (f : α → β) : Tightens refused e (strict.map f) (lenient.map f) := by
  obtain ⟨⟨a, ha⟩, hstop, hagree⟩ := h
  refine ⟨⟨f a, by rw [ha]; rfl⟩, fun hr => by rw [hstop hr]; rfl, fun hr => by rw [hagree hr]⟩

/-- A list is refused if one of its elements is. -/
theorem tightens_mapM {R : α → Prop} {strict lenient : α → Except ε β}
    (h : ∀ x, Tightens (R x) e (strict x) (lenient x)) (xs : List α) :
    Tightens (∃ x ∈ xs, R x) e (xs.mapM strict) (xs.mapM lenient) := by
  induction xs with
  | nil => exact ⟨⟨[], rfl⟩, by simp, fun _ => rfl⟩
  | cons x xs ih =>
    obtain ⟨⟨y, hy⟩, hstop, hagree⟩ := h x
    obtain ⟨⟨ys, hys⟩, hstops, hagrees⟩ := ih
    simp only [List.mapM_cons]
    refine ⟨⟨y :: ys, by rw [hy, hys]; rfl⟩, ?_, ?_⟩
    · rintro ⟨z, hz, hr⟩
      by_cases hx : R x
      · rw [hstop hx]; rfl
      · have hrest : ∃ x ∈ xs, R x := by
          rcases List.mem_cons.1 hz with rfl | hz
          · exact absurd hr hx
          · exact ⟨z, hz, hr⟩
        rw [hagree hx, hy, hstops hrest]; rfl
    · intro hr
      rw [hagree fun hx => hr ⟨x, by simp, hx⟩,
        hagrees fun ⟨z, hz, hrz⟩ => hr ⟨z, by simp [hz], hrz⟩]

end Tightens

/-! ## Actions, buttons and cards -/

theorem tightens_actionOf (selector companion : List String) (fs : Fields) :
    Tightens (Unresolved selector companion fs) .unresolvedAction
      (actionOf .strict selector companion fs) (actionOf .lenient selector companion fs) := by
  unfold actionOf resolveAction
  by_cases hs : textOf selector fs = some customSelector
  · cases hc : textOf companion fs with
    | none =>
      rw [if_neg (not_not_intro hs), if_neg (not_not_intro hs)]
      exact ⟨⟨none, rfl⟩, fun _ => rfl, fun hr => absurd ⟨hs, hc⟩ hr⟩
    | some action =>
      have hne : action.isEmpty = false := by simpa using textOf_ne_empty hc
      rw [if_neg (not_not_intro hs), if_neg (not_not_intro hs)]
      simp only [Option.filter_some, hne, Bool.not_false, if_true]
      exact ⟨⟨some action, rfl⟩, fun hr => absurd (hc.symm.trans hr.2) (by simp), fun _ => rfl⟩
  · rw [if_pos hs, if_pos hs]
    exact ⟨⟨_, rfl⟩, fun hr => absurd hr.1 hs, fun _ => rfl⟩

theorem tightens_button (fs : Fields) :
    Tightens (UnresolvedButton fs) .unresolvedAction (button .strict fs) (button .lenient fs) :=
  (tightens_actionOf _ _ fs).map _

theorem tightens_listEntry (fs : Fields) : Tightens (UnresolvedEntry fs) .unresolvedAction
    (listEntry .strict fs) (listEntry .lenient fs) :=
  (tightens_actionOf _ _ fs).map _

theorem tightens_cardButton (fs : Fields) : Tightens (UnresolvedCard fs) .unresolvedAction
    (cardButton .strict fs) (cardButton .lenient fs) := by
  cases ht : textOf Names.cardButton fs with
  | none =>
    have hnone : ¬ UnresolvedCard fs := fun hr => by
      have hsome := isSome_textOf.2 hr.1
      change (textOf Names.cardButton fs).isSome at hsome
      simp [ht] at hsome
    simp only [cardButton, ht]
    exact ⟨⟨none, rfl⟩, fun hr => absurd hr hnone, fun _ => rfl⟩
  | some text =>
    have hgiven : GivesScalar ["buttonText", "cardButtonText"] fs :=
      isSome_textOf.1 (Option.isSome_iff_exists.2 ⟨text, ht⟩)
    obtain ⟨hok, hstop, hagree⟩ := (tightens_actionOf Names.cardAction Names.cardCustomAction
      fs).map fun action => some ({ text, action } : Button)
    simp only [cardButton, ht]
    exact ⟨hok, fun hr => hstop hr.2, fun hr => hagree fun hu => hr ⟨hgiven, hu⟩⟩

theorem tightens_card (fs : Fields) :
    Tightens (UnresolvedCard fs) .unresolvedAction (card .strict fs) (card .lenient fs) :=
  (tightens_cardButton fs).map _

/-! ## Records -/

/-- **Read by the rules of a kind, a record is refused for its unresolved actions
    only.** -/
theorem tightens_readAs (fs : Fields) (k : Kind) : Tightens (k.Unresolved fs) .unresolvedAction
    (readAs .strict fs k) (readAs .lenient fs k) := by
  cases k with
  | card => exact (tightens_card fs).map _
  | buttons | splash => exact (tightens_mapM tightens_button _).map _
  | list => exact (tightens_mapM tightens_listEntry _).map _
  | carousel => exact (tightens_mapM tightens_card _).map _
  | _ => exact ⟨⟨_, rfl⟩, False.elim, fun _ => rfl⟩

theorem exists_ok_readRecord (record : Json) : ∃ o, (readRecord .lenient record).1 = .ok o := by
  cases record with
  | object fs =>
    cases hk : Kind.ofName? (kindName fs) with
    | none => exact ⟨none, by simp [readRecord, hk]⟩
    | some k =>
      obtain ⟨o, ho⟩ := (tightens_readAs fs k).succeeds
      exact ⟨o, by simp [readRecord, hk, ho]⟩
  | _ => exact ⟨none, rfl⟩

theorem readRecord_of_refused {record : Json} {e : ContentError} (h : Refused record e) :
    (readRecord .strict record).1 = .error e := by
  cases h with
  | notObject hno =>
    cases record with
    | object fs => exact absurd rfl (hno fs)
    | _ => rfl
  | @unknownKind fs hno =>
    cases hk : Kind.ofName? (kindName fs) with
    | none => simp [readRecord, hk]
    | some k => exact absurd (ofName?_eq_some_iff.1 hk) (hno k)
  | @unresolvedAction fs k hk hu =>
    simp [readRecord, ofName?_eq_some_iff.2 hk, (tightens_readAs fs k).stops hu]

theorem readRecord_of_not_refused {record : Json} (h : ∀ e, ¬ Refused record e) :
    readRecord .strict record = readRecord .lenient record := by
  cases record with
  | object fs =>
    cases hk : Kind.ofName? (kindName fs) with
    | none =>
      refine absurd (Refused.unknownKind fun k hkn => ?_) (h _)
      simp [ofName?_eq_some_iff.2 hkn] at hk
    | some k =>
      have hu : ¬ k.Unresolved fs := fun hu =>
        h _ (Refused.unresolvedAction (ofName?_eq_some_iff.1 hk) hu)
      simp [readRecord, hk, (tightens_readAs fs k).agrees hu]
  | _ => exact absurd (Refused.notObject fun fs => by simp) (h _)

/-! ## Messages -/

/-- The error is the one of the first record that is refused. -/
def FirstRefused (records : List Json) (e : ContentError) : Prop :=
  ∃ before r after, records = before ++ r :: after ∧
    (∀ q ∈ before, ∀ e', ¬ Refused q e') ∧ Refused r e

theorem exists_firstRefused {records : List Json} {r : Json} {e : ContentError}
    (hr : r ∈ records) (h : Refused r e) : ∃ e', FirstRefused records e' := by
  induction records with
  | nil => simp at hr
  | cons q rest ih =>
    by_cases hq : ∃ e', Refused q e'
    · obtain ⟨e', hq⟩ := hq
      exact ⟨e', [], q, rest, rfl, by simp, hq⟩
    · have hrest : r ∈ rest := by
        rcases List.mem_cons.1 hr with rfl | hr
        · exact absurd ⟨e, h⟩ hq
        · exact hr
      obtain ⟨e', before, r', after, rfl, hbefore, hr'⟩ := ih hrest
      refine ⟨e', q :: before, r', after, rfl, ?_, hr'⟩
      intro q' hq' e'' hr''
      rcases List.mem_cons.1 hq' with rfl | hq'
      · exact hq ⟨e'', hr''⟩
      · exact hbefore q' hq' e'' hr''

theorem exists_ok_readAll (records : List Json) : ∃ rs, (readAll .lenient records).1 = .ok rs := by
  induction records with
  | nil => exact ⟨[], rfl⟩
  | cons r rest ih =>
    obtain ⟨o, ho⟩ := exists_ok_readRecord r
    obtain ⟨rs, hrs⟩ := ih
    exact ⟨o.toList ++ rs, by rw [readAll_cons, ho, hrs]; rfl⟩

theorem readAll_of_firstRefused {records : List Json} {e : ContentError}
    (h : FirstRefused records e) : (readAll .strict records).1 = .error e := by
  obtain ⟨before, r, after, rfl, hbefore, hr⟩ := h
  induction before with
  | nil => rw [List.nil_append, readAll_cons, readRecord_of_refused hr]; rfl
  | cons q before ih =>
    obtain ⟨o, ho⟩ := exists_ok_readRecord q
    rw [List.cons_append, readAll_cons, readRecord_of_not_refused (hbefore q (by simp)), ho,
      ih fun q' hq' => hbefore q' (by simp [hq'])]
    rfl

theorem readAll_of_not_refused {records : List Json} (h : ∀ r ∈ records, ∀ e, ¬ Refused r e) :
    readAll .strict records = readAll .lenient records := by
  induction records with
  | nil => rfl
  | cons r rest ih =>
    rw [readAll, readAll, readRecord_of_not_refused (h r (by simp)),
      ih fun q hq => h q (by simp [hq])]

/-- **The strict policy refines the lenient one.** The lenient policy reads every
    message.  The strict one ends in an error if some record is refused, and the error is
    the one of the first such record; if it reads the message, then into the same content
    and with the same counts as the lenient one. -/
theorem strict_refines_lenient (records : List Json) (d : Drops) :
    (∃ b d', exec (Bundle.ofRecords .lenient records) d = (.ok b, d')) ∧
    ((∃ e d', exec (Bundle.ofRecords .strict records) d = (.error e, d')) ↔
      ∃ r ∈ records, ∃ e, Refused r e) ∧
    (∀ e d', exec (Bundle.ofRecords .strict records) d = (.error e, d') →
      FirstRefused records e) ∧
    ∀ b d', exec (Bundle.ofRecords .strict records) d = (.ok b, d') →
      exec (Bundle.ofRecords .lenient records) d = (.ok b, d') := by
  obtain ⟨rs, hrs⟩ := exists_ok_readAll records
  have hlenient : exec (Bundle.ofRecords .lenient records) d =
      (.ok (Bundle.ofResults rs), d.add (readAll .lenient records).2) := by
    rw [exec_ofRecords, hrs]
    rfl
  -- Either no record is refused, and both policies do the same, or there is a first one.
  by_cases hr : ∃ r ∈ records, ∃ e, Refused r e
  · obtain ⟨r, hmem, e, hre⟩ := hr
    obtain ⟨e', hfirst⟩ := exists_firstRefused hmem hre
    have hstrict : exec (Bundle.ofRecords .strict records) d =
        (.error e', d.add (readAll .strict records).2) := by
      rw [exec_ofRecords, readAll_of_firstRefused hfirst]
      rfl
    rw [hstrict]
    refine ⟨⟨_, _, hlenient⟩, ⟨fun _ => ⟨r, hmem, e, hre⟩, fun _ => ⟨_, _, rfl⟩⟩, ?_, ?_⟩
    · intro e'' d' h
      cases h
      exact hfirst
    · intro b d' h
      cases h
  · have hnone : ∀ r ∈ records, ∀ e, ¬ Refused r e := fun r hmem e hre => hr ⟨r, hmem, e, hre⟩
    have hsame : exec (Bundle.ofRecords .strict records) d =
        exec (Bundle.ofRecords .lenient records) d := by
      rw [exec_ofRecords, exec_ofRecords, readAll_of_not_refused hnone]
    rw [hsame, hlenient]
    refine ⟨⟨_, _, rfl⟩, ⟨?_, fun h => absurd h hr⟩, ?_, fun b d' h => h⟩
    · rintro ⟨e, d', h⟩
      cases h
    · intro e d' h
      cases h

end ChatRelay.Content

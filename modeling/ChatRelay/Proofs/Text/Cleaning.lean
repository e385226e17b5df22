/-
  What cleaning does to a text.

  Tags are stripped in one pass.  The pass comes to the same as leaving out every stretch
  of the pattern of a tag (`removed_tagPattern`), and as cutting the text at the first
  `<` and the next `>` over and over (`stripped_iff`).  A text has markup just if the
  pattern of markup occurs in it (`occursIn_markupPattern`).  Control characters are
  filtered out, which a tag does not notice (`cleanChars_outsideTags`).

  * `text_cleaned` puts together what stripping, looking for markup and cleaning do to
    any text.
-/
import ChatRelay.Envelope.Build
import ChatRelay.Proofs.Running
import ChatRelay.Proofs.Text.Pattern

namespace ChatRelay

/-- A control character, neither a tab nor the end of a line. -/
def IsControl (ch : Char) : Prop :=
  ch.toNat ≤ 0x08 ∨ 0x0B ≤ ch.toNat ∧ ch.toNat ≤ 0x0C ∨ 0x0E ≤ ch.toNat ∧ ch.toNat ≤ 0x1F ∨
    ch.toNat = 0x7F

instance : DecidablePred IsControl := fun _ => inferInstanceAs (Decidable (_ ∨ _))

theorem isStray_iff (ch : Char) : Text.isStray ch = true ↔ IsControl ch := by
  simp only [Text.isStray, IsControl, Bool.or_eq_true, Bool.and_eq_true, decide_eq_true_eq,
    beq_iff_eq]
  omega

namespace Text

/-! ## Tags -/

/-- A tag: `<`, characters up to `>`, and that if it is there. -/
def tagPattern : Pattern :=
  .andThen (.one (· == '<')) (.andThen (.many (· != '>')) (.optional (· == '>')))

/-- What is left of a text without its tags: what stands before a `<` is kept, and from there
    everything up to the next `>`, or to the end, is dropped. -/
inductive Stripped : List Char → List Char → Prop
  | plain {front : List Char} : '<' ∉ front → Stripped front front
  | closed {front inner rest out : List Char} : '<' ∉ front → '>' ∉ inner → Stripped rest out →
      Stripped (front ++ '<' :: (inner ++ '>' :: rest)) (front ++ out)
  | opened {front inner : List Char} : '<' ∉ front → '>' ∉ inner →
      Stripped (front ++ '<' :: inner) front

section Stripping

variable {front inner rest cs out : List Char} {c : Char}

theorem Stripped.cons (hc : c ≠ '<') (h : Stripped cs out) : Stripped (c :: cs) (c :: out) := by
  have hfront : ∀ {front : List Char}, '<' ∉ front → '<' ∉ c :: front := fun h hmem =>
    (List.mem_cons.1 hmem).elim (fun heq => hc heq.symm) h
  cases h with
  | plain h => exact .plain (hfront h)
  | closed h hinner hrest => exact .closed (hfront h) hinner hrest
  | opened h hinner => exact .opened (hfront h) hinner

/-- Nothing that is left opens a tag. -/
theorem Stripped.not_mem (h : Stripped cs out) : '<' ∉ out := by
  induction h with
  | plain h => exact h
  | closed h _ _ ih => exact fun hmem => (List.mem_append.1 hmem).elim h ih
  | opened h _ => exact h

theorem Stripped.sublist (h : Stripped cs out) : out.Sublist cs := by
  induction h with
  | plain _ => exact .refl _
  | @closed front inner rest out _ _ _ ih =>
    have hrest : rest.Sublist ('<' :: (inner ++ '>' :: rest)) :=
      (((List.sublist_cons_self _ _).trans (List.sublist_append_right _ _)).cons _)
    exact List.Sublist.append_left (ih.trans hrest) front
  | opened _ _ => exact List.sublist_append_left _ _

/-- Characters that are no part of `<` and `>` may be left out before or after. -/
theorem Stripped.filter {p : Char → Bool} (hopen : p '<' = true) (hclose : p '>' = true)
    (h : Stripped cs out) : Stripped (cs.filter p) (out.filter p) := by
  have hkept : ∀ {d : Char} {ds : List Char}, d ∉ ds → d ∉ ds.filter p := fun h hmem =>
    h (List.mem_of_mem_filter hmem)
  induction h with
  | plain h => exact .plain (hkept h)
  | closed h hinner _ ih =>
    simp only [List.filter_append, List.filter_cons_of_pos hopen, List.filter_cons_of_pos hclose]
    exact .closed (hkept h) (hkept hinner) ih
  | opened h hinner =>
    simp only [List.filter_append, List.filter_cons_of_pos hopen]
    exact .opened (hkept h) (hkept hinner)

/-! ### The pass -/

theorem outsideTags_append (h : '<' ∉ front) (rest : List Char) :
    outsideTags (front ++ rest) = front ++ outsideTags rest := by
  induction front with
  | nil => rfl
  | cons c front ih =>
    obtain ⟨hc, hfront⟩ := not_or.1 (List.mem_cons.not.1 h)
    rw [List.cons_append, outsideTags, if_neg (Ne.symm hc), ih hfront, List.cons_append]

theorem insideTag_append (h : '>' ∉ inner) (rest : List Char) :
    insideTag (inner ++ rest) = insideTag rest := by
  induction inner with
  | nil => rfl
  | cons c inner ih =>
    obtain ⟨hc, hinner⟩ := not_or.1 (List.mem_cons.not.1 h)
    rw [List.cons_append, insideTag, if_neg (Ne.symm hc), ih hinner]

/-- The pass strips, from outside a tag and from inside one that began with `inner`. -/
theorem stripped_scan (cs : List Char) : Stripped cs (outsideTags cs) ∧
    ∀ inner, '>' ∉ inner → Stripped ('<' :: (inner ++ cs)) (insideTag cs) := by
  induction cs with
  | nil =>
    refine ⟨.plain List.not_mem_nil, fun inner hinner => ?_⟩
    rw [List.append_nil]
    exact (.opened List.not_mem_nil hinner : Stripped ([] ++ '<' :: inner) [])
  | cons c cs ih =>
    obtain ⟨houtside, hinside⟩ := ih
    constructor
    · rw [outsideTags]
      split
      · rename_i hc
        rw [hc]
        exact hinside [] List.not_mem_nil
      · rename_i hc
        exact houtside.cons hc
    · intro inner hinner
      rw [insideTag]
      split
      · rename_i hc
        rw [hc]
        exact (.closed List.not_mem_nil hinner houtside :
          Stripped ([] ++ '<' :: (inner ++ '>' :: cs)) ([] ++ outsideTags cs))
      · rename_i hc
        have hlonger : '>' ∉ inner ++ [c] := by
          simpa [hinner] using fun h => hc h.symm
        simpa using hinside (inner ++ [c]) hlonger

/-- **The pass is the only way to strip a text of its tags.** -/
theorem stripped_iff : Stripped cs out ↔ outsideTags cs = out := by
  constructor
  · intro h
    induction h with
    | @plain front h => simpa [outsideTags] using outsideTags_append h []
    | @closed front inner rest out h hinner _ ih =>
      rw [outsideTags_append h, outsideTags, if_pos rfl, insideTag_append hinner, insideTag,
        if_pos rfl, ih]
    | @opened front inner h hinner =>
      have hend : insideTag inner = [] := by simpa [insideTag] using insideTag_append hinner []
      rw [outsideTags_append h, outsideTags, if_pos rfl, hend, List.append_nil]
  · rintro rfl
    exact (stripped_scan cs).1

/-! ### The pattern -/

theorem bne_of_not_mem (h : c ∉ cs) : ∀ d ∈ cs, (d != c) = true := fun _ hd =>
  bne_iff_ne.2 fun heq => h (heq ▸ hd)

theorem taken?_tagPattern_of_ne (hc : c ≠ '<') (cs : List Char) :
    tagPattern.taken? (c :: cs) = none := by
  simp [Pattern.taken?, tagPattern, Pattern.lengths, hc]

theorem taken?_closed (h : '>' ∉ inner) (rest : List Char) :
    tagPattern.taken? ('<' :: (inner ++ '>' :: rest)) = some (inner.length + 2) := by
  have hstop : ('>' :: rest).takeWhile (· != '>') = [] := List.takeWhile_cons_of_neg (by decide)
  obtain ⟨more, hmore⟩ := Pattern.lengths_many_andThen (Q := .optional (· == '>'))
    (bne_of_not_mem h) hstop
  have hfirst : tagPattern.lengths ('<' :: (inner ++ '>' :: rest)) =
      (1 + (inner.length + 1)) :: ([inner.length + 0] ++ more).map (1 + ·) := by
    rw [tagPattern, Pattern.lengths_one_andThen rfl, hmore]
    rfl
  rw [Pattern.taken?_of_lengths hfirst (by omega), Option.some.injEq]
  omega

theorem taken?_opened (h : '>' ∉ inner) :
    tagPattern.taken? ('<' :: inner) = some (inner.length + 1) := by
  have hstop : ([] : List Char).takeWhile (· != '>') = [] := rfl
  obtain ⟨more, hmore⟩ := Pattern.lengths_many_andThen (Q := .optional (· == '>'))
    (bne_of_not_mem h) hstop
  rw [List.append_nil] at hmore
  have hfirst : tagPattern.lengths ('<' :: inner) =
      (1 + (inner.length + 0)) :: more.map (1 + ·) := by
    rw [tagPattern, Pattern.lengths_one_andThen rfl, hmore]
    rfl
  rw [Pattern.taken?_of_lengths hfirst (by omega), Option.some.injEq]
  omega

theorem removed_of_stripped (h : Stripped cs out) : tagPattern.removed cs = out := by
  have hkept : ∀ {front : List Char}, '<' ∉ front → ∀ rest,
      tagPattern.removed (front ++ rest) = front ++ tagPattern.removed rest := fun h =>
    Pattern.removed_append fun c hc => taken?_tagPattern_of_ne fun heq => h (heq ▸ hc)
  induction h with
  | @plain front h => simpa [Pattern.removed_nil] using hkept h []
  | @closed front inner rest out h hinner _ ih =>
    have htag : tagPattern.removed (('<' :: (inner ++ ['>'])) ++ rest) =
        tagPattern.removed rest := by
      refine Pattern.removed_of_taken ?_
      simpa using taken?_closed hinner rest
    rw [hkept h, ← ih, ← htag]
    simp
  | @opened front inner h hinner =>
    have htag : tagPattern.removed (('<' :: inner) ++ []) = tagPattern.removed [] := by
      refine Pattern.removed_of_taken ?_
      simpa using taken?_opened hinner
    rw [List.append_nil, Pattern.removed_nil] at htag
    rw [hkept h, htag, List.append_nil]

/-- **Leaving out the stretches of the pattern of a tag comes to the same as the pass.** -/
theorem removed_tagPattern (cs : List Char) : tagPattern.removed cs = outsideTags cs :=
  removed_of_stripped (stripped_scan cs).1

end Stripping

/-! ## Markup -/

/-- Markup: a tag that is opened by a letter, `/` or `!`, and closed. -/
def markupPattern : Pattern :=
  .andThen (.one (· == '<'))
    (.andThen (.one opensTag) (.andThen (.many (· != '>')) (.one (· == '>'))))

section Markup

variable {cs : List Char}

theorem opensTag_iff (c : Char) : opensTag c = true ↔ c.isAlpha = true ∨ c = '/' ∨ c = '!' := by
  have hletter : c.isAlpha = (decide ('A' ≤ c ∧ c ≤ 'Z') || decide ('a' ≤ c) && decide (c ≤ 'z')) :=
    rfl
  simp [opensTag, hletter, or_assoc, or_comm]

theorem markupIn_cons (c : Char) (cs : List Char) : markupIn (c :: cs) =
    (c == '<' && (match cs with
      | d :: after => opensTag d && after.contains '>'
      | [] => false) || markupIn cs) := rfl

theorem markupIn_iff : markupIn cs = true ↔ ∃ before d after, cs = before ++ '<' :: d :: after ∧
    opensTag d = true ∧ '>' ∈ after := by
  induction cs with
  | nil => simp [markupIn]
  | cons c cs ih =>
    rw [markupIn_cons, Bool.or_eq_true, ih]
    constructor
    · rintro (h | ⟨before, d, after, rfl, hd, hclose⟩)
      · rw [Bool.and_eq_true, beq_iff_eq] at h
        obtain ⟨rfl, h⟩ := h
        cases cs with
        | nil => cases h
        | cons d after =>
          rw [Bool.and_eq_true, List.contains_iff_mem] at h
          exact ⟨[], d, after, rfl, h⟩
      · exact ⟨c :: before, d, after, rfl, hd, hclose⟩
    · rintro ⟨before, d, after, hcs, hd, hclose⟩
      cases before with
      | nil =>
        cases hcs
        exact Or.inl (by simp [hd, hclose])
      | cons b before =>
        cases hcs
        exact Or.inr ⟨before, d, after, rfl, hd, hclose⟩

theorem fits_markupPattern {stretch : List Char} : markupPattern.Fits stretch ↔
    ∃ d inner, stretch = '<' :: d :: (inner ++ ['>']) ∧ opensTag d = true ∧ '>' ∉ inner := by
  constructor
  · rintro ⟨_, _, rfl, ⟨c, rfl, hc⟩, _, _, rfl, ⟨d, rfl, hd⟩, inner, _, rfl, hinner, e, rfl, he⟩
    rw [beq_iff_eq] at hc he
    subst hc he
    exact ⟨d, inner, rfl, hd, fun hmem => absurd (hinner _ hmem) (by decide)⟩
  · rintro ⟨d, inner, rfl, hd, hinner⟩
    exact ⟨['<'], d :: (inner ++ ['>']), rfl, ⟨'<', rfl, rfl⟩, [d], inner ++ ['>'], rfl,
      ⟨d, rfl, hd⟩, inner, ['>'], rfl, bne_of_not_mem hinner, '>', rfl, rfl⟩

/-- **A text has markup just if the pattern of markup occurs in it.** -/
theorem occursIn_markupPattern (cs : List Char) : markupPattern.occursIn cs = markupIn cs := by
  rw [Bool.eq_iff_iff, Pattern.occursIn_iff, markupIn_iff]
  simp only [fits_markupPattern]
  constructor
  · rintro ⟨before, _, after, rfl, d, inner, rfl, hd, -⟩
    exact ⟨before, d, inner ++ '>' :: after, by simp, hd, by simp⟩
  · rintro ⟨before, d, after, rfl, hd, hclose⟩
    obtain ⟨inner, rest, rfl, hinner⟩ := List.eq_append_cons_of_mem hclose
    exact ⟨before, '<' :: d :: (inner ++ ['>']), rest, by simp, d, inner, rfl, hd, hinner⟩

end Markup

/-! ## Control characters -/

/-- A control character that is not kept. -/
def strayPattern : Pattern := .one isStray

theorem cleanChars_eq_filter (cs : List Char) : cleanChars cs = cs.filter (¬ IsControl ·) := by
  refine List.filter_congr fun c _ => ?_
  rw [Bool.eq_iff_iff, Bool.not_eq_true', decide_eq_true_iff, ← isStray_iff, Bool.not_eq_true]

theorem cleanChars_cleanChars (cs : List Char) : cleanChars (cleanChars cs) = cleanChars cs := by
  rw [cleanChars, cleanChars, List.filter_filter]
  simp only [Bool.and_self]

/-- **Tags do not notice that control characters are left out.** -/
theorem cleanChars_outsideTags (cs : List Char) :
    cleanChars (outsideTags cs) = outsideTags (cleanChars cs) :=
  (stripped_iff.1 ((stripped_scan cs).1.filter (by decide) (by decide))).symm

section Strings

variable (s : String)

theorem toList_stripTags : (stripTags s).toList = outsideTags s.toList := String.toList_ofList

theorem toList_clean : (clean s).toList = cleanChars s.toList := String.toList_ofList

theorem clean_clean : clean (clean s) = clean s := by
  rw [clean, toList_clean, cleanChars_cleanChars, ← clean]

theorem clean_stripTags : clean (stripTags s) = stripTags (clean s) := by
  rw [clean, toList_stripTags, cleanChars_outsideTags, stripTags, toList_clean]

theorem not_mem_stripTags : '<' ∉ (stripTags s).toList := by
  rw [toList_stripTags]
  exact (stripped_scan s.toList).1.not_mem

theorem not_control_of_mem_clean : ∀ c ∈ (clean s).toList, ¬ IsControl c := by
  intro c hc
  rw [toList_clean, cleanChars_eq_filter] at hc
  simpa using List.of_mem_filter hc

variable {s}

theorem stripTags_of_not_mem (h : '<' ∉ s.toList) : stripTags s = s := by
  rw [stripTags, stripped_iff.1 (.plain h), String.ofList_toList]

end Strings

/-! ## Texts -/

/-- What stripping does to a text. -/
structure StripsTags (s : String) : Prop where
  /-- it is one pass over the text, outside and inside of tags -/
  scanned : (stripTags s).toList = outsideTags s.toList
  /-- the pass leaves out the stretches of the pattern of a tag -/
  pattern : tagPattern.removed s.toList = outsideTags s.toList
  /-- it cuts from each `<` to the next `>`, or to the end -/
  cut : ∀ out, Stripped s.toList out ↔ (stripTags s).toList = out
  tagless : '<' ∉ (stripTags s).toList
  sublist : (stripTags s).toList.Sublist s.toList
  unchanged : '<' ∉ s.toList → stripTags s = s
  idempotent : stripTags (stripTags s) = stripTags s

/-- When a text has markup. -/
structure FindsMarkup (s : String) : Prop where
  /-- the pattern of markup occurs somewhere -/
  pattern : hasMarkup s = markupPattern.occursIn s.toList
  /-- a tag is opened, and closed anywhere later -/
  opened : hasMarkup s = true ↔ ∃ before d after, s.toList = before ++ '<' :: d :: after ∧
    (d.isAlpha = true ∨ d = '/' ∨ d = '!') ∧ '>' ∈ after

/-- What cleaning does to a text. -/
structure Cleans (s : String) : Prop where
  pattern : (clean s).toList = strayPattern.removed s.toList
  removed : (clean s).toList = s.toList.filter (¬ IsControl ·)
  idempotent : clean (clean s) = clean s
  commutes : clean (stripTags s) = stripTags (clean s)
  /-- without a limit all of the text is cleaned -/
  whole : readCleanText (.text s) .null = .ok (clean s)
  /-- with a limit what exceeds it is cut off before, control characters counted -/
  limited : ∀ n : Nat, readCleanText (.text s) (.int n) = .ok (
    if s.length ≤ n then clean s
    else clean (String.ofList (s.toList.take n)) ++ "... [truncated]")

theorem stripsTags (s : String) : StripsTags s where
  scanned := toList_stripTags s
  pattern := removed_tagPattern s.toList
  cut out := by rw [toList_stripTags, stripped_iff]
  tagless := not_mem_stripTags s
  sublist := by
    rw [toList_stripTags]
    exact (stripped_scan s.toList).1.sublist
  unchanged := stripTags_of_not_mem
  idempotent := stripTags_of_not_mem (not_mem_stripTags s)

theorem findsMarkup (s : String) : FindsMarkup s where
  pattern := (occursIn_markupPattern s.toList).symm
  opened := by
    simp only [hasMarkup, markupIn_iff, opensTag_iff]

theorem cleanWithin_natCast (n : Nat) (s : String) : cleanWithin (some n) s =
    if s.length ≤ n then clean s
    else clean (String.ofList (s.toList.take n)) ++ "... [truncated]" := by
  have hmark : cleanChars truncationMark.toList = truncationMark.toList := by decide
  have hcut : cleanChars (takeSigned n s.toList ++ truncationMark.toList) =
      cleanChars (s.toList.take n) ++ truncationMark.toList := by
    rw [takeSigned, if_pos (Int.natCast_nonneg n), Int.toNat_natCast, cleanChars,
      List.filter_append, ← cleanChars, ← cleanChars, hmark]
  rw [cleanWithin]
  split
  · rename_i hempty
    obtain rfl : s = "" := by simpa using hempty
    simp [clean, cleanChars]
  · rw [hcut, String.length_toList]
    simp [clean, truncationMark]

theorem readText_text (s : String) : readText (.text s) = .ok s := by
  by_cases h : s = "" <;> simp [readText, Json.textOrEmpty?, Json.isTruthy, Json.text?, h]

/-- A text is cleaned up to its limit, whatever that is. -/
theorem readCleanText_text {limit : Json} {s : String} {n : Option Int}
    (h : readLimit s limit = .ok n) : readCleanText (.text s) limit = .ok (cleanWithin n s) := by
  by_cases hempty : s = ""
  · subst hempty
    have hnone : cleanWithin n "" = "" := by cases n <;> rfl
    rw [hnone]
    rfl
  · have hsome : s.isEmpty = false := by simpa using hempty
    rw [readCleanText, readText_text, ok_bind, hsome, h]
    rfl

theorem cleans (s : String) : Cleans s where
  pattern := by rw [toList_clean, strayPattern, Pattern.removed_one, cleanChars]
  removed := by rw [toList_clean, cleanChars_eq_filter]
  idempotent := clean_clean s
  commutes := clean_stripTags s
  whole := readCleanText_text (n := none) rfl
  limited n := by rw [readCleanText_text rfl, cleanWithin_natCast]

/-- **What stripping, looking for markup and cleaning do to a text.**  Stripping drops everything
    from a `<` to the next `>`, markup is a tag that begins like one and ends, and cleaning drops
    the control characters and nothing else; tags may be stripped before or after. -/
theorem text_cleaned (s : String) : StripsTags s ∧ FindsMarkup s ∧ Cleans s :=
  ⟨stripsTags s, findsMarkup s, cleans s⟩

-- a `<` inside of a tag opens no other, and the last tag is not closed
example : stripTags "1 > 0 <a <b> c> <d" = "1 > 0  c> " := by decide

end Text

end ChatRelay

/-
  Texts of digits.

  Not every digit has a place in decimal notation, so a text of digits need not be a
  numeral.  No digit is a blank, a sign or a letter (`not_isBlank_of_isDigit`,
  `toNat_of_isDigit`); `readReal_of_digits_iff` says that a text of digits is read as
  a real just if all of them are decimal, and `readReal_of_decimals` as which.
-/
import ChatRelay.Number.Numeral
import ChatRelay.Proofs.Sequence
import Mathlib.Data.List.TakeWhile

namespace ChatRelay

namespace Text

/-! ## Code points -/

/-- The ranges of the digits of both sorts. -/
def digitRanges : List (Nat × Nat) := decimalZeros.map (fun z => (z, z + 9)) ++ otherDigits

/-- The ranges of the blanks. -/
def blankRanges : List (Nat × Nat) :=
  [(0x09, 0x0D), (0x1C, 0x20), (0x85, 0x85), (0xA0, 0xA0), (0x1680, 0x1680), (0x2000, 0x200A),
    (0x2028, 0x2029), (0x202F, 0x202F), (0x205F, 0x205F), (0x3000, 0x3000)]

variable {c : Char}

theorem isSome_decimalValue?_iff : (decimalValue? c).isSome = true ↔
    ∃ z ∈ decimalZeros, z ≤ c.toNat ∧ c.toNat < z + 10 := by
  rw [decimalValue?, Option.isSome_map, List.find?_isSome]
  simp only [Bool.and_eq_true, decide_eq_true_eq]

theorem exists_range_of_isDigit (h : isDigit c = true) :
    ∃ r ∈ digitRanges, r.1 ≤ c.toNat ∧ c.toNat ≤ r.2 := by
  rw [isDigit, Bool.or_eq_true, isSome_decimalValue?_iff, List.any_eq_true] at h
  rcases h with ⟨z, hz, hle, hlt⟩ | ⟨r, hr, hc⟩
  · exact ⟨(z, z + 9), List.mem_append_left _ (List.mem_map_of_mem hz), hle, by omega⟩
  · simp only [Bool.and_eq_true, decide_eq_true_eq] at hc
    exact ⟨r, List.mem_append_right _ hr, hc⟩

theorem exists_range_of_isBlank (h : isBlank c = true) :
    ∃ r ∈ blankRanges, r.1 ≤ c.toNat ∧ c.toNat ≤ r.2 := by
  simp only [isBlank, Bool.or_eq_true, Bool.and_eq_true, decide_eq_true_eq, beq_iff_eq] at h
  simp only [blankRanges, List.mem_cons, List.not_mem_nil, or_false, exists_eq_or_imp,
    exists_eq_left]
  omega

theorem isDigit_of_decimal (h : (decimalValue? c).isSome = true) : isDigit c = true := by
  rw [isDigit, h, Bool.true_or]

theorem not_isBlank_of_isDigit (h : isDigit c = true) : isBlank c = false := by
  have hapart : ∀ r ∈ digitRanges, ∀ b ∈ blankRanges, r.2 < b.1 ∨ b.2 < r.1 := by decide
  obtain ⟨r, hr, hle, hge⟩ := exists_range_of_isDigit h
  cases hblank : isBlank c with
  | false => rfl
  | true =>
    obtain ⟨b, hb, hle', hge'⟩ := exists_range_of_isBlank hblank
    have := hapart r hr b hb
    omega

/-- The digits outside ASCII stand after its letters and signs. -/
theorem toNat_of_isDigit (h : isDigit c = true) :
    (48 ≤ c.toNat ∧ c.toNat ≤ 57) ∨ 0xB2 ≤ c.toNat := by
  have hbounds : ∀ r ∈ digitRanges, (48 ≤ r.1 ∧ r.2 ≤ 57) ∨ 0xB2 ≤ r.1 := by decide
  obtain ⟨r, hr, hle, hge⟩ := exists_range_of_isDigit h
  have := hbounds r hr
  omega

end Text

open Text

/-! ## Runs of digits -/

section Digits

variable {cs : List Char}

theorem dropWhile_of_none {p : Char → Bool} (h : ∀ c ∈ cs, p c = false) : cs.dropWhile p = cs := by
  cases cs with
  | nil => rfl
  | cons c cs => rw [List.dropWhile_cons_of_neg (by simp [h c])]

theorem dropTrailing_of_none {p : Char → Bool} (h : ∀ c ∈ cs, p c = false) :
    dropTrailing p (cs.dropWhile p) = cs := by
  rw [dropWhile_of_none h, dropTrailing, dropWhile_of_none (by simpa using h),
    List.reverse_reverse]

/-- A run of digits ends before the first that is not decimal. -/
theorem runFrom_of_digits (h : ∀ c ∈ cs, isDigit c = true) (inside : Bool) :
    ∃ ds, Numeral.runFrom inside cs = (ds, cs.dropWhile fun c => (decimalValue? c).isSome) := by
  induction cs generalizing inside with
  | nil => exact ⟨[], rfl⟩
  | cons c cs ih =>
    cases hd : decimalValue? c with
    | some d =>
      obtain ⟨ds, hds⟩ := ih (fun x hx => h x (List.mem_cons_of_mem _ hx)) true
      exact ⟨d :: ds, by simp [Numeral.runFrom, hd, hds]⟩
    | none =>
      have hunderscore : (c == '_') = false := by
        rw [beq_eq_false_iff_ne]
        rintro rfl
        cases h '_' List.mem_cons_self
      exact ⟨[], by simp [Numeral.runFrom, hd, hunderscore]⟩

theorem sign_of_digits (h : ∀ c ∈ cs, isDigit c = true) : Numeral.sign cs = (false, cs) := by
  unfold Numeral.sign
  split
  · cases h '-' List.mem_cons_self
  · cases h '+' List.mem_cons_self
  · rfl

theorem guard_eq_ite (p : Prop) [Decidable p] :
    (guard p : Option Unit) = if p then some () else none := rfl

/-- A run of decimal digits is read to its end. -/
theorem runFrom_of_decimals {ds : List Nat} (h : cs.mapM decimalValue? = some ds) (inside : Bool) :
    Numeral.runFrom inside cs = (ds, []) := by
  rw [mapM_eq_some_iff] at h
  induction h generalizing inside with
  | nil => rfl
  | cons hc _ ih => simp only [Numeral.runFrom, hc, ih]

/-- Digits without places and exponent are the number that they denote. -/
theorem real_of_digits (ds : List Nat) :
    Numeral.real false ds 0 0 = .ofDecimal false (ofDigits ds) 0 := by
  have hplaces : max (-(Int.ofNat (400 + ds.length))) (min (Int.ofNat (400 + ds.length)) 0) -
      (0 : Nat) = 0 := by
    rw [Int.ofNat_eq_natCast]
    omega
  simp only [Numeral.real, hplaces]

/-- Decimal digits are the numeral of the number that they denote. -/
theorem decimal?_of_decimals {ds : List Nat} (h : cs.mapM decimalValue? = some ds) (hne : cs ≠ []) :
    Numeral.decimal? false cs = some (.ofDecimal false (ofDigits ds) 0) := by
  have hds : ds ≠ [] := by
    rintro rfl
    exact hne (List.forall₂_nil_right_iff.1 (mapM_eq_some_iff.1 h))
  simp [Numeral.decimal?, Numeral.digitRun, runFrom_of_decimals h, Numeral.fraction,
    Numeral.exponent, real_of_digits, ↓guard_eq_ite, hds]

/-- Decimal digits have values. -/
theorem exists_decimals (h : ∀ c ∈ cs, (decimalValue? c).isSome = true) :
    ∃ ds, cs.mapM decimalValue? = some ds :=
  (exists_forall₂ fun c hc => Option.isSome_iff_exists.1 (h c hc)).imp fun _ hds =>
    mapM_eq_some_iff.2 hds

theorem decimal?_of_not_decimals (h : ∀ c ∈ cs, isDigit c = true)
    (hnot : ¬ ∀ c ∈ cs, (decimalValue? c).isSome = true) : Numeral.decimal? false cs = none := by
  obtain ⟨ds, hds⟩ := runFrom_of_digits h false
  cases hrest : cs.dropWhile fun c => (decimalValue? c).isSome with
  | nil => exact absurd (List.dropWhile_eq_nil_iff.1 hrest) hnot
  | cons c rest =>
    -- The run stops at a digit, with which neither a fraction nor an exponent begins.
    have hc : isDigit c = true := h c ((List.dropWhile_suffix _).mem (hrest ▸ List.mem_cons_self))
    have hfraction : Numeral.fraction (c :: rest) = none := by
      unfold Numeral.fraction
      split
      · rename_i heq
        cases heq
        cases hc
      · rfl
    have hexponent : Numeral.exponent (c :: rest) = some (0, c :: rest) := by
      have he : c ≠ 'e' := by rintro rfl; cases hc
      have hE : c ≠ 'E' := by rintro rfl; cases hc
      simp [Numeral.exponent, he, hE]
    rw [hrest] at hds
    simp [Numeral.decimal?, Numeral.digitRun, hds, hfraction, hexponent, ↓guard_eq_ite]

theorem toLower_of_isDigit {c : Char} (h : isDigit c = true) : c.toLower = c := by
  have hrange := toNat_of_isDigit h
  have hsmall : ¬ (c.val ≥ 'A'.val ∧ c.val ≤ 'Z'.val) := by
    rintro ⟨hle, hge⟩
    have hle : 65 ≤ c.toNat := hle
    have hge : c.toNat ≤ 90 := hge
    omega
  exact dif_neg hsmall

theorem named?_of_digits (h : ∀ c ∈ cs, isDigit c = true) (negative : Bool) :
    Numeral.named? negative cs = none := by
  have hlower : cs.map Char.toLower = cs :=
    (List.map_congr_left fun c hc => toLower_of_isDigit (h c hc)).trans (List.map_id' cs)
  have hname : ∀ (name : String) (c : Char), c ∈ name.toList → isDigit c = false →
      String.ofList cs ≠ name := by
    rintro _ c hc hdigit rfl
    rw [h c (by rwa [String.toList_ofList] at hc)] at hdigit
    cases hdigit
  simp [Numeral.named?, hlower, hname "inf" 'i' (by decide) (by decide),
    hname "infinity" 'i' (by decide) (by decide), hname "nan" 'n' (by decide) (by decide)]

theorem trimmed_of_digits {s : String} (h : ∀ c ∈ s.toList, isDigit c = true) :
    Numeral.trimmed s = s.toList := dropTrailing_of_none fun c hc => by
  rw [Numeral.isMargin, not_isBlank_of_isDigit (h c hc), Bool.false_and]

theorem isDigit_of_decimals {ds : List Nat} (h : cs.mapM decimalValue? = some ds) :
    ∀ c ∈ cs, isDigit c = true := fun c hc => by
  obtain ⟨d, -, hd⟩ := exists_of_forall₂_left (mapM_eq_some_iff.1 h) c hc
  exact isDigit_of_decimal (by rw [hd]; rfl)

/-- **A text of decimal digits is read as the number that they denote.** -/
theorem readReal_of_decimals {s : String} {ds : List Nat}
    (h : s.toList.mapM decimalValue? = some ds) (hne : s.toList ≠ []) :
    readReal s = .ok (.ofDecimal false (ofDigits ds) 0) := by
  have hdigits := isDigit_of_decimals h
  simp [readReal, trimmed_of_digits hdigits, sign_of_digits hdigits, decimal?_of_decimals h hne]

/-- **A text of digits is a numeral just if all of them are decimal.** -/
theorem readReal_of_digits_iff {s : String} (h : ∀ c ∈ s.toList, isDigit c = true)
    (hne : s.toList ≠ []) : (∃ x, readReal s = .ok x) ↔
      ∀ c ∈ s.toList, (decimalValue? c).isSome = true := by
  by_cases hall : ∀ c ∈ s.toList, (decimalValue? c).isSome = true
  · obtain ⟨ds, hds⟩ := exists_decimals hall
    exact ⟨fun _ => hall, fun _ => ⟨_, readReal_of_decimals hds hne⟩⟩
  · have hread : readReal s = .error (.notReal s) := by
      simp [readReal, trimmed_of_digits h, sign_of_digits h, named?_of_digits h,
        decimal?_of_not_decimals h hall]
    rw [hread]
    exact ⟨nofun, fun h => absurd h hall⟩

end Digits

end ChatRelay

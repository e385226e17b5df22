/-
  The pauses between the attempts of a delivery.

  A header that asks for a pause makes an error just if it has digits only and not all
  of them are decimal (`hintSeconds_error_iff`), so one of ASCII digits makes none.
  A delay is too large for a number only if it is computed, not asked for, and that
  for an attempt with a number of 1024 or more (`delay_eq_none_iff`): the powers of
  two end there.
-/
import ChatRelay.Connector.Delivery
import ChatRelay.Proofs.Number.Digits
import ChatRelay.Proofs.Number.Power
import ChatRelay.Proofs.Running

namespace ChatRelay

/-! ## Hints -/

/-- Characters that are all digits from `0` to `9`. -/
def IsDigits (cs : List Char) : Prop := ∀ c ∈ cs, c.isDigit = true

instance (cs : List Char) : Decidable (IsDigits cs) :=
  List.decidableBAll (fun c : Char => c.isDigit = true) cs

/-- The header has digits only, blanks around them apart, and one of them is not decimal. -/
def IsGarbled (header : Option String) : Prop :=
  ∃ v ∈ header, (∀ c ∈ (Text.trimBlank v).toList, Text.isDigit c = true) ∧
    ∃ c ∈ (Text.trimBlank v).toList, Text.decimalValue? c = none

theorem decimalValue?_of_isDigit {c : Char} (h : c.isDigit = true) :
    Text.decimalValue? c = some (Json.digitValue c) := by
  simp only [Char.isDigit, Bool.and_eq_true, decide_eq_true_eq] at h
  have hle : 0x30 ≤ c.toNat := h.1
  have hge : c.toNat ≤ 0x39 := h.2
  have hzero : (decide (0x30 ≤ c.toNat) && decide (c.toNat < 0x30 + 10)) = true := by
    rw [Bool.and_eq_true, decide_eq_true_eq, decide_eq_true_eq]
    omega
  have hfind : Text.decimalZeros.find? (fun z => z ≤ c.toNat && c.toNat < z + 10) = some 0x30 :=
    List.find?_cons_of_pos hzero
  rw [Text.decimalValue?, hfind]
  rfl

theorem mem_of_mem_trimBlank {s : String} {c : Char} (h : c ∈ (Text.trimBlank s).toList) :
    c ∈ s.toList := by
  rw [Text.trimBlank, String.toList_ofList, Text.trimChars, Text.dropTrailing,
    List.mem_reverse] at h
  have hrest := (List.dropWhile_suffix _).mem h
  exact (List.dropWhile_suffix _).mem (List.mem_reverse.1 hrest)

theorem not_garbled_of_digits {header : Option String} (h : ∀ v ∈ header, IsDigits v.toList) :
    ¬ IsGarbled header := by
  rintro ⟨v, hv, -, c, hc, hnone⟩
  cases hnone.symm.trans (decimalValue?_of_isDigit (h v hv c (mem_of_mem_trimBlank hc)))

/-- The seconds asked for are a real. -/
theorem real_of_hintSeconds {header : Option String} {after : Option Number}
    (h : hintSeconds header = .ok after) : ∀ x ∈ after, ∃ y, x = Number.real y := by
  unfold hintSeconds at h
  split at h
  · cases h
    nofun
  · split at h
    · obtain ⟨x, -, rfl⟩ := ok_of_map h
      simp
    · cases h
      nofun

theorem hintSeconds_some (v : String) : hintSeconds (some v) =
    if !(Text.trimBlank v).isEmpty && (Text.trimBlank v).toList.all Text.isDigit then
      (readReal (Text.trimBlank v)).map fun x => some (.real x)
    else .ok none := rfl

/-- **A header makes an error just if it is garbled.** -/
theorem hintSeconds_error_iff (header : Option String) :
    (∃ e, hintSeconds header = .error e) ↔ IsGarbled header := by
  cases header with
  | none => exact ⟨nofun, fun ⟨_, h, _⟩ => by cases h⟩
  | some v =>
    have hgarbled : IsGarbled (some v) ↔
        (∀ c ∈ (Text.trimBlank v).toList, Text.isDigit c = true) ∧
          ∃ c ∈ (Text.trimBlank v).toList, Text.decimalValue? c = none := by
      simp [IsGarbled]
    rw [hgarbled, hintSeconds_some]
    generalize Text.trimBlank v = s
    by_cases hdigits : ∀ c ∈ s.toList, Text.isDigit c = true
    · by_cases hne : s.toList = []
      · have hempty : s = "" := by simpa using hne
        simp [hempty]
      · have hnonempty : (!s.isEmpty && s.toList.all Text.isDigit) = true := by
          rw [List.all_eq_true.2 hdigits]
          simpa using hne
        rw [if_pos hnonempty, exists_error_iff, exists_ok_map_iff,
          readReal_of_digits_iff hdigits hne, and_iff_right hdigits]
        simp
    · have hall : s.toList.all Text.isDigit = false := by simpa using hdigits
      rw [hall, Bool.and_false, if_neg (by simp)]
      exact ⟨nofun, fun h => absurd h.1 hdigits⟩

/-- **What an answer says about another attempt is an error just if the attempt is worth one and
    the header is garbled.** -/
theorem classifyStatus_error_iff (status : Nat) (header : Option String) :
    (∃ e, classifyStatus status header = .error e) ↔
      retryableStatus status = true ∧ IsGarbled header := by
  rw [← hintSeconds_error_iff, classifyStatus]
  cases retryableStatus status with
  | false => exact ⟨nofun, nofun⟩
  | true =>
    rw [if_pos rfl]
    cases hintSeconds header with
    | error e => exact ⟨fun _ => ⟨rfl, e, rfl⟩, fun _ => ⟨e, rfl⟩⟩
    | ok after => exact ⟨nofun, nofun⟩

/-! ## Delays -/

theorem quantity_isZero (x : Number) : Quantity.isZero x = x.isZero := rfl

theorem quantity_mul (x y : Number) : Quantity.mul x y = x.mul y := rfl

theorem quantity_power (x : Number) (n : Nat) : Quantity.power x n = x.power n := rfl

theorem mul_real {j : Number} (hj : j.toReal?.isSome = true) (x : Binary64) :
    ∃ y, Number.mul (.real x) j = some (.real y) := by
  obtain ⟨y, hy⟩ := Option.isSome_iff_exists.1 hj
  exact ⟨x.product y, by rw [Number.mul, hy]; rfl; exact fun _ _ h => by cases h⟩

/-- The delay that is wanted is a real, or too large. -/
theorem wanted_eq_none_or_real (client : Client) (n : Nat) {hint : Option Number}
    (hhint : ∀ x ∈ hint, ∃ y, x = Number.real y) :
    ((deliveryBackoff client).wanted n hint = none ∧ (∀ x ∈ hint, x.isZero = true) ∧ 1024 ≤ n) ∨
      (∃ y, (deliveryBackoff client).wanted n hint = some (.real y)) ∧
        ¬ ((∀ x ∈ hint, x.isZero = true) ∧ 1024 ≤ n) := by
  cases hf : hint.filter (!Quantity.isZero ·) with
  | some x =>
    obtain ⟨hx, hzero⟩ := Option.filter_eq_some_iff.1 hf
    obtain ⟨y, rfl⟩ := hhint x hx
    refine Or.inr ⟨⟨y, by simp only [Backoff.wanted, hf]⟩, fun h => ?_⟩
    rw [quantity_isZero, h.1 _ hx] at hzero
    cases hzero
  | none =>
    have hzero : ∀ x ∈ hint, x.isZero = true := fun x hx => by
      simpa [quantity_isZero] using Option.filter_eq_none_iff.1 hf x hx
    have hwanted : (deliveryBackoff client).wanted n hint =
        (Number.power (.real (.ofInt 2)) n).bind
          (Number.mul (.real (.ofDecimal false 5 (-1)))) := by
      simp only [Backoff.wanted, hf, quantity_power, deliveryBackoff]
      rfl
    have hpower := Number.power_two_eq_none_iff n
    cases hp : Number.power (.real (.ofInt 2)) n with
    | none =>
      rw [hp, Option.bind_none] at hwanted
      exact Or.inl ⟨hwanted, hzero, hpower.1 hp⟩
    | some p =>
      obtain ⟨q, rfl⟩ : ∃ q, p = .real q := by
        simp only [Number.power] at hp
        split at hp <;> cases hp
        exact ⟨_, rfl⟩
      obtain ⟨y, hy⟩ := mul_real (j := .real q) rfl (.ofDecimal false 5 (-1))
      rw [hp, Option.bind_some, hy] at hwanted
      refine Or.inr ⟨⟨y, hwanted⟩, fun h => ?_⟩
      rw [hpower.2 h.2] at hp
      cases hp

/-- A delay that is a real is put off by a random part of it. -/
theorem delay_isSome_of_wanted {client : Client} {n : Nat} {hint : Option Number} {y : Binary64}
    (h : (deliveryBackoff client).wanted n hint = some (.real y)) {j : Number}
    (hj : j.toReal?.isSome = true) : ((deliveryBackoff client).delay n hint j).isSome = true := by
  obtain ⟨d, hd⟩ : ∃ d, (deliveryBackoff client).limited n hint = some (.real d) := by
    simp only [Backoff.limited, h, Option.map_some]
    split
    · exact ⟨_, rfl⟩
    · exact ⟨_, rfl⟩
  obtain ⟨b, hb⟩ := mul_real (j := .real (.ofDecimal false 1 (-1))) rfl d
  obtain ⟨e, he⟩ : ∃ e, randomUpTo (Number.real b) j = some e := by
    obtain ⟨z, hz⟩ : ∃ z, Quantity.sub (Number.real b) Quantity.zero = .real z := ⟨_, rfl⟩
    obtain ⟨y, hy⟩ := mul_real hj z
    exact ⟨Quantity.add Quantity.zero (.real y), by rw [randomUpTo, hz, quantity_mul, hy]; rfl⟩
  have hb' : Quantity.mul (Number.real d) Quantity.tenth = some (.real b) := hb
  simp [Backoff.delay, hd, hb', he]

/-- **Only a computed delay overflows, and that from the attempt number 1024 on.** -/
theorem delay_eq_none_iff (client : Client) (n : Nat) {hint : Option Number}
    (hhint : ∀ x ∈ hint, ∃ y, x = Number.real y) {j : Number} (hj : j.toReal?.isSome = true) :
    (deliveryBackoff client).delay n hint j = none ↔
      (∀ x ∈ hint, x.isZero = true) ∧ 1024 ≤ n := by
  rcases wanted_eq_none_or_real client n hhint with ⟨hw, hn⟩ | ⟨⟨y, hw⟩, hn⟩
  · exact ⟨fun _ => hn, fun _ => by simp [Backoff.delay, Backoff.limited, hw]⟩
  · have hsome := delay_isSome_of_wanted hw hj
    exact ⟨fun h => by simp [h] at hsome, fun h => absurd h hn⟩

end ChatRelay

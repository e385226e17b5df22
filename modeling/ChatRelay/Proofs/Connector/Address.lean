/-
  The normal form of addresses.

  An address is in normal form if it has a scheme, no slash at its end and no blanks around
  it; such an address, and no other that is made, is left as it is.  An address is brought
  into this form unless what follows its scheme consists of slashes (`IsBare`), which takes
  the slashes of the scheme along, or a blank stands before the slashes at its end
  (`HasBlankEnd`), which is left.

  * `normalizeAddress_cases` lists what is made of an address;
  * `address_normalized` says what holds of it, and when clients with this address and the
    report on what the service works with agree.
-/
import ChatRelay.Gateway.Answer
import ChatRelay.Proofs.Running
import ChatRelay.Proofs.Text.Trimming

namespace ChatRelay

open Text

/-! ## Schemes -/

/-- The schemes of addresses. -/
def schemes : List (List Char) := ["http://".toList, "https://".toList]

/-- What follows the scheme, if there is one. -/
def afterScheme (cs : List Char) : List Char :=
  if "http://".toList <+: cs then cs.drop 7
  else if "https://".toList <+: cs then cs.drop 8
  else cs

/-- The normal form of an address. -/
structure IsNormalAddress (a : String) : Prop where
  scheme : ∃ scheme ∈ schemes, scheme <+: a.toList
  noSlash : a.toList.getLast? ≠ some '/'
  noBlankInFront : ∀ c ∈ a.toList.head?, isBlank c = false
  noBlankAtEnd : ∀ c ∈ a.toList.getLast?, isBlank c = false

/-- What follows the scheme has nothing but slashes. -/
def IsBare (cs : List Char) : Prop := cs ≠ [] ∧ ∀ c ∈ afterScheme cs, c = '/'

/-- A blank stands before the slashes at the end. -/
def HasBlankEnd (cs : List Char) : Prop :=
  ∃ front c slashes, afterScheme cs = front ++ c :: slashes ∧ isBlank c = true ∧
    ∀ d ∈ slashes, d = '/'

/-- What follows the scheme, without the slashes at its end. -/
def keptPart (cs : List Char) : List Char := dropTrailing (· == '/') (afterScheme cs)

section Schemes

variable {cs : List Char} {s : String}

theorem mem_schemes_iff {scheme : List Char} :
    scheme ∈ schemes ↔ scheme = "http://".toList ∨ scheme = "https://".toList := by
  simp only [schemes, List.mem_cons, List.not_mem_nil, or_false]

theorem hasScheme_iff : hasScheme s = true ↔ ∃ scheme ∈ schemes, scheme <+: s.toList := by
  simp only [hasScheme, Bool.or_eq_true, String.startsWith_string_iff, mem_schemes_iff,
    exists_eq_or_imp, exists_eq_left]

theorem exists_scheme_append (h : ∃ scheme ∈ schemes, scheme <+: cs) :
    ∃ scheme ∈ schemes, cs = scheme ++ afterScheme cs := by
  by_cases hplain : "http://".toList <+: cs
  · obtain ⟨rest, rfl⟩ := hplain
    exact ⟨"http://".toList, by decide, by rw [afterScheme, if_pos (List.prefix_append _ _)]; rfl⟩
  · have hsecure : "https://".toList <+: cs := by
      obtain ⟨scheme, hmem, hprefix⟩ := h
      rcases mem_schemes_iff.1 hmem with rfl | rfl
      · exact absurd hprefix hplain
      · exact hprefix
    obtain ⟨rest, rfl⟩ := hsecure
    refine ⟨"https://".toList, by decide, ?_⟩
    rw [afterScheme, if_neg hplain, if_pos (List.prefix_append _ _)]
    rfl

theorem afterScheme_of_none (h : ¬ ∃ scheme ∈ schemes, scheme <+: cs) : afterScheme cs = cs := by
  rw [afterScheme, if_neg fun h' => h ⟨_, by decide, h'⟩, if_neg fun h' => h ⟨_, by decide, h'⟩]

end Schemes

/-! ## What is made of an address -/

theorem isBare_iff {cs : List Char} : IsBare cs ↔ cs ≠ [] ∧ keptPart cs = [] := by
  rw [IsBare, keptPart, dropTrailing_eq, List.rdropWhile_eq_nil_iff]
  simp only [beq_iff_eq]

theorem hasBlankEnd_iff {cs : List Char} :
    HasBlankEnd cs ↔ ∃ c ∈ (keptPart cs).getLast?, isBlank c = true := by
  constructor
  · rintro ⟨front, c, slashes, hafter, hc, hslashes⟩
    have hne : (c == '/') = false := by
      rw [beq_eq_false_iff_ne]
      rintro rfl
      cases hc
    have hkept : keptPart cs = front ++ [c] := by
      rw [keptPart, hafter, List.append_cons, dropTrailing_of_all (by simpa using hslashes),
        dropTrailing_eq_self_iff]
      simpa using hne
    exact ⟨c, by simp [hkept], hc⟩
  · rintro ⟨c, hlast, hc⟩
    obtain ⟨front, hkept⟩ := List.getLast?_eq_some_iff.1 hlast
    have hsplit : keptPart cs ++ (afterScheme cs).rtakeWhile (· == '/') = afterScheme cs :=
      List.rdropWhile_append_rtakeWhile
    refine ⟨front, c, (afterScheme cs).rtakeWhile (· == '/'), ?_, hc, fun d hd => ?_⟩
    · rw [List.append_cons, ← hkept, hsplit]
    · simpa using List.mem_rtakeWhile_imp hd

theorem toList_normalizeAddress {u : String} (h : trimBlank u ≠ "") :
    ∃ scheme ∈ schemes, (normalizeAddress u).toList =
      dropTrailing (· == '/') (scheme ++ afterScheme (trimBlank u).toList) := by
  have hempty : (trimBlank u).isEmpty = false := by simpa using h
  simp only [normalizeAddress, hempty, Bool.false_eq_true, if_false, trimSlashes,
    String.toList_ofList]
  cases hscheme : hasScheme (trimBlank u) with
  | true =>
    obtain ⟨scheme, hmem, hsplit⟩ := exists_scheme_append (hasScheme_iff.1 hscheme)
    exact ⟨scheme, hmem, by rw [if_pos rfl, ← hsplit]⟩
  | false =>
    have hnone : ¬ ∃ scheme ∈ schemes, scheme <+: (trimBlank u).toList := by
      rw [← hasScheme_iff, hscheme]
      exact Bool.false_ne_true
    refine ⟨"http://".toList, by decide, ?_⟩
    rw [if_neg Bool.false_ne_true, afterScheme_of_none hnone, String.toList_append]

theorem normalizeAddress_of_empty {u : String} (h : trimBlank u = "") :
    normalizeAddress u = localAddress := by
  have hscheme : hasScheme localAddress = true :=
    hasScheme_iff.2 ⟨"http://".toList, by decide, by decide⟩
  have hslashes : trimSlashes localAddress = localAddress := by decide
  have hempty : "".isEmpty = true := rfl
  simp only [normalizeAddress, h, hempty, if_true, hscheme, hslashes]

/-- **What is made of an address**: the one of the connector on this machine, a scheme without
    its slashes, or a scheme with what follows it up to the slashes at the end. -/
theorem normalizeAddress_cases (u : String) :
    trimBlank u = "" ∧ normalizeAddress u = localAddress ∨
    IsBare (trimBlank u).toList ∧ (normalizeAddress u = "http:" ∨ normalizeAddress u = "https:") ∨
    keptPart (trimBlank u).toList ≠ [] ∧ ∃ scheme ∈ schemes,
      (normalizeAddress u).toList = scheme ++ keptPart (trimBlank u).toList := by
  by_cases hempty : trimBlank u = ""
  · exact Or.inl ⟨hempty, normalizeAddress_of_empty hempty⟩
  · obtain ⟨scheme, hmem, hmade⟩ := toList_normalizeAddress hempty
    by_cases hkept : keptPart (trimBlank u).toList = []
    · have hbare : IsBare (trimBlank u).toList :=
        isBare_iff.2 ⟨by simpa using hempty, hkept⟩
      have hslashes : ∀ c ∈ afterScheme (trimBlank u).toList, (c == '/') = true := by
        simpa using hbare.2
      rw [dropTrailing_of_all hslashes] at hmade
      refine Or.inr (Or.inl ⟨hbare, ?_⟩)
      rcases mem_schemes_iff.1 hmem with rfl | rfl
      · exact Or.inl (String.toList_injective hmade)
      · exact Or.inr (String.toList_injective hmade)
    · rw [dropTrailing_append hkept] at hmade
      exact Or.inr (Or.inr ⟨hkept, scheme, hmem, hmade⟩)

/-! ## Normal forms -/

section Normal

variable {a u : String}

theorem getLast?_scheme {scheme : List Char} (h : scheme ∈ schemes) :
    ∀ c ∈ scheme.getLast?, isBlank c = false := by
  rcases mem_schemes_iff.1 h with rfl | rfl <;> rintro c ⟨⟩ <;> decide

theorem head?_of_scheme {cs : List Char} (h : ∃ scheme ∈ schemes, scheme <+: cs) :
    ∀ c ∈ cs.head?, isBlank c = false := by
  obtain ⟨scheme, hmem, rest, rfl⟩ := h
  rcases mem_schemes_iff.1 hmem with rfl | rfl <;> rintro c ⟨⟩ <;> decide

theorem normalizeAddress_of_scheme (h : hasScheme (trimBlank a) = true) :
    normalizeAddress a = trimSlashes (trimBlank a) := by
  have hempty : (trimBlank a).isEmpty = false := by
    rw [Bool.eq_false_iff]
    intro hempty
    rw [String.isEmpty_iff.1 hempty] at h
    cases h
  simp only [normalizeAddress, hempty, h, Bool.false_eq_true, if_false, if_true]

/-- An address in normal form is left as it is. -/
theorem IsNormalAddress.fixed (h : IsNormalAddress a) : normalizeAddress a = a := by
  have htrimmed : trimBlank a = a := by
    rw [trimBlank, trimChars_eq_self_iff.2 ⟨h.noBlankInFront, h.noBlankAtEnd⟩, String.ofList_toList]
  have hslash : dropTrailing (· == '/') a.toList = a.toList :=
    dropTrailing_eq_self_iff.2 fun c hc => beq_eq_false_iff_ne.2 fun heq => h.noSlash (heq ▸ hc)
  rw [normalizeAddress_of_scheme (by rw [htrimmed, hasScheme_iff]; exact h.scheme), htrimmed,
    trimSlashes, hslash, String.ofList_toList]

/-- An address with a scheme that is left as it is does not end with a blank. -/
theorem noBlankAtEnd_of_fixed (hscheme : ∃ scheme ∈ schemes, scheme <+: a.toList)
    (h : normalizeAddress a = a) : ∀ c ∈ a.toList.getLast?, isBlank c = false := by
  have hfront : trimChars a.toList = dropTrailing isBlank a.toList := by
    rw [trimChars, dropWhile_eq_self_iff.2 (head?_of_scheme hscheme)]
  have htrimmed : hasScheme (trimBlank a) = true := by
    obtain ⟨scheme, hmem, rest, hrest⟩ := hscheme
    rw [hasScheme_iff, trimBlank, String.toList_ofList, hfront, ← hrest]
    exact ⟨scheme, hmem, prefix_dropTrailing_append (getLast?_scheme hmem) rest⟩
  have hslashes : a.toList = dropTrailing (· == '/') (dropTrailing isBlank a.toList) := by
    conv_lhs => rw [← h, normalizeAddress_of_scheme htrimmed, trimSlashes, String.toList_ofList,
      trimBlank, String.toList_ofList, hfront]
  have hlength : a.toList.length ≤ (dropTrailing isBlank a.toList).length := by
    conv_lhs => rw [hslashes]
    exact (List.rdropWhile_prefix _ _).length_le
  exact dropTrailing_eq_self_iff.1 ((List.rdropWhile_prefix _ _).eq_of_length_le hlength)

end Normal

/-! ## What holds of addresses -/

/-- What holds of the address that is made of `u`. -/
structure Normalizes (u : String) : Prop where
  /-- blanks alone stand for the connector on this machine -/
  blank : trimBlank u = "" → normalizeAddress u = localAddress
  /-- the scheme goes with the slashes that follow it -/
  bare : IsBare (trimBlank u).toList → normalizeAddress u = "http:" ∨ normalizeAddress u = "https:"
  noSlash : (normalizeAddress u).toList.getLast? ≠ some '/'
  noBlankInFront : ∀ c ∈ (normalizeAddress u).toList.head?, isBlank c = false
  scheme : (∃ scheme ∈ schemes, scheme <+: (normalizeAddress u).toList) ↔
    ¬ IsBare (trimBlank u).toList
  noBlankAtEnd : (∀ c ∈ (normalizeAddress u).toList.getLast?, isBlank c = false) ↔
    ¬ HasBlankEnd (trimBlank u).toList
  fixed : normalizeAddress (normalizeAddress u) = normalizeAddress u ↔
    ¬ IsBare (trimBlank u).toList ∧ ¬ HasBlankEnd (trimBlank u).toList

section Normalizes

variable {u : String}

theorem isNormalAddress_localAddress : IsNormalAddress localAddress where
  scheme := ⟨"http://".toList, by decide, by decide⟩
  noSlash := by decide
  noBlankInFront := by rintro c ⟨⟩; decide
  noBlankAtEnd := by rintro c ⟨⟩; decide

/-- Nothing is made the address of the connector on this machine, which is in normal form. -/
theorem normalizes_of_empty (h : trimBlank u = "") (hlocal : normalizeAddress u = localAddress) :
    Normalizes u := by
  have hnormal := isNormalAddress_localAddress
  have hbare : ¬ IsBare (trimBlank u).toList := by
    rintro ⟨hne, -⟩
    exact hne (by rw [h]; rfl)
  have hblank : ¬ HasBlankEnd (trimBlank u).toList := by
    rw [h]
    rintro ⟨front, c, slashes, hafter, -⟩
    have hnil : afterScheme "".toList = [] := by decide
    rw [hnil] at hafter
    simp at hafter
  rw [← hlocal] at hnormal
  exact ⟨fun _ => hlocal, fun h' => absurd h' hbare, hnormal.noSlash, hnormal.noBlankInFront,
    ⟨fun _ => hbare, fun _ => hnormal.scheme⟩, ⟨fun _ => hblank, fun _ => hnormal.noBlankAtEnd⟩,
    ⟨fun _ => ⟨hbare, hblank⟩, fun _ => hnormal.fixed⟩⟩

theorem not_hasBlankEnd_of_isBare {cs : List Char} (h : IsBare cs) : ¬ HasBlankEnd cs := by
  rw [hasBlankEnd_iff, (isBare_iff.1 h).2]
  rintro ⟨c, hc, -⟩
  cases hc

/-- A scheme without its slashes is none, and is taken for the name of a host. -/
theorem not_normal_of_lost {a : String} (h : a = "http:" ∨ a = "https:") :
    a.toList.getLast? ≠ some '/' ∧ (∀ c ∈ a.toList.head?, isBlank c = false) ∧
      (¬ ∃ scheme ∈ schemes, scheme <+: a.toList) ∧
      (∀ c ∈ a.toList.getLast?, isBlank c = false) ∧ normalizeAddress a ≠ a := by
  rcases h with rfl | rfl <;> refine ⟨by decide, ?_, by decide, ?_, by decide⟩ <;>
    rintro c ⟨⟩ <;> decide

/-- Where only slashes follow the scheme, the scheme loses its own. -/
theorem normalizes_of_bare (h : IsBare (trimBlank u).toList)
    (hmade : normalizeAddress u = "http:" ∨ normalizeAddress u = "https:") : Normalizes u := by
  obtain ⟨hslash, hfront, hscheme, hend, hmoved⟩ := not_normal_of_lost hmade
  have hempty : trimBlank u ≠ "" := by simpa using h.1
  exact ⟨fun h' => absurd h' hempty, fun _ => hmade, hslash, hfront,
    ⟨fun h' => absurd h' hscheme, fun hnot => absurd h hnot⟩,
    ⟨fun _ => not_hasBlankEnd_of_isBare h, fun _ => hend⟩,
    ⟨fun hfixed => absurd hfixed hmoved, fun hnot => absurd h hnot.1⟩⟩

/-- What follows the scheme is kept up to the slashes at its end. -/
theorem normalizes_of_kept {scheme : List Char} (hkept : keptPart (trimBlank u).toList ≠ [])
    (hmem : scheme ∈ schemes)
    (hmade : (normalizeAddress u).toList = scheme ++ keptPart (trimBlank u).toList) :
    Normalizes u := by
  have hscheme : ∃ scheme ∈ schemes, scheme <+: (normalizeAddress u).toList :=
    ⟨scheme, hmem, by rw [hmade]; exact List.prefix_append _ _⟩
  have hbare : ¬ IsBare (trimBlank u).toList := fun h => hkept (isBare_iff.1 h).2
  have hlast : (normalizeAddress u).toList.getLast? = (keptPart (trimBlank u).toList).getLast? := by
    rw [hmade, List.getLast?_append_of_ne_nil _ hkept]
  have hslash : (normalizeAddress u).toList.getLast? ≠ some '/' := by
    rw [hlast]
    intro h
    have hno := getLast?_dropTrailing (p := (· == '/')) _ h
    cases hno
  have hblank : (∀ c ∈ (normalizeAddress u).toList.getLast?, isBlank c = false) ↔
      ¬ HasBlankEnd (trimBlank u).toList := by
    rw [hlast, hasBlankEnd_iff]
    simp
  have hempty : trimBlank u ≠ "" := by
    intro h
    rw [h] at hkept
    exact hkept (by decide)
  refine ⟨fun h => absurd h hempty, fun h => absurd h hbare, hslash, head?_of_scheme hscheme,
    ⟨fun _ => hbare, fun _ => hscheme⟩, hblank, ?_⟩
  constructor
  · intro hfixed
    exact ⟨hbare, hblank.1 (noBlankAtEnd_of_fixed hscheme hfixed)⟩
  · rintro ⟨-, hend⟩
    exact IsNormalAddress.fixed ⟨hscheme, hslash, head?_of_scheme hscheme, hblank.2 hend⟩

end Normalizes

theorem normalizes (u : String) : Normalizes u := by
  rcases normalizeAddress_cases u with ⟨hempty, hmade⟩ | ⟨hbare, hmade⟩ |
    ⟨hkept, scheme, hmem, hmade⟩
  · exact normalizes_of_empty hempty hmade
  · exact normalizes_of_bare hbare hmade
  · exact normalizes_of_kept hkept hmem hmade

/-! ## Clients -/

/-- Which address the clients call that are made with `u`, and with what is made of `u`. -/
structure CallsAddress (s : Settings) (u : String) : Prop where
  made : ∀ timeout retries, ∃ c, Client.make s (some (.text u)) timeout retries = .ok c ∧
    c.address = normalizeAddress u
  /-- a client made with the address of another one calls the same, with the exceptions of the
      normal form -/
  again : ∀ timeout retries, ∃ c,
    Client.make s (some (.text (normalizeAddress u))) timeout retries = .ok c ∧
      (c.address = normalizeAddress u ↔
        ¬ IsBare (trimBlank u).toList ∧ ¬ HasBlankEnd (trimBlank u).toList)

/-- Which address the settings stand for. -/
structure ReportsAddress (s : Settings) : Prop where
  unnamed : ∀ timeout retries, ∃ c, Client.make s none timeout retries = .ok c ∧
    c.address = normalizeAddress s.connectorUrl
  client : Client.make s none none none = .ok (Client.ofSettings s)
  /-- the address that is reported ready -/
  ready : ∃ fs, Gateway.readyReport s = Gateway.Response.json 200 (.object fs) ∧
    Json.get? fs "connector" = some (.text (normalizeAddress s.connectorUrl))
  calls : CallsAddress s s.connectorUrl

section Clients

variable (s : Settings) (timeout : Option Number) (retries : Option Int) (u : String)

theorem readAddress_text : readAddress (.text u) = .ok (normalizeAddress u) := by
  by_cases hempty : u = ""
  · subst hempty
    rfl
  · simp [readAddress, Json.textOrEmpty?, Json.isTruthy, Json.text?, hempty]

theorem make_text : Client.make s (some (.text u)) timeout retries =
    .ok ⟨normalizeAddress u, timeout.getD s.deliveryTimeout, retries.getD s.maxRetries⟩ := by
  rw [Client.make, Option.getD_some, readAddress_text]
  rfl

theorem make_none : Client.make s none timeout retries =
    Client.make s (some (.text s.connectorUrl)) timeout retries := rfl

theorem callsAddress : CallsAddress s u where
  made timeout retries := ⟨_, make_text s timeout retries u, rfl⟩
  again timeout retries := ⟨_, make_text s timeout retries (normalizeAddress u),
    (normalizes u).fixed⟩

theorem reportsAddress : ReportsAddress s where
  unnamed := (callsAddress s s.connectorUrl).made
  client := (make_none s none none).trans (make_text s none none s.connectorUrl)
  ready := ⟨_, rfl, rfl⟩
  calls := callsAddress s s.connectorUrl

end Clients

/-- **What is made of an address is in normal form, unless only slashes follow its scheme or a
    blank stands before the slashes at its end.**  A client of the address that another one has
    calls the same connector, with the same exceptions; the address that is reported ready is
    that of the client of the settings. -/
theorem address_normalized (s : Settings) (u : String) :
    readAddress .null = .ok localAddress ∧ readAddress (.text u) = .ok (normalizeAddress u) ∧
      Normalizes u ∧ CallsAddress s u ∧ ReportsAddress s := by
  have hnull : readAddress .null = .ok localAddress :=
    congrArg Except.ok (normalizeAddress_of_empty rfl)
  exact ⟨hnull, readAddress_text u, normalizes u, callsAddress s u, reportsAddress s⟩

/-- A blank before the slash at the end is left, so that the address is not in normal form and
    changes when it is normalized once more. -/
theorem blank_left_before_slash :
    normalizeAddress "chat.example.com /" = "http://chat.example.com " ∧
      ¬ IsNormalAddress (normalizeAddress "chat.example.com /") ∧
      normalizeAddress (normalizeAddress "chat.example.com /") ≠
        normalizeAddress "chat.example.com /" := by
  have hmade : normalizeAddress "chat.example.com /" = "http://chat.example.com " := by
    decide +kernel
  refine ⟨hmade, fun hnormal => ?_, by decide +kernel⟩
  have hblank := hnormal.noBlankAtEnd ' '
  rw [hmade] at hblank
  exact absurd (hblank (by decide)) (by decide)

end ChatRelay

/-
  The flags of a message as they are written.

  A flag may be given under either of its names and in any spelling; what is written has it
  under its own name, as true or false.  The other fields keep their names, and null stands for
  every number in them that is not finite.  A field of its own that is such a number is null
  once written, and reading what was written then leaves it out; nothing else changes when it
  is read and written again.

  * `isWireOf_wire`: what is written of the fields that are given (`IsWireOf`);
  * `check_wire`, `wire_kept`: what was written is read again, flag for flag, and what is written
    then;
  * `messageForm_meta`: the flags in the body of a request are read by themselves;
  * `flags_written`: both, and that it makes no difference whether a message is built with the
    fields or with what is read from them.
-/
import ChatRelay.Gateway.Form
import ChatRelay.Proofs.Envelope.Body
import ChatRelay.Proofs.Envelope.Finite
import ChatRelay.Proofs.Json.Levels
import ChatRelay.Proofs.Schema.Fits
import ChatRelay.Proofs.Schema.Flag

namespace ChatRelay

open Schema

/-! ## Finite parts -/

namespace Json

theorem fieldsFinitePart_eq_map (fs : Fields) :
    fieldsFinitePart fs = fs.map fun f => (f.1, f.2.finitePart) := by
  induction fs with
  | nil => rfl
  | cons f fs ih => rw [fieldsFinitePart, fieldFinitePart, ih, List.map_cons]

/-- A number that is not finite is written as null, like null itself. -/
theorem finitePart_eq_null_iff {v : Json} :
    v.finitePart = .null ↔ v = .null ∨ ∃ n, v = .number n ∧ n.isFinite = false := by
  cases v with
  | number n => cases h : n.isFinite <;> simp [finitePart, h]
  | _ => simp [finitePart]

mutual

/-- The finite part of a value has as many levels. -/
theorem isWithin_finitePart : (v : Json) → (n : Nat) → v.finitePart.isWithin n = v.isWithin n
  | _, 0 => by simp [isWithin]
  | number x, _ + 1 => by cases h : x.isFinite <;> simp [finitePart, h, isWithin]
  | array xs, n + 1 => itemsWithin_itemsFinitePart xs n
  | object fs, n + 1 => fieldsWithin_fieldsFinitePart fs n
  | null, _ + 1 | bool _, _ + 1 | text _, _ + 1 => rfl

theorem itemsWithin_itemsFinitePart :
    (xs : List Json) → (n : Nat) → itemsWithin (itemsFinitePart xs) n = itemsWithin xs n
  | [], _ => rfl
  | x :: xs, n => by
    rw [itemsFinitePart, itemsWithin, itemsWithin, isWithin_finitePart x n,
      itemsWithin_itemsFinitePart xs n]

theorem fieldsWithin_fieldsFinitePart :
    (fs : Fields) → (n : Nat) → fieldsWithin (fieldsFinitePart fs) n = fieldsWithin fs n
  | [], _ => rfl
  | (_, v) :: fs, n => by
    rw [fieldsFinitePart, fieldFinitePart, fieldsWithin, fieldsWithin, fieldWithin, fieldWithin,
      isWithin_finitePart v n, fieldsWithin_fieldsFinitePart fs n]

end

end Json

namespace Meta

/-! ## Names -/

/-- The name is one of a flag. -/
def isFlagName (name : String) : Bool :=
  flagNames.any fun names => name == names.1 || name == names.2

/-- No flag is given under both of its names. -/
def NamedOnce (fs : Fields) : Prop :=
  ∀ names ∈ flagNames, Json.get? fs names.1 = none ∨ Json.get? fs names.2 = none

instance (fs : Fields) : Decidable (NamedOnce fs) := by
  unfold NamedOnce
  infer_instance

/-- What is given for a flag, under its own name or else the other one. -/
def given? (fs : Fields) (names : String × String) : Option Json :=
  (Json.get? fs names.1).or (Json.get? fs names.2)

theorem isFlagName_iff {name : String} :
    isFlagName name = true ↔ ∃ names ∈ flagNames, name = names.1 ∨ name = names.2 := by
  simp [isFlagName]

theorem nodup_flagNames : (flagNames.map Prod.fst).Nodup := by decide

/-- No flag has the other name of a flag for its own. -/
theorem own_ne_other : ∀ names ∈ flagNames, ∀ others ∈ flagNames, names.1 ≠ others.2 := by decide

section Others

variable {fs : Fields}

theorem mem_readNames_iff {name : String} : name ∈ readNames fs ↔ ∃ names ∈ flagNames,
    (∃ v, Json.get? fs names.1 = some v ∧ name = names.1) ∨
      Json.get? fs names.1 = none ∧ ∃ v, Json.get? fs names.2 = some v ∧ name = names.2 := by
  have hnamed : ∀ names : String × String,
      (named? [names.1, names.2] fs).map (·.1) = some name ↔
        (∃ v, Json.get? fs names.1 = some v ∧ name = names.1) ∨
          Json.get? fs names.1 = none ∧ ∃ v, Json.get? fs names.2 = some v ∧ name = names.2 := by
    intro names
    rw [named?, List.findSome?_cons, List.findSome?_singleton]
    cases Json.get? fs names.1 <;> cases Json.get? fs names.2 <;> simp [eq_comm]
  simp only [readNames, List.mem_filterMap, hnamed]

/-- A field that has the name of a flag is the one that the flag is read from. -/
theorem readNames_contains (honce : NamedOnce fs) {f : String × Json} (hf : f ∈ fs) :
    (readNames fs).contains f.1 = isFlagName f.1 := by
  have hgiven : ∃ v, Json.get? fs f.1 = some v :=
    Option.ne_none_iff_exists'.1 fun hnone => Json.get?_eq_none_iff.1 hnone f hf rfl
  rw [Bool.eq_iff_iff, List.contains_iff_mem, mem_readNames_iff, isFlagName_iff]
  refine exists_congr fun names => and_congr_right fun hmem => ?_
  constructor
  · rintro (⟨-, -, hname⟩ | ⟨-, -, -, hname⟩)
    · exact .inl hname
    · exact .inr hname
  · rintro (hname | hname)
    · exact .inl (hname ▸ hgiven.imp fun _ hv => ⟨hv, rfl⟩)
    · -- the flag is not given under its own name too, or it would be read from there
      obtain ⟨v, hv⟩ := hgiven
      rw [hname] at hv
      have hown : Json.get? fs names.1 = none := (honce names hmem).resolve_right (by simp [hv])
      exact .inr ⟨hown, v, hv, hname⟩

/-- **The other fields are those without the name of a flag.** -/
theorem othersOf_eq (honce : NamedOnce fs) :
    othersOf fs = fs.filter fun f => !isFlagName f.1 :=
  List.filter_congr fun _ hf => congrArg _ (readNames_contains honce hf)

end Others

/-! ## Flags -/

section Flags

variable {fs : Fields} {l : List (String × String)} {flags : List (String × Bool)}

theorem flagCheck_eq_fits_iff {names : String × String} {b : Option Bool} :
    flagCheck names fs = .fits b ↔ Optional asFlag none (given? fs names) b := by
  have hread : flagCheck names fs = if (Json.get? fs names.1).isSome
      then fieldOr [names.1] none (orNull asFlag) fs
      else fieldOr [names.2] none (orNull asFlag) fs := by
    simp only [flagCheck, fieldOr, named?, List.findSome?_cons]
    cases Json.get? fs names.1 <;> rfl
  rw [hread, given?]
  cases hown : Json.get? fs names.1 with
  | none => exact fieldOr_eq_fits_iff
  | some v => exact fieldOr_eq_fits_iff.trans (by rw [hown, Option.some_or])

theorem flagsCheck_cons_eq_fits_iff {names : String × String} :
    flagsCheck fs (names :: l) = .fits flags ↔ ∃ b more, flagCheck names fs = .fits b ∧
      flagsCheck fs l = .fits more ∧ flags = (b.map fun b => (names.1, b)).toList ++ more := by
  rw [flagsCheck, seq_eq_fits_iff]
  constructor
  · rintro ⟨g, more, hg, hmore, rfl⟩
    obtain ⟨b, hb, rfl⟩ := map_eq_fits_iff.1 hg
    exact ⟨b, more, hb, hmore, rfl⟩
  · rintro ⟨b, more, hb, hmore, rfl⟩
    exact ⟨_, more, map_eq_fits_iff.2 ⟨b, hb, rfl⟩, hmore, rfl⟩

/-- Every flag is read. -/
theorem exists_flagCheck (h : flagsCheck fs l = .fits flags) :
    ∀ names ∈ l, ∃ b, flagCheck names fs = .fits b := by
  induction l generalizing flags with
  | nil => simp
  | cons names l ih =>
    obtain ⟨b, more, hb, hmore, rfl⟩ := flagsCheck_cons_eq_fits_iff.1 h
    exact List.forall_mem_cons.2 ⟨⟨b, hb⟩, ih hmore⟩

/-- A flag that is set has its own name. -/
theorem name_mem_of_mem_flags (h : flagsCheck fs l = .fits flags) :
    ∀ f ∈ flags, f.1 ∈ l.map Prod.fst := by
  induction l generalizing flags with
  | nil =>
    cases h
    simp
  | cons names l ih =>
    obtain ⟨b, more, -, hmore, rfl⟩ := flagsCheck_cons_eq_fits_iff.1 h
    intro f hf
    rw [List.map_cons, List.mem_cons]
    rcases List.mem_append.1 hf with hf | hf
    · obtain ⟨c, -, rfl⟩ := Option.map_eq_some_iff.1 (Option.mem_toList.1 hf)
      exact .inl rfl
    · exact .inr (ih hmore f hf)

theorem filter_toList (c : Option Bool) (name other : String) :
    ((c.map fun b => (name, b)).toList).filter (fun f => f.1 == other) =
      if name = other then (c.map fun b => (name, b)).toList else [] := by
  by_cases h : name = other <;> cases c <;> simp [h]

/-- **A flag is set once, as it is read, or not at all.** -/
theorem filter_flags (hl : (l.map Prod.fst).Nodup) (h : flagsCheck fs l = .fits flags)
    {names : String × String} (hnames : names ∈ l) {b : Option Bool}
    (hb : flagCheck names fs = .fits b) :
    flags.filter (fun f => f.1 == names.1) = (b.map fun b => (names.1, b)).toList := by
  induction l generalizing flags with
  | nil => cases hnames
  | cons first l ih =>
    obtain ⟨c, more, hc, hmore, rfl⟩ := flagsCheck_cons_eq_fits_iff.1 h
    rw [List.map_cons, List.nodup_cons] at hl
    rw [List.filter_append, filter_toList]
    rcases List.mem_cons.1 hnames with rfl | hmem
    · -- the flags after it have other names
      have hrest : more.filter (fun f => f.1 == names.1) = [] := by
        refine List.filter_eq_nil_iff.2 fun f hf hname => hl.1 ?_
        rw [← beq_iff_eq.1 hname]
        exact name_mem_of_mem_flags hmore f hf
      rw [hc] at hb
      cases hb
      rw [if_pos rfl, hrest, List.append_nil]
    · have hfirst : first.1 ≠ names.1 := fun h => hl.1 (List.mem_map.2 ⟨names, hmem, h.symm⟩)
      rw [if_neg hfirst, List.nil_append]
      exact ih hl.2 hmore hmem

theorem flagsCheck_congr {gs : Fields} (h : ∀ names ∈ l, flagCheck names fs = flagCheck names gs) :
    flagsCheck fs l = flagsCheck gs l := by
  induction l with
  | nil => rfl
  | cons names l ih =>
    obtain ⟨hnames, hl⟩ := List.forall_mem_cons.1 h
    rw [flagsCheck, flagsCheck, hnames, ih hl]

end Flags

/-! ## What is written -/

/-- What is written is that of the fields that are given. -/
structure IsWireOf (fs w : Fields) : Prop where
  /-- in any spelling and under either name, once -/
  given : ∀ names ∈ flagNames, ∀ v, given? fs names = some v → v ≠ .null →
    ∃ b, Spells v b ∧ w.filter (fun f => f.1 == names.1) = [(names.1, .bool b)]
  unset : ∀ names ∈ flagNames, (∀ v, given? fs names = some v → v = .null) →
    ∀ f ∈ w, f.1 ≠ names.1
  renamed : ∀ names ∈ flagNames, ∀ f ∈ w, f.1 ≠ names.2
  others : w.filter (fun f => !isFlagName f.1) =
    (fs.filter fun f => !isFlagName f.1 && f.2 != .null).map fun f => (f.1, f.2.finitePart)
  /-- a null is a number that is not finite -/
  filled : ∀ f ∈ w, f.2 = .null →
    ∃ n : Number, (f.1, Json.number n) ∈ fs ∧ n.isFinite = false

/-- The other fields as they are written. -/
def kept (m : Meta) : Fields := Json.fieldsFinitePart (m.others.filter fun f => f.2 != .null)

theorem wire_eq (m : Meta) : m.wire = m.flags.map (fun f => (f.1, .bool f.2)) ++ m.kept := rfl

theorem check_eq_fits_iff {fs : Fields} {m : Meta} : check (.object fs) = .fits m ↔
    flagsCheck fs flagNames = .fits m.flags ∧ m.others = othersOf fs := by
  change (fun flags => ({ flags, others := othersOf fs } : Meta)) <$> flagsCheck fs flagNames =
    .fits m ↔ _
  rw [map_eq_fits_iff]
  constructor
  · rintro ⟨flags, hflags, rfl⟩
    exact ⟨hflags, rfl⟩
  · rintro ⟨hflags, hothers⟩
    refine ⟨m.flags, hflags, ?_⟩
    rw [← hothers]

section Written

variable {fs : Fields} {m : Meta} (hcheck : check (.object fs) = .fits m) (honce : NamedOnce fs)

include hcheck honce

theorem kept_eq : m.kept =
    (fs.filter fun f => !isFlagName f.1 && f.2 != .null).map fun f => (f.1, f.2.finitePart) := by
  rw [kept, (check_eq_fits_iff.1 hcheck).2, othersOf_eq honce, List.filter_filter,
    Json.fieldsFinitePart_eq_map]
  simp only [Bool.and_comm]

theorem not_isFlagName_of_mem_kept : ∀ f ∈ m.kept, isFlagName f.1 = false := by
  rw [kept_eq hcheck honce]
  intro f hf
  obtain ⟨g, hg, rfl⟩ := List.mem_map.1 hf
  simpa using (Bool.and_eq_true_iff.1 (List.mem_filter.1 hg).2).1

/-- Of what is written, what has the own name of a flag is the flag. -/
theorem filter_wire {names : String × String} (hnames : names ∈ flagNames) {b : Option Bool}
    (hb : flagCheck names fs = .fits b) :
    m.wire.filter (fun f => f.1 == names.1) = (b.map fun b => (names.1, Json.bool b)).toList := by
  have hflag : isFlagName names.1 = true := isFlagName_iff.2 ⟨names, hnames, .inl rfl⟩
  have hkept : m.kept.filter (fun f => f.1 == names.1) = [] :=
    List.filter_eq_nil_iff.2 fun f hf hname => by
      have hother := not_isFlagName_of_mem_kept hcheck honce f hf
      rw [beq_iff_eq.1 hname, hflag] at hother
      cases hother
  have hflags := filter_flags nodup_flagNames (check_eq_fits_iff.1 hcheck).1 hnames hb
  rw [wire_eq, List.filter_append, hkept, List.append_nil, List.filter_map]
  refine (congrArg (List.map _) hflags).trans ?_
  cases b <;> rfl

/-- What is written without the name of a flag are the other fields. -/
theorem filter_wire_others : m.wire.filter (fun f => !isFlagName f.1) = m.kept := by
  have hflags : (m.flags.map fun f => (f.1, Json.bool f.2)).filter (fun f => !isFlagName f.1) =
      [] := by
    refine List.filter_eq_nil_iff.2 fun f hf => ?_
    obtain ⟨g, hg, rfl⟩ := List.mem_map.1 hf
    obtain ⟨names, hnames, hname⟩ :=
      List.mem_map.1 (name_mem_of_mem_flags (check_eq_fits_iff.1 hcheck).1 g hg)
    have hflag : isFlagName g.1 = true := isFlagName_iff.2 ⟨names, hnames, .inl hname.symm⟩
    simp [hflag]
  have hkept : m.kept.filter (fun f => !isFlagName f.1) = m.kept :=
    List.filter_eq_self.2 fun f hf => by simp [not_isFlagName_of_mem_kept hcheck honce f hf]
  rw [wire_eq, List.filter_append, hflags, hkept, List.nil_append]

theorem ne_other_of_mem_wire : ∀ names ∈ flagNames, ∀ f ∈ m.wire, f.1 ≠ names.2 := by
  intro names hnames f hf hname
  rw [wire_eq] at hf
  rcases List.mem_append.1 hf with hf | hf
  · obtain ⟨g, hg, rfl⟩ := List.mem_map.1 hf
    obtain ⟨own, hown, heq⟩ :=
      List.mem_map.1 (name_mem_of_mem_flags (check_eq_fits_iff.1 hcheck).1 g hg)
    exact own_ne_other own hown names hnames (heq.trans hname)
  · have hflag : isFlagName f.1 = true := isFlagName_iff.2 ⟨names, hnames, .inr hname⟩
    rw [not_isFlagName_of_mem_kept hcheck honce f hf] at hflag
    cases hflag

theorem filled_wire : ∀ f ∈ m.wire, f.2 = .null →
    ∃ n : Number, (f.1, Json.number n) ∈ fs ∧ n.isFinite = false := by
  intro f hf hnull
  rw [wire_eq, kept_eq hcheck honce] at hf
  rcases List.mem_append.1 hf with hf | hf
  · obtain ⟨g, -, rfl⟩ := List.mem_map.1 hf
    cases hnull
  · obtain ⟨⟨name, v⟩, hg, rfl⟩ := List.mem_map.1 hf
    obtain ⟨hmem, hkept⟩ := List.mem_filter.1 hg
    have hne : v ≠ .null := by simpa using (Bool.and_eq_true_iff.1 hkept).2
    obtain ⟨n, rfl, hn⟩ := (Json.finitePart_eq_null_iff.1 hnull).resolve_left hne
    exact ⟨n, hmem, hn⟩

/-- **What is written of the fields that are given.** -/
theorem isWireOf_wire : IsWireOf fs m.wire where
  given := by
    intro names hnames v hv hne
    obtain ⟨b, hb⟩ := exists_flagCheck (check_eq_fits_iff.1 hcheck).1 names hnames
    have hfilter := filter_wire hcheck honce hnames hb
    have hread := flagCheck_eq_fits_iff.1 hb
    rw [hv] at hread
    cases hread with
    | null => exact absurd rfl hne
    | given _ hspells => exact ⟨_, asFlag_eq_fits_iff.1 hspells, hfilter⟩
  unset := by
    intro names hnames hnull f hf hname
    have hb : flagCheck names fs = .fits none := by
      rw [flagCheck_eq_fits_iff]
      cases hv : given? fs names with
      | none => exact .absent
      | some v =>
        obtain rfl := hnull v hv
        exact .null
    have hfilter := filter_wire hcheck honce hnames hb
    exact List.filter_eq_nil_iff.1 hfilter f hf (beq_iff_eq.2 hname)
  renamed := ne_other_of_mem_wire hcheck honce
  others := (filter_wire_others hcheck honce).trans (kept_eq hcheck honce)
  filled := filled_wire hcheck honce

/-! ## Reading what was written -/

/-- A flag is read from what was written as it was read before. -/
theorem flagCheck_wire {names : String × String} (hnames : names ∈ flagNames) :
    flagCheck names m.wire = flagCheck names fs := by
  obtain ⟨b, hb⟩ := exists_flagCheck (check_eq_fits_iff.1 hcheck).1 names hnames
  have hother : Json.get? m.wire names.2 = none :=
    Json.get?_eq_none_iff.2 (ne_other_of_mem_wire hcheck honce names hnames)
  have hown : Json.get? m.wire names.1 = b.map .bool := by
    have h := Json.get?_filter_name (· == names.1) m.wire names.1
    rw [filter_wire hcheck honce hnames hb, if_pos (beq_self_eq_true _)] at h
    rw [← h]
    cases b with
    | none => rfl
    | some b => exact (Json.get?_cons _ _ _).trans (if_pos rfl)
  -- only its own name is written, and there it is true or false
  rw [hb, flagCheck_eq_fits_iff, given?, hown, hother, Option.or_none]
  cases b with
  | none => exact .absent
  | some b => exact .given (by simp) rfl

/-- **What was written is read again:** the flags as they were, the other fields as they were
    written. -/
theorem check_wire : check (.object m.wire) = .fits { m with others := m.kept } := by
  obtain ⟨hflags, -⟩ := check_eq_fits_iff.1 hcheck
  have honce' : NamedOnce m.wire := fun names hnames =>
    .inr (Json.get?_eq_none_iff.2 (ne_other_of_mem_wire hcheck honce names hnames))
  rw [check_eq_fits_iff]
  constructor
  · rw [flagsCheck_congr fun _ => flagCheck_wire hcheck honce, hflags]
  · rw [othersOf_eq honce', filter_wire_others hcheck honce]

end Written

/-- Writing again what was written leaves out what is null. -/
theorem wire_kept (m : Meta) :
    ({ m with others := m.kept } : Meta).wire = m.wire.filter fun f => f.2 != .null := by
  have hfinite : Json.fieldsFinite (m.kept.filter fun f => f.2 != .null) = true :=
    fieldsFinite_iff.2 fun f hf =>
      fieldsFinite_iff.1 (Json.fieldsFinite_fieldsFinitePart _) f (List.mem_of_mem_filter hf)
  have hflags : (m.flags.map fun f => (f.1, Json.bool f.2)).filter (fun f => f.2 != .null) =
      m.flags.map fun f => (f.1, Json.bool f.2) := by
    refine List.filter_eq_self.2 fun f hf => ?_
    obtain ⟨g, -, rfl⟩ := List.mem_map.1 hf
    rfl
  rw [wire_eq m, List.filter_append, hflags]
  exact congrArg _ (Json.fieldsFinitePart_of_fieldsFinite hfinite)

/-- What is written can be written again. -/
theorem isWritable_kept {m : Meta} {limits : Limits} (h : m.isWritable limits = true) :
    ({ m with others := m.kept } : Meta).isWritable limits = true := by
  change Json.fieldsWithin (Json.fieldsFinitePart _) _ = true
  rw [Json.fieldsWithin_fieldsFinitePart, Json.fieldsWithin_iff]
  exact fun f hf => Json.fieldsWithin_iff.1 h f (List.mem_of_mem_filter hf)

end Meta

/-! ## Both ways to a message -/

namespace Gateway

theorem fieldOr_without {α : Type} {absent : α} {check : Json → Reading α} {fs : Fields}
    {name key : String} (h : name ≠ key) :
    fieldOr [name] absent check (Json.without key fs) = fieldOr [name] absent check fs := by
  rw [fieldOr, fieldOr, named?_singleton, named?_singleton, Json.get?_without, if_neg h]

section Body

variable {body : Fields} {v : Json} {m : Meta} (hv : Json.get? body "meta" = some v)
  (hm : Meta.check v = .fits m)

include hv hm

theorem messageParams_meta : messageParams .reply body =
    (fun own => (own.1, { own.2 with flags := .read m })) <$>
      messageParams .reply (Json.without "meta" body) := by
  have hmeta : fieldOr ["meta"] {} Meta.check body = .fits m :=
    fieldOr_fits_iff.2 (.inl ⟨v, hv, hm⟩)
  have hnone : fieldOr ["meta"] {} Meta.check (Json.without "meta" body) = .fits {} :=
    fieldOr_fits_iff.2 (.inr ⟨by rw [Json.get?_without, if_pos rfl], rfl⟩)
  simp only [messageParams, hmeta, hnone]
  rw [fieldOr_without (by decide), fieldOr_without (by decide)]
  cases fieldOr ["content"] [] asObjects body <;>
    cases fieldOr ["policy"] none (orNull (asWord Policy.names)) body <;> rfl

/-- **The flags in the body of a request are read along with it**, and its other fields are read
    as without them. -/
theorem messageForm_meta : messageForm .reply (.object body) =
    (fun r => { r with params := { r.params with flags := .read m } }) <$>
      messageForm .reply (.object (Json.without "meta" body)) := by
  have hown := messageParams_meta hv hm
  simp only [messageForm, asRecord, batchOf, hown]
  rw [fieldOr_without (by decide), fieldOr_without (by decide), fieldOr_without (by decide),
    fieldOr_without (by decide)]
  cases fieldOr ["session_id"] none (orNull asText) body <;>
    cases fieldOr ["items"] [] asObjects body <;>
    cases fieldOr ["upstream"] none (orNull (asMapping asObjects)) body <;>
    cases fieldOr ["continue_on_fail"] none (orNull asFlag) body <;>
    cases messageParams .reply (Json.without "meta" body) <;> rfl

end Body

end Gateway

/-- The message is built with the fields, or refused because they cannot be written. -/
structure SentWith (flags : MetaInput) (m : Meta) : Prop where
  built : ∀ limits, m.isWritable limits = true → ∀ id b participant h, ∃ e h',
    exec (buildMessage (.text id) b flags (.ofText? participant) limits) h = (.ok e, h') ∧
      Json.get? e.wire "meta" = if m.wire = [] then none else some (.object m.wire)
  refused : ∀ limits, m.isWritable limits = false → ∀ id b participant h, ∃ h',
    exec (buildMessage (.text id) b flags (.ofText? participant) limits) h =
      (.error .tooManyLevels, h')

theorem sentWith_of_flags {flags : MetaInput} {m : Meta} (hm : flags.flags = .fits m) :
    SentWith flags m where
  built := by
    intro limits hwritable id b participant h
    have hexec := adds_buildMessage (.text id) b flags (.ofText? participant) limits h
    rw [messageEnvelope_ok hm hwritable] at hexec
    refine ⟨_, _, hexec, ?_⟩
    rw [wire_ofBundle]
    exact get?_present_of_mem (distinct_bodyParts id b m participant) (by simp [bodyParts])
  refused := by
    intro limits hwritable id b participant h
    have hexec := adds_buildMessage (.text id) b flags (.ofText? participant) limits h
    rw [messageEnvelope_overloaded hm hwritable] at hexec
    exact ⟨_, hexec⟩

/-- **The flags of a message as they are written.**  What is read from fields is written so that
    each flag stands under its own name once; reading and writing this again leaves out what has
    become null, which is nothing if all numbers are finite.  A message is built alike with the
    fields and with what is read from them, as it is when they come with a request. -/
theorem flags_written {fs : Fields} {m : Meta} (hcheck : Meta.check (.object fs) = .fits m)
    (honce : Meta.NamedOnce fs) :
    Meta.IsWireOf fs m.wire ∧
    (∃ m', Meta.check (.object m.wire) = .fits m' ∧
      m'.wire = (m.wire.filter fun f => f.2 != .null) ∧
      ((∀ f ∈ fs, ∀ n, f.2 = .number n → n.isFinite = true) → m'.wire = m.wire) ∧
      ∀ limits, m.isWritable limits = true → m'.isWritable limits = true) ∧
    (buildMessage · · (.raw (.object fs))) = (buildMessage · · (.read m)) ∧
    SentWith (.read m) m ∧
    ∀ body, Json.get? body "meta" = some (.object fs) →
      Gateway.messageForm .reply (.object body) =
        (fun r => { r with params := { r.params with flags := .read m } }) <$>
          Gateway.messageForm .reply (.object (Json.without "meta" body)) := by
  have hwire := Meta.isWireOf_wire hcheck honce
  have hsettled : (∀ f ∈ fs, ∀ n, f.2 = .number n → n.isFinite = true) →
      (m.wire.filter fun f => f.2 != .null) = m.wire := by
    intro hfinite
    refine List.filter_eq_self.2 fun f hf => bne_iff_ne.2 fun hnull => ?_
    obtain ⟨n, hmem, hn⟩ := hwire.filled f hf hnull
    rw [hfinite _ hmem n rfl] at hn
    cases hn
  have hflags : (MetaInput.raw (.object fs)).flags = (MetaInput.read m).flags := hcheck
  refine ⟨hwire, ⟨_, Meta.check_wire hcheck honce, Meta.wire_kept m,
    fun hfinite => (Meta.wire_kept m).trans (hsettled hfinite), fun _ => Meta.isWritable_kept⟩, ?_,
    sentWith_of_flags rfl, fun body hbody => Gateway.messageForm_meta hbody hcheck⟩
  funext session b participant limits
  rw [buildMessage, buildMessage, hflags]

/-- Flags under either of their names, and a field that is not one. -/
theorem flags_written_mixed :
    Meta.IsWireOf
      [("chat_ended", .text "No"), ("lockInput", .int 1), ("apple_pay", .null),
        ("reasons", .array [.real (.infinite false), .null])]
      [("chatEnded", .bool false), ("lockInput", .bool true), ("reasons", .array [.null, .null])] :=
  (flags_written
    (show Meta.check (.object [("chat_ended", .text "No"), ("lockInput", .int 1),
        ("apple_pay", .null), ("reasons", .array [.real (.infinite false), .null])]) =
      .fits { flags := [("chatEnded", false), ("lockInput", true)],
              others := [("reasons", .array [.real (.infinite false), .null])] } from rfl)
    (by decide)).1

/-- A field that is infinite is written as null, and no more when it is written again. -/
theorem infinite_field_vanishes :
    Meta.NamedOnce [("x", .real (.infinite false))] ∧
    ∃ m, Meta.check (.object [("x", .real (.infinite false))]) = .fits m ∧
      m.wire = [("x", .null)] ∧
      ∃ m', Meta.check (.object m.wire) = .fits m' ∧ m'.wire = [] :=
  ⟨by decide, { others := [("x", .real (.infinite false))] }, rfl, by decide,
    { others := [("x", .null)] }, rfl, rfl⟩

end ChatRelay

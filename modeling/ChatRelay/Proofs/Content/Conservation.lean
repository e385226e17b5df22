/-
  Nothing of a message gets lost uncounted.

  Every record of a message that is read becomes an item or a splash, or is counted under
  the reason for which it was left out.  The same holds one level down: of the entries that
  have to be objects, each object is emitted as a part of its own, and the others are counted.

  * `accounts_of_readRecord`: the accounts of one record;
  * `emission_of_readAs`: the parts that are emitted for its entries;
  * `content_conserved`: all of this for the records of a message.
-/
import ChatRelay.Proofs.Content.Action
import ChatRelay.Proofs.Content.Selection
import Mathlib.Algebra.GroupWithZero.Nat

namespace ChatRelay.Content

/-! ## Accounts -/

/-- The record is an object that selects no known kind. -/
def isUnknown : Json → Bool
  | .object fs => (Kind.ofName? (kindName fs)).isNone
  | _ => false

/-- How many entries of the repeated part of a record have to be objects, and are none. -/
def malformedEntries : Json → Nat
  | .object fs => match Kind.ofName? (kindName fs) with
    | some k => k.malformed fs
    | none => 0
  | _ => 0

/-- The record became a splash. -/
def isSplash : Option Normalized → Bool
  | some (.splash _) => true
  | _ => false

/-- The counts account for the records and for what became of them. -/
structure Accounts (records : List Json) (os : List (Option Normalized)) (made : Drops) :
    Prop where
  balance : records.length = (itemsOf os.reduceOption).length + os.countP isSplash +
    made.unknownKind + made.empty + records.countP (!·.isObject)
  unknownKind : made.unknownKind = records.countP isUnknown
  malformed : made.malformed =
    records.countP (!·.isObject) + (records.map malformedEntries).sum

theorem accounts_nil : Accounts [] [] {} := ⟨rfl, rfl, rfl⟩

theorem Accounts.append {qs rs : List Json} {os ps : List (Option Normalized)} {made more : Drops}
    (h : Accounts qs os made) (h' : Accounts rs ps more) :
    Accounts (qs ++ rs) (os ++ ps) (made.add more) where
  balance := by
    have hl := h.balance
    have hr := h'.balance
    simp only [List.reduceOption_append, itemsOf_append, List.length_append, List.countP_append,
      Drops.add]
    omega
  unknownKind := by
    rw [List.countP_append, ← h.unknownKind, ← h'.unknownKind]
    rfl
  malformed := by
    have hl := h.malformed
    have hr := h'.malformed
    simp only [List.countP_append, List.map_append, List.sum_append, Drops.add]
    omega

section Readings

variable {policy : Policy}

/-- The accounts of a record of a known kind: it becomes an item or a splash, or is empty. -/
theorem accounts_of_kind {fs : Fields} {k : Kind} (hk : Kind.ofName? (kindName fs) = some k)
    (o : Option Normalized) : Accounts [.object fs] [o] (k.drops fs (.ok o)) where
  balance := by
    rcases o with _ | i | s <;> rfl
  unknownKind := by simp [Kind.drops, isUnknown, hk]
  malformed := by simp [Kind.drops, malformedEntries, Json.isObject, hk]

/-- **Each record becomes an item or a splash, or is counted under one reason.** -/
theorem accounts_of_readRecord {r : Json} {o : Option Normalized} {made : Drops}
    (h : readRecord policy r = (.ok o, made)) : Accounts [r] [o] made := by
  cases r with
  | object fs =>
    cases hk : Kind.ofName? (kindName fs) with
    | none =>
      cases policy with
      | strict => simp [readRecord, hk] at h
      | lenient =>
        simp only [readRecord, hk] at h
        cases h
        exact ⟨rfl, by simp [isUnknown, hk], by simp [malformedEntries, Json.isObject, hk]⟩
    | some k =>
      simp only [readRecord, hk, Prod.mk.injEq] at h
      obtain ⟨hread, rfl⟩ := h
      rw [hread]
      exact accounts_of_kind hk o
  | _ =>
    cases policy with
    | strict => cases h
    | lenient => cases h; exact ⟨rfl, rfl, rfl⟩

/-- The accounts of all records that are read, one record after the other. -/
theorem accounts_of_readAll {records : List Json} {os : List (Option Normalized)}
    (h : List.Forall₂ (Gives policy) records os) :
    Accounts records os (readAll policy records).2 := by
  induction h with
  | nil => exact accounts_nil
  | @cons r o rest os ho _ ih =>
    rw [readAll]
    rcases hr : readRecord policy r with ⟨result, made⟩
    obtain rfl : result = .ok o := (congrArg Prod.fst hr).symm.trans (gives_iff.1 ho)
    exact (accounts_of_readRecord hr).append ih

end Readings

/-! ## Parts -/

/-- The array stands on the wire for the repeated part of the kind. -/
inductive Emits : Kind → Json → List Json → Prop
  | buttons {k fs ws} : k = .buttons ∨ k = .splash → Json.get? fs "buttons" = some (.array ws) →
      Emits k (.object fs) ws
  | list {fs inner ws} : Json.get? fs "list" = some (.object inner) →
      Json.get? inner "items" = some (.array ws) → Emits .list (.object fs) ws
  | carousel {fs ws} : Json.get? fs "items" = some (.array ws) → Emits .carousel (.object fs) ws

/-- The part on the wire is what the entry of a record of the kind is read into. -/
inductive EmittedAs (policy : Policy) : Kind → Fields → Json → Prop
  | button {k r b} : k = .buttons ∨ k = .splash → button policy r = .ok b →
      EmittedAs policy k r b.wire
  | entry {r e} : listEntry policy r = .ok e → EmittedAs policy .list r e.wire
  | card {r c} : card policy r = .ok c → EmittedAs policy .carousel r c.wire

/-- What becomes of the object entries of a record: each is emitted as one part, in order; where
    the record is dropped there are none. -/
inductive Emission (policy : Policy) (k : Kind) (rs : List Fields) : Option Normalized → Prop
  | emitted {n : Normalized} {ws : List Json} : Emits k n.wire ws →
      List.Forall₂ (EmittedAs policy k) rs ws → Emission policy k rs (some n)
  | dropped : rs = [] → Emission policy k rs none

section Parts

variable {policy : Policy} {k : Kind} {α : Type}

theorem emittedAs_of_mapM {read : Fields → Except ContentError α} {wire : α → Json}
    (hpart : ∀ {r y}, read r = .ok y → EmittedAs policy k r (wire y)) {rs : List Fields}
    {ys : List α} (h : rs.mapM read = .ok ys) :
    List.Forall₂ (EmittedAs policy k) rs (ys.map wire) := by
  rw [List.forall₂_map_right_iff]
  exact (mapM_eq_ok_iff.1 h).imp fun _ _ hr => hpart hr

/-- An item of parts is dropped if there is no part. -/
theorem emission_of_filled {rs : List Fields} {ys : List α} {item : List α → Item}
    {wire : α → Json} (hemits : Emits k (item ys).wire (ys.map wire))
    (hall : List.Forall₂ (EmittedAs policy k) rs (ys.map wire)) :
    Emission policy k rs (filled item ys) := by
  cases ys with
  | nil => exact .dropped (List.forall₂_nil_right_iff.1 hall)
  | cons y ys => exact .emitted hemits hall

/-- **Each object among the entries of a record is emitted as one part, in order.** -/
theorem emission_of_readAs {fs : Fields} {c : Collection} {o : Option Normalized}
    (hc : k.collection? = some c) (h : readAs policy fs k = .ok o) :
    Emission policy k (subrecords c fs) o := by
  cases k with
  | buttons =>
    cases hc
    obtain ⟨bs, hbs, rfl⟩ := ok_of_map h
    exact emission_of_filled (.buttons (Or.inl rfl) rfl)
      (emittedAs_of_mapM (.button (Or.inl rfl)) hbs)
  | splash =>
    cases hc
    obtain ⟨bs, hbs, rfl⟩ := ok_of_map h
    exact .emitted (.buttons (Or.inr rfl) rfl) (emittedAs_of_mapM (.button (Or.inr rfl)) hbs)
  | list =>
    cases hc
    obtain ⟨es, hes, rfl⟩ := ok_of_map h
    obtain ⟨inner, hinner, hitems⟩ := get?_items_listing (listingOf fs es)
    exact .emitted (.list (congrArg some hinner) hitems) (emittedAs_of_mapM .entry hes)
  | carousel =>
    cases hc
    obtain ⟨cs, hcs, rfl⟩ := ok_of_map h
    exact emission_of_filled (.carousel rfl) (emittedAs_of_mapM .card hcs)
  | _ => cases hc

end Parts

/-! ## Messages -/

/-- Each object among the entries of the record is emitted as one part, if the record is of a kind
    whose entries have to be objects. -/
def Keeps (policy : Policy) (r : Json) (o : Option Normalized) : Prop :=
  ∀ fs k c, r = .object fs → k.name = kindName fs → k.collection? = some c →
    Emission policy k (subrecords c fs) o

theorem keeps_of_gives {policy : Policy} {r : Json} {o : Option Normalized}
    (h : Gives policy r o) : Keeps policy r o := by
  rintro fs k c rfl hkind hc
  have hread := gives_iff.1 h
  rw [readRecord_of_kind hkind] at hread
  exact emission_of_readAs hc hread

/-- **Nothing of a message gets lost uncounted.**  The lenient policy reads every message.  Where
    a message is read, each record becomes an item or a splash, or is counted under one reason; and
    each entry that has to be an object is emitted in its place, or counted if it is none. -/
theorem content_conserved (policy : Policy) (records : List Json) (d : Drops) :
    (∃ b d', exec (Bundle.ofRecords .lenient records) d = (.ok b, d')) ∧
    ∀ b d', exec (Bundle.ofRecords policy records) d = (.ok b, d') →
      ∃ made os, d' = d.add made ∧ List.Forall₂ (Gives policy) records os ∧
        b.items = itemsOf os.reduceOption ∧ Accounts records os made ∧
        List.Forall₂ (Keeps policy) records os := by
  constructor
  · obtain ⟨rs, hrs⟩ := exists_ok_readAll records
    exact ⟨Bundle.ofResults rs, _, by rw [exec_ofRecords, hrs]; rfl⟩
  · intro b d' h
    rw [exec_ofRecords] at h
    obtain ⟨hread, rfl⟩ := Prod.mk.inj h
    obtain ⟨rs, hrs, rfl⟩ := ok_of_map hread
    obtain ⟨os, hos, rfl⟩ := readAll_eq_ok_iff.1 hrs
    exact ⟨_, os, rfl, hos, items_ofResults _, accounts_of_readAll hos,
      hos.imp fun _ _ ho => keeps_of_gives ho⟩

/-- A splash that is ignored, one that is not, buttons of which only an empty object is one, a kind
    that nobody knows, a carousel without a card and a record that is no object. -/
def assortedRecords : List Json := [.object [("type", .text "splash")],
  .object [("type", .text "splash"), ("title", .text "T")],
  .object [("type", .text "buttons"), ("buttons", .array [.null, .object []])],
  .object [("type", .text "poll")],
  .object [("type", .text "carousel"), ("items", .array [.null])],
  .bool true]

/-- They make one item and a splash. -/
theorem assorted_conserved :
    exec (Bundle.ofRecords .lenient assortedRecords) {} =
      (.ok ⟨[.buttons [{ text := "" }]], some { title := "", text := "", buttons := [] }⟩,
        { malformed := 3, unknownKind := 1, empty := 1 }) ∧
    ∃ made os, Drops.add {} made = { malformed := 3, unknownKind := 1, empty := 1 } ∧
      itemsOf os.reduceOption = [.buttons [{ text := "" }]] ∧
      Accounts assortedRecords os made ∧ List.Forall₂ (Keeps .lenient) assortedRecords os := by
  have hrun : exec (Bundle.ofRecords .lenient assortedRecords) {} =
      (.ok ⟨[.buttons [{ text := "" }]], some { title := "", text := "", buttons := [] }⟩,
        { malformed := 3, unknownKind := 1, empty := 1 }) := by decide +kernel
  obtain ⟨made, os, hmade, -, hitems, haccounts, hkeeps⟩ :=
    (content_conserved .lenient assortedRecords {}).2 _ _ hrun
  exact ⟨hrun, made, os, hmade.symm, hitems.symm, haccounts, hkeeps⟩

end ChatRelay.Content

/-
  The sessions that messages are sent to.

  An id is proper if it is fit to be sent: a short text without blanks around it and
  without control characters.  What is found as an id has no blanks around it
  (`trimmed_of_resolve`), and a record has a usable session just if what is found is
  proper (`resolveSession_eq_ok_iff`).
-/
import ChatRelay.Batch
import ChatRelay.Proofs.Running
import ChatRelay.Proofs.Text.Cleaning
import ChatRelay.Proofs.Text.Trimming

namespace ChatRelay

/-! ## Proper ids -/

/-- An id that is fit to be sent. -/
structure IsProper (id : String) : Prop where
  nonempty : id ≠ ""
  trimmed : Text.trimBlank id = id
  short : id.length ≤ 256
  printable : ∀ ch ∈ id.toList, ¬ IsControl ch

namespace Session

/-- What is found is a text without blanks around it, or nothing. -/
def IsTrimmed (v : Json) : Prop :=
  v = .null ∨ ∃ s, v = .text s ∧ s ≠ "" ∧ Text.trimBlank s = s

theorem isTrimmed_cleaned (v : Json) : IsTrimmed (cleaned v) := by
  unfold cleaned
  split
  · exact Or.inl rfl
  · cases hs : (Text.trimBlank v.display).isEmpty with
    | true => exact Or.inl (by simp only [hs, if_true])
    | false =>
      refine Or.inr ⟨Text.trimBlank v.display, by simp [hs], ?_, Text.trimBlank_trimBlank _⟩
      simpa using hs

theorem isTrimmed_fromRecord {record v : Json} (h : fromRecord record = .ok v) : IsTrimmed v := by
  unfold fromRecord at h
  split at h
  · cases h
    exact isTrimmed_cleaned _
  · split at h <;> cases h
    exact Or.inl rfl

theorem isTrimmed_fromFirst {records v : Json} (h : fromFirst records = .ok v) : IsTrimmed v := by
  unfold fromFirst at h
  split at h
  · cases h
    exact isTrimmed_cleaned _
  · split at h <;> cases h
    exact Or.inl rfl

theorem isTrimmed_fromOutputs {outputs v : Json} {node : Option String}
    (h : fromOutputs outputs node = .ok v) : IsTrimmed v := by
  unfold fromOutputs at h
  split at h
  · exact isTrimmed_fromFirst h
  · split at h <;> cases h
    exact Or.inl rfl

section Lookups

variable {ε : Type}

/-- What a lookup has found: a failure has found nothing. -/
def hit? : Except ε Json → Option Json
  | .ok v => if v.isTruthy then some v else none
  | .error _ => none

theorem hit?_eq_some_iff {r : Except ε Json} {v : Json} :
    hit? r = some v ↔ r = .ok v ∧ v.isTruthy = true := by
  cases r with
  | error e => simp [hit?]
  | ok w =>
    simp only [hit?, Option.ite_none_right_eq_some, Option.some.injEq, Except.ok.injEq]
    constructor
    · rintro ⟨hw, rfl⟩
      exact ⟨rfl, hw⟩
    · rintro ⟨rfl, hw⟩
      exact ⟨hw, rfl⟩

/-- Lookups that leave no state are a search through what they come to. -/
theorem firstSuccess_eq_findSome? (lookups : List (Except ε Json)) :
    (firstSuccess (m := Id) lookups).run = lookups.findSome? hit? := by
  induction lookups with
  | nil => rfl
  | cons r rest ih =>
    cases r with
    | error e => exact ih
    | ok v =>
      change (if v.isTruthy then some v else (firstSuccess (m := Id) rest).run) = _
      cases hv : v.isTruthy <;> simp [hit?, hv, ih]

end Lookups

/-- **What is found as an id is a text without blanks around it.** -/
theorem trimmed_of_resolve {explicit outputs record : Json} {node : Option String} {id : String}
    (h : resolve explicit outputs record node = .ok id) : id ≠ "" ∧ Text.trimBlank id = id := by
  unfold resolve at h
  extract_lets found at h
  split at h
  · rename_i s hs
    cases h
    obtain ⟨v, hv, htext⟩ := Option.bind_eq_some_iff.1 hs
    have hfind := (firstSuccess_eq_findSome? _).symm.trans hv
    obtain ⟨r, hmem, hhit⟩ := List.exists_of_findSome?_eq_some hfind
    obtain ⟨rfl, -⟩ := hit?_eq_some_iff.1 hhit
    have htrimmed : IsTrimmed v := by
      simp only [List.mem_cons, List.not_mem_nil, or_false] at hmem
      rcases hmem with hv | hv | hv
      · cases hv
        exact isTrimmed_cleaned explicit
      · exact isTrimmed_fromOutputs hv.symm
      · exact isTrimmed_fromRecord hv.symm
    rcases htrimmed with rfl | ⟨t, rfl, hne, htrim⟩
    · cases htext
    · cases htext
      exact ⟨hne, htrim⟩
  · cases h

theorem validate_eq_ok_iff {id : String} : validate id = .ok () ↔
    id ≠ "" ∧ id.length ≤ 256 ∧ ∀ ch ∈ id.toList, ¬ IsControl ch := by
  have hstray : id.toList.any Text.isStray = false ↔ ∀ ch ∈ id.toList, ¬ IsControl ch := by
    rw [List.any_eq_false]
    exact forall₂_congr fun ch _ => not_congr (isStray_iff ch)
  have hflaw : flaw? id = none ↔ id ≠ "" ∧ id.length ≤ 256 ∧ ∀ ch ∈ id.toList, ¬ IsControl ch := by
    rw [← hstray]
    unfold flaw? maxSessionLength
    by_cases hempty : id = ""
    · simp [hempty]
    · by_cases hlong : 256 < id.length
      · simp [hempty, hlong, Nat.not_le_of_lt hlong]
      · cases id.toList.any Text.isStray <;> simp [hempty, hlong, Nat.le_of_not_lt hlong]
  rw [← hflaw]
  unfold validate
  cases flaw? id <;> simp

end Session

/-- **A session is usable just if what is found as its id is proper.** -/
theorem resolveSession_eq_ok_iff {ctx : Context} {s : Settings} {record : Json} {id : String} :
    ctx.resolveSession s record = .ok id ↔
      Session.resolve ctx.session ctx.outputs record (some s.triggerNode) = .ok id ∧
        IsProper id := by
  unfold Context.resolveSession
  cases hr : Session.resolve ctx.session ctx.outputs record (some s.triggerNode) with
  | error f =>
    constructor
    · intro h
      cases h
    · rintro ⟨h, -⟩
      cases h
  | ok found =>
    obtain ⟨hne, htrimmed⟩ := Session.trimmed_of_resolve hr
    rw [ok_bind]
    constructor
    · intro h
      obtain ⟨_, hvalid, h⟩ := ok_of_bind h
      cases h
      obtain ⟨-, hshort, hprintable⟩ := Session.validate_eq_ok_iff.1 hvalid
      exact ⟨rfl, hne, htrimmed, hshort, hprintable⟩
    · rintro ⟨h, hid⟩
      cases h
      rw [Session.validate_eq_ok_iff.2 ⟨hne, hid.short, hid.printable⟩]
      rfl

end ChatRelay

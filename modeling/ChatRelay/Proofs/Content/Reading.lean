/-
  Reading a record and counting what it leaves out, told apart.

  The functions that read records count as they go.  `readRecord` gives the
  result and the counts of one record side by side, and `exec_normalize` says
  that reading a record in any state ends in that result and adds those counts.
  `readAll` and `exec_ofRecords` do the same for the records of a message.
-/
import ChatRelay.Content.Bundle
import ChatRelay.Proofs.Running

namespace ChatRelay.Content

/-! ## Repeated parts -/

/-- The objects among the entries of a repeated part. -/
def subrecords (c : Collection) (fs : Fields) : List Fields := (entries c fs).filterMap Json.fields?

/-- The part that the records of a kind repeat, if its entries have to be objects. -/
def Kind.collection? : Kind → Option Collection
  | .buttons | .splash => some buttonEntries
  | .list => some listEntries
  | .carousel => some cardEntries
  | _ => none

/-- How many entries of the repeated part are no objects. -/
def Kind.malformed (k : Kind) (fs : Fields) : Nat :=
  match k.collection? with
  | none => 0
  | some c => (entries c fs).countP (!·.isObject)

/-! ## Results -/

/-- The item of some entries, if there are any. -/
def filled {α : Type} (item : List α → Item) (xs : List α) : Option Normalized :=
  (if xs.isEmpty then none else some (item xs)).map .item

/-- The list that a record and its entries make. -/
def listingOf (fs : Fields) (es : List Entry) : Listing where
  title := textOf Names.listTitle fs
  text := textOf Names.listText fs
  ordered := flagOf Names.listOrdered fs
  footer := textOf Names.listFooter fs
  entries := es

/-- The splash that a record and its buttons make. -/
def splashOf (fs : Fields) (bs : List Button) : Splash where
  title := (textOf Names.title fs).getD ""
  text := Text.clean ((textOf Names.message fs).getD "")
  buttons := bs

/-- What a record is read into by the rules of a kind. -/
def readAs (policy : Policy) (fs : Fields) : Kind → Except ContentError (Option Normalized)
  | .text => .ok (some (.item (textItem fs)))
  | .image => .ok (some (.item (imageItem fs)))
  | .card => (card policy fs).map fun c => some (.item (.card c))
  | .buttons => ((subrecords buttonEntries fs).mapM (button policy)).map (filled .buttons)
  | .quickReply => .ok ((quickReplyItem fs).map .item)
  | .list => ((subrecords listEntries fs).mapM (listEntry policy)).map fun es =>
      some (.item (.list (listingOf fs es)))
  | .carousel => ((subrecords cardEntries fs).mapM (card policy)).map (filled .carousel)
  | .file => .ok (some (.item (fileItem fs)))
  | .map => .ok (some (.item (mapItem fs)))
  | .information => .ok (some (.item (informationItem fs)))
  | .splash => ((subrecords buttonEntries fs).mapM (button policy)).map fun bs =>
      some (.splash (splashOf fs bs))

/-! ## Counts -/

/-- Both counts together. -/
def Drops.add (d e : Drops) : Drops where
  malformed := d.malformed + e.malformed
  unknownKind := d.unknownKind + e.unknownKind
  empty := d.empty + e.empty

theorem Drops.add_assoc (d e f : Drops) : (d.add e).add f = d.add (e.add f) := by
  simp [Drops.add, Nat.add_assoc]

/-- What a record of a kind leaves out: entries that are no objects, and the record
    itself if nothing comes of it. -/
def Kind.drops (k : Kind) (fs : Fields) (result : Except ContentError (Option Normalized)) :
    Drops where
  malformed := k.malformed fs
  empty := match result with
    | .ok none => 1
    | _ => 0

/-- What becomes of a record, and what it leaves out. -/
def readRecord : Policy → Json → Except ContentError (Option Normalized) × Drops
  | policy, .object fs => match Kind.ofName? (kindName fs), policy with
    | none, .strict => (.error (.unknownKind (kindName fs)), {})
    | none, .lenient => (.ok none, { unknownKind := 1 })
    | some k, _ => (readAs policy fs k, k.drops fs (readAs policy fs k))
  | .strict, _ => (.error .notObject, {})
  | .lenient, _ => (.ok none, { malformed := 1 })

/-! ## What the counting functions do -/

theorem exec_objectsOf (es : List Json) (d : Drops) : exec (objectsOf es) d =
    (.ok (es.filterMap Json.fields?), d.add { malformed := es.countP (!·.isObject) }) := rfl

theorem exec_buttonsOf (policy : Policy) (fs : Fields) (d : Drops) :
    exec (buttonsOf policy fs) d = ((subrecords buttonEntries fs).mapM (button policy),
      d.add { malformed := (entries buttonEntries fs).countP (!·.isObject) }) := rfl

theorem exec_normalizeAs (policy : Policy) (k : Kind) (fs : Fields) (d : Drops) :
    exec (normalizeAs policy k fs) d =
      (readAs policy fs k, d.add { malformed := k.malformed fs }) := by
  cases k with
  | text => rfl
  | image => rfl
  | card => exact exec_bind_pure rfl
  | buttons =>
    refine (exec_bind_pure (exec_bind_pure (exec_buttonsOf policy fs d))).trans ?_
    rw [except_map_map]
    rfl
  | quickReply => rfl
  | list =>
    refine (exec_bind_pure ((exec_bind_ok (exec_objectsOf _ d)).trans
      (exec_bind_pure (exec_liftM _ _)))).trans ?_
    rw [except_map_map]
    rfl
  | carousel =>
    refine (exec_bind_pure ((exec_bind_ok (exec_objectsOf _ d)).trans
      (exec_bind_pure (exec_liftM _ _)))).trans ?_
    rw [except_map_map]
    rfl
  | file => rfl
  | map => rfl
  | information => rfl
  | splash =>
    refine (exec_bind_pure (exec_bind_pure (exec_buttonsOf policy fs d))).trans ?_
    rw [except_map_map]
    rfl

theorem exec_normalizeFields (policy : Policy) (fs : Fields) (d : Drops) :
    exec (normalizeFields policy fs) d =
      ((readRecord policy (.object fs)).1, d.add (readRecord policy (.object fs)).2) := by
  cases hk : Kind.ofName? (kindName fs) with
  | none => cases policy <;> simp only [normalizeFields, readRecord, hk] <;> rfl
  | some k =>
    have h := exec_normalizeAs policy k fs d
    simp only [normalizeFields, readRecord, hk]
    cases hr : readAs policy fs k with
    | error e =>
      rw [hr] at h
      exact exec_bind_error h
    | ok result =>
      rw [hr] at h
      refine (exec_bind_ok h).trans ?_
      cases result <;> rfl

/-- **Reading a record ends in its result and adds its counts.** -/
theorem exec_normalize (policy : Policy) (record : Json) (d : Drops) :
    exec (normalize policy record) d =
      ((readRecord policy record).1, d.add (readRecord policy record).2) := by
  cases record with
  | object fs => exact exec_normalizeFields policy fs d
  | _ => cases policy <;> rfl

/-! ## Messages -/

/-- What the records of a message are read into up to the first error, and what they
    leave out. -/
def readAll (policy : Policy) : List Json → Except ContentError (List Normalized) × Drops
  | [] => (.ok [], {})
  | r :: rest => match readRecord policy r with
    | (.error e, c) => (.error e, c)
    | (.ok o, c) => ((readAll policy rest).1.map (o.toList ++ ·), c.add (readAll policy rest).2)

theorem readAll_cons (policy : Policy) (r : Json) (rest : List Json) :
    (readAll policy (r :: rest)).1 = (readRecord policy r).1.bind fun o =>
      (readAll policy rest).1.map (o.toList ++ ·) := by
  rw [readAll]
  rcases readRecord policy r with ⟨_ | _, _⟩ <;> rfl

theorem exec_normalizeAll (policy : Policy) (records : List Json) (d : Drops) :
    exec (normalizeAll policy records) d =
      ((readAll policy records).1, d.add (readAll policy records).2) := by
  induction records generalizing d with
  | nil => rfl
  | cons r rest ih =>
    have h := exec_normalize policy r d
    rw [normalizeAll, readAll]
    rcases hr : readRecord policy r with ⟨e | o, c⟩
    · rw [hr] at h
      exact exec_bind_error h
    · rw [hr] at h
      rw [exec_bind_ok h]
      cases o with
      | none =>
        refine (ih _).trans ?_
        rw [Drops.add_assoc]
        cases (readAll policy rest).1 <;> rfl
      | some result =>
        refine (exec_bind_pure (ih _)).trans ?_
        rw [Drops.add_assoc]
        rfl

/-- **Reading a message ends in the bundle of its results and adds its counts.** -/
theorem exec_ofRecords (policy : Policy) (records : List Json) (d : Drops) :
    exec (Bundle.ofRecords policy records) d =
      ((readAll policy records).1.map Bundle.ofResults, d.add (readAll policy records).2) :=
  exec_bind_pure (exec_normalizeAll policy records d)

end ChatRelay.Content

/-
  The session that a message belongs to.

  The session id is given as a parameter, or stands in what an earlier node
  emitted, or in the input record.  The places are looked up in this order; a
  place that cannot be looked into is passed over.

  * `firstSuccess` runs lookups until one gives something;
  * `Session.resolve` finds the session id, as a text without blanks around;
  * `Session.validate` accepts a session id.
-/
import ChatRelay.Failure
import ChatRelay.Text.Blank

namespace ChatRelay

/-- Runs the lookups in order up to the first that gives something.  One that
    fails gives nothing. -/
def firstSuccess {m : Type → Type} [Monad m] {ε : Type} :
    List (m (Except ε Json)) → m (Option Json)
  | [] => return none
  | lookup :: rest => do
    match ← lookup with
    | .ok v => if v.isTruthy then return some v else firstSuccess rest
    | .error _ => firstSuccess rest

namespace Session

/-! ## Resolving -/

/-- A lookup came upon a value it cannot look into. -/
inductive Obstacle where
  | obstacle
deriving DecidableEq

/-- The text of an id without blanks around; null if nothing is left. -/
def cleaned (v : Json) : Json :=
  match v with
  | .null => .null
  | v =>
    let s := Text.trimBlank v.display
    if s.isEmpty then .null else .text s

/-- The field that holds the session id. -/
def idField : String := "sessionId"

/-- The id that an object holds. -/
def idIn (fs : Fields) : Json := cleaned ((Json.get? fs idField).getD .null)

/-- The id given as a parameter. -/
def fromParameter (v : Json) : Except Obstacle Json := .ok (cleaned v)

/-- The id in an input record. -/
def fromRecord (record : Json) : Except Obstacle Json :=
  match record with
  | .object fs => .ok (idIn fs)
  | v => if v.isTruthy then .error .obstacle else .ok .null

/-- The object that a node wraps in the field `json`, or the object
    itself. -/
def unwrapped (fs : Fields) : Fields :=
  match Json.get? fs "json" with
  | some (.object inner) => inner
  | _ => fs

/-- The id in the first record of a list. -/
def fromFirst : Json → Except Obstacle Json
  | .array (.object fs :: _) => .ok (idIn (unwrapped fs))
  | v => if v.isTruthy then .error .obstacle else .ok .null

/-- The id in what the node emitted. -/
def fromOutputs (outputs : Json) (node : Option String) : Except Obstacle Json :=
  match outputs with
  | .object outputs => fromFirst ((node.bind (Json.get? outputs)).getD .null)
  | v => if v.isTruthy then .error .obstacle else .ok .null

/-- The node that was named, `usual` if none was. -/
def nodeOr (usual : String) (named : Json) : Option String :=
  if named.isTruthy then named.text? else some usual

/-- Finds the session id. -/
def resolve (explicit outputs record : Json) (node : Option String) : Except Failure String :=
  let found : Id (Option Json) :=
    firstSuccess [fromParameter explicit, fromOutputs outputs node, fromRecord record]
  match found.run.bind Json.text? with
  | some id => .ok id
  | none => .error .missingSession

/-! ## Validating -/

/-- What is wrong with a session id. -/
def flaw? (s : String) : Option SessionFlaw :=
  if s.isEmpty then some .empty
  else if maxSessionLength < s.length then some .tooLong
  else if s.toList.any Text.isStray then some .control
  else none

/-- Accepts a session id. -/
def validate (s : String) : Except Failure Unit :=
  match flaw? s with
  | some f => .error (.invalidSession f)
  | none => .ok ()

/-- The number of parts of a value that has any. -/
def size? : Json → Option Nat
  | .array xs => some xs.length
  | .object fs => some fs.length
  | _ => none

/-- Accepts a session id of any sort, of which only texts are. -/
def validateValue (v : Json) : Except Failure Unit :=
  match v with
  | .text s => validate s
  | v =>
    if !v.isTruthy then .error (.invalidSession .empty)
    else if (size? v).any (maxSessionLength < ·) then .error (.invalidSession .tooLong)
    else .error (.misused .messageText)

end Session

end ChatRelay

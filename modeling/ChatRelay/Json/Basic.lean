/-
  JSON values.

  A value is null, a Boolean, a number, a text, an array or an object; the
  fields of an object keep their order.  Records, parameters and connector
  answers arrive as such values, of any shape.

  * `Json.get?` reads a field of an object, the first one of that name;
  * `Json.isTruthy` is the truth of a value used as a flag: null, false, zero
    and everything empty count as nothing;
  * `Json.elements?` are the elements of a value that can be gone through;
  * `Json.put` sets a field in place or adds it at the end;
  * `Json.finitePart` has null for every number that is not finite, so that it
    can be written (`isFinite_finitePart`), and changes no other value
    (`finitePart_of_isFinite`);
  * `Json.isWithin` bounds the levels of a value, `Json.nestsWithin` how many of its parts stand
    inside one another, and `Limits` are the bounds;
  * equality of values is decidable.
-/
import ChatRelay.Number.Basic

namespace ChatRelay

/-- A JSON value. -/
inductive Json where
  | null
  | bool (b : Bool)
  | number (n : Number)
  | text (s : String)
  | array (items : List Json)
  | object (fields : List (String × Json))
deriving Inhabited

/-- The fields of an object, in order. -/
abbrev Fields := List (String × Json)

namespace Json

/-! ## Equality -/

mutual

/-- Equality of values. -/
def decEq : (a b : Json) → Decidable (a = b)
  | null, null => isTrue rfl
  | bool a, bool b =>
    if h : a = b then isTrue (h ▸ rfl) else isFalse (by intro e; cases e; exact h rfl)
  | number a, number b =>
    if h : a = b then isTrue (h ▸ rfl) else isFalse (by intro e; cases e; exact h rfl)
  | text a, text b =>
    if h : a = b then isTrue (h ▸ rfl) else isFalse (by intro e; cases e; exact h rfl)
  | array a, array b => match decEqItems a b with
    | isTrue h => isTrue (h ▸ rfl)
    | isFalse h => isFalse (by intro e; cases e; exact h rfl)
  | object a, object b => match decEqFields a b with
    | isTrue h => isTrue (h ▸ rfl)
    | isFalse h => isFalse (by intro e; cases e; exact h rfl)
  | null, bool _ | null, number _ | null, text _ | null, array _ | null, object _
  | bool _, null | bool _, number _ | bool _, text _ | bool _, array _ | bool _, object _
  | number _, null | number _, bool _ | number _, text _ | number _, array _ | number _, object _
  | text _, null | text _, bool _ | text _, number _ | text _, array _ | text _, object _
  | array _, null | array _, bool _ | array _, number _ | array _, text _ | array _, object _
  | object _, null | object _, bool _ | object _, number _ | object _, text _
  | object _, array _ => isFalse nofun

/-- Equality of arrays. -/
def decEqItems : (a b : List Json) → Decidable (a = b)
  | [], [] => isTrue rfl
  | [], _ :: _ | _ :: _, [] => isFalse nofun
  | x :: xs, y :: ys => match decEq x y, decEqItems xs ys with
    | isTrue h, isTrue h' => isTrue (h ▸ h' ▸ rfl)
    | isFalse h, _ => isFalse (by intro e; cases e; exact h rfl)
    | _, isFalse h => isFalse (by intro e; cases e; exact h rfl)

/-- Equality of fields. -/
def decEqFields : (a b : Fields) → Decidable (a = b)
  | [], [] => isTrue rfl
  | [], _ :: _ | _ :: _, [] => isFalse nofun
  | (k, x) :: xs, (l, y) :: ys => match instDecidableEqString k l, decEq x y, decEqFields xs ys with
    | isTrue h'', isTrue h, isTrue h' => isTrue (h'' ▸ h ▸ h' ▸ rfl)
    | isFalse h, _, _ => isFalse (by intro e; cases e; exact h rfl)
    | _, isFalse h, _ => isFalse (by intro e; cases e; exact h rfl)
    | _, _, isFalse h => isFalse (by intro e; cases e; exact h rfl)

end

instance : DecidableEq Json := decEq

/-! ## Building -/

/-- An integer. -/
def int (i : Int) : Json := number (.int i)

/-- A real. -/
def real (x : Binary64) : Json := number (.real x)

/-- A text, or null. -/
def ofText? : Option String → Json
  | some s => text s
  | none => null

/-- A number, or null. -/
def ofNumber? : Option Number → Json
  | some n => number n
  | none => null

/-! ## Reading -/

/-- The value of a field, the first of that name. -/
def get? (fields : Fields) (name : String) : Option Json :=
  fields.lookup name

/-- The value has fields. -/
def isObject : Json → Bool
  | object _ => true
  | _ => false

/-- The fields of an object. -/
def fields? : Json → Option Fields
  | object fs => some fs
  | _ => none

/-- The text itself. -/
def text? : Json → Option String
  | text s => some s
  | _ => none

/-- The truth of a value used as a flag. -/
def isTruthy : Json → Bool
  | null => false
  | bool b => b
  | number n => !n.isZero
  | text s => !s.isEmpty
  | array xs => !xs.isEmpty
  | object fs => !fs.isEmpty

/-- The elements of a value that can be gone through: the items of an array,
    the names of an object, the characters of a text. -/
def elements? : Json → Option (List Json)
  | array xs => some xs
  | object fs => some (fs.map fun f => text f.1)
  | text s => some (s.toList.map fun c => text (String.singleton c))
  | _ => none

/-- The elements of a value, none for one that counts as nothing. -/
def elementsOrNone? (v : Json) : Option (List Json) :=
  if v.isTruthy then v.elements? else some []

/-- The text of a value, the empty one for a value that counts as nothing. -/
def textOrEmpty? (v : Json) : Option String :=
  if v.isTruthy then v.text? else some ""

/-! ## Changing -/

/-- Sets the field `name`, in place if there is one, else at the end. -/
def put (name : String) (v : Json) : Fields → Fields
  | [] => [(name, v)]
  | f :: rest => if f.1 = name then (name, v) :: rest else f :: put name v rest

/-- The fields without the ones named `name`. -/
def without (name : String) (fields : Fields) : Fields :=
  fields.filter fun f => f.1 != name

theorem get?_cons (f : String × Json) (rest : Fields) (name : String) :
    get? (f :: rest) name = if name = f.1 then some f.2 else get? rest name := by
  obtain ⟨key, v⟩ := f
  by_cases h : name = key
  · subst h; simp [get?]
  · have h' : (name == key) = false := by simpa using h
    simp [get?, List.lookup_cons, h, h']

theorem get?_put (name : String) (v : Json) (fs : Fields) : get? (put name v fs) name = some v := by
  induction fs with
  | nil => simp [put, get?_cons]
  | cons f rest ih =>
    by_cases h : f.1 = name
    · simp [put, h, get?_cons]
    · have h' : name ≠ f.1 := fun e => h e.symm
      simpa [put, h, get?_cons, h'] using ih

theorem get?_put_of_ne {name other : String} (h : other ≠ name) (v : Json) (fs : Fields) :
    get? (put name v fs) other = get? fs other := by
  induction fs with
  | nil => simp [put, get?_cons, h]
  | cons f rest ih =>
    by_cases hf : f.1 = name
    · subst hf; simp [put, get?_cons, h]
    · simp [put, hf, get?_cons, ih]

/-! ## Finite values -/

mutual

/-- Every number in the value is finite, so that it can be written. -/
def isFinite : Json → Bool
  | number n => n.isFinite
  | array xs => itemsFinite xs
  | object fs => fieldsFinite fs
  | null | bool _ | text _ => true
termination_by structural v => v

/-- Every item is finite. -/
def itemsFinite : List Json → Bool
  | [] => true
  | x :: xs => isFinite x && itemsFinite xs
termination_by structural xs => xs

/-- Every field is finite. -/
def fieldsFinite : Fields → Bool
  | [] => true
  | f :: fs => fieldFinite f && fieldsFinite fs
termination_by structural fs => fs

/-- The value of the field is finite. -/
def fieldFinite : String × Json → Bool
  | (_, v) => isFinite v
termination_by structural f => f

end

mutual

/-- The value with null in the place of every number that is not finite. -/
def finitePart : Json → Json
  | number n => if n.isFinite then number n else null
  | array xs => array (itemsFinitePart xs)
  | object fs => object (fieldsFinitePart fs)
  | null => null
  | bool b => bool b
  | text s => text s
termination_by structural v => v

/-- The finite part of every item. -/
def itemsFinitePart : List Json → List Json
  | [] => []
  | x :: xs => finitePart x :: itemsFinitePart xs
termination_by structural xs => xs

/-- The finite part of every field. -/
def fieldsFinitePart : Fields → Fields
  | [] => []
  | f :: fs => fieldFinitePart f :: fieldsFinitePart fs
termination_by structural fs => fs

/-- The field with the finite part of its value. -/
def fieldFinitePart : String × Json → String × Json
  | (name, v) => (name, finitePart v)
termination_by structural f => f

end

mutual

theorem isFinite_finitePart : (v : Json) → (finitePart v).isFinite = true
  | null | bool _ | text _ => rfl
  | number n => by
    by_cases h : n.isFinite = true <;> simp [finitePart, isFinite, h]
  | array xs => itemsFinite_itemsFinitePart xs
  | object fs => fieldsFinite_fieldsFinitePart fs

theorem itemsFinite_itemsFinitePart : (xs : List Json) → itemsFinite (itemsFinitePart xs) = true
  | [] => rfl
  | x :: xs => by
    simp [itemsFinitePart, itemsFinite, isFinite_finitePart x, itemsFinite_itemsFinitePart xs]

theorem fieldsFinite_fieldsFinitePart :
    (fs : Fields) → fieldsFinite (fieldsFinitePart fs) = true
  | [] => rfl
  | (_, v) :: fs => by
    simp [fieldsFinitePart, fieldFinitePart, fieldsFinite, fieldFinite, isFinite_finitePart v,
      fieldsFinite_fieldsFinitePart fs]

end

mutual

/-- A finite value is its own finite part. -/
theorem finitePart_of_isFinite : {v : Json} → v.isFinite = true → finitePart v = v
  | null, _ | bool _, _ | text _, _ => rfl
  | number n, h => by
    have h' : n.isFinite = true := h
    simp [finitePart, h']
  | array _, h => congrArg array (itemsFinitePart_of_itemsFinite h)
  | object _, h => congrArg object (fieldsFinitePart_of_fieldsFinite h)

theorem itemsFinitePart_of_itemsFinite :
    {xs : List Json} → itemsFinite xs = true → itemsFinitePart xs = xs
  | [], _ => rfl
  | x :: xs, h => by
    obtain ⟨hx, hxs⟩ := Bool.and_eq_true_iff.1 h
    rw [itemsFinitePart, finitePart_of_isFinite hx, itemsFinitePart_of_itemsFinite hxs]

theorem fieldsFinitePart_of_fieldsFinite :
    {fs : Fields} → fieldsFinite fs = true → fieldsFinitePart fs = fs
  | [], _ => rfl
  | (_, v) :: fs, h => by
    obtain ⟨hv, hfs⟩ := Bool.and_eq_true_iff.1 h
    rw [fieldsFinitePart, fieldFinitePart, finitePart_of_isFinite hv,
      fieldsFinitePart_of_fieldsFinite hfs]

end

/-! ## Levels -/

mutual

/-- The value has at most `n` levels; one without parts has one. -/
def isWithin : Json → Nat → Bool
  | _, 0 => false
  | array xs, n + 1 => itemsWithin xs n
  | object fs, n + 1 => fieldsWithin fs n
  | null, _ + 1 | bool _, _ + 1 | number _, _ + 1 | text _, _ + 1 => true
termination_by structural v => v

/-- Every item has at most `n` levels. -/
def itemsWithin : List Json → Nat → Bool
  | [], _ => true
  | x :: xs, n => isWithin x n && itemsWithin xs n
termination_by structural xs => xs

/-- Every field has at most `n` levels. -/
def fieldsWithin : Fields → Nat → Bool
  | [], _ => true
  | f :: fs, n => fieldWithin f n && fieldsWithin fs n
termination_by structural fs => fs

/-- The value of the field has at most `n` levels. -/
def fieldWithin : String × Json → Nat → Bool
  | (_, v), n => isWithin v n
termination_by structural f => f

end

mutual

/-- At most `n` arrays and objects of the value stand inside one another. -/
def nestsWithin : Json → Nat → Bool
  | array _, 0 | object _, 0 => false
  | array xs, n + 1 => itemsNestWithin xs n
  | object fs, n + 1 => fieldsNestWithin fs n
  | null, _ | bool _, _ | number _, _ | text _, _ => true
termination_by structural v => v

/-- At most `n` arrays and objects of every item stand inside one another. -/
def itemsNestWithin : List Json → Nat → Bool
  | [], _ => true
  | x :: xs, n => nestsWithin x n && itemsNestWithin xs n
termination_by structural xs => xs

/-- At most `n` arrays and objects of every field stand inside one another. -/
def fieldsNestWithin : Fields → Nat → Bool
  | [], _ => true
  | f :: fs, n => fieldNestsWithin f n && fieldsNestWithin fs n
termination_by structural fs => fs

/-- At most `n` arrays and objects of the field stand inside one another. -/
def fieldNestsWithin : String × Json → Nat → Bool
  | (_, v), n => nestsWithin v n
termination_by structural f => f

end

end Json

/-! ## Limits -/

/-- How deep values may go.  These limits are not the relay's: a library sets the one to values of
    any shape in a message or an answer, and the interpreter those to documents.  How many arrays
    and objects of a document may stand inside one another depends on the calls that its reader
    stands in, so there is a limit for every place where one is read or written.  The numbers are
    those that are usual. -/
structure Limits where
  /-- in a payload that is given as a text -/
  payload : Nat := 970
  /-- in the input of a request for a live agent -/
  reason : Nat := 970
  /-- in the body of a request -/
  submission : Nat := 970
  /-- in the body that a trigger is called with -/
  event : Nat := 970
  /-- in an answer of the connector -/
  reply : Nat := 970
  /-- in a body that is sent to the connector -/
  call : Nat := 970
  /-- levels of a value that an answer shows because it is at fault -/
  shown : Nat := 950
  /-- levels of a value of any shape that a message or an answer holds -/
  levels : Nat := 255
  /-- a value without parts can be written anywhere -/
  levels_pos : 0 < levels := by decide
deriving DecidableEq

end ChatRelay

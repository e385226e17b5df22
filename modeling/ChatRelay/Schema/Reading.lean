/-
  Reading values into records.

  A reading is a value that fits, or all the faults of one that does not.  Two
  readings side by side give the faults of both, so a record is read field by
  field and every fault is found in the order of the fields.

  * `Reading` is applicative: `f <$> a <*> b` fits if `a` and `b` do;
  * `asText`, `asFlag`, `asWhole`, `asWord`, `asItems`, `asMapping` and `orNull`
    read values;
  * `field` and `fieldOr` read the fields of a record, `asRecord` the record.
-/
import ChatRelay.Json.Reader
import ChatRelay.Schema.Fault
import ChatRelay.Text.Blank

namespace ChatRelay.Schema

/-- A value that fits, or the faults of one that does not. -/
inductive Reading (α : Type) where
  | fits (a : α)
  | faulty (faults : List Fault)

namespace Reading

/-- Applies a reading of a function to a reading of its argument. -/
def apply {α β : Type} : Reading (α → β) → Reading α → Reading β
  | fits f, fits a => fits (f a)
  | fits _, faulty fs => faulty fs
  | faulty fs, fits _ => faulty fs
  | faulty fs, faulty gs => faulty (fs ++ gs)

instance : Applicative Reading where
  pure := fits
  seq f a := apply f (a ())

/-- The reading seen from one step further out. -/
def under {α : Type} (s : Step) : Reading α → Reading α
  | fits a => fits a
  | faulty fs => faulty (fs.map (Fault.under s))

/-- One fault, at the value itself. -/
def fault {α : Type} (c : Cause) : Reading α := faulty [⟨[], c⟩]

/-- The value, if it fits. -/
def toOption {α : Type} : Reading α → Option α
  | fits a => some a
  | faulty _ => none

end Reading

open Reading

/-! ## Values -/

/-- A text. -/
def asText : Json → Reading String
  | .text s => fits s
  | _ => fault .text

/-- The spellings of true. -/
def trueWords : List String := ["1", "on", "t", "true", "y", "yes"]

/-- The spellings of false. -/
def falseWords : List String := ["0", "off", "f", "false", "n", "no"]

/-- A flag spelled as a text, in any case. -/
def spelledFlag (s : String) : Reading Bool :=
  let w := Text.lowerCased s
  if trueWords.contains w then fits true
  else if falseWords.contains w then fits false
  else fault .unclearFlag

/-- The bound of the whole numbers that a real, or a counted flag, is read
    as. -/
def wordBound : Nat := twoTo 63

/-- A flag given as a whole number: zero or one. -/
def wholeFlag (i : Int) : Reading Bool :=
  if i = 0 then fits false
  else if i = 1 then fits true
  else if -wordBound ≤ i && i < wordBound then fault .unclearFlag
  else fault .flag

/-- A flag given as a number of either sort. -/
def countedFlag : Number → Reading Bool
  | .int i => wholeFlag i
  | .real x =>
    if !x.isFinite then fault .flag
    else
      let (a, b) := x.value
      if a % b = 0 && a.natAbs / b < wordBound then wholeFlag (a / b) else fault .flag

/-- A flag, also spelled or counted. -/
def asFlag : Json → Reading Bool
  | .bool b => fits b
  | .text s => spelledFlag s
  | .number n => countedFlag n
  | _ => fault .flag

/-- A whole number as a document writes it: a minus sign, and digits that do
    not begin with a zero unless it is the only one.  The sign counts as one of
    the characters of which there may be too many. -/
def plainWhole (cs : List Char) : Reading Int :=
  let (negative, unsigned) := match cs with
    | '-' :: rest => (true, rest)
    | cs => (false, cs)
  match Json.wholeDigits? unsigned with
  | none => fault .unclearInteger
  | some (ds, rest) =>
    if maxDigits < cs.length - rest.length then fault .hugeInteger
    else if !rest.isEmpty then fault .unclearInteger
    else
      let n : Nat := Text.ofDigits (ds.map Json.digitValue)
      fits (if negative then -(n : Int) else n)

/-- The digits of an unsigned whole number from the last zero in front on that
    is needed; `c` was passed over as a zero or an underscore after one. -/
def fromNeeded (c : Char) : List Char → Option (List Char)
  | [] => some [c]
  | d :: rest =>
    if d = '0' || d = '_' then fromNeeded d rest
    else if d = '.' then some (c :: d :: rest)
    else if d.isDigit || d = '-' then some (d :: rest)
    else none

/-- The digits of an unsigned whole number without needless zeros in front. -/
def withoutZeros : List Char → Option (List Char)
  | [] => none
  | c :: rest =>
    if c = '0' then fromNeeded c rest
    else if c.isDigit || c = '-' then some (c :: rest)
    else none

/-- The text without a point after which there are zeros and nothing else. -/
def withoutPlaces (cs : List Char) : List Char :=
  let (whole, places) := cs.span (· != '.')
  if 1 < places.length && (places.drop 1).all (· = '0') then whole else cs

/-- Two underscores stand side by side. -/
def hasDoubled : List Char → Bool
  | '_' :: '_' :: _ => true
  | _ :: rest => hasDoubled rest
  | [] => false

/-- The text without underscores, each of which stands alone and inside. -/
def withoutUnderscores (cs : List Char) : Option (List Char) :=
  if cs.head? = some '_' || cs.getLast? = some '_' || hasDoubled cs then none
  else some (cs.filter (· != '_'))

/-- The whole number that a text means: without a plus sign, needless zeros,
    places and underscores. -/
def plainForm (cs : List Char) : Option (List Char) := do
  let (sign, unsigned) := match cs with
    | '-' :: rest => (['-'], rest)
    | '+' :: '-' :: rest => ([], '+' :: '-' :: rest)
    | '+' :: rest => ([], rest)
    | cs => ([], cs)
  withoutUnderscores (withoutPlaces (sign ++ (← withoutZeros unsigned)))

/-- A whole number written as a text; only the digits from `0` to `9` count. -/
def spelledWhole (s : String) : Reading Int :=
  let cs := Numeral.trimmed s
  match plainWhole cs with
  | faulty [⟨[], .unclearInteger⟩] => match plainForm cs with
    | some cs => plainWhole cs
    | none => fault .unclearInteger
  | result => result

/-- A whole number, also as a text, a flag or a real without a fraction. -/
def asWhole : Json → Reading Int
  | .number (.int i) => fits i
  | .number (.real x) =>
    if !x.isFinite then fault .infinite
    else
      let (a, b) := x.value
      if a % b ≠ 0 then fault .fraction
      else if a.natAbs / b < wordBound then fits (a / b)
      else fault .hugeInteger
  | .bool b => fits (if b then 1 else 0)
  | .text s => spelledWhole s
  | _ => fault .integer

/-- One of the words in the table. -/
def asWord {α : Type} (table : List (String × α)) (v : Json) : Reading α :=
  match v.text?.bind fun w => table.lookup w with
  | some a => fits a
  | none => fault (.oneOf (table.map (·.1)))

/-- Null, or a value. -/
def orNull {α : Type} (check : Json → Reading α) : Json → Reading (Option α)
  | .null => fits none
  | v => some <$> check v

/-- The items from the place `n` on. -/
def itemsAt {α : Type} (check : Json → Reading α) (n : Nat) : List Json → Reading (List α)
  | [] => fits []
  | v :: rest => List.cons <$> (check v).under (.index n) <*> itemsAt check (n + 1) rest

/-- An array of values. -/
def asItems {α : Type} (check : Json → Reading α) : Json → Reading (List α)
  | .array vs => itemsAt check 0 vs
  | _ => fault .list

/-- Fields of any name. -/
def values {α : Type} (check : Json → Reading α) : Fields → Reading (List (String × α))
  | [] => fits []
  | f :: rest =>
    List.cons <$> ((fun a => (f.1, a)) <$> (check f.2).under (.key f.1)) <*> values check rest

/-- An object of any fields. -/
def asMapping {α : Type} (check : Json → Reading α) : Json → Reading (List (String × α))
  | .object fs => values check fs
  | _ => fault .mapping

/-- Any value at all. -/
def asAny (v : Json) : Reading Json := fits v

/-- An object of any fields, as it is. -/
def asObject : Json → Reading Fields
  | .object fs => fits fs
  | _ => fault .mapping

/-! ## Records -/

/-- The field under the first of the names that is there. -/
def named? (names : List String) (fs : Fields) : Option (String × Json) :=
  names.findSome? fun n => (Json.get? fs n).map fun v => (n, v)

/-- A field that has to be there; its absence is reported under the first
    name. -/
def field {α : Type} (names : List String) (check : Json → Reading α) (fs : Fields) :
    Reading α :=
  match named? names fs with
  | some (n, v) => (check v).under (.key n)
  | none => faulty [⟨(names.take 1).map Step.key, .missing⟩]

/-- A field with a value of its own for when it is absent. -/
def fieldOr {α : Type} (names : List String) (absent : α) (check : Json → Reading α)
    (fs : Fields) : Reading α :=
  match named? names fs with
  | some (n, v) => (check v).under (.key n)
  | none => fits absent

/-- A record of known fields. -/
def asRecord {α : Type} (fields : Fields → Reading α) : Json → Reading α
  | .object fs => fields fs
  | _ => fault .record

end ChatRelay.Schema

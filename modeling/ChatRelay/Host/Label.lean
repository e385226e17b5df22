/-
  The names of hosts.

  A name consists of labels between dots.  A label is written as it is, or, if
  it is not ASCII, with a mark in front and in ASCII.  Either way the characters
  that it stands for have to be composed, allowed, and shown in one order.

  * `Flaw` is what is wrong with a label, `Flaw.message` puts it into words;
  * `labelFlaw?` checks the characters of a label;
  * `readLabel` reads a written label and `writeLabel?` writes one;
  * `readName` and `writeName?` do the same with names.
-/
import ChatRelay.Host.Direction
import ChatRelay.Host.Point
import ChatRelay.Text.Blank
import ChatRelay.Text.Punycode
import ChatRelay.Text.Quoted

namespace ChatRelay.Host

open Text

/-! ## Flaws -/

/-- What is wrong with a label or a name.  A place is counted from one; the
    label in which it is comes with it. -/
inductive Flaw where
  /-- a label without characters -/
  | empty
  | uncomposed
  /-- hyphens in the third and fourth place -/
  | hyphens
  /-- a hyphen in the first or last place -/
  | outerHyphen
  | beginsWithMark
  /-- a joiner in a place where nothing joins -/
  | joiner (point place : Nat) (label : List Nat)
  /-- a character that is not allowed beside the others -/
  | context (point place : Nat) (label : List Nat)
  /-- a character that is not allowed -/
  | forbidden (point place : Nat) (label : List Nat)
  | direction (flaw : DirectionFlaw) (label : List Nat)
  /-- a written label without anything after the mark -/
  | unwritten
  /-- a written label with a hyphen at its end -/
  | writtenHyphen
  /-- a written label that cannot be read -/
  | unreadable
deriving DecidableEq

/-- A code point by its number. -/
def pointName (n : Nat) : String :=
  "U+" ++ String.ofList ((hexDigits 4 n).map Char.toUpper)

/-- A broken rule about directions in words. -/
def DirectionFlaw.message (label : List Nat) : DirectionFlaw → String
  | unknown place => s!"Unknown directionality in label {quotedPoints label} at position {place}"
  | first => s!"First codepoint in label {quotedPoints label} must be directionality L, R or AL"
  | against rightToLeft place =>
    let name := if rightToLeft then "right-to-left" else "left-to-right"
    s!"Invalid direction for codepoint at position {place} in a {name} label"
  | mixedNumbers => "Can not mix numeral types in a right-to-left label"
  | ending => "Label ends with illegal codepoint directionality"

/-- A flaw in words. -/
def Flaw.message : Flaw → String
  | empty => "Empty Label"
  | uncomposed => "Label must be in Normalization Form C"
  | hyphens => "Label has disallowed hyphens in 3rd and 4th position"
  | outerHyphen => "Label must not start or end with a hyphen"
  | beginsWithMark => "Label begins with an illegal combining character"
  | joiner n place label =>
    s!"Joiner {pointName n} not allowed at position {place} in {quotedPoints label}"
  | context n place label =>
    s!"Codepoint {pointName n} not allowed at position {place} in {quotedPoints label}"
  | forbidden n place label =>
    s!"Codepoint {pointName n} at position {place} of {quotedPoints label} not allowed"
  | direction flaw label => flaw.message label
  | unwritten => "Malformed A-label, no Punycode eligible content found"
  | writtenHyphen => "A-label must not end with a hyphen"
  | unreadable => "Invalid A-label"

/-! ## Labels -/

/-- What is wrong with a character after the code points `before`, the last of
    which comes first, and before `after`. -/
def pointFlaw? (label before : List Nat) (n : Nat) (after : List Nat) : Option Flaw :=
  let place := before.length + 1
  if isPermitted n then none
  else if n = 0x200C || n = 0x200D then
    if fitsJoiner before n after then none else some (.joiner n place label)
  else if isContextual n then
    if fitsContext before n after then none else some (.context n place label)
  else some (.forbidden n place label)

/-- What is wrong with the first character that is not allowed. -/
def pointsFlaw? (label before : List Nat) : List Nat → Option Flaw
  | [] => none
  | n :: after => (pointFlaw? label before n after).or (pointsFlaw? label (n :: before) after)

/-- What is wrong with the characters of a label. -/
def labelFlaw? (label : List Nat) : Option Flaw :=
  let hyphen := '-'.toNat
  if label.isEmpty then some .empty
  else if !Composition.isComposed label then some .uncomposed
  else if (label.drop 2).take 2 = [hyphen, hyphen] then some .hyphens
  else if label.head? = some hyphen || label.getLast? = some hyphen then some .outerHyphen
  else if label.head?.any isMark then some .beginsWithMark
  else (pointsFlaw? label [] label).or ((directionFlaw? label).map (.direction · label))

/-- A label that has no flaw. -/
def checkedLabel (label : List Nat) : Except Flaw (List Nat) :=
  match labelFlaw? label with
  | some flaw => .error flaw
  | none => .ok label

/-- The mark in front of a label that is written in ASCII. -/
def mark : List Char := ['x', 'n', '-', '-']

/-- The code points of a label in ASCII. -/
def readLabel (cs : List Char) : Except Flaw (List Nat) :=
  let small := cs.map Char.toLower
  if mark.isPrefixOf small then
    let written := small.drop mark.length
    if written.isEmpty then .error .unwritten
    else if written.getLast? = some '-' then .error .writtenHyphen
    else match Punycode.decode true written with
      | some label => checkedLabel label
      | none => .error .unreadable
  else checkedLabel (small.map Char.toNat)

/-- The greatest length of a written label. -/
def maxLabelLength : Nat := 63

/-- A label in ASCII, if it can be written. -/
def writeLabel? (cs : List Char) : Option (List Char) :=
  let written : Option (List Char) :=
    if cs.all (·.toNat < 0x80) then (readLabel cs).toOption.map fun _ => cs
    else (checkedLabel (cs.map Char.toNat)).toOption.map fun label => mark ++ Punycode.encode label
  written.filter (·.length ≤ maxLabelLength)

/-! ## Names -/

/-- The dots between labels. -/
def isDot (c : Char) : Bool := c = '.' || c = '\u3002' || c = '\uff0e' || c = '\uff61'

/-- The labels of a name, and whether a dot follows the last one. -/
def labelsOf (name : String) : List (List Char) × Bool :=
  let labels := splitChars '.' (name.toList.map fun c => if isDot c then '.' else c)
  if labels.getLast? = some [] then (labels.dropLast, true) else (labels, false)

/-- The name of the code points that a name in ASCII stands for. -/
def readName (name : String) : Except Flaw String := do
  let (labels, dotted) := labelsOf name
  let read ← labels.mapM readLabel
  let parts := read.map fun ns => String.ofList (ns.map charOf)
  return ".".intercalate (parts ++ if dotted then [""] else [])

/-- The greatest length of a written name, without a dot at its end. -/
def maxNameLength : Nat := 253

/-- A name in ASCII, if it can be written. -/
def writeName? (name : String) : Option String := do
  let (labels, dotted) := labelsOf name
  let parts ← labels.mapM writeLabel?
  let written := ".".intercalate ((parts.map String.ofList) ++ if dotted then [""] else [])
  if written.length ≤ maxNameLength + dotted.toNat then some written else none

end ChatRelay.Host

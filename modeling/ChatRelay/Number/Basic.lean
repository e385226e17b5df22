/-
  Numbers of two sorts, and their text.

  A number is an integer of any size or a real, kept as a 64-bit floating
  point number.  The two sorts stay apart: an integer is written by its
  digits, a real always with a point, an exponent or a name.

  * `Layout` says how the digits of a real are laid out, `Layout.written` lays
    them out, `Number.layout` is the layout in use;
  * `Number.text` is the text of a number;
  * `Number.compare?` compares across the sorts without rounding.
-/
import ChatRelay.Number.Shortest

namespace ChatRelay

/-- How the digits of a real are laid out: positionally while the exponent of
    the leading digit is at least `leastPositional` and below
    `firstScientific`, otherwise with `mark` and an exponent that has a sign
    and at least `exponentDigits` digits. -/
structure Layout where
  leastPositional : Int
  firstScientific : Int
  mark : Char
  exponentDigits : Nat

/-- The digits of an exponent with its sign. -/
def Layout.exponentText (l : Layout) (e : Int) : List Char :=
  let ds := Nat.toDigits 10 e.natAbs
  (if e < 0 then '-' else '+') :: List.replicate (l.exponentDigits - ds.length) '0' ++ ds

/-- The digits `ds`, the leading one with the exponent `e`, laid out. -/
def Layout.written (l : Layout) (ds : List Char) (e : Int) : List Char :=
  if e < l.leastPositional || l.firstScientific ≤ e then
    let point := if ds.length = 1 then [] else '.' :: ds.drop 1
    ds.take 1 ++ point ++ l.mark :: l.exponentText e
  else if e < 0 then
    '0' :: '.' :: List.replicate (-e - 1).toNat '0' ++ ds
  else
    let n := e.toNat + 1
    if ds.length ≤ n then ds ++ List.replicate (n - ds.length) '0' ++ ['.', '0']
    else ds.take n ++ '.' :: ds.drop n

/-- A number as it stands in a JSON document. -/
inductive Number where
  | int (i : Int)
  | real (x : Binary64)
deriving DecidableEq, Inhabited

namespace Number

/-- Reals are written positionally below 10^16 and down to 10^-4, otherwise
    with `e` and an exponent of two digits or more. -/
def layout : Layout := ⟨-4, 16, 'e', 2⟩

/-- The digits of a number without zeros at the end, with the exponent of the
    leading one. -/
def trimmedDigits (n : Nat) (e : Int) : List Char × Int :=
  let ds := Nat.toDigits 10 n
  let kept := (ds.reverse.dropWhile (· == '0')).reverse
  (if kept.isEmpty then ['0'] else kept, e + ds.length - 1)

/-- The text of a real: the shortest digits that read back. -/
def realText (x : Binary64) : String :=
  let sign := if x.isNegative then ['-'] else []
  if x.isUndefined then "nan"
  else if !x.isFinite then String.ofList (sign ++ "inf".toList)
  else if x.isZero then String.ofList (sign ++ "0.0".toList)
  else
    let (n, e) := x.shortest
    let (ds, lead) := trimmedDigits n e
    String.ofList (sign ++ layout.written ds lead)

/-- The text of an integer. -/
def intText (i : Int) : String :=
  String.ofList ((if i < 0 then ['-'] else []) ++ Nat.toDigits 10 i.natAbs)

/-- The text of a number. -/
def text : Number → String
  | int i => intText i
  | real x => realText x

/-- Zero, of either sort and sign. -/
def isZero : Number → Bool
  | int i => i == 0
  | real x => x.isZero

/-- Neither infinite nor undefined. -/
def isFinite : Number → Bool
  | int _ => true
  | real x => x.isFinite

/-- The nearest real; none if the integer lies beyond all finite ones. -/
def toReal? : Number → Option Binary64
  | int i => let x := Binary64.ofInt i; if x.isFinite then some x else none
  | real x => some x

/-- An integer against a real, exactly. -/
def compareIntReal? (i : Int) (x : Binary64) : Option Ordering :=
  if x.isUndefined then none
  else if !x.isFinite then some (if x.isNegative then .gt else .lt)
  else
    let (a, b) := x.value
    some (compare (i * b) a)

/-- The order of numbers, across the sorts. -/
def compare? : Number → Number → Option Ordering
  | int i, int j => some (compare i j)
  | int i, real y => compareIntReal? i y
  | real x, int j => (compareIntReal? j x).map Ordering.swap
  | real x, real y => x.compare? y

/-- The first number lies below the second. -/
def isBelow (a b : Number) : Bool := a.compare? b == some .lt

/-- The least of two numbers, the first one unless the second lies below. -/
def least (a b : Number) : Number := if b.isBelow a then b else a

end Number

end ChatRelay

/-
  Code points written with ASCII letters and digits.

  The ASCII characters of a text come first, as they are, then a hyphen and a
  number for each other character, in the order of the code points: how far the
  code point and the place lie beyond those of the character before.  The
  numbers have digits of the base 36, and how many digits one has depends on the
  numbers before it.

  * `encode` writes code points;
  * `decode` reads them, either strictly or as far as it goes.
-/
namespace ChatRelay.Text.Punycode

/-! ## Numbers -/

/-- The greatest final digit of the place `k` of a number. -/
def threshold (k bias : Nat) : Nat :=
  if 36 * (k + 1) ≤ bias then 1 else min 26 (36 * (k + 1) - bias)

theorem threshold_pos (k bias : Nat) : 1 ≤ threshold k bias := by
  unfold threshold
  split <;> omega

/-- Divides a distance until it is small; every division adds to the bias. -/
def damped (delta : Nat) : Nat :=
  if 455 < delta then 36 + damped (delta / 35) else 36 * delta / (delta + 38)

/-- The bias after a number, when there are `count` characters. -/
def adapt (delta : Nat) (first : Bool) (count : Nat) : Nat :=
  let delta := delta / if first then 700 else 2
  damped (delta + delta / count)

/-- The bias before the first number. -/
def initialBias : Nat := 72

/-- The first code point that is no ASCII. -/
def initialPoint : Nat := 0x80

/-! ## Writing -/

/-- A digit: the letters, then the decimal digits. -/
def digit (d : Nat) : Char := Char.ofNat (if d < 26 then 'a'.toNat + d else '0'.toNat + d - 26)

/-- A number, from its place `k` on. -/
def number (bias k n : Nat) : List Char :=
  let t := threshold k bias
  if n < t then [digit n]
  else digit (t + (n - t) % (36 - t)) :: number bias (k + 1) ((n - t) / (36 - t))
termination_by n
decreasing_by
  have := threshold_pos k bias
  exact Nat.lt_of_le_of_lt (Nat.div_le_self ..) (by omega)

/-- What is being written: the distance so far, the bias, the number of
    characters written and the digits. -/
structure Writing where
  delta : Nat
  bias : Nat
  written : Nat
  out : List Char

/-- Goes over a character of the text while the code point `point` is
    written; `start` is the number of ASCII characters. -/
def Writing.pass (start point : Nat) (w : Writing) (c : Nat) : Writing :=
  if c < point then { w with delta := w.delta + 1 }
  else if c = point then
    { delta := 0
      bias := adapt w.delta (w.written = start) (w.written + 1)
      written := w.written + 1
      out := w.out ++ number w.bias 0 w.delta }
  else w

/-- Writes the code points in `points`, which ascend; `next` is the least that
    may come. -/
def writeFrom (text : List Nat) (start next : Nat) (w : Writing) : List Nat → List Char
  | [] => w.out
  | p :: points =>
    let w := { w with delta := w.delta + (p - next) * (w.written + 1) }
    let w := text.foldl (Writing.pass start p) w
    writeFrom text start (p + 1) { w with delta := w.delta + 1 } points

/-- The text that stands for code points. -/
def encode (text : List Nat) : List Char :=
  let ascii := (text.filter (· < initialPoint)).map Char.ofNat
  let points := ((text.filter (initialPoint ≤ ·)).mergeSort).eraseDups
  let start : Writing := ⟨0, initialBias, ascii.length, []⟩
  ascii ++ (if ascii.isEmpty then [] else ['-']) ++
    writeFrom text ascii.length initialPoint start points

/-! ## Reading -/

/-- The value of a digit, a letter of either case. -/
def digitValue? (c : Char) : Option Nat :=
  if c.isLower then some (c.toNat - 'a'.toNat)
  else if c.isUpper then some (c.toNat - 'A'.toNat)
  else if c.isDigit then some (c.toNat - '0'.toNat + 26)
  else none

/-- What is being read: the code points so far, the last code point and the
    place after it, the bias, and the number begun: its value, the weight of
    its next digit and that digit's place. -/
structure Reading where
  out : List Nat
  point : Nat := initialPoint
  place : Nat := 0
  bias : Nat := initialBias
  first : Bool := true
  value : Nat := 0
  weight : Nat := 1
  digits : Nat := 0

/-- The point that stands in for one beyond all code points, if any does. -/
def boundedPoint (strict : Bool) (point : Nat) : Option Nat :=
  if point < 0x110000 then some point else if strict then none else some '?'.toNat

/-- Ends a number: its code point goes to its place. -/
def Reading.insert (strict : Bool) (r : Reading) (value : Nat) : Option Reading := do
  let place := r.place + value
  let count := r.out.length + 1
  let point ← boundedPoint strict (r.point + place / count)
  let place := place % count
  return {
    out := r.out.take place ++ point :: r.out.drop place
    point
    place := place + 1
    bias := adapt value r.first count
    first := false }

/-- Reads digits.  What breaks off is refused if the reading is strict, and
    passed over otherwise. -/
def readFrom (strict : Bool) (r : Reading) : List Char → Option (List Nat)
  | [] => if strict && r.digits != 0 then none else some r.out
  | c :: rest => match digitValue? c with
    | none => if strict then none else some r.out
    | some d =>
      let value := r.value + d * r.weight
      let t := threshold r.digits r.bias
      if d < t then match r.insert strict value with
        | some r => readFrom strict r rest
        | none => none
      else readFrom strict
        { r with value, weight := r.weight * (36 - t), digits := r.digits + 1 } rest

/-- The part before the last hyphen and the part after it. -/
def splitHyphen (cs : List Char) : List Char × List Char :=
  let after := cs.reverse.takeWhile (· != '-')
  (cs.take (cs.length - after.length - 1), after.reverse)

/-- The code points that an ASCII text stands for. -/
def decode (strict : Bool) (cs : List Char) : Option (List Nat) :=
  let (ascii, digits) := splitHyphen cs
  readFrom strict { out := ascii.map Char.toNat } digits

example : encode ("b\u00fccher".toList.map Char.toNat) = "bcher-kva".toList := by
  decide +kernel

example : decode true "bcher-kva".toList = some ("b\u00fccher".toList.map Char.toNat) := by
  decide +kernel

end ChatRelay.Text.Punycode

/-
  Blank characters and trimming.

  A character is blank if it carries white space in the Unicode sense
  (`Bidirectional` class `WS`, `B` or `S`, or category `Zs`).  The separators
  U+001C to U+001F, U+0085 and U+00A0 are blank; the zero-width space U+200B
  and the byte order mark U+FEFF are not.

  * `isBlank` is the class, `trimBlank` drops blanks at both ends of a text,
    `dropTrailing` one given character at the end.
-/
namespace ChatRelay.Text

/-- A blank character. -/
def isBlank (c : Char) : Bool :=
  let n := c.toNat
  (0x09 ≤ n && n ≤ 0x0D) || (0x1C ≤ n && n ≤ 0x20) || n == 0x85 || n == 0xA0 || n == 0x1680 ||
    (0x2000 ≤ n && n ≤ 0x200A) || n == 0x2028 || n == 0x2029 || n == 0x202F || n == 0x205F ||
    n == 0x3000

/-- The characters without the ones at the end that satisfy `p`. -/
def dropTrailing (p : Char → Bool) (cs : List Char) : List Char :=
  (cs.reverse.dropWhile p).reverse

/-- The characters without blanks at either end. -/
def trimChars (cs : List Char) : List Char :=
  dropTrailing isBlank (cs.dropWhile isBlank)

/-- The text without blanks at either end. -/
def trimBlank (s : String) : String :=
  String.ofList (trimChars s.toList)

/-- The text without slashes at its end. -/
def trimSlashes (s : String) : String :=
  String.ofList (dropTrailing (· == '/') s.toList)

/-- The characters between one separator and the next, the empty stretches
    included. -/
def splitChars (sep : Char) : List Char → List (List Char)
  | [] => [[]]
  | c :: rest =>
    if c = sep then [] :: splitChars sep rest
    else match splitChars sep rest with
      | [] => [[c]]
      | part :: parts => (c :: part) :: parts

/-- The stretches of a text between one separator and the next. -/
def splitAt (sep : Char) (s : String) : List String :=
  (splitChars sep s.toList).map String.ofList

/-- A text in lower case, in the ASCII sense. -/
def lowerCased (s : String) : String :=
  String.ofList (s.toList.map Char.toLower)

end ChatRelay.Text

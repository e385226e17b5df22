/-
  Charsets in which sequences designate a set of characters.

  Octets are ASCII until a sequence designates another set, whose characters
  then are one octet or two.  Such a sequence is an escape, a few marks, and a
  letter.  A set is designated to a place: octets are read by the first place,
  after a shift by the second one, and a single character is read by the third
  one.  An escape of another kind is text up to its letter.

  * `CharacterSet` is a set of characters with its `Designation`, `Switching`
    what a charset has of sets and sequences;
  * `designatedFronts` is what stands in octets one after the other.
-/
import ChatRelay.Charset.Chinese
import ChatRelay.Charset.Japanese.Planes
import ChatRelay.Charset.Korean

namespace ChatRelay.Charset

/-! ## Sets -/

/-- What a sequence designates: the letter at its end, and whether characters
    are pairs of octets. -/
structure Designation where
  letter : Char
  isPaired : Bool
deriving DecidableEq

/-- Sets of characters other than ASCII. -/
inductive CharacterSet where
  /-- ASCII with two other characters -/
  | roman
  /-- katakana of half width -/
  | katakana
  /-- the upper half of the charset for the west of Europe -/
  | latin
  /-- the upper half of the charset for Greek -/
  | greek
  | basic
  /-- an earlier edition of the basic characters, which is read as the same -/
  | earlierBasic
  | more
  | korean
  | guobiao
  | firstPlane (isLater : Bool)
  | secondPlane
deriving DecidableEq

/-- ASCII, which needs no other set. -/
def Designation.ascii : Designation := ⟨'B', false⟩

/-- What designates a set. -/
def CharacterSet.designation : CharacterSet → Designation
  | roman => ⟨'J', false⟩
  | katakana => ⟨'I', false⟩
  | latin => ⟨'A', false⟩
  | greek => ⟨'F', false⟩
  | basic => ⟨'B', true⟩
  | earlierBasic => ⟨'@', true⟩
  | more => ⟨'D', true⟩
  | korean => ⟨'C', true⟩
  | guobiao => ⟨'A', true⟩
  | firstPlane false => ⟨'O', true⟩
  | firstPlane true => ⟨'Q', true⟩
  | secondPlane => ⟨'P', true⟩

/-- What a charset has of sets and sequences. -/
structure Switching where
  sets : List CharacterSet
  /-- shifts between the first place and the second one -/
  hasShifts : Bool := false
  /-- a third place for single characters -/
  hasThird : Bool := false
  /-- a mark in front of a sequence that tells the revision of its set -/
  hasRevisions : Bool := true
deriving DecidableEq

/-- How a set is read: by one octet or by two. -/
inductive Reading where
  | single (char? : Nat → Option Char)
  | paired (chars? : Nat → Nat → Option (List Char))

/-- The cell of a pair of ASCII. -/
def asciiCell? (a b : Nat) : Option Nat := plainCell? (a + 0x80) (b + 0x80)

/-- The reading of pairs of ASCII by cells. -/
def Reading.ofCells (cells : Array Char) : Reading :=
  .paired fun a b => (asciiCell? a b).bind fun n => (cell? cells n).map ([·])

/-- The character of an octet in the set of ASCII with two other characters. -/
def romanChar (a : Nat) : Char :=
  if a = 0x5C then '¥' else if a = 0x7E then '‾' else Char.ofNat a

/-- How a set is read; two sets have no characters for octets of the first
    place. -/
def CharacterSet.reading : CharacterSet → Reading
  | roman => .single fun a => some (romanChar a)
  | katakana => .single fun a => halfKatakana? (a + 0x80)
  | latin | greek => .single fun _ => none
  | basic | earlierBasic => .ofCells (Grid.cells basicGrid)
  | more => .ofCells (Grid.cells moreGrid)
  | korean =>
    let cells := Grid.cells koreanGrid
    .paired fun a b => (gridPair? cells (a + 0x80) (b + 0x80)).map ([·])
  | guobiao =>
    let cells := Grid.cells guobiaoGrid
    .paired fun a b => (guobiaoPartPair? cells (a + 0x80) (b + 0x80)).map ([·])
  | firstPlane isLater =>
    let planes := Planes.of isLater
    .paired fun a b => (asciiCell? a b).bind planes.first?
  | secondPlane => .ofCells (Grid.cells secondPlaneGrid)

/-- How octets are read by designation. -/
abbrev Readings := List (Designation × Reading)

/-- The readings of the sets of a charset. -/
def Switching.readings (s : Switching) : Readings := s.sets.map fun c => (c.designation, c.reading)

/-! ## Sequences -/

/-- The escape. -/
def escape : Nat := 0x1B

/-- An octet ends a sequence. -/
def isLetter (b : Nat) : Bool := 0x40 ≤ b && b ≤ 0x5A

/-- The number of octets of a sequence, of which `place` are read, and of the
    next ones `skip` are passed over: it ends with a letter.  An escape without
    a letter among 16 octets stands alone; none if the octets break off. -/
def sequenceLength? (hasRevisions : Bool) (place skip : Nat) : List Nat → Option Nat
  | [] => if 16 ≤ place + skip then some 1 else none
  | b :: rest =>
    if 16 ≤ place then some 1
    else match skip with
      | n + 1 => sequenceLength? hasRevisions (place + 1) n rest
      | 0 =>
        if isLetter b then some (place + 1)
        else
          let isRevision := hasRevisions && b = '&'.toNat && rest.head? = some '@'.toNat
          sequenceLength? hasRevisions (place + 1) (if isRevision then 2 else 0) rest

/-- The places for sets. -/
inductive Place where
  | first
  | second
  | third
deriving DecidableEq

/-- What a sequence designates, and the place for it. -/
def designated? (s : Switching) (octets : List Nat) : Option (Place × Designation) :=
  match octets.map Char.ofNat with
  | [_, '$', l] => some (.first, ⟨l, true⟩)
  | [_, '(', l] => some (.first, ⟨l, false⟩)
  | [_, ')', l] => some (.second, ⟨l, false⟩)
  | [_, '.', l] => if s.hasThird then some (.third, ⟨l, false⟩) else none
  | [_, '$', '(', l] => some (.first, ⟨l, true⟩)
  | [_, '$', ')', l] => some (.second, ⟨l, true⟩)
  | [_, _, _, '\x1b', '$', 'B'] =>
    if s.hasRevisions then some (.first, ⟨'B', true⟩) else none
  | _ => none

/-! ## Reading -/

/-- What is designated to the places, and what octets mean. -/
structure Designated where
  first : Designation := .ascii
  second : Designation := .ascii
  third : Designation := .ascii
  /-- octets are read by the second place -/
  isShifted : Bool := false
  /-- octets are text up to a letter -/
  isPassing : Bool := false

namespace Designated

/-- Puts a designation into a place. -/
def put (state : Designated) : Place × Designation → Designated
  | (.first, d) => { state with first := d }
  | (.second, d) => { state with second := d }
  | (.third, d) => { state with third := d }

/-- What stands in front when a sequence does; octets that wait for more are
    eight at most. -/
def sequenceFront (s : Switching) (readings : Readings) (state : Designated) (octets : List Nat) :
    Front × Designated :=
  match sequenceLength? s.hasRevisions 1 0 (octets.drop 1) with
  | none => (if 8 < octets.length then .overlong else .short, state)
  | some n =>
    match designated? s (octets.take n) with
    | some (place, d) =>
      if d = .ascii || (readings.lookup d).isSome then (.chars [] n, state.put (place, d))
      else (.wrong n, state)
    | none => (.wrong n, state)

/-- The upper half of the charset for Greek from 0xA0 on. -/
def greekHalf : String :=
  "\xa0‘’£��¦§¨©�«¬\xad�―°±²³΄΅Ά·ΈΉΊ»Ό½ΎΏΐΑΒΓΔΕΖΗΘΙΚΛΜΝΞΟΠΡ" ++
    "�ΣΤΥΦΧΨΩΪΫάέήίΰαβγδεζηθικλμνξοπρςστυφχψωϊϋόύώ�"

/-- The character of an octet in the charset for Greek. -/
def greekChar? (a : Nat) : Option Char :=
  if a < 0xA0 then some (Char.ofNat a)
  else greekHalf.toList[a - 0xA0]?.filter (· != Text.replacement)

/-- What stands in front when an octet `a` of three is read by the third
    place. -/
def thirdFront (d : Designation) (a : Nat) : Front :=
  if d = .ascii then (if a < 0x80 then .char (Char.ofNat a) 3 else .wrong 3)
  else if d = CharacterSet.latin.designation then
    (if a < 0x80 then .char (Char.ofNat (a + 0x80)) 3 else .wrong 3)
  else if d = CharacterSet.greek.designation then
    match greekChar? (if a < 0x80 then a + 0x80 else a - 0x80) with
    | some c => .char c 3
    | none => .wrong 3
  else .misplaced

/-- What stands in front when it is a character of the set in use. -/
def characterFront (readings : Readings) (d : Designation) (a : Nat) (rest : List Nat) : Front :=
  match readings.lookup d, rest with
  | none, _ => .char (Char.ofNat a) 1
  | some (.single char?), _ => .ofCell 1 (char? a)
  | some (.paired _), [] => .short
  | some (.paired chars?), b :: _ => (chars? a b).elim (.wrong 2) (.chars · 2)

/-- What stands in front when an escape does. -/
def escapeFront (s : Switching) (readings : Readings) (state : Designated) (octets : List Nat) :
    Front × Designated :=
  match octets.drop 1 with
  | [] => (.short, state)
  | b :: rest =>
    if "($).&".toList.contains (Char.ofNat b) then sequenceFront s readings state octets
    else if s.hasThird && b = 'N'.toNat then
      (rest.head?.elim .short (thirdFront state.third), state)
    else (.char (Char.ofNat escape) 1, { state with isPassing := true })

/-- What stands in front of octets. -/
def front (s : Switching) (readings : Readings) (state : Designated) :
    List Nat → Front × Designated
  | [] => (.short, state)
  | a :: rest =>
    let plain : Front := .char (Char.ofNat a) 1
    if state.isPassing then (plain, { state with isPassing := !isLetter a })
    else if a = escape then escapeFront s readings state (a :: rest)
    else if a = 0x0A then (plain, { state with isShifted := false })
    else if s.hasShifts && (a = 0x0E || a = 0x0F) then
      (.chars [] 1, { state with isShifted := a = 0x0E })
    else if a < 0x20 then (plain, state)
    else if 0x80 ≤ a then (.wrong 1, state)
    else
      let d := if state.isShifted then state.second else state.first
      (characterFront readings d a rest, state)

end Designated

/-- What stands in octets one after the other. -/
def designatedFronts (s : Switching) (bs : List UInt8) : List Front :=
  fronts (Designated.front s s.readings) {} bs

end ChatRelay.Charset

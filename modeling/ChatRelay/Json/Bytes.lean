/-
  Reading JSON documents from octets.

  A document is encoded in UTF-8, UTF-16 or UTF-32.  A mark in front tells
  which; without one the places of the zero octets among the first four do,
  because a document begins with ASCII.  Octets may spell halves of characters on
  their own; a document with one is told apart, as if it escaped the half.

  * `Encoding.detect` finds the encoding, `Encoding.decode?` the characters;
  * `readBytes` reads a document.
-/
import ChatRelay.Json.Reader
import ChatRelay.Text.Utf8

namespace ChatRelay.Json

open Text (character? isHighHalf isLowHalf joinedHalves numberOf replacement)

/-- How a document is encoded: in units of one, two or four octets.  The
    number of octets in front that are a mark is skipped. -/
inductive Encoding where
  | utf8 (mark : Nat)
  | utf16 (bigEndian : Bool) (mark : Nat)
  | utf32 (bigEndian : Bool) (mark : Nat)
deriving DecidableEq

/-- The encoding of a document without a mark, by its zero octets. -/
def Encoding.detectUnmarked : List UInt8 → Encoding
  | [a, b] =>
    if a = 0 then .utf16 true 0
    else if b = 0 then .utf16 false 0
    else .utf8 0
  | a :: b :: c :: d :: _ =>
    if a = 0 then (if b = 0 then .utf32 true 0 else .utf16 true 0)
    else if b = 0 then (if c = 0 && d = 0 then .utf32 false 0 else .utf16 false 0)
    else .utf8 0
  | _ => .utf8 0

/-- The encoding of a document. -/
def Encoding.detect : List UInt8 → Encoding
  | 0x00 :: 0x00 :: 0xFE :: 0xFF :: _ => .utf32 true 4
  | 0xFF :: 0xFE :: 0x00 :: 0x00 :: _ => .utf32 false 4
  | 0xFE :: 0xFF :: _ => .utf16 true 2
  | 0xFF :: 0xFE :: _ => .utf16 false 2
  | 0xEF :: 0xBB :: 0xBF :: _ => .utf8 3
  | bs => detectUnmarked bs

/-- The octets two by two; none if one is left over. -/
def units16? (bigEndian : Bool) : List UInt8 → Option (List Nat)
  | [] => some []
  | [_] => none
  | a :: b :: rest => (units16? bigEndian rest).map (numberOf bigEndian [a, b] :: ·)

/-- The octets four by four; none if some are left over. -/
def units32? (bigEndian : Bool) : List UInt8 → Option (List Nat)
  | [] => some []
  | a :: b :: c :: d :: rest => (units32? bigEndian rest).map (numberOf bigEndian [a, b, c, d] :: ·)
  | _ => none

/-- The characters of units of 16 bits, none for a half on its own; `high` is a first half just
    read. -/
def joinHalves (high : Option Nat) : List Nat → List (Option Char)
  | [] => if high.isSome then [none] else []
  | n :: rest =>
    match high with
    | some h =>
      if isLowHalf n then some (joinedHalves h n) :: joinHalves none rest
      else none ::
        (if isHighHalf n then joinHalves (some n) rest else character? n :: joinHalves none rest)
    | none =>
      if isHighHalf n then joinHalves (some n) rest else character? n :: joinHalves none rest

/-- The three octets spell a half on its own in the way of UTF-8, which is for whole characters. -/
def spellHalf (a b c : UInt8) : Bool :=
  a == 0xED && 0xA0 ≤ b && b ≤ 0xBF && 0x80 ≤ c && c ≤ 0xBF

/-- The octets between those that spell halves; `acc` are the ones before, the last one first. -/
def betweenHalves (acc : List UInt8) : List UInt8 → List (List UInt8)
  | a :: b :: c :: rest =>
    if spellHalf a b c then acc.reverse :: betweenHalves [] rest
    else betweenHalves (a :: acc) (b :: c :: rest)
  | rest => [acc.reverse ++ rest]

/-- The characters of octets in the encoding, none for a half on its own; nothing for what is no
    text. -/
def Encoding.decode? (e : Encoding) (bs : List UInt8) : Option (List (Option Char)) :=
  match e with
  | .utf8 mark => do
    let parts ← (betweenHalves [] (bs.drop mark)).mapM Text.Utf8.decode?
    return [none].intercalate (parts.map (·.map some))
  | .utf16 big mark => (units16? big (bs.drop mark)).map (joinHalves none)
  | .utf32 big mark => do
    let ns ← units32? big (bs.drop mark)
    if ns.all (· < 0x110000) then some (ns.map character?) else none

/-- Why octets are not read as a document. -/
inductive BytesError where
  /-- they are no text -/
  | undecodable
  /-- the text is no document -/
  | unread (e : ReadError)
deriving DecidableEq

/-- Reads characters as a document of any depth up to `depth`, of which some may be halves on their
    own. -/
def readOptions (depth : Nat) (cs : List (Option Char)) : Except ReadError Json :=
  match cs.mapM id with
  | some whole => readCharsWithin depth whole
  | none => match readHalves (some replacement) depth (cs.map (·.getD replacement)) with
    | .ok _ => .error .half
    | .error e => .error e

/-- Reads the octets of a document of any depth up to `depth`. -/
def readBytes (depth : Nat) (bs : List UInt8) : Except BytesError Json :=
  match (Encoding.detect bs).decode? bs with
  | some cs => (readOptions depth cs).mapError .unread
  | none => .error .undecodable

end ChatRelay.Json

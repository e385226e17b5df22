/-
  Text in units of two or four octets.

  A unit has its most significant octet first or last.  What stands for no
  character is replaced: a unit that is half a character, a unit beyond all
  characters, and what is left over at the end.

  * `decodeUnits16` and `decodeUnits32` read octets;
  * `decodeMarked` reads octets whose first unit is a mark that tells the order.
-/
import ChatRelay.Text.Halves

namespace ChatRelay.Charset

open Text

/-- The characters of units of two octets. -/
def decodeUnits16 (bigEndian : Bool) : List UInt8 → List Char
  | [] => []
  | [_] => [replacement]
  | a :: b :: rest =>
    let n := numberOf bigEndian [a, b]
    if isHighHalf n then
      match rest with
      | c :: d :: after =>
        let m := numberOf bigEndian [c, d]
        if isLowHalf m then joinedHalves n m :: decodeUnits16 bigEndian after
        else replacement :: decodeUnits16 bigEndian (c :: d :: after)
      | _ => [replacement]
    else charOf n :: decodeUnits16 bigEndian rest

/-- The characters of units of four octets. -/
def decodeUnits32 (bigEndian : Bool) : List UInt8 → List Char
  | [] => []
  | a :: b :: c :: d :: rest =>
    charOf (numberOf bigEndian [a, b, c, d]) :: decodeUnits32 bigEndian rest
  | _ => [replacement]

/-- The characters of units whose order the first unit tells; none if it does
    not.  Less than one unit is replaced. -/
def decodeMarked (wide : Bool) (bs : List UInt8) : Option (List Char) :=
  let size := if wide then 4 else 2
  let decode := if wide then decodeUnits32 else decodeUnits16
  if bs.isEmpty then some []
  else if bs.length < size then some [replacement]
  else if numberOf true (bs.take size) = 0xFEFF then some (decode true (bs.drop size))
  else if numberOf false (bs.take size) = 0xFEFF then some (decode false (bs.drop size))
  else none

end ChatRelay.Charset

/-
  Numeric addresses of hosts.

  An address of the short sort is four numbers below 256 between points.  One of
  the long sort is eight groups of hexadecimal digits between colons, of which
  two colons leave some out; the last two groups may be an address of the short
  sort, and the name of an interface may follow a percent sign.

  * `isShort` and `isLong` hold of addresses;
  * `looksShort` holds of all that is taken for one of the short sort.
-/
import ChatRelay.Text.Blank
import ChatRelay.Text.Digit

namespace ChatRelay.Host

open Text

/-! ## The short sort -/

/-- A number below 256 without a zero in front. -/
def isOctet (cs : List Char) : Bool :=
  !cs.isEmpty && cs.all Char.isDigit && cs.length ≤ 3 && (cs.head? != some '0' || cs.length = 1) &&
    ofDigits (cs.map fun c => c.toNat - '0'.toNat) < 256

/-- An address of the short sort. -/
def isShort (cs : List Char) : Bool :=
  let parts := splitChars '.' cs
  parts.length = 4 && parts.all isOctet

/-- The places that a character leads to from a place in four runs of digits with
    a character between each two: an even place stands before a run, an odd one
    inside it. -/
def runPlaces (c : Char) (place : Nat) : List Nat :=
  let on := if c.isDigit then [if place % 2 = 0 then place + 1 else place] else []
  if place % 2 = 1 && place < 7 then (place + 1) :: on else on

/-- Four runs of digits with any character between each two. -/
def looksShort (cs : List Char) : Bool :=
  (cs.foldl (fun places c => (places.flatMap (runPlaces c)).eraseDups) [0]).contains 7

/-! ## The long sort -/

/-- A group of one to four hexadecimal digits. -/
def isGroup (cs : List Char) : Bool :=
  !cs.isEmpty && cs.length ≤ 4 && cs.all fun c =>
    c.isDigit || ('a' ≤ c && c ≤ 'f') || ('A' ≤ c && c ≤ 'F')

/-- The groups with an address of the short sort at the end as two groups; none
    if it is not one. -/
def withoutShort (parts : List (List Char)) : Option (List (List Char)) :=
  match parts.getLast? with
  | some last =>
    if !last.contains '.' then some parts
    else if isShort last then some (parts.dropLast ++ [['0'], ['0']])
    else none
  | none => some parts

/-- Groups on one side of the two colons; at the end of the address there may be
    none, which is an empty group by itself. -/
def isSide (parts : List (List Char)) : Bool := parts = [[]] || parts.all isGroup

/-- The number of groups on one side. -/
def sideLength (parts : List (List Char)) : Nat := if parts = [[]] then 0 else parts.length

/-- Groups between colons, at most one of them left out. -/
def areGroups (parts : List (List Char)) : Bool :=
  -- the first empty group that is neither the first nor the last one
  match ((parts.drop 1).dropLast).findIdx? (·.isEmpty) with
  | some n =>
    let before := parts.take (n + 1)
    let after := parts.drop (n + 2)
    isSide before && isSide after && sideLength before + sideLength after < 8
  | none => parts.length = 8 && parts.all isGroup

/-- An address of the long sort. -/
def isLong (cs : List Char) : Bool :=
  let address := cs.takeWhile (· != '%')
  let interface := (cs.dropWhile (· != '%')).drop 1
  let parts := splitChars ':' address
  (!cs.contains '%' || (!interface.isEmpty && !interface.contains '%')) && 3 ≤ parts.length &&
    (withoutShort parts).any areGroups

end ChatRelay.Host

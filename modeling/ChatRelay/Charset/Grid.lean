/-
  Charsets of several octets.

  ASCII stands for itself, and so may other octets; the rest belong to sequences
  of octets, mostly pairs, whose places in a grid hold the characters.  An octet
  with which no sequence begins is replaced, and so is a sequence that breaks
  off.

  * `Front` is what stands in front of octets, `fronts` are all of them in their
    order, and `decodeFronts` reads octets by them;
  * `Grid` is a grid of characters, given by the runs of its cells.
-/
import ChatRelay.Text.Halves

namespace ChatRelay.Charset

open Text (replacement)

/-! ## Sequences -/

/-- What stands in front of octets. -/
inductive Front where
  /-- characters and the number of their octets -/
  | chars (cs : List Char) (size : Nat)
  /-- so many octets with which no sequence begins -/
  | wrong (size : Nat)
  /-- a sequence that breaks off -/
  | short
  /-- a sequence that breaks off after more octets than wait for the rest -/
  | overlong
  /-- a character of a set that does not belong to its place -/
  | misplaced
deriving DecidableEq

namespace Front

/-- A character and the number of its octets. -/
def char (c : Char) (size : Nat) : Front := chars [c] size

/-- What a character of `size` octets is in front. -/
def ofCell (size : Nat) : Option Char → Front
  | some c => char c size
  | none => wrong 1

/-- The characters that are read. -/
def toChars : Front → List Char
  | chars cs _ => cs
  | wrong _ | short => [replacement]
  | overlong | misplaced => []

/-- The number of octets after which reading goes on, if it does. -/
def size? : Front → Option Nat
  | chars _ size | wrong size => some size
  | short | overlong | misplaced => none

end Front

/-- What stands in octets one after the other, of which the first `skip` belong
    to a sequence already read.  What stands in front of octets can depend on a
    state and change it. -/
def frontsFrom {σ : Type} (front : σ → List Nat → Front × σ) (state : σ) (skip : Nat) :
    List Nat → List Front
  | [] => []
  | b :: rest => match skip with
    | n + 1 => frontsFrom front state n rest
    | 0 =>
      let (f, next) := front state (b :: rest)
      match f.size? with
      | some size => f :: frontsFrom front next (size - 1) rest
      | none => [f]

/-- What stands in octets one after the other. -/
def fronts {σ : Type} (front : σ → List Nat → Front × σ) (state : σ) (bs : List UInt8) :
    List Front :=
  frontsFrom front state 0 (bs.map UInt8.toNat)

/-- The characters of octets by what stands in front of them. -/
def decodeFronts (front : List Nat → Front) (bs : List UInt8) : List Char :=
  (fronts (fun _ ns => (front ns, ())) () bs).flatMap Front.toChars

/-- What stands in front if octets are ASCII, stand for a character alone or
    begin a pair. -/
def leadFront (alone : Nat → Option Char) (pair : Nat → Nat → Front) : List Nat → Front
  | [] => .short
  | a :: rest =>
    if a < 0x80 then .char (Char.ofNat a) 1
    else match alone a, rest with
      | some c, _ => .char c 1
      | none, [] => .short
      | none, b :: _ => pair a b

/-- What stands in front if a pair stands for one character. -/
def pairFront (alone : Nat → Option Char) (pair : Nat → Nat → Option Char) : List Nat → Front :=
  leadFront alone fun a b => .ofCell 2 (pair a b)

/-! ## Grids -/

/-- A grid of characters.  Its cells are numbered row by row, and a run lists the
    characters from a cell on, in pieces.  All other cells are empty, and so are
    those with U+FFFD. -/
abbrev Grid := List (Nat × List String)

/-- The cells of a grid in their order. -/
def Grid.cells (g : Grid) : Array Char :=
  g.foldl (fun cells run =>
    let gap := Array.replicate (run.1 - cells.size) replacement
    cells ++ gap ++ (run.2.flatMap String.toList).toArray) #[]

/-- The character in a cell. -/
def cell? (cells : Array Char) (n : Nat) : Option Char := cells[n]?.filter (· != replacement)

end ChatRelay.Charset

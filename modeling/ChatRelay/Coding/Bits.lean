/-
  Octets as bits, and numbers and symbols read from them.

  The least significant bit of an octet comes first.  A number has its least
  significant bit first; a symbol is found by walking down a tree, one bit a
  step.

  * `bitsOf` are the bits of octets, `toBoundary` drops the rest of an octet;
  * `number?` reads a number;
  * `CodeTree.ofLengths` is the tree of a canonical code, `CodeTree.find` reads
    a symbol.
-/
namespace ChatRelay.Coding

/-- The bits of octets. -/
def bitsOf (bs : List UInt8) : List Bool :=
  bs.flatMap fun b => (List.range 8).map fun i => b.toNat.testBit i

/-- The bits from the next octet on. -/
def toBoundary (bits : List Bool) : List Bool := bits.drop (bits.length % 8)

/-- The number of `n` bits and the bits after it; none if there are fewer. -/
def number? : Nat → List Bool → Option (Nat × List Bool)
  | 0, bits => some (0, bits)
  | _ + 1, [] => none
  | n + 1, b :: rest => (number? n rest).map fun (k, rest) => (2 * k + b.toNat, rest)

/-! ## Codes -/

/-- The tree of a code: a symbol stands at the end of the way that its bits
    describe. -/
inductive CodeTree where
  | empty
  | leaf (symbol : Nat)
  | node (zero one : CodeTree)
deriving DecidableEq

namespace CodeTree

/-- The way of a code word of `n` bits, the most significant first. -/
def way (n word : Nat) : List Bool := (List.range n).reverse.map word.testBit

/-- The tree with a symbol added at the end of a way. -/
def insert (symbol : Nat) : List Bool → CodeTree → CodeTree
  | [], _ => leaf symbol
  | b :: rest, t =>
    let (zero, one) := match t with
      | node zero one => (zero, one)
      | _ => (empty, empty)
    if b then node zero (insert symbol rest one) else node (insert symbol rest zero) one

/-- The symbols of a code with their lengths, those of one length in order. -/
def ranked (lengths : List Nat) : List (Nat × Nat) :=
  (List.range 16).flatMap fun n =>
    if n = 0 then [] else (lengths.zipIdx.filter (·.1 = n))

/-- Adds symbols; `word` is the code word after the last one, of the length
    `size`. -/
def addAll (word size : Nat) (t : CodeTree) : List (Nat × Nat) → CodeTree
  | [] => t
  | (n, symbol) :: rest =>
    let word := word <<< (n - size)
    addAll (word + 1) n (t.insert symbol (way n word)) rest

/-- The part of all words that a code leaves free, in words of 15 bits; negative
    if it has too many. -/
def slack (lengths : List Nat) : Int :=
  let taken := (lengths.filter (· != 0)).foldl (fun sum n => sum + Nat.pow 2 (15 - n)) 0
  Int.ofNat (Nat.pow 2 15) - Int.ofNat taken

/-- The tree of the code in which each symbol has the given length, zero for a
    symbol without a word. -/
def ofLengths (lengths : List Nat) : CodeTree :=
  addAll 0 0 (node empty empty) (ranked lengths)

/-- What reading a symbol gives. -/
inductive Found where
  | symbol (s : Nat) (rest : List Bool)
  /-- the bits are no word of the code; `rest` follows them -/
  | none (rest : List Bool)
  /-- the bits end before the word does -/
  | short

/-- Reads a symbol. -/
def find : CodeTree → List Bool → Found
  | empty, bits => .none bits
  | leaf s, bits => .symbol s bits
  | node _ _, [] => .short
  | node zero one, b :: rest => if b then one.find rest else zero.find rest

end CodeTree

end ChatRelay.Coding

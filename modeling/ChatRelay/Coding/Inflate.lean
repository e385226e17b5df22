/-
  Unpacking deflated octets.

  What is packed comes in blocks.  A block is stored as it is, or it is a row of
  symbols, each an octet or a copy of octets that came before, in a code that is
  fixed or described at the beginning of the block.  Blocks may stand between a
  header and a checksum, in the way of a stream or in that of a file.

  What ends too early gives the octets up to there.

  * `Flaw` is what is wrong with packed octets, `Flaw.message` in words;
  * `inflate` unpacks blocks, `inflateWrapped` a stream and `inflateFile` a
    file, with header and checksum.
-/
import ChatRelay.Coding.Bits

namespace ChatRelay.Coding

/-- What is wrong with packed octets. -/
inductive Flaw where
  | header
  | method
  | window
  /-- the header asks for octets that are not given -/
  | dictionary
  /-- the header of a file has parts that are not known -/
  | parts
  | headerChecksum
  | checksum
  | size
  | blockType
  | storedLengths
  | symbolCount
  | lengthCode
  | repetition
  | noEnd
  | symbolCode
  | distanceCode
  | badSymbol
  | badDistance
  | tooFar
deriving DecidableEq

/-- The flaw in words. -/
def Flaw.message : Flaw → String
  | header => "incorrect header check"
  | method => "unknown compression method"
  | window => "invalid window size"
  | dictionary => "need dictionary"
  | parts => "unknown header flags set"
  | headerChecksum => "header crc mismatch"
  | checksum => "incorrect data check"
  | size => "incorrect length check"
  | blockType => "invalid block type"
  | storedLengths => "invalid stored block lengths"
  | symbolCount => "too many length or distance symbols"
  | lengthCode => "invalid code lengths set"
  | repetition => "invalid bit length repeat"
  | noEnd => "invalid code -- missing end-of-block"
  | symbolCode => "invalid literal/lengths set"
  | distanceCode => "invalid distances set"
  | badSymbol => "invalid literal/length code"
  | badDistance => "invalid distance code"
  | tooFar => "invalid distance too far back"

/-- What has been unpacked, and how it went on. -/
inductive Unpacked where
  /-- to the end; `rest` follows -/
  | full (out : Array UInt8) (rest : List Bool)
  /-- as far as it goes: the bits end too early -/
  | part (out : Array UInt8)
  | flawed (f : Flaw)

/-! ## Symbols -/

/-- The octets that a symbol copies: the least number, and how many bits are
    added to it. -/
def lengthOf (symbol : Nat) : Option (Nat × Nat) :=
  if symbol < 265 then some (symbol - 254, 0)
  else if symbol < 285 then
    let extra := (symbol - 261) / 4
    some ((4 + (symbol - 261) % 4) * Nat.pow 2 extra + 3, extra)
  else if symbol = 285 then some (258, 0)
  else none

/-- How far back a copy begins: the least distance, and how many bits are added
    to it. -/
def distanceOf (symbol : Nat) : Option (Nat × Nat) :=
  if symbol < 4 then some (symbol + 1, 0)
  else if symbol < 30 then
    let extra := (symbol - 2) / 2
    some ((2 + symbol % 2) * Nat.pow 2 extra + 1, extra)
  else none

/-- Copies octets from `distance` before the end, one by one. -/
def copied (distance : Nat) : Nat → Array UInt8 → Array UInt8
  | 0, out => out
  | n + 1, out => copied distance n (out.push (out.getD (out.size - distance) 0))

/-- Unpacks the rest of a copy of `length` octets: its distance. -/
def copyFrom (distances : CodeTree) (length : Nat) (out : Array UInt8) (bits : List Bool) :
    Unpacked :=
  match distances.find bits with
  | .short => .part out
  | .none _ => .flawed .badDistance
  | .symbol s bits => match distanceOf s with
    | none => .flawed .badDistance
    | some (least, extra) => match number? extra bits with
      | none => .part out
      | some (n, bits) =>
        if out.size < least + n then .flawed .tooFar
        else .full (copied (least + n) length out) bits

/-- Unpacks symbols up to the end of the block; at most `fuel` of them, which are
    enough if there are as many bits. -/
def symbolsFrom (symbols distances : CodeTree) : Nat → Array UInt8 → List Bool → Unpacked
  | 0, out, _ => .part out
  | fuel + 1, out, bits => match symbols.find bits with
    | .short => .part out
    | .none _ => .flawed .badSymbol
    | .symbol s bits =>
      if s < 256 then symbolsFrom symbols distances fuel (out.push (UInt8.ofNat s)) bits
      else if s = 256 then .full out bits
      else match lengthOf s with
        | none => .flawed .badSymbol
        | some (least, extra) => match number? extra bits with
          | none => .part out
          | some (n, bits) => match copyFrom distances (least + n) out bits with
            | .full out bits => symbolsFrom symbols distances fuel out bits
            | stopped => stopped

/-! ## Codes of a block -/

/-- The lengths of the fixed code of symbols. -/
def fixedLengths : List Nat :=
  List.replicate 144 8 ++ List.replicate 112 9 ++ List.replicate 24 7 ++ List.replicate 8 8

/-- The order in which a block gives the lengths of the code in which the
    lengths of its codes are written. -/
def lengthOrder : List Nat := [16, 17, 18, 0, 8, 7, 9, 6, 10, 5, 11, 4, 12, 3, 13, 2, 14, 1, 15]

/-- A code is unusable: it has too many words, or leaves some free although it
    has more than one, or one longer than a bit. -/
def isUnusable (complete : Bool) (lengths : List Nat) : Bool :=
  let used := lengths.filter (· != 0)
  CodeTree.slack lengths < 0 ||
    (!used.isEmpty && 0 < CodeTree.slack lengths && (complete || used.any (1 < ·)))

/-- What reading the lengths of codes gives. -/
inductive Lengths where
  | lengths (ns : List Nat) (rest : List Bool)
  | short
  | flawed (f : Flaw)

/-- Reads numbers of three bits. -/
def triples : Nat → List Bool → Option (List Nat × List Bool)
  | 0, bits => some ([], bits)
  | n + 1, bits => do
    let (k, bits) ← number? 3 bits
    let (ks, bits) ← triples n bits
    return (k :: ks, bits)

/-- The bits that follow a symbol among lengths. -/
def extraBits (symbol : Nat) : Nat :=
  if symbol = 16 then 2 else if symbol = 17 then 3 else if symbol = 18 then 7 else 0

/-- What a symbol among lengths stands for: a length, and the least number of
    times that it is repeated; none if it is that of a length before and there
    is none. -/
def repeated? (symbol : Nat) (before : List Nat) : Option (Nat × Nat) :=
  if symbol < 16 then some (symbol, 1)
  else if symbol = 16 then before.head?.map fun n => (n, 3)
  else if symbol = 17 then some (0, 3)
  else some (0, 11)

/-- Reads lengths until there are `count`; `acc` holds the ones before, the last
    one first. -/
def lengthsFrom (code : CodeTree) (count : Nat) : Nat → List Nat → List Bool → Lengths
  | 0, _, _ => .short
  | fuel + 1, acc, bits =>
    if count ≤ acc.length then .lengths acc.reverse bits
    else
      -- in a code without words every bit is a zero
      let found : CodeTree.Found := match code.find bits with
        | .none bits => .symbol 0 bits
        | found => found
      match found with
      | .symbol s bits => match number? (extraBits s) bits with
        | none => .short
        | some (n, bits) => match repeated? s acc with
          | none => .flawed .repetition
          | some (length, least) =>
            if count < acc.length + least + n then .flawed .repetition
            else lengthsFrom code count fuel (List.replicate (least + n) length ++ acc) bits
      | _ => .short

/-- The lengths of the code of lengths by their order. -/
def orderedLengths (given : List Nat) : List Nat :=
  (List.range 19).map fun s => ((lengthOrder.zip given).lookup s).getD 0

/-- Unpacks a block that describes its codes. -/
def describedBlock (fuel : Nat) (out : Array UInt8) (bits : List Bool) : Unpacked :=
  match number? 14 bits with
  | none => .part out
  | some (n, bits) =>
    let symbols := n % 32 + 257
    let distances := n / 32 % 32 + 1
    if 286 < symbols || 30 < distances then .flawed .symbolCount
    else match triples (n / 1024 + 4) bits with
      | none => .part out
      | some (given, bits) =>
        let lengths := orderedLengths given
        if isUnusable true lengths then .flawed .lengthCode
        else match lengthsFrom (.ofLengths lengths) (symbols + distances) fuel [] bits with
          | .short => .part out
          | .flawed f => .flawed f
          | .lengths ns bits =>
            let first := ns.take symbols
            let second := ns.drop symbols
            if first.getD 256 0 = 0 then .flawed .noEnd
            else if isUnusable false first then .flawed .symbolCode
            else if isUnusable false second then .flawed .distanceCode
            else symbolsFrom (.ofLengths first) (.ofLengths second) fuel out bits

/-! ## Blocks -/

/-- The octets at the front of bits, at most `n`, and the bits after them. -/
def octets : Nat → Array UInt8 → List Bool → Unpacked
  | 0, out, bits => .full out bits
  | n + 1, out, bits => match number? 8 bits with
    | none => .part out
    | some (b, bits) => octets n (out.push (UInt8.ofNat b)) bits

/-- Unpacks a block that is stored as it is. -/
def storedBlock (out : Array UInt8) (bits : List Bool) : Unpacked :=
  match number? 32 (toBoundary bits) with
  | none => .part out
  | some (n, bits) =>
    let length := n % 0x10000
    if length + n / 0x10000 ≠ 0xFFFF then .flawed .storedLengths
    else octets length out bits

/-- Unpacks blocks up to the last one. -/
def blocksFrom : Nat → Array UInt8 → List Bool → Unpacked
  | 0, out, _ => .part out
  | fuel + 1, out, bits => match number? 3 bits with
    | none => .part out
    | some (n, bits) =>
      let block := match n / 2 with
        | 0 => storedBlock out bits
        | 1 => symbolsFrom (.ofLengths fixedLengths) (.ofLengths (List.replicate 32 5)) (fuel + 1)
          out bits
        | 2 => describedBlock (fuel + 1) out bits
        | _ => .flawed .blockType
      match block with
      | .full out bits => if n % 2 = 1 then .full out bits else blocksFrom fuel out bits
      | stopped => stopped

/-- Unpacks blocks; each block and each symbol takes a bit at least. -/
def inflateBits (bits : List Bool) : Unpacked := blocksFrom (bits.length + 1) #[] bits

/-- What was unpacked, also if it ended too early. -/
def Unpacked.toExcept : Unpacked → Except Flaw (List UInt8)
  | full out _ | part out => .ok out.toList
  | flawed f => .error f

/-- Unpacks blocks without a header. -/
def inflate (bs : List UInt8) : Except Flaw (List UInt8) := (inflateBits (bitsOf bs)).toExcept

/-! ## Streams -/

/-- The checksum of a stream: two sums modulo a prime. -/
def checksum (bs : Array UInt8) : Nat :=
  let (a, b) := bs.foldl (fun (a, b) x =>
    let a := (a + x.toNat) % 65521
    (a, (b + a) % 65521)) (1, 0)
  b * 0x10000 + a

/-- What is wrong with the two octets of a header. -/
def headerFlaw? (first second : UInt8) : Option Flaw :=
  if (0x100 * first.toNat + second.toNat) % 31 ≠ 0 then some .header
  else if first.toNat % 16 ≠ 8 then some .method
  else if 7 < first.toNat / 16 then some .window
  else none

/-- Checks what follows the last block. -/
def checked : Unpacked → Except Flaw (List UInt8)
  | .full out rest => match number? 32 (toBoundary rest) with
    | none => .ok out.toList
    | some (n, _) =>
      let octet (i : Nat) : Nat := n / Nat.pow 2 (8 * i) % 0x100
      let sum := ((octet 0 * 0x100 + octet 1) * 0x100 + octet 2) * 0x100 + octet 3
      if sum = checksum out then .ok out.toList else .error .checksum
  | unpacked => unpacked.toExcept

/-- Unpacks a stream with a header and a checksum. -/
def inflateWrapped (bs : List UInt8) : Except Flaw (List UInt8) :=
  match bs with
  | first :: second :: rest => match headerFlaw? first second with
    | some f => .error f
    | none =>
      if second.toNat / 32 % 2 = 1 then if rest.length < 4 then .ok [] else .error .dictionary
      else checked (inflateBits (bitsOf rest))
  | _ => .ok []

/-! ## Files -/

/-- The checksum after a bit of zero. -/
def crcBit (n : Nat) : Nat := if n % 2 = 1 then (n / 2) ^^^ 0xEDB88320 else n / 2

/-- The checksum of a file: the remainder of a polynomial, bit by bit. -/
def crc (bs : List UInt8) : Nat :=
  let remainder := bs.foldl (fun n b => (List.range 8).foldl (fun n _ => crcBit n) (n ^^^ b.toNat))
    0xFFFFFFFF
  remainder ^^^ 0xFFFFFFFF

/-- The octets after the first `n`; none if there are fewer. -/
def skip? (n : Nat) (bs : List UInt8) : Option (List UInt8) :=
  if bs.length < n then none else some (bs.drop n)

/-- The octets after a part that gives its own length. -/
def afterField? : List UInt8 → Option (List UInt8)
  | low :: high :: rest => skip? (low.toNat + 0x100 * high.toNat) rest
  | _ => none

/-- The octets after a text, which ends in a zero. -/
def afterText? (bs : List UInt8) : Option (List UInt8) :=
  match bs.dropWhile (· != 0) with
  | [] => none
  | _ :: rest => some rest

/-- The octets after the parts of a header that its flags announce: a field of any use, a name and
    a comment. -/
def afterParts? (flags : Nat) (bs : List UInt8) : Option (List UInt8) := do
  let bs ← if flags.testBit 2 then afterField? bs else some bs
  let bs ← if flags.testBit 3 then afterText? bs else some bs
  if flags.testBit 4 then afterText? bs else some bs

/-- Unpacks the content of a file, and checks its checksum and its size. -/
def fileContent (bs : List UInt8) : Except Flaw (List UInt8) :=
  match inflateBits (bitsOf bs) with
  | .full out rest =>
    match number? 32 (toBoundary rest) with
    | none => .ok out.toList
    | some (sum, rest) =>
      if sum ≠ crc out.toList then .error .checksum
      else match number? 32 rest with
        | none => .ok out.toList
        | some (size, _) =>
          if size = out.size % Nat.pow 2 32 then .ok out.toList else .error .size
  | unpacked => unpacked.toExcept

/-- Unpacks a file after its header `given`, which may end in a checksum of its own. -/
def fileAfter (given : List UInt8) (flags : Nat) (bs : List UInt8) : Except Flaw (List UInt8) :=
  if flags.testBit 1 then
    match bs with
    | low :: high :: rest =>
      if low.toNat + 0x100 * high.toNat = crc given % 0x10000 then fileContent rest
      else .error .headerChecksum
    | _ => .ok []
  else fileContent bs

/-- Unpacks a file.  Its header has two octets that mark it, a method, flags and six further
    octets, before the parts that the flags announce. -/
def inflateFile (bs : List UInt8) : Except Flaw (List UInt8) :=
  match bs with
  | 0x1F :: 0x8B :: method :: flags :: rest =>
    if method ≠ 8 then .error .method
    else if 0x20 ≤ flags then .error .parts
    else match (skip? 6 rest).bind (afterParts? flags.toNat) with
      | none => .ok []
      | some packed => fileAfter (bs.take (bs.length - packed.length)) flags.toNat packed
  | [] | [_] | [0x1F, 0x8B] | [0x1F, 0x8B, _] => .ok []
  | _ => .error .header

end ChatRelay.Coding

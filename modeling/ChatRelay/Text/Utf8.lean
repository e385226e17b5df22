/-
  Text as octets in UTF-8.

  A character takes one to four octets.  After a first octet the machine owes
  one to three further ones, of which the next lies in a given range; an octet
  outside it ends the sequence without a character and is then read afresh.

  * `Utf8.encode` writes a text, `Utf8.spread` with a character for each octet;
  * `Utf8.decode?` reads octets that are well formed throughout;
  * `Utf8.decodeLossy` puts U+FFFD for every sequence that breaks off.
-/
namespace ChatRelay.Text.Utf8

/-- The octets of a text. -/
def encode (s : String) : List UInt8 := s.toList.flatMap String.utf8EncodeChar

/-- The text in which each octet of a text is a character of its own. -/
def spread (s : String) : String :=
  String.ofList ((encode s).map fun b => Char.ofNat b.toNat)

/-- A character begun: its bits so far, the number of octets owed and the
    range of the next one. -/
structure Pending where
  bits : Nat
  owed : Nat
  least : Nat
  greatest : Nat

/-- Reads a first octet: the characters that it completes, none for a sequence
    that breaks off, and what it begins. -/
def start (b : Nat) : List (Option Char) × Option Pending :=
  if b < 0x80 then ([some (Char.ofNat b)], none)
  else if 0xC2 ≤ b && b ≤ 0xDF then ([], some ⟨b - 0xC0, 1, 0x80, 0xBF⟩)
  else if 0xE0 ≤ b && b ≤ 0xEF then
    ([], some ⟨b - 0xE0, 2, if b = 0xE0 then 0xA0 else 0x80, if b = 0xED then 0x9F else 0xBF⟩)
  else if 0xF0 ≤ b && b ≤ 0xF4 then
    ([], some ⟨b - 0xF0, 3, if b = 0xF0 then 0x90 else 0x80, if b = 0xF4 then 0x8F else 0xBF⟩)
  else ([none], none)

/-- Reads an octet. -/
def step (pending : Option Pending) (b : Nat) : List (Option Char) × Option Pending :=
  match pending with
  | none => start b
  | some p =>
    if p.least ≤ b && b ≤ p.greatest then
      let bits := p.bits * 0x40 + (b - 0x80)
      if p.owed ≤ 1 then ([some (Char.ofNat bits)], none)
      else ([], some ⟨bits, p.owed - 1, 0x80, 0xBF⟩)
    else
      let (out, q) := start b
      (none :: out, q)

/-- The characters of octets, none where a sequence breaks off. -/
def charsFrom (pending : Option Pending) : List UInt8 → List (Option Char)
  | [] => if pending.isSome then [none] else []
  | b :: rest =>
    let (out, next) := step pending b.toNat
    out ++ charsFrom next rest

/-- The characters of well-formed octets. -/
def decode? (bs : List UInt8) : Option (List Char) := (charsFrom none bs).mapM id

/-- The text of any octets. -/
def decodeLossy (bs : List UInt8) : String :=
  String.ofList ((charsFrom none bs).map (·.getD (Char.ofNat 0xFFFD)))

end ChatRelay.Text.Utf8

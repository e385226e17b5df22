/-
  Percent encoding.

  Two hexadecimal digits after a percent sign stand for an octet.  A percent
  sign without two such digits stands for itself.

  * `decode` reads a text in which octets are written this way;
  * `encode` writes the octets of all characters that are not safe.
-/
import ChatRelay.Text.Utf8

namespace ChatRelay.Text.Percent

/-- The value of a hexadecimal digit given as an octet. -/
def hexValue? (b : UInt8) : Option Nat :=
  let n := b.toNat
  if 0x30 ≤ n && n ≤ 0x39 then some (n - 0x30)
  else if 0x41 ≤ n && n ≤ 0x46 then some (n - 0x41 + 10)
  else if 0x61 ≤ n && n ≤ 0x66 then some (n - 0x61 + 10)
  else none

/-- The octet that the two digits at the front spell. -/
def spelled? : List UInt8 → Option UInt8
  | h :: l :: _ => do return UInt8.ofNat ((← hexValue? h) * 16 + (← hexValue? l))
  | _ => none

/-- Reads octets, passing over the first `skip`, which are read already. -/
def decodeFrom (skip : Nat) : List UInt8 → List UInt8
  | [] => []
  | b :: rest =>
    match skip with
    | n + 1 => decodeFrom n rest
    | 0 => match if b = 0x25 then spelled? rest else none with
      | some octet => octet :: decodeFrom 2 rest
      | none => b :: decodeFrom 0 rest

/-- The text that is written with percent signs; octets that are no text are
    replaced. -/
def decode (s : String) : String := Utf8.decodeLossy (decodeFrom 0 (Utf8.encode s))

/-- A hexadecimal digit. -/
def digit (n : Nat) : Char := Char.ofNat (if n < 10 then 0x30 + n else 0x41 + n - 10)

/-- An octet, written. -/
def spell (b : UInt8) : List Char := ['%', digit (b.toNat / 16), digit (b.toNat % 16)]

/-- The text with all characters written that are not safe. -/
def encode (safe : Char → Bool) (s : String) : String :=
  String.ofList (s.toList.flatMap fun c =>
    if safe c then [c] else (Utf8.encode (String.singleton c)).flatMap spell)

example : decode "a%20b%C3%A9%" = "a b\u00e9%" := by decide +kernel

end ChatRelay.Text.Percent

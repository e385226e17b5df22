/-
  Text in which a backslash begins an escape.

  An octet stands for the character of that code point, unless it belongs to an
  escape.  After the backslash a letter says how many hexadecimal digits of a
  code point follow; in the full form one to three octal digits and the usual
  letters are escapes too.  An escape that breaks off is replaced.

  * `decodeEscaped` reads octets.
-/
import ChatRelay.Text.Halves
import ChatRelay.Text.Percent

namespace ChatRelay.Charset

open Text

/-- The letters that stand for a character after a backslash. -/
def letterEscapes : List (Char × Char) := [
  ('\\', '\\'), ('\'', '\''), ('"', '"'), ('a', '\x07'), ('b', '\x08'), ('f', '\x0c'),
  ('n', '\n'), ('r', '\r'), ('t', '\t'), ('v', '\x0b')]

/-- The number of hexadecimal digits that a letter announces. -/
def hexWidth? (full : Bool) (c : Char) : Option Nat :=
  if c = 'u' then some 4
  else if c = 'U' then some 8
  else if c = 'x' && full then some 2
  else none

/-- The digits at the front, at most `width` of them. -/
def leading (value? : UInt8 → Option Nat) : Nat → List UInt8 → List Nat
  | 0, _ | _, [] => []
  | width + 1, b :: rest => match value? b with
    | some d => d :: leading value? width rest
    | none => []

/-- The value of an octal digit. -/
def octalValue? (b : UInt8) : Option Nat :=
  if 0x30 ≤ b.toNat && b.toNat ≤ 0x37 then some (b.toNat - 0x30) else none

/-- The number that digits denote. -/
def ofBase (base : Nat) (ds : List Nat) : Nat := ds.foldl (fun n d => base * n + d) 0

/-- The character of a name in braces, of which none is known, and the number of
    octets that belong to it. -/
def namedEscape (rest : List UInt8) : List Char × Nat :=
  match rest with
  | b :: rest =>
    if b.toNat = 0x7B then
      let name := rest.takeWhile fun b => b.toNat != 0x7D
      if name.isEmpty && !rest.isEmpty then ([replacement], 2)
      else ([replacement], min (rest.length + 2) (name.length + 3))
    else ([replacement], 1)
  | [] => ([replacement], 1)

/-- The character escaped by a backslash, after which `rest` follows, and the
    number of octets of `rest` that belong to it. -/
def escapeAt (full : Bool) (rest : List UInt8) : List Char × Nat :=
  match rest with
  | [] => ([if full then replacement else '\\'], 0)
  | b :: after =>
    let c := Char.ofNat b.toNat
    match hexWidth? full c with
    | some width =>
      let ds := leading Percent.hexValue? width after
      (if ds.length = width then [charOf (ofBase 16 ds)] else [replacement], ds.length + 1)
    | none =>
      let ds := leading octalValue? 3 rest
      if !full then (['\\', c], 1)
      else if !ds.isEmpty then ([charOf (ofBase 8 ds)], ds.length)
      else if c = '\n' then ([], 1)
      else if c = 'N' then namedEscape after
      else match letterEscapes.lookup c with
        | some d => ([d], 1)
        | none => (['\\', c], 1)

/-- Reads octets; the first `skip` belong to an escape already read. -/
def decodeEscapedFrom (full : Bool) (skip : Nat) : List UInt8 → List Char
  | [] => []
  | b :: rest => match skip with
    | n + 1 => decodeEscapedFrom full n rest
    | 0 =>
      if b.toNat = '\\'.toNat then
        let (out, n) := escapeAt full rest
        out ++ decodeEscapedFrom full n rest
      else Char.ofNat b.toNat :: decodeEscapedFrom full 0 rest

/-- The characters of octets; the full form has more escapes. -/
def decodeEscaped (full : Bool) (bs : List UInt8) : List Char := decodeEscapedFrom full 0 bs

end ChatRelay.Charset

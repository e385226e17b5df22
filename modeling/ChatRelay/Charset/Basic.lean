/-
  Charsets.

  A charset says how characters are written as octets.  It has many names; in a
  name case does not count, and neither does what separates its words.  A name
  that is not known stands for UTF-8.  Octets that stand for no character are
  replaced, but some charsets refuse octets altogether.

  * `Charset.named` is the charset of a name;
  * `Charset.decode` reads octets, `Refusal` is why it does not.
-/
import ChatRelay.Charset.Designated
import ChatRelay.Charset.Escaped
import ChatRelay.Charset.HongKong
import ChatRelay.Charset.Shifted
import ChatRelay.Charset.Single
import ChatRelay.Charset.Wide
import ChatRelay.Text.Blank
import ChatRelay.Text.Punycode
import ChatRelay.Text.Quoted
import ChatRelay.Text.Utf8

namespace ChatRelay

open Charset Text

/-! ## Refusals -/

/-- Why octets are not read as text. -/
inductive Charset.Refusal where
  /-- the mark that tells the order of the units is missing -/
  | unmarked (wide : Bool)
  /-- the charset has no characters -/
  | undefined
  /-- the charset does not replace what it cannot read -/
  | unforgiving
  /-- a sequence breaks off after more octets than wait for the rest -/
  | overlong
  /-- a character is read by a set that does not belong to its place -/
  | misplaced
  /-- an octet, at its place, is no ASCII -/
  | beyondAscii (octet : UInt8) (place : Nat)
  /-- the name of the charset holds the character of no name -/
  | nulInName
  /-- the name of the charset is given in parts without an order -/
  | unorderedName
  /-- the name is one of octets that stand for other octets -/
  | notText
  /-- the name is one of text that stands for other text -/
  | notOctets
deriving DecidableEq

/-- An octet as two hexadecimal digits. -/
def Charset.hexOctet (b : UInt8) : String := String.ofList (hexDigits 2 b.toNat)

/-- The refusal as a complaint about a value, if it is one. -/
def Charset.Refusal.complaint? : Charset.Refusal → Option String
  | unmarked wide => some s!"UTF-{if wide then 32 else 16} stream does not start with BOM"
  | undefined => some "undefined encoding"
  | unforgiving => some "Unsupported error handling replace"
  | overlong => some "pending buffer overflow"
  | beyondAscii b n => some
    s!"'ascii' codec can't decode byte 0x{hexOctet b} in position {n}: ordinal not in range(128)"
  | nulInName => some "embedded null character"
  | misplaced | unorderedName | notText | notOctets => none

/-! ## Charsets -/

/-- How pairs of octets stand for characters. -/
inductive Charset.Pairing where
  | extended
  | extendedPlanes (isLater : Bool)
  | shifted
  | shiftedPlanes (isLater : Bool)
  | vendor
  | wansung
  | unified
  | spelled
  | guobiao
  | guobiaoPart
  | guobiaoAll
  | tildes
  | bigFive (withVendor : Bool)
  | hongKong
deriving DecidableEq

/-- The characters of octets by a pairing. -/
def Charset.Pairing.decode : Charset.Pairing → List UInt8 → List Char
  | extended => decodeExtended
  | extendedPlanes isLater => decodeExtendedPlanes isLater
  | shifted => decodeShiftedPairs
  | shiftedPlanes isLater => decodeShiftedPlanes isLater
  | vendor => decodeVendorPairs
  | wansung => decodeWansung
  | unified => decodeUnified
  | spelled => decodeSpelled
  | guobiao => decodeGuobiao
  | guobiaoPart => decodeGuobiaoPart
  | guobiaoAll => decodeGuobiaoAll
  | tildes => decodeTildes
  | bigFive withVendor => decodeBigFive withVendor
  | hongKong => decodeHongKong

/-- How octets stand for characters. -/
inductive Charset where
  /-- UTF-8, a mark in front being a character or passed over -/
  | utf8 (marked : Bool)
  /-- shifted stretches -/
  | shifted
  /-- units of two or four octets, whose order is known -/
  | units (wide bigEndian : Bool)
  /-- units of two or four octets, whose order a mark tells -/
  | marked (wide : Bool)
  /-- backslashes begin escapes -/
  | escaped (full : Bool)
  | punycode
  /-- each octet stands for the character in a table -/
  | single (table : List String)
  | paired (p : Charset.Pairing)
  /-- sequences designate sets of characters -/
  | designated (s : Charset.Switching)
  /-- no octets are read -/
  | refused (r : Charset.Refusal)
deriving DecidableEq

namespace Charset

/-- UTF-8 without the mark in front. -/
def withoutMark : List UInt8 → List UInt8
  | 0xEF :: 0xBB :: 0xBF :: rest => rest
  | bs => bs

/-- The first octet that is no ASCII, with its place. -/
def beyondAscii? (bs : List UInt8) : Option (UInt8 × Nat) := bs.zipIdx.find? (0x80 ≤ ·.1)

/-- The characters of octets that stand for ASCII with numbers for the other
    characters after the last hyphen. -/
def decodePunycode (bs : List UInt8) : Except Refusal (List Char) :=
  let digits := (bs.reverse.takeWhile (· != 0x2D)).reverse
  match beyondAscii? digits with
  | some (b, n) => .error (.beyondAscii b n)
  | none =>
    .ok (((Punycode.decode false (decodeSingle asciiTable bs)).getD []).map charOf)

/-- Why what stands in front of octets is not read. -/
def Front.refusal? : Front → Option Refusal
  | overlong => some .overlong
  | misplaced => some .misplaced
  | _ => none

/-- The characters of octets with sequences that designate sets. -/
def decodeDesignated (s : Switching) (bs : List UInt8) : Except Refusal (List Char) :=
  let found := designatedFronts s bs
  match found.findSome? Front.refusal? with
  | some r => .error r
  | none => .ok (found.flatMap Front.toChars)

/-- The text of octets. -/
def decode (c : Charset) (bs : List UInt8) : Except Refusal String :=
  match c with
  | utf8 false => .ok (Utf8.decodeLossy bs)
  | utf8 true => .ok (Utf8.decodeLossy (withoutMark bs))
  | shifted => .ok (String.ofList (decodeShifted bs))
  | units false bigEndian => .ok (String.ofList (decodeUnits16 bigEndian bs))
  | units true bigEndian => .ok (String.ofList (decodeUnits32 bigEndian bs))
  | marked wide => match decodeMarked wide bs with
    | some cs => .ok (String.ofList cs)
    | none => .error (.unmarked wide)
  | escaped full => .ok (String.ofList (decodeEscaped full bs))
  | punycode => (decodePunycode bs).map String.ofList
  | single table => .ok (String.ofList (decodeSingle table bs))
  | paired p => .ok (String.ofList (p.decode bs))
  | designated s => (decodeDesignated s bs).map String.ofList
  | refused r => .error r

/-! ## Names -/

/-- The sets that sequences usually designate for Japanese. -/
def usual : List CharacterSet := [.basic, .earlierBasic, .roman]

/-- The charsets with their names, separated by blanks; those of single octets
    are listed elsewhere. -/
def families : List (String × Charset) := [
  ("cp65001 u8 utf utf8 utf8_ucs2 utf8_ucs4 utf_8", utf8 false),
  ("utf_8_sig", utf8 true),
  ("u7 unicode_1_1_utf_7 utf7 utf_7", shifted),
  ("u16 utf16 utf_16", marked false),
  ("u32 utf32 utf_32", marked true),
  ("unicodebigunmarked utf_16_be utf_16be", units false true),
  ("unicodelittleunmarked utf_16_le utf_16le", units false false),
  ("utf_32_be utf_32be", units true true),
  ("utf_32_le utf_32le", units true false),
  ("unicode_escape", escaped true),
  ("raw_unicode_escape", escaped false),
  ("punycode", punycode),
  ("646 ansi_x3.4_1968 ansi_x3.4_1986 ansi_x3_4_1968 ascii cp367 csascii ibm367 iso646_us " ++
    "iso_646.irv_1991 iso_ir_6 us us_ascii", single asciiTable),
  ("csiso2022jp iso2022_jp iso2022jp iso_2022_jp", designated { sets := usual }),
  ("iso2022_jp_1 iso2022jp_1 iso_2022_jp_1", designated { sets := .more :: usual }),
  ("iso2022_jp_2 iso2022jp_2 iso_2022_jp_2",
    designated { sets := [.more, .korean, .guobiao, .latin, .greek] ++ usual, hasThird := true }),
  ("iso2022_jp_2004 iso2022jp_2004 iso_2022_jp_2004",
    designated { sets := [.basic, .firstPlane true, .secondPlane] }),
  ("iso2022_jp_3 iso2022jp_3 iso_2022_jp_3",
    designated { sets := [.basic, .firstPlane false, .secondPlane] }),
  ("iso2022_jp_ext iso2022jp_ext iso_2022_jp_ext",
    designated { sets := [.more, .katakana] ++ usual }),
  ("csiso2022kr iso2022_kr iso2022kr iso_2022_kr",
    designated { sets := [.korean], hasShifts := true, hasRevisions := false }),
  ("8859 charmap cp819 csisolatin1 ibm819 iso8859 iso8859_1 iso_8859_1 iso_8859_1_1987 " ++
    "iso_ir_100 l1 latin latin1 latin_1", single latinTable),
  ("eucjp euc_jp ujis u_jis", paired .extended),
  ("eucjis2004 euc_jis2004 euc_jis_2004 jisx0213", paired (.extendedPlanes true)),
  ("eucjisx0213 euc_jisx0213", paired (.extendedPlanes false)),
  ("csshiftjis s_jis shift_jis shiftjis sjis x_mac_japanese", paired .shifted),
  ("s_jis_2004 shift_jis_2004 shiftjis2004 sjis_2004", paired (.shiftedPlanes true)),
  ("s_jisx0213 shift_jisx0213 shiftjisx0213 sjisx0213", paired (.shiftedPlanes false)),
  ("932 cp932 ms932 ms_kanji mskanji", paired .vendor),
  ("euc_kr euckr korean ks_c_5601 ks_c_5601_1987 ks_x_1001 ksc5601 ksx1001 x_mac_korean",
    paired .wansung),
  ("949 cp949 ms949 uhc", paired .unified),
  ("cp1361 johab ms1361", paired .spelled),
  ("936 cp936 gbk ms936", paired .guobiao),
  ("chinese csiso58gb231280 euc_cn euccn eucgb2312_cn gb2312 gb2312_1980 gb2312_80 iso_ir_58 " ++
    "x_mac_simp_chinese", paired .guobiaoPart),
  ("gb18030 gb18030_2000", paired .guobiaoAll),
  ("hz hz_gb hz_gb_2312 hzgb", paired .tildes),
  ("big5 big5_tw csbig5 x_mac_trad_chinese", paired (.bigFive false)),
  ("big5_hkscs big5hkscs hkscs", paired .hongKong),
  ("950 cp950 ms950", paired (.bigFive true)),
  ("base64 base64_codec base_64 bz2 bz2_codec hex hex_codec quopri quopri_codec " ++
    "quoted_printable quotedprintable uu uu_codec zip zlib zlib_codec", refused .notText),
  ("rot13 rot_13", refused .notOctets),
  ("idna", refused .unforgiving),
  ("undefined", refused .undefined)]

/-- The words of a name: what is neither a letter, a digit nor a point separates
    them. -/
def nameWords (name : String) : List String :=
  let cs := name.toList.map fun c => if c.isAlphanum || c = '.' then c.toLower else ' '
  ((splitChars ' ' cs).filter (!·.isEmpty)).map String.ofList

/-- The charset of a name in its usual form. -/
def ofWord? (name : String) : Option Charset :=
  let isOf {α : Type} (entry : String × α) : Bool := (splitAt ' ' entry.1).contains name
  ((families.find? isOf).map (·.2)).or ((singles.find? isOf).map fun entry => single entry.2)

/-- The charset of a name. -/
def named (name : String) : Charset :=
  if name.toList.contains '\x00' then refused .nulInName
  else
    let word := "_".intercalate (nameWords name)
    let plain := String.ofList (word.toList.map fun c => if c = '.' then '_' else c)
    ((ofWord? word).or (ofWord? plain)).getD (utf8 false)

end Charset

end ChatRelay

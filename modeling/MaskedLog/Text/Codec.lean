import MaskedLog.Text.CodePage
import MaskedLog.Text.EastAsian
import MaskedLog.Text.Fault
import MaskedLog.Text.Idna
import MaskedLog.Text.Utf8
import MaskedLog.Unicode.Names
import MaskedLog.Unicode.Surrogate
/-!
# Text codecs

A codec turns bytes into text. Codecs are found by name, leniently: the name is
first reduced to a *key* — ASCII letters lowercased, digits and dots kept, and
every run of other characters between two kept ones replaced by a single
underscore — so `UTF-8`, `utf_8`, `" utf-8 "` and `utf+8` are one name. The key
is then looked up among the aliases (`latin1` is `latin_1`, `u8` is `utf_8`),
with dots read as underscores if the key as it stands is no alias, and then
taken as a codec name itself.

Some names denote byte-to-byte transformations (`hex`, `base64`, `rot13`,
`zlib`), which are not text codecs; like unknown names, they find nothing.

Decoding is strict. Bytes outside a codec's encoding are *rejected*, which a
caller may answer by decoding them another way; a few codecs can also fail
outright (`undefined` always does), which is a fault of its own.

The codecs:

* UTF-8, with an optional leading byte order mark (`utf_8_sig`); UTF-16 and
  UTF-32 in either byte order, or after a byte order mark (little-endian when
  there is none); UTF-7.
* ASCII, Latin-1, and the single-byte code pages of `CodePage`.
* `unicode_escape` (backslash escapes as in string literals, other bytes as
  Latin-1) and `raw_unicode_escape` (only `\u` and `\U` escapes).
* `punycode`, and `idna` for host names, whose labels with the `xn--` prefix
  are punycode checked by a round trip.
* The multibyte East Asian codecs of `EastAsianCodec`.

Lone surrogates, which some escape codecs can produce, are kept as their
stand-in characters.

* `codecKey`, `findCodec` — names.
* `Codec.decode` — decoding.
* `decodeOrLatin1` — decoding by name, Latin-1 when the name finds no codec or
  the bytes are rejected.

## References

Python's `codecs.lookup` and `bytes.decode`, with which Starlette decodes form
fields in the charset a form names (`multipart_summary` in
`bodylog/content.py`).
-/

namespace MaskedLog.Text

open MaskedLog.Unicode

/-- The order of the bytes within a code unit. -/
inductive ByteOrder where
  | little
  | big
  deriving Repr, DecidableEq

/-- A codec that turns bytes into text. -/
inductive Codec where
  | utf8
  /-- UTF-8, with a leading byte order mark dropped. -/
  | utf8Sig
  /-- UTF-16 in a fixed byte order, or (`none`) after an optional byte order
  mark. -/
  | utf16 (order : Option ByteOrder)
  /-- UTF-32 in a fixed byte order, or (`none`) after an optional byte order
  mark. -/
  | utf32 (order : Option ByteOrder)
  | utf7
  | ascii
  | latin1
  | page (p : CodePage)
  | unicodeEscape
  | rawUnicodeEscape
  | punycode
  | idna
  /-- A multibyte East Asian codec. -/
  | eastAsian (c : EastAsianCodec)
  /-- A codec that refuses every input. -/
  | undefined
  deriving Repr

/-! ### Names -/

/-- The key of a codec name: ASCII letters lowercased, ASCII digits and dots
kept, and each run of other characters between two kept ones made one
underscore (runs at either end are dropped). -/
def codecKey (name : String) : String :=
  let step (acc : List Char × Bool) (c : Char) : List Char × Bool :=
    if (c.isAlphanum && c.toNat < 128) || c = '.' then
      let out := if acc.2 && !acc.1.isEmpty then '_' :: acc.1 else acc.1
      (c.toLower :: out, false)
    else (acc.1, true)
  String.ofList (name.toList.foldl step ([], false)).1.reverse

/-- The aliases of codec names, each with the codec it names. -/
def codecAliases : List (String × String) := [
  ("037", "cp037"), ("1026", "cp1026"), ("1125", "cp1125"), ("1140", "cp1140"),
  ("1250", "cp1250"), ("1251", "cp1251"), ("1252", "cp1252"), ("1253", "cp1253"),
  ("1254", "cp1254"), ("1255", "cp1255"), ("1256", "cp1256"), ("1257", "cp1257"),
  ("1258", "cp1258"), ("273", "cp273"), ("424", "cp424"), ("437", "cp437"), ("500", "cp500"),
  ("646", "ascii"), ("775", "cp775"), ("850", "cp850"), ("852", "cp852"), ("855", "cp855"),
  ("857", "cp857"), ("858", "cp858"), ("860", "cp860"), ("861", "cp861"), ("862", "cp862"),
  ("863", "cp863"), ("864", "cp864"), ("865", "cp865"), ("866", "cp866"), ("869", "cp869"),
  ("8859", "latin_1"), ("932", "cp932"), ("936", "gbk"), ("949", "cp949"), ("950", "cp950"),
  ("ansi", "mbcs"), ("ansi_x3.4_1968", "ascii"), ("ansi_x3.4_1986", "ascii"),
  ("ansi_x3_4_1968", "ascii"), ("arabic", "iso8859_6"), ("asmo_708", "iso8859_6"),
  ("base64", "base64_codec"), ("base_64", "base64_codec"), ("big5_hkscs", "big5hkscs"),
  ("big5_tw", "big5"), ("bz2", "bz2_codec"), ("chinese", "gb2312"), ("cp1051", "hp_roman8"),
  ("cp1361", "johab"), ("cp154", "ptcp154"), ("cp367", "ascii"), ("cp65001", "utf_8"),
  ("cp819", "latin_1"), ("cp866u", "cp1125"), ("cp936", "gbk"), ("cp_gr", "cp869"),
  ("cp_is", "cp861"), ("csHPRoman8", "hp_roman8"), ("csascii", "ascii"), ("csbig5", "big5"),
  ("csibm037", "cp037"), ("csibm1026", "cp1026"), ("csibm273", "cp273"), ("csibm424", "cp424"),
  ("csibm500", "cp500"), ("csibm855", "cp855"), ("csibm857", "cp857"), ("csibm858", "cp858"),
  ("csibm860", "cp860"), ("csibm861", "cp861"), ("csibm863", "cp863"), ("csibm864", "cp864"),
  ("csibm865", "cp865"), ("csibm866", "cp866"), ("csibm869", "cp869"),
  ("csiso2022jp", "iso2022_jp"), ("csiso2022kr", "iso2022_kr"), ("csiso58gb231280", "gb2312"),
  ("csisolatin1", "latin_1"), ("csisolatin2", "iso8859_2"), ("csisolatin3", "iso8859_3"),
  ("csisolatin4", "iso8859_4"), ("csisolatin5", "iso8859_9"), ("csisolatin6", "iso8859_10"),
  ("csisolatinarabic", "iso8859_6"), ("csisolatincyrillic", "iso8859_5"),
  ("csisolatingreek", "iso8859_7"), ("csisolatinhebrew", "iso8859_8"), ("cskoi8r", "koi8_r"),
  ("cspc775baltic", "cp775"), ("cspc850multilingual", "cp850"), ("cspc862latinhebrew", "cp862"),
  ("cspc8codepage437", "cp437"), ("cspcp852", "cp852"), ("csptcp154", "ptcp154"),
  ("csshiftjis", "shift_jis"), ("cyrillic", "iso8859_5"), ("cyrillic_asian", "ptcp154"),
  ("dbcs", "mbcs"), ("ebcdic_cp_be", "cp500"), ("ebcdic_cp_ca", "cp037"),
  ("ebcdic_cp_ch", "cp500"), ("ebcdic_cp_he", "cp424"), ("ebcdic_cp_nl", "cp037"),
  ("ebcdic_cp_us", "cp037"), ("ebcdic_cp_wt", "cp037"), ("ecma_114", "iso8859_6"),
  ("ecma_118", "iso8859_7"), ("elot_928", "iso8859_7"), ("euc_cn", "gb2312"),
  ("euc_jis2004", "euc_jis_2004"), ("euccn", "gb2312"), ("eucgb2312_cn", "gb2312"),
  ("eucjis2004", "euc_jis_2004"), ("eucjisx0213", "euc_jisx0213"), ("eucjp", "euc_jp"),
  ("euckr", "euc_kr"), ("gb18030_2000", "gb18030"), ("gb2312_1980", "gb2312"),
  ("gb2312_80", "gb2312"), ("greek", "iso8859_7"), ("greek8", "iso8859_7"),
  ("hebrew", "iso8859_8"), ("hex", "hex_codec"), ("hkscs", "big5hkscs"), ("hz_gb", "hz"),
  ("hz_gb_2312", "hz"), ("hzgb", "hz"), ("ibm037", "cp037"), ("ibm039", "cp037"),
  ("ibm1026", "cp1026"), ("ibm1051", "hp_roman8"), ("ibm1125", "cp1125"), ("ibm1140", "cp1140"),
  ("ibm273", "cp273"), ("ibm367", "ascii"), ("ibm424", "cp424"), ("ibm437", "cp437"),
  ("ibm500", "cp500"), ("ibm775", "cp775"), ("ibm819", "latin_1"), ("ibm850", "cp850"),
  ("ibm852", "cp852"), ("ibm855", "cp855"), ("ibm857", "cp857"), ("ibm858", "cp858"),
  ("ibm860", "cp860"), ("ibm861", "cp861"), ("ibm862", "cp862"), ("ibm863", "cp863"),
  ("ibm864", "cp864"), ("ibm865", "cp865"), ("ibm866", "cp866"), ("ibm869", "cp869"),
  ("iso2022jp", "iso2022_jp"), ("iso2022jp_1", "iso2022_jp_1"), ("iso2022jp_2", "iso2022_jp_2"),
  ("iso2022jp_2004", "iso2022_jp_2004"), ("iso2022jp_3", "iso2022_jp_3"),
  ("iso2022jp_ext", "iso2022_jp_ext"), ("iso2022kr", "iso2022_kr"), ("iso646_us", "ascii"),
  ("iso8859", "latin_1"), ("iso8859_1", "latin_1"), ("iso_2022_jp", "iso2022_jp"),
  ("iso_2022_jp_1", "iso2022_jp_1"), ("iso_2022_jp_2", "iso2022_jp_2"),
  ("iso_2022_jp_2004", "iso2022_jp_2004"), ("iso_2022_jp_3", "iso2022_jp_3"),
  ("iso_2022_jp_ext", "iso2022_jp_ext"), ("iso_2022_kr", "iso2022_kr"),
  ("iso_646.irv_1991", "ascii"), ("iso_8859_1", "latin_1"), ("iso_8859_10", "iso8859_10"),
  ("iso_8859_10_1992", "iso8859_10"), ("iso_8859_11", "iso8859_11"),
  ("iso_8859_11_2001", "iso8859_11"), ("iso_8859_13", "iso8859_13"),
  ("iso_8859_14", "iso8859_14"), ("iso_8859_14_1998", "iso8859_14"),
  ("iso_8859_15", "iso8859_15"), ("iso_8859_16", "iso8859_16"),
  ("iso_8859_16_2001", "iso8859_16"), ("iso_8859_1_1987", "latin_1"),
  ("iso_8859_2", "iso8859_2"), ("iso_8859_2_1987", "iso8859_2"), ("iso_8859_3", "iso8859_3"),
  ("iso_8859_3_1988", "iso8859_3"), ("iso_8859_4", "iso8859_4"),
  ("iso_8859_4_1988", "iso8859_4"), ("iso_8859_5", "iso8859_5"),
  ("iso_8859_5_1988", "iso8859_5"), ("iso_8859_6", "iso8859_6"),
  ("iso_8859_6_1987", "iso8859_6"), ("iso_8859_7", "iso8859_7"),
  ("iso_8859_7_1987", "iso8859_7"), ("iso_8859_8", "iso8859_8"),
  ("iso_8859_8_1988", "iso8859_8"), ("iso_8859_9", "iso8859_9"),
  ("iso_8859_9_1989", "iso8859_9"), ("iso_celtic", "iso8859_14"), ("iso_ir_100", "latin_1"),
  ("iso_ir_101", "iso8859_2"), ("iso_ir_109", "iso8859_3"), ("iso_ir_110", "iso8859_4"),
  ("iso_ir_126", "iso8859_7"), ("iso_ir_127", "iso8859_6"), ("iso_ir_138", "iso8859_8"),
  ("iso_ir_144", "iso8859_5"), ("iso_ir_148", "iso8859_9"), ("iso_ir_157", "iso8859_10"),
  ("iso_ir_166", "tis_620"), ("iso_ir_199", "iso8859_14"), ("iso_ir_226", "iso8859_16"),
  ("iso_ir_58", "gb2312"), ("iso_ir_6", "ascii"), ("jisx0213", "euc_jis_2004"),
  ("korean", "euc_kr"), ("ks_c_5601", "euc_kr"), ("ks_c_5601_1987", "euc_kr"),
  ("ks_x_1001", "euc_kr"), ("ksc5601", "euc_kr"), ("ksx1001", "euc_kr"), ("kz_1048", "kz1048"),
  ("l1", "latin_1"), ("l10", "iso8859_16"), ("l2", "iso8859_2"), ("l3", "iso8859_3"),
  ("l4", "iso8859_4"), ("l5", "iso8859_9"), ("l6", "iso8859_10"), ("l7", "iso8859_13"),
  ("l8", "iso8859_14"), ("l9", "iso8859_15"), ("latin", "latin_1"), ("latin1", "latin_1"),
  ("latin10", "iso8859_16"), ("latin2", "iso8859_2"), ("latin3", "iso8859_3"),
  ("latin4", "iso8859_4"), ("latin5", "iso8859_9"), ("latin6", "iso8859_10"),
  ("latin7", "iso8859_13"), ("latin8", "iso8859_14"), ("latin9", "iso8859_15"),
  ("mac_centeuro", "mac_latin2"), ("maccentraleurope", "mac_latin2"),
  ("maccyrillic", "mac_cyrillic"), ("macgreek", "mac_greek"), ("maciceland", "mac_iceland"),
  ("macintosh", "mac_roman"), ("maclatin2", "mac_latin2"), ("macroman", "mac_roman"),
  ("macturkish", "mac_turkish"), ("ms1361", "johab"), ("ms932", "cp932"), ("ms936", "gbk"),
  ("ms949", "cp949"), ("ms950", "cp950"), ("ms_kanji", "cp932"), ("mskanji", "cp932"),
  ("pt154", "ptcp154"), ("quopri", "quopri_codec"), ("quoted_printable", "quopri_codec"),
  ("quotedprintable", "quopri_codec"), ("r8", "hp_roman8"), ("rk1048", "kz1048"),
  ("roman8", "hp_roman8"), ("rot13", "rot_13"), ("ruscii", "cp1125"), ("s_jis", "shift_jis"),
  ("s_jis_2004", "shift_jis_2004"), ("s_jisx0213", "shift_jisx0213"), ("shiftjis", "shift_jis"),
  ("shiftjis2004", "shift_jis_2004"), ("shiftjisx0213", "shift_jisx0213"), ("sjis", "shift_jis"),
  ("sjis_2004", "shift_jis_2004"), ("sjisx0213", "shift_jisx0213"), ("strk1048_2002", "kz1048"),
  ("thai", "iso8859_11"), ("tis620", "tis_620"), ("tis_620_0", "tis_620"),
  ("tis_620_2529_0", "tis_620"), ("tis_620_2529_1", "tis_620"), ("u16", "utf_16"),
  ("u32", "utf_32"), ("u7", "utf_7"), ("u8", "utf_8"), ("u_jis", "euc_jp"), ("uhc", "cp949"),
  ("ujis", "euc_jp"), ("unicode_1_1_utf_7", "utf_7"), ("unicodebigunmarked", "utf_16_be"),
  ("unicodelittleunmarked", "utf_16_le"), ("us", "ascii"), ("us_ascii", "ascii"),
  ("utf", "utf_8"), ("utf16", "utf_16"), ("utf32", "utf_32"), ("utf7", "utf_7"),
  ("utf8", "utf_8"), ("utf8_ucs2", "utf_8"), ("utf8_ucs4", "utf_8"), ("utf_16be", "utf_16_be"),
  ("utf_16le", "utf_16_le"), ("utf_32be", "utf_32_be"), ("utf_32le", "utf_32_le"),
  ("uu", "uu_codec"), ("windows_1250", "cp1250"), ("windows_1251", "cp1251"),
  ("windows_1252", "cp1252"), ("windows_1253", "cp1253"), ("windows_1254", "cp1254"),
  ("windows_1255", "cp1255"), ("windows_1256", "cp1256"), ("windows_1257", "cp1257"),
  ("windows_1258", "cp1258"), ("x_mac_japanese", "shift_jis"), ("x_mac_korean", "euc_kr"),
  ("x_mac_simp_chinese", "gb2312"), ("x_mac_trad_chinese", "big5"), ("zip", "zlib_codec"),
  ("zlib", "zlib_codec")]

/-- The modules that exist but provide no text codec: byte-to-byte
transformations, and the alias table. -/
def nonTextModules : List String :=
  ["aliases", "base64_codec", "bz2_codec", "hex_codec", "quopri_codec", "rot_13", "uu_codec",
    "zlib_codec"]

/-- What a codec module name provides: `some (some c)` for a text codec,
`some none` for a module that is no text codec, and `none` when there is no
module of that name. -/
def codecModule? (name : String) : Option (Option Codec) :=
  match name with
  | "utf_8" => some (some .utf8)
  | "utf_8_sig" => some (some .utf8Sig)
  | "utf_16" => some (some (.utf16 none))
  | "utf_16_le" => some (some (.utf16 (some .little)))
  | "utf_16_be" => some (some (.utf16 (some .big)))
  | "utf_32" => some (some (.utf32 none))
  | "utf_32_le" => some (some (.utf32 (some .little)))
  | "utf_32_be" => some (some (.utf32 (some .big)))
  | "utf_7" => some (some .utf7)
  | "ascii" => some (some .ascii)
  | "latin_1" => some (some .latin1)
  | "charmap" => some (some .latin1)
  | "unicode_escape" => some (some .unicodeEscape)
  | "raw_unicode_escape" => some (some .rawUnicodeEscape)
  | "punycode" => some (some .punycode)
  | "idna" => some (some .idna)
  | "undefined" => some (some .undefined)
  | _ =>
    match EastAsianCodec.ofModule? name with
    | some c => some (some (.eastAsian c))
    | none =>
      if nonTextModules.contains name then some none
      else (codePage? name).map fun p => some (.page p)

/-- The codec a name finds. The key's alias (or, failing that, the alias of
the key with dots as underscores) is tried first, then the key itself; names
that are empty or hold a dot are skipped, and the first that names a module
decides. -/
def findCodec (name : String) : Option Codec :=
  let key := codecKey name
  let aliased := (codecAliases.lookup key).orElse fun _ =>
    codecAliases.lookup (key.map fun c => if c = '.' then '_' else c)
  let candidates := (aliased.toList ++ [key]).filter fun m => !m.isEmpty && !m.contains '.'
  (candidates.findSome? codecModule?).join

/-! ### Decoders -/

/-- The character of a code point up to U+10FFFF, a lone surrogate as its
stand-in. -/
def charOfCode (n : Nat) : Char := charOfCodePoint n

/-- The text of bytes read one character per byte. -/
def latinText (bs : List UInt8) : String := String.ofList (bs.map fun b => Char.ofNat b.toNat)

/-- The code unit of two bytes in a byte order. -/
def unit16 (order : ByteOrder) (a b : UInt8) : Nat :=
  match order with
  | .little => a.toNat + 256 * b.toNat
  | .big => 256 * a.toNat + b.toNat

/-- The code unit of four bytes in a byte order. -/
def unit32 (order : ByteOrder) (a b c d : UInt8) : Nat :=
  match order with
  | .little => a.toNat + 256 * (b.toNat + 256 * (c.toNat + 256 * d.toNat))
  | .big => d.toNat + 256 * (c.toNat + 256 * (b.toNat + 256 * a.toNat))

/-- The characters of UTF-16 code units in a byte order, after `acc`. Every
high surrogate must be followed by a low one, no low surrogate may stand alone,
and no byte may be left over. -/
def utf16Chars (order : ByteOrder) : List UInt8 → Array Char → Option (Array Char)
  | [], acc => some acc
  | [_], _ => none
  | a :: b :: rest, acc =>
    let u := unit16 order a b
    if u < 0xD800 || 0xDFFF < u then utf16Chars order rest (acc.push (Char.ofNat u))
    else if 0xDC00 ≤ u then none
    else
      match rest with
      | c :: d :: more =>
        let v := unit16 order c d
        if 0xDC00 ≤ v && v ≤ 0xDFFF then
          utf16Chars order more (acc.push (Char.ofNat (0x10000 + (u - 0xD800) * 0x400 + (v - 0xDC00))))
        else none
      | _ => none

/-- The characters of UTF-32 code units in a byte order, after `acc`: each
unit a scalar value, and no byte left over. -/
def utf32Chars (order : ByteOrder) : List UInt8 → Array Char → Option (Array Char)
  | [], acc => some acc
  | a :: b :: c :: d :: rest, acc =>
    let u := unit32 order a b c d
    if u < 0xD800 || (0xDFFF < u && u < 0x110000) then utf32Chars order rest (acc.push (Char.ofNat u))
    else none
  | _, _ => none

/-- The byte order a UTF-16 byte order mark announces, and the bytes after it;
little-endian, all bytes, without one. -/
def orderMark16 (bs : List UInt8) : ByteOrder × List UInt8 :=
  match bs with
  | a :: b :: rest =>
    if a = 0xFF && b = 0xFE then (.little, rest)
    else if a = 0xFE && b = 0xFF then (.big, rest)
    else (.little, bs)
  | _ => (.little, bs)

/-- The byte order a UTF-32 byte order mark announces, and the bytes after it;
little-endian, all bytes, without one. -/
def orderMark32 (bs : List UInt8) : ByteOrder × List UInt8 :=
  match bs with
  | a :: b :: c :: d :: rest =>
    if a = 0xFF && b = 0xFE && c = 0 && d = 0 then (.little, rest)
    else if a = 0 && b = 0 && c = 0xFE && d = 0xFF then (.big, rest)
    else (.little, bs)
  | _ => (.little, bs)

/-- Whether a byte is a base-64 digit of UTF-7. -/
def isBase64Byte (b : UInt8) : Bool :=
  (65 ≤ b && b ≤ 90) || (97 ≤ b && b ≤ 122) || (48 ≤ b && b ≤ 57) || b = 43 || b = 47

/-- The value of a base-64 digit. -/
def base64Digit (b : UInt8) : Nat :=
  if 65 ≤ b && b ≤ 90 then b.toNat - 65
  else if 97 ≤ b && b ≤ 122 then b.toNat - 71
  else if 48 ≤ b && b ≤ 57 then b.toNat + 4
  else if b = 43 then 62
  else 63

/-- The state of UTF-7 decoding: the characters so far, whether a base-64 run
is open, the bits read in it and not yet used (`bits` of them, in `buffer`),
and a high surrogate waiting for its low half. -/
structure Utf7State where
  out : Array Char := #[]
  shifted : Bool := false
  buffer : Nat := 0
  bits : Nat := 0
  high : Option Nat := none

/-- The state after a code unit of a base-64 run: a high surrogate waits, any
other unit is written. -/
def Utf7State.put (st : Utf7State) (unit : Nat) : Utf7State :=
  if 0xD800 ≤ unit && unit ≤ 0xDBFF then { st with high := some unit }
  else { st with out := st.out.push (charOfCode unit) }

/-- The state after a base-64 digit: six more bits, and a code unit out of
every sixteen. A waiting high surrogate joins a low one, or is written alone. -/
def Utf7State.absorb (st : Utf7State) (b : UInt8) : Utf7State :=
  let buffer := st.buffer * 64 + base64Digit b
  let bits := st.bits + 6
  if bits < 16 then { st with buffer := buffer, bits := bits }
  else
    let left := bits - 16
    let unit := buffer / Nat.pow 2 left
    let st := { st with buffer := buffer % Nat.pow 2 left, bits := left }
    match st.high with
    | some hi =>
      if 0xDC00 ≤ unit && unit ≤ 0xDFFF then
        { st with
          out := st.out.push (Char.ofNat (0x10000 + (hi - 0xD800) * 0x400 + (unit - 0xDC00)))
          high := none }
      else Utf7State.put { st with out := st.out.push (charOfCode hi), high := none } unit
    | none => st.put unit

/-- Whether the bits left at the end of a base-64 run are a fault: six or
more, or any that are not zero. -/
def Utf7State.badPadding (st : Utf7State) : Bool :=
  6 ≤ st.bits || (0 < st.bits && st.buffer ≠ 0)

/-- The state after a base-64 run ends at byte `b`; a waiting high surrogate is
written when `b` is a character that stands for itself. -/
def Utf7State.leave (st : Utf7State) (b : UInt8) : Option Utf7State :=
  if st.badPadding then none
  else
    let out := match st.high with
      | some hi => if b < 128 && b ≠ 43 then st.out.push (charOfCode hi) else st.out
      | none => st.out
    some { st with out := out, shifted := false, high := none, bits := 0, buffer := 0 }

/-- UTF-7 decoding of the remaining bytes. Outside a run, ASCII other than `+`
stands for itself, `+-` is `+`, and `+` before a base-64 digit (or at the end)
opens a run; inside, base-64 digits are read, and any other byte closes the
run, a `-` being absorbed by it. -/
def utf7Go : List UInt8 → Utf7State → Option Utf7State
  | [], st =>
    if st.shifted && (st.high.isSome || st.badPadding) then none else some st
  | b :: rest, st =>
    if st.shifted && isBase64Byte b then utf7Go rest (st.absorb b)
    else
      match (if st.shifted then st.leave b else some st) with
      | none => none
      | some st' =>
        if st.shifted && b = 45 then utf7Go rest st'
        else if b = 43 then
          match rest with
          | c :: more =>
            if c = 45 then utf7Go more { st' with out := st'.out.push '+' }
            else if isBase64Byte c then
              utf7Go (c :: more) { st' with shifted := true, buffer := 0, bits := 0, high := none }
            else none
          | [] => utf7Go [] { st' with shifted := true, buffer := 0, bits := 0, high := none }
        else if b < 128 then utf7Go rest { st' with out := st'.out.push (Char.ofNat b.toNat) }
        else none

/-- The value of an ASCII hexadecimal digit. -/
def hexValue? (b : UInt8) : Option Nat :=
  if 48 ≤ b && b ≤ 57 then some (b.toNat - 48)
  else if 97 ≤ b && b ≤ 102 then some (b.toNat - 87)
  else if 65 ≤ b && b ≤ 70 then some (b.toNat - 55)
  else none

/-- The value of the next `n` bytes as hexadecimal digits, after `acc`, and the
bytes after them; `none` when there are fewer or one is no digit. -/
def readHex : Nat → List UInt8 → Nat → Option (Nat × List UInt8)
  | 0, bs, acc => some (acc, bs)
  | _ + 1, [], _ => none
  | n + 1, b :: rest, acc => (hexValue? b).bind fun d => readHex n rest (acc * 16 + d)

/-- The value of an ASCII octal digit. -/
def octalValue? (b : UInt8) : Option Nat :=
  if 48 ≤ b && b ≤ 55 then some (b.toNat - 48) else none

/-- An octal escape: the first digit's value extended by up to two more octal
digits, and the bytes after them. -/
def readOctal (first : Nat) (bs : List UInt8) : Nat × List UInt8 :=
  match bs with
  | b :: rest =>
    match octalValue? b with
    | some d =>
      match rest with
      | c :: more =>
        match octalValue? c with
        | some e => ((first * 8 + d) * 8 + e, more)
        | none => (first * 8 + d, rest)
      | [] => (first * 8 + d, rest)
    | none => (first, bs)
  | [] => (first, bs)

/-- The character a one-letter escape stands for, `some none` for an escaped
line break (which stands for nothing), or `none` when the letter is no such
escape. -/
def letterEscape? (c : UInt8) : Option (Option Char) :=
  match c.toNat with
  | 10 => some none
  | 92 => some (some '\\')
  | 39 => some (some (Char.ofNat 39))
  | 34 => some (some '"')
  | 98 => some (some '\x08')
  | 102 => some (some '\x0c')
  | 116 => some (some '\t')
  | 110 => some (some '\n')
  | 114 => some (some '\r')
  | 118 => some (some '\x0b')
  | 97 => some (some '\x07')
  | _ => none

/-- The code point of a named escape after its `\N`, and the bytes after it:
a name between braces, not empty, that `Unicode.codeOfName?` knows. -/
def namedEscape? : List UInt8 → Option (Nat × List UInt8)
  | 123 :: rest =>
    let name := rest.takeWhile (· ≠ 125)
    match rest.drop name.length with
    | 125 :: after =>
      if name.isEmpty then none
      else (Unicode.codeOfName? (String.ofList (name.map fun b => Char.ofNat b.toNat))).map (·, after)
    | _ => none
  | _ => none

/-- `unicode_escape` decoding of the remaining bytes, after `acc`, with `fuel`
bounding the steps. A backslash starts an escape: a letter escape, up to three
octal digits, `\x` with two hex digits, `\u` with four, `\U` with eight (at most
U+10FFFF), `\N` with a character name in braces; a backslash before any other
character stands for itself and that character. A backslash at the end is
refused. Other bytes are Latin-1. -/
def unescapeGo : Nat → List UInt8 → Array Char → Option (Array Char)
  | _, [], acc => some acc
  | 0, _ :: _, _ => none
  | fuel + 1, b :: rest, acc =>
    if b ≠ 92 then unescapeGo fuel rest (acc.push (Char.ofNat b.toNat))
    else
      match rest with
      | [] => none
      | c :: more =>
        match letterEscape? c with
        | some (some ch) => unescapeGo fuel more (acc.push ch)
        | some none => unescapeGo fuel more acc
        | none =>
          match octalValue? c with
          | some v =>
            let (code, after) := readOctal v more
            unescapeGo fuel after (acc.push (charOfCode code))
          | none =>
            if c = 120 || c = 117 || c = 85 then
              let count := if c = 120 then 2 else if c = 117 then 4 else 8
              match readHex count more 0 with
              | some (code, after) =>
                if code > 0x10FFFF then none else unescapeGo fuel after (acc.push (charOfCode code))
              | none => none
            else if c = 78 then
              match namedEscape? more with
              | some (code, after) => unescapeGo fuel after (acc.push (charOfCode code))
              | none => none
            else unescapeGo fuel more ((acc.push '\\').push (Char.ofNat c.toNat))

/-- `raw_unicode_escape` decoding of the remaining bytes, after `acc`, with
`fuel` bounding the steps: only `\u` with four hex digits and `\U` with eight
(at most U+10FFFF) are escapes; a backslash before anything else, or at the
end, stands for itself. Other bytes are Latin-1. -/
def rawUnescapeGo : Nat → List UInt8 → Array Char → Option (Array Char)
  | _, [], acc => some acc
  | 0, _ :: _, _ => none
  | fuel + 1, b :: rest, acc =>
    if b ≠ 92 then rawUnescapeGo fuel rest (acc.push (Char.ofNat b.toNat))
    else
      match rest with
      | [] => some (acc.push '\\')
      | c :: more =>
        if c = 117 || c = 85 then
          match readHex (if c = 117 then 4 else 8) more 0 with
          | some (code, after) =>
            if code > 0x10FFFF then none else rawUnescapeGo fuel after (acc.push (charOfCode code))
          | none => none
        else rawUnescapeGo fuel more ((acc.push '\\').push (Char.ofNat c.toNat))

/-- The text of code points, lone surrogates as their stand-ins. -/
def codesText (cs : List Nat) : String := String.ofList (cs.map charOfCode)

/-- The characters of a decoding, or rejection. -/
def charsOrReject (r : Option (Array Char)) : Except DecodeFault String :=
  match r with
  | some cs => .ok (String.ofList cs.toList)
  | none => .error .rejected

/-- The text of bytes in a codec. -/
def Codec.decode (codec : Codec) (bs : List UInt8) : Except DecodeFault String :=
  match codec with
  | .utf8 => match decodeStrict? bs with
    | some s => .ok s
    | none => .error .rejected
  | .utf8Sig =>
    let body := if bs.take 3 == [0xEF, 0xBB, 0xBF] then bs.drop 3 else bs
    match decodeStrict? body with
    | some s => .ok s
    | none => .error .rejected
  | .utf16 none => let (o, rest) := orderMark16 bs; charsOrReject (utf16Chars o rest #[])
  | .utf16 (some o) => charsOrReject (utf16Chars o bs #[])
  | .utf32 none => let (o, rest) := orderMark32 bs; charsOrReject (utf32Chars o rest #[])
  | .utf32 (some o) => charsOrReject (utf32Chars o bs #[])
  | .utf7 => charsOrReject ((utf7Go bs {}).map (·.out))
  | .ascii => if bs.all (· < 128) then .ok (latinText bs) else .error .rejected
  | .latin1 => .ok (latinText bs)
  | .page p =>
    let table := p.table
    charsOrReject (bs.toArray.mapM (charOfTable? table))
  | .unicodeEscape => charsOrReject (unescapeGo bs.length bs #[])
  | .rawUnicodeEscape => charsOrReject (rawUnescapeGo bs.length bs #[])
  | .punycode => (decodePunycode bs).map codesText
  | .idna => (decodeIdna bs).map codesText
  | .eastAsian c => charsOrReject (c.decode bs)
  | .undefined => .error .broken

end MaskedLog.Text

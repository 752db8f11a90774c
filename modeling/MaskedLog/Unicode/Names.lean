import MaskedLog.Unicode.CodeText
import MaskedLog.Unicode.NameData

/-!
# Character names

The code point a character name stands for, as a named escape `\N{name}`
reads it. A name is looked up three ways:

* a name starting with `HANGUL SYLLABLE ` is a Hangul syllable, spelled with
  the short names of its leading consonant, vowel and optional trailing
  consonant, each matched greedily, longest first, in upper case only;
* a name starting with `CJK UNIFIED IDEOGRAPH-` is a unified ideograph, given
  by four or five upper-case hexadecimal digits;
* any other name must be the name or an alias of a character, letters in
  either case.

The listed names come from `MaskedLog.Unicode.NameData`.

## Main definitions

* `NamePiece`, `namedChars` — the listed names, read from their records.
* `nameAliases` — the aliases.
* `hangulOfName?`, `ideographOfName?` — the names made from code points.
* `codeOfName?` — the code point of a name.

## References

`unicodedata.lookup` of Python, as the `\N` escapes of the
`unicode_escape` codec read names.
-/

namespace MaskedLog.Unicode

/-! ### Listed names -/

/-- A piece of a listed name: a word, or the code point in upper-case
hexadecimal, at least four digits, glued to the word before. -/
inductive NamePiece where
  | word (w : String)
  | code
  deriving Repr, Inhabited, DecidableEq

/-- The upper-case hexadecimal digits of a number, at least four. -/
def hexDigits (n : Nat) : String :=
  let ds := (Nat.toDigits 16 n).map Char.toUpper
  String.ofList (List.replicate (4 - ds.length) '0' ++ ds)

/-- The name a code point's pieces spell: words apart by spaces, the code
glued on. -/
def NamePiece.spell (code : Nat) (ps : Array NamePiece) : String :=
  ps.foldl (fun acc p => match p with
    | .word w => if acc.isEmpty then w else acc ++ " " ++ w
    | .code => acc ++ hexDigits code) ""

/-- The words of the records, in the order the records number them. -/
def nameWords : Array String :=
  (nameWordText.flatMap fun chunk => chunk.splitOn " ").toArray

/-- The number of the word a character of a record stands for, if it stands
for one. -/
def wordNumber? (c : Char) : Option Nat :=
  if 0x100 ≤ c.toNat && c.toNat < 0x400 then some (c.toNat - 0x100)
  else if 0x4E00 ≤ c.toNat then some (c.toNat - 0x4E00 + 768)
  else none

/-- Whether a character may stand in a spelled-out word. -/
def isNameChar (c : Char) : Bool := c.isUpper || c.isDigit || c = '-'

/-- What the reader of the records is in the middle of: pieces, the
hexadecimal digits of a code point, or a spelled-out word. -/
inductive NameMode where
  | pieces
  | jump (n : Nat)
  | spelled (w : String)
  deriving Repr, Inhabited

/-- The reader of the records: the code point the next record names, the
open record's code point and pieces (none before the first record), what it
is in the middle of, and the names read so far. -/
structure NameReader where
  next : Nat := 0
  code : Nat := 0
  pieces : Option (Array NamePiece) := none
  mode : NameMode := .pieces
  names : Array (Nat × String) := #[]
  deriving Inhabited

/-- Finish a jump or a spelled-out word: the jump names the next record's code
point, the word becomes a piece. -/
def NameReader.settle (r : NameReader) : NameReader :=
  match r.mode with
  | .pieces => r
  | .jump n => { r with next := n, mode := .pieces }
  | .spelled w => { r with pieces := r.pieces.map (·.push (.word w)), mode := .pieces }

/-- Close the open record, adding its name. -/
def NameReader.close (r : NameReader) : NameReader :=
  match r.pieces with
  | some ps => { r with names := r.names.push (r.code, NamePiece.spell r.code ps) }
  | none => r

/-- Add a piece to the open record. -/
def NameReader.add (r : NameReader) (p : NamePiece) : NameReader :=
  { r with pieces := r.pieces.map (·.push p) }

/-- Read one character of the records. -/
def NameReader.step (r : NameReader) (c : Char) : NameReader :=
  match r.mode, hexDigitValue? c with
  | .jump n, some d => { r with mode := .jump (16 * n + d) }
  | _, _ =>
    match r.mode with
    | .spelled w => if isNameChar c then { r with mode := .spelled (w.push c) } else go r.settle
    | _ => go r.settle
where
  /-- Read a character with no jump or word under way. -/
  go (r : NameReader) : NameReader :=
    if 'a' ≤ c && c ≤ 'z' then
      let r := r.close
      let kept := (r.pieces.getD #[]).extract 0 (c.toNat - 97)
      { r with code := r.next, next := r.next + 1, pieces := some kept }
    else if c = '!' then { r with mode := .jump 0 }
    else if c = '.' then { r with mode := .spelled "" }
    else if c = '#' then r.add .code
    else
      match wordNumber? c with
      | some i => r.add (.word (nameWords.getD i ""))
      | none => r

/-- The listed characters with their names, in code point order. -/
def namedChars : Array (Nat × String) :=
  (nameRecordText.foldl (fun (r : NameReader) (chunk : String) => chunk.foldl NameReader.step r)
    {}).settle.close.names

/-- The aliases with the code points they stand for. -/
def nameAliases : List (String × Nat) :=
  (nameAliasText.flatMap fun chunk => chunk.splitOn ";").filterMap fun entry =>
    match entry.splitOn " " with
    | hex :: words => (readHex? hex).map fun n => (" ".intercalate words, n)
    | [] => none

/-! ### Names made from code points -/

/-- The short names of the leading consonants of Hangul syllables. -/
def leadJamo : List String :=
  ["G", "GG", "N", "D", "DD", "R", "M", "B", "BB", "S", "SS", "", "J", "JJ", "C", "K", "T", "P", "H"]

/-- The short names of the vowels of Hangul syllables. -/
def vowelJamo : List String :=
  ["A", "AE", "YA", "YAE", "EO", "E", "YEO", "YE", "O", "WA", "WAE", "OE", "YO", "U", "WEO", "WE",
    "WI", "YU", "EU", "YI", "I"]

/-- The short names of the trailing consonants of Hangul syllables, the first
for none. -/
def tailJamo : List String :=
  ["", "G", "GG", "GS", "N", "NJ", "NH", "D", "L", "LG", "LM", "LB", "LS", "LT", "LP", "LH", "M", "B",
    "BS", "S", "SS", "NG", "J", "C", "K", "T", "P", "H"]

/-- The longest of the short names that the text starts with, the first of
that length, as its index and length. -/
def longestJamo (names : List String) (text : List Char) : Option (Nat × Nat) :=
  (names.zipIdx).foldl (fun best (n, i) =>
    let len := n.length
    let longer := match best with
      | some (_, l) => len > l
      | none => true
    if longer && text.take len == n.toList then some (i, len) else best) none

/-- The Hangul syllable the rest of a name spells after `HANGUL SYLLABLE `:
its leading consonant, vowel and trailing consonant, each the longest short
name that fits, must use up the rest. -/
def hangulOfName? (rest : List Char) : Option Nat := do
  let (l, ll) ← longestJamo leadJamo rest
  let rest := rest.drop ll
  let (v, vl) ← longestJamo vowelJamo rest
  let rest := rest.drop vl
  let (t, tl) ← longestJamo tailJamo rest
  if rest.length = tl then some (0xAC00 + (l * 21 + v) * 28 + t) else none

/-- The code point ranges of the CJK unified ideographs. -/
def unifiedIdeographs : List (Nat × Nat) :=
  [(0x3400, 0x4DBF), (0x4E00, 0x9FFF), (0x20000, 0x2A6DF), (0x2A700, 0x2B738), (0x2B740, 0x2B81D),
    (0x2B820, 0x2CEA1), (0x2CEB0, 0x2EBE0), (0x30000, 0x3134A)]

/-- The unified ideograph the rest of a name gives after
`CJK UNIFIED IDEOGRAPH-`: four or five upper-case hexadecimal digits of a
code point in one of the ranges. -/
def ideographOfName? (rest : List Char) : Option Nat := do
  if rest.length != 4 && rest.length != 5 then none
  let n ← readHex? (String.ofList rest)
  if unifiedIdeographs.any fun (lo, hi) => lo ≤ n && n ≤ hi then some n else none

/-! ### Looking a name up -/

/-- The code point a character name stands for, if any. -/
def codeOfName? (name : String) : Option Nat :=
  let cs := name.toList
  let hangul := "HANGUL SYLLABLE ".toList
  let ideograph := "CJK UNIFIED IDEOGRAPH-".toList
  if cs.take hangul.length == hangul then hangulOfName? (cs.drop hangul.length)
  else if cs.take ideograph.length == ideograph then ideographOfName? (cs.drop ideograph.length)
  else
    let upper := String.ofList (cs.map fun c => if 'a' ≤ c && c ≤ 'z' then c.toUpper else c)
    match namedChars.find? (·.2 == upper) with
    | some (n, _) => some n
    | none => nameAliases.lookup upper

end MaskedLog.Unicode

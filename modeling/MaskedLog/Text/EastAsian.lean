import MaskedLog.Text.Tables.Jis
import MaskedLog.Text.Tables.Gb
import MaskedLog.Text.Tables.Big5
import MaskedLog.Text.Tables.Ksc
/-!
# East Asian multibyte codecs

The Chinese, Japanese and Korean codecs read bytes below 0x80 as ASCII (with
few exceptions) and the others as sequences of two bytes, sometimes three or
four, naming cells of national character sets. Which sequences exist, and how a
sequence names a cell, is the codec's own; the character sets are the tables of
`Tables`.

Decoding is strict: bytes that are no sequence of the codec, or a sequence
naming an empty cell, or a sequence cut short by the end of the bytes, make the
whole decoding fail.

Most codecs read each sequence on its own. HZ and the ISO-2022 codecs carry a
state from one sequence to the next: escape sequences switch between ASCII and
the national sets.

* `EastAsianCodec` — the codecs.
* `EastAsianCodec.decode` — the text of bytes, or `none` when they are rejected.

## References

The Chinese, Japanese and Korean codecs of Python, with which Starlette
decodes form fields in the charset a form names (`multipart_summary` in
`bodylog/content.py`).
-/

namespace MaskedLog.Text

/-- The East Asian multibyte codecs. -/
inductive EastAsianCodec where
  | gb2312
  | gbk
  | gb18030
  | hz
  | big5
  | cp950
  | big5hkscs
  | eucKr
  | cp949
  | johab
  | iso2022Kr
  | eucJp
  | shiftJis
  | cp932
  | eucJis2004
  | eucJisx0213
  | shiftJis2004
  | shiftJisx0213
  | iso2022Jp
  | iso2022Jp1
  | iso2022Jp2
  | iso2022Jp2004
  | iso2022Jp3
  | iso2022JpExt
  deriving Repr, DecidableEq

/-- The codec of a module name. -/
def EastAsianCodec.ofModule? : String → Option EastAsianCodec
  | "gb2312" => some .gb2312
  | "gbk" => some .gbk
  | "gb18030" => some .gb18030
  | "hz" => some .hz
  | "big5" => some .big5
  | "cp950" => some .cp950
  | "big5hkscs" => some .big5hkscs
  | "euc_kr" => some .eucKr
  | "cp949" => some .cp949
  | "johab" => some .johab
  | "iso2022_kr" => some .iso2022Kr
  | "euc_jp" => some .eucJp
  | "shift_jis" => some .shiftJis
  | "cp932" => some .cp932
  | "euc_jis_2004" => some .eucJis2004
  | "euc_jisx0213" => some .eucJisx0213
  | "shift_jis_2004" => some .shiftJis2004
  | "shift_jisx0213" => some .shiftJisx0213
  | "iso2022_jp" => some .iso2022Jp
  | "iso2022_jp_1" => some .iso2022Jp1
  | "iso2022_jp_2" => some .iso2022Jp2
  | "iso2022_jp_2004" => some .iso2022Jp2004
  | "iso2022_jp_3" => some .iso2022Jp3
  | "iso2022_jp_ext" => some .iso2022JpExt
  | _ => none

/-! ### Sequences read one at a time -/

/-- One sequence at the head of the bytes `b :: rest`: the characters it stands
for and the bytes after it, or `none` if the head is no sequence. -/
abbrev Step := UInt8 → List UInt8 → Option (List Char × List UInt8)

/-- Decode bytes sequence by sequence. Every step takes at least one byte, so
the number of bytes is fuel enough. -/
def runSteps (step : Step) : Nat → List UInt8 → Array Char → Option (Array Char)
  | _, [], acc => some acc
  | 0, _ :: _, _ => none
  | fuel + 1, b :: rest, acc =>
    match step b rest with
    | some (cs, more) => runSteps step fuel more (acc ++ cs.toArray)
    | none => none

/-- One character, if there is one. -/
def single (c : Option Char) : Option (List Char) := c.map ([·])

/-- The cell key of two bytes. -/
def cellKey (a b : Nat) : Nat := a * 256 + b

/-- The two characters of a cell that holds two, if it is in the list. -/
def pairCell (cells : List (Nat × Char × Char)) (key : Nat) : Option (List Char) :=
  (cells.lookup key).map fun (x, y) => [x, y]

/-- The step of a codec whose bytes below 0x80 are ASCII and whose other bytes
lead a pair of bytes, read by `pair` from the lead and trail byte. -/
def pairStep (pair : Nat → Nat → Option (List Char)) : Step := fun b rest =>
  if b < 0x80 then some ([Char.ofNat b.toNat], rest)
  else match rest with
    | t :: more => (pair b.toNat t.toNat).map (·, more)
    | [] => none

/-- The half-width katakana of a byte from 0xA1 to 0xDF. -/
def halfKana (b : Nat) : Char := Char.ofNat (0xFEC0 + b)

/-! ### Chinese -/

/-- A pair of GB 2312, each byte in the upper half: the cell of the bytes less
0x80 (a byte of the lower half names no cell). -/
def gb2312Pair (c t : Nat) : Option (List Char) := single (gb2312Table.get? (c - 0x80) (t - 0x80))

/-- A pair of GBK: three cells of GB 2312 read differently, then GB 2312, then
the cells GBK adds. -/
def gbkPair (c t : Nat) : Option (List Char) :=
  if c = 0xA1 && t = 0xAA then some ['—']
  else if c = 0xA8 && t = 0x44 then some ['―']
  else if c = 0xA1 && t = 0xA4 then some ['·']
  else (gb2312Pair c t).orElse fun _ => single (gbkTable.get? c t)

/-- A pair of GB 18030: GBK and the cells GB 18030 adds. -/
def gb18030Pair (c t : Nat) : Option (List Char) :=
  (gbkPair c t).orElse fun _ => single (gb18030Table.get? c t)

/-- The code point of the four-byte sequence of GB 18030 with index `n` below
39420: the run it falls in gives it. -/
def gb18030Bmp (n : Nat) : Nat :=
  gb18030Ranges.foldl (fun acc (base, first) => if base ≤ n then first + (n - base) else acc) 0

/-- A four-byte sequence of GB 18030: lead and third bytes from 0x81 to 0xFE,
second and fourth digits. The first four leads cover the code points below
U+10000 outside the two-byte cells, the leads from 0x90 on the planes above. -/
def gb18030Four (c c2 c3 c4 : Nat) : Option Char :=
  if c < 0x81 || 0xFE < c || c3 < 0x81 || 0xFE < c3 || c4 < 0x30 || 0x39 < c4 then none
  else
    let tail := (c3 - 0x81) * 10 + (c4 - 0x30)
    if c - 0x81 < 4 then
      let n := ((c - 0x81) * 10 + (c2 - 0x30)) * 1260 + tail
      if n < 39420 then some (Char.ofNat (gb18030Bmp n)) else none
    else if 15 ≤ c - 0x81 then
      let cp := 0x10000 + ((c - 0x81 - 15) * 10 + (c2 - 0x30)) * 1260 + tail
      if cp ≤ 0x10FFFF then some (Char.ofNat cp) else none
    else none

/-- A sequence of GB 18030: ASCII, four bytes when the second is a digit, else
a pair. -/
def gb18030Step : Step := fun b rest =>
  if b < 0x80 then some ([Char.ofNat b.toNat], rest)
  else match rest with
    | t :: more =>
      if 0x30 ≤ t.toNat && t.toNat ≤ 0x39 then
        match more with
        | u :: v :: after => (gb18030Four b.toNat t.toNat u.toNat v.toNat).map ([·], after)
        | _ => none
      else (gb18030Pair b.toNat t.toNat).map (·, more)
    | [] => none

/-- A pair of code page 950: its own cells, then Big5. -/
def cp950Pair (c t : Nat) : Option (List Char) :=
  match cp950Extra.lookup (cellKey c t) with
  | some ch => some [ch]
  | none => single (big5Table.get? c t)

/-- A pair of Big5-HKSCS. Outside the rows HKSCS takes over (0xC6A1 to 0xC8FE)
Big5 is read first; then the supplement's own cells, and four cells that hold a
letter and a combining mark. -/
def big5hkscsPair (c t : Nat) : Option (List Char) :=
  let big5First := c < 0xC6 || 0xC8 < c || (c < 0xC7 && t < 0xA1)
  let fromBig5 := if big5First then big5Table.get? c t else none
  match fromBig5.orElse fun _ => hkscsTable.get? c t with
  | some ch => some [ch]
  | none => pairCell hkscsPairs (cellKey c t)

/-! ### HZ -/

/-- Decode HZ text: ASCII, where `~~` is a tilde, `~` and a line feed is
nothing, and `~{` switches to pairs of GB 2312 in seven bits until `~}`. -/
def hzFrom : Nat → List UInt8 → Bool → Array Char → Option (Array Char)
  | _, [], _, acc => some acc
  | 0, _ :: _, _, _ => none
  | fuel + 1, b :: rest, wide, acc =>
    -- 0x7E is the tilde, 0x7B and 0x7D the braces
    if b = 0x7E then
      match rest with
      | t :: more =>
        if t = 0x7E && !wide then hzFrom fuel more wide (acc.push '~')
        else if t = 0x7B && !wide then hzFrom fuel more true acc
        else if t = 0x0A && !wide then hzFrom fuel more wide acc
        else if t = 0x7D && wide then hzFrom fuel more false acc
        else none
      | [] => none
    else if 0x80 ≤ b then none
    else if !wide then hzFrom fuel rest wide (acc.push (Char.ofNat b.toNat))
    else match rest with
      | t :: more =>
        match gb2312Table.get? b.toNat t.toNat with
        | some ch => hzFrom fuel more wide (acc.push ch)
        | none => none
      | [] => none

/-! ### Korean -/

/-- The initial consonant index of a jamo byte of the KS X 1001 make-up
sequence, for bytes 0xA1 to 0xBE (0xFF for none). -/
def makeupInitials : List Nat :=
  [0, 1, 0xFF, 2, 0xFF, 0xFF, 3, 4, 5, 0xFF, 0xFF, 0xFF, 0xFF, 0xFF, 0xFF, 0xFF,
   6, 7, 8, 0xFF, 9, 10, 11, 12, 13, 14, 15, 16, 17, 18]

/-- The final consonant index of a jamo byte of the make-up sequence, for bytes
0xA1 to 0xBE (0xFF for none). -/
def makeupFinals : List Nat :=
  [1, 2, 3, 4, 5, 6, 7, 0xFF, 8, 9, 10, 11, 12, 13, 14, 15,
   16, 17, 0xFF, 18, 19, 20, 21, 22, 0xFF, 23, 24, 25, 26, 27]

/-- The index a jamo byte from 0xA1 to 0xBE has in one of the lists. -/
def jamoIndex (table : List Nat) (b : Nat) : Option Nat :=
  if b < 0xA1 || 0xBE < b then none
  else match table.getD (b - 0xA1) 0xFF with
    | 0xFF => none
    | i => some i

/-- The Hangul syllable of the make-up sequence `A4 D4 A4 x A4 y A4 z`: the
initial `x`, the vowel `y` (0xBF to 0xD3) and the final `z` (0xD4 for none). -/
def makeupSyllable (x y z : Nat) : Option Char := do
  let i ← jamoIndex makeupInitials x
  let v ← if 0xBF ≤ y && y ≤ 0xD3 then some (y - 0xBF) else none
  let f ← if z = 0xD4 then some 0 else jamoIndex makeupFinals z
  return Char.ofNat (0xAC00 + i * 588 + v * 28 + f)

/-- A sequence of EUC-KR: ASCII, the eight-byte make-up sequence of a Hangul
syllable (led by `A4 D4`), or a pair of KS X 1001. -/
def eucKrStep : Step := fun b rest =>
  if b < 0x80 then some ([Char.ofNat b.toNat], rest)
  else match rest with
    | t :: more =>
      if b = 0xA4 && t = 0xD4 then
        match more with
        | p :: x :: q :: y :: r :: z :: after =>
          if p = 0xA4 && q = 0xA4 && r = 0xA4 then
            (makeupSyllable x.toNat y.toNat z.toNat).map ([·], after)
          else none
        | _ => none
      else (single (ksx1001Table.get? (b.toNat - 0x80) (t.toNat - 0x80))).map (·, more)
    | [] => none

/-- The Hangul syllables that KS X 1001 leaves out, in order: the unified Hangul
code places them in the cells below its own. -/
def uhcSyllables : Array Char :=
  let marked := (List.range 94).foldl (fun acc r => (List.range 94).foldl (fun acc col =>
      match ksx1001Table.get? (0x21 + r) (0x21 + col) with
      | some ch => if 0xAC00 ≤ ch.toNat then acc.setIfInBounds (ch.toNat - 0xAC00) true else acc
      | none => acc) acc) (Array.replicate 11172 false)
  ((List.range 11172).filter fun i => !marked.getD i false).toArray.map fun i =>
    Char.ofNat (0xAC00 + i)

/-- The position of a trail byte in a row of the unified Hangul code: 26 upper
and 26 lower ASCII letters, then the upper half (to 0xFE in rows led below 0xA1,
to 0xA0 in the others). -/
def uhcColumn (c t : Nat) : Option Nat :=
  if 0x41 ≤ t && t ≤ 0x5A then some (t - 0x41)
  else if 0x61 ≤ t && t ≤ 0x7A then some (26 + t - 0x61)
  else if 0x81 ≤ t && t ≤ (if c < 0xA1 then 0xFE else 0xA0) then some (52 + t - 0x81)
  else none

/-- The syllable of a cell of the unified Hangul code (leads 0x81 to 0xC6). -/
def uhcCell (c t : Nat) : Option Char := do
  if c < 0x81 || 0xC6 < c then none
  let col ← uhcColumn c t
  let row := if c < 0xA1 then (c - 0x81) * 178 else 32 * 178 + (c - 0xA1) * 84
  uhcSyllables[row + col]?

/-- A pair of code page 949: KS X 1001, then the unified Hangul code. -/
def cp949Pair (c t : Nat) : Option (List Char) :=
  single ((ksx1001Table.get? (c - 0x80) (t - 0x80)).orElse fun _ => uhcCell c t)

/-- The indices of the five bits of a Johab syllable naming its initial
consonant, vowel and final consonant: 0xFE for a fill, 0xFF for none. -/
def johabInitials : List Nat :=
  [0xFF, 0xFE, 0, 1, 2, 3, 4, 5, 6, 7, 8, 9, 10, 11, 12, 13, 14, 15, 16, 17, 18,
   0xFF, 0xFF, 0xFF, 0xFF, 0xFF, 0xFF, 0xFF, 0xFF, 0xFF, 0xFF, 0xFF]

/-- See `johabInitials`. -/
def johabVowels : List Nat :=
  [0xFF, 0xFF, 0xFE, 0, 1, 2, 3, 4, 0xFF, 0xFF, 5, 6, 7, 8, 9, 10,
   0xFF, 0xFF, 11, 12, 13, 14, 15, 16, 0xFF, 0xFF, 17, 18, 19, 20, 0xFF, 0xFF]

/-- See `johabInitials`. -/
def johabFinals : List Nat :=
  [0xFF, 0xFE, 1, 2, 3, 4, 5, 6, 7, 8, 9, 10, 11, 12, 13, 14,
   15, 16, 0xFF, 17, 18, 19, 20, 21, 22, 23, 24, 25, 26, 27, 0xFF, 0xFF]

/-- The compatibility jamo of an initial consonant on its own, by its bits. -/
def johabInitialJamo : List Nat :=
  [0, 0, 0x3131, 0x3132, 0x3134, 0x3137, 0x3138, 0x3139, 0x3141, 0x3142, 0x3143, 0x3145,
   0x3146, 0x3147, 0x3148, 0x3149, 0x314A, 0x314B, 0x314C, 0x314D, 0x314E]

/-- The compatibility jamo of a vowel on its own, by its bits. -/
def johabVowelJamo : List Nat :=
  [0, 0, 0, 0x314F, 0x3150, 0x3151, 0x3152, 0x3153, 0, 0, 0x3154, 0x3155, 0x3156, 0x3157,
   0x3158, 0x3159, 0, 0, 0x315A, 0x315B, 0x315C, 0x315D, 0x315E, 0x315F, 0, 0, 0x3160,
   0x3161, 0x3162, 0x3163]

/-- The compatibility jamo of a final consonant on its own, by its bits. -/
def johabFinalJamo : List Nat :=
  [0, 0, 0x3131, 0x3132, 0x3133, 0x3134, 0x3135, 0x3136, 0x3137, 0x3139, 0x313A, 0x313B,
   0x313C, 0x313D, 0x313E, 0x313F, 0x3140, 0x3141, 0, 0x3142, 0x3144, 0x3145, 0x3146,
   0x3147, 0x3148, 0x314A, 0x314B, 0x314C, 0x314D, 0x314E]

/-- A Hangul pair of Johab (lead below 0xD8): three fields of five bits. A
syllable has an initial and a vowel; a fill in place of the others leaves a
lone jamo, and three fills are the ideographic space. -/
def johabHangul (c t : Nat) : Option Char :=
  let ci := c / 4 % 32
  let cv := (c * 8 + t / 32) % 32
  let cf := t % 32
  let i := johabInitials.getD ci 0xFF
  let v := johabVowels.getD cv 0xFF
  let f := johabFinals.getD cf 0xFF
  if i = 0xFF || v = 0xFF || f = 0xFF then none
  else if i = 0xFE then
    if v = 0xFE then
      if f = 0xFE then some '\u3000' else some (Char.ofNat (johabFinalJamo.getD cf 0))
    else if f = 0xFE then some (Char.ofNat (johabVowelJamo.getD cv 0))
    else none
  else if v = 0xFE then
    if f = 0xFE then some (Char.ofNat (johabInitialJamo.getD ci 0)) else none
  else some (Char.ofNat (0xAC00 + i * 588 + v * 28 + (if f = 0xFE then 0 else f)))

/-- A pair of Johab: Hangul by its bits below lead 0xD8, and from 0xD9 on the
symbols and hanja of KS X 1001, two rows to a lead byte (none for 0xD8 and
0xDF). -/
def johabPair (c t : Nat) : Option (List Char) :=
  if c < 0xD8 then single (johabHangul c t)
  else if c = 0xD8 || c = 0xDF || 0xF9 < c || t < 0x31 || (0x80 ≤ t && t < 0x91) || t % 128 = 0x7F ||
      (c = 0xDA && 0xA1 ≤ t && t ≤ 0xD3) then none
  else
    let r := if c < 0xE0 then 2 * (c - 0xD9) else 2 * c - 0x197
    let k := if t < 0x91 then t - 0x31 else t - 0x43
    let row := r + (if k < 0x5E then 0 else 1) + 0x21
    let col := (if k < 0x5E then k else k - 0x5E) + 0x21
    single (ksx1001Table.get? row col)

/-! ### Japanese -/

/-- The row and column of JIS X 0208 or of the first plane of JIS X 0213 that a
Shift-JIS pair names, counting rows from 0; or `none` for a trail byte outside
0x40 to 0xFC (or 0x7F). -/
def shiftedCell (c t : Nat) : Option (Nat × Nat) :=
  if t < 0x40 || t = 0x7F || 0xFC < t then none
  else
    let r := if c < 0xE0 then c - 0x81 else c - 0xC1
    let k := if t < 0x80 then t - 0x40 else t - 0x41
    some (2 * r + (if k < 0x5E then 0 else 1), (if k < 0x5E then k else k - 0x5E) + 0x21)

/-- A cell of JIS X 0208. -/
def jis0208Cell (r c : Nat) : Option (List Char) := single (jis0208Table.get? r c)

/-- A sequence of EUC-JP: ASCII, half-width katakana after 0x8E, JIS X 0212
after 0x8F, else a pair of JIS X 0208. -/
def eucJpStep : Step := fun b rest =>
  if b < 0x80 then some ([Char.ofNat b.toNat], rest)
  else if b = 0x8E then
    match rest with
    | t :: more => if 0xA1 ≤ t && t ≤ 0xDF then some ([halfKana t.toNat], more) else none
    | [] => none
  else if b = 0x8F then
    match rest with
    | t :: u :: more => (single (jis0212Table.get? (t.toNat - 0x80) (u.toNat - 0x80))).map (·, more)
    | _ => none
  else match rest with
    | t :: more => (jis0208Cell (b.toNat - 0x80) (t.toNat - 0x80)).map (·, more)
    | [] => none

/-- A sequence of Shift-JIS: ASCII, half-width katakana, or a pair of JIS X 0208
led by 0x81 to 0x9F or 0xE0 to 0xEA. -/
def shiftJisStep : Step := fun b rest =>
  let c := b.toNat
  if c < 0x80 then some ([Char.ofNat c], rest)
  else if 0xA1 ≤ c && c ≤ 0xDF then some ([halfKana c], rest)
  else if (0x81 ≤ c && c ≤ 0x9F) || (0xE0 ≤ c && c ≤ 0xEA) then
    match rest with
    | t :: more => do
      let (r, col) ← shiftedCell c t.toNat
      let cs ← jis0208Cell (r + 0x21) col
      return (cs, more)
    | [] => none
  else none

/-- A pair of code page 932: its own cells, then Shift-JIS over JIS X 0208, then
the private use area for leads 0xF0 to 0xF9. -/
def cp932Pair (c t : Nat) : Option (List Char) :=
  match cp932Table.get? c t with
  | some ch => some [ch]
  | none =>
    if (0x81 ≤ c && c ≤ 0x9F) || (0xE0 ≤ c && c ≤ 0xEA) then do
      let (r, col) ← shiftedCell c t
      jis0208Cell (r + 0x21) col
    else if 0xF0 ≤ c && c ≤ 0xF9 && ((0x40 ≤ t && t ≤ 0x7E) || (0x80 ≤ t && t ≤ 0xFC)) then
      some [Char.ofNat (0xE000 + 188 * (c - 0xF0) + (if t < 0x80 then t - 0x40 else t - 0x41))]
    else none

/-- A sequence of code page 932: single bytes up to 0x80 as they are, 0xA0 and
0xFD to 0xFF in the private use area, half-width katakana, else a pair. -/
def cp932Step : Step := fun b rest =>
  let c := b.toNat
  if c ≤ 0x80 then some ([Char.ofNat c], rest)
  else if c = 0xA0 then some ([Char.ofNat 0xF8F0], rest)
  else if c ≤ 0xDF && 0xA1 ≤ c then some ([halfKana c], rest)
  else if 0xFD ≤ c then some ([Char.ofNat (0xF8F1 + c - 0xFD)], rest)
  else match rest with
    | t :: more => (cp932Pair c t.toNat).map (·, more)
    | [] => none

/-- A cell of the first plane of JIS X 0213 by row and column: JIS X 0208, then
the cells JIS X 0213 adds, some of which hold two characters. As of 2000
(`later` false) the cells added in 2004 are empty. -/
def jisx0213Plane1Cell (later : Bool) (r c : Nat) : Option (List Char) :=
  if !later && jisx0213Later.contains (cellKey r c) then none
  else
    match (jis0208Table.get? r c).orElse fun _ => jisx0213Plane1Table.get? r c with
    | some ch => some [ch]
    | none => pairCell jisx0213Pairs (cellKey r c)

/-- A cell of the second plane of JIS X 0213; as of 2000 (`later` false) one
cell holds the character it held then. -/
def jisx0213Plane2Cell (later : Bool) (r c : Nat) : Option Char :=
  if !later && cellKey r c = jisx0213Revised.1 then some jisx0213Revised.2
  else jisx0213Plane2Table.get? r c

/-- A sequence of EUC-JIS-2004 (or, with `later` false, EUC-JISX0213): ASCII,
half-width katakana after 0x8E; after 0x8F the second plane of JIS X 0213, then
JIS X 0212; else the first plane, where the cell 0x2140 is the full-width
reverse solidus and 0x2232 the full-width tilde. -/
def eucJisx0213Step (later : Bool) : Step := fun b rest =>
  if b < 0x80 then some ([Char.ofNat b.toNat], rest)
  else if b = 0x8E then
    match rest with
    | t :: more => if 0xA1 ≤ t && t ≤ 0xDF then some ([halfKana t.toNat], more) else none
    | [] => none
  else if b = 0x8F then
    match rest with
    | t :: u :: more =>
      let r := t.toNat - 0x80
      let c := u.toNat - 0x80
      (single ((jisx0213Plane2Cell later r c).orElse fun _ => jis0212Table.get? r c)).map (·, more)
    | _ => none
  else match rest with
    | t :: more =>
      let r := b.toNat - 0x80
      let c := t.toNat - 0x80
      let cell :=
        if !later && jisx0213Later.contains (cellKey r c) then none
        else if r = 0x21 && c = 0x40 then some ['＼']
        else if r = 0x22 && c = 0x32 then some ['～']
        else jisx0213Plane1Cell later r c
      cell.map (·, more)
    | [] => none

/-- The row of the second plane of JIS X 0213 that a Shift-JIS pair led from
0xF0 on names, from the row the pair would name counting from 0x5E. -/
def plane2Row (r : Nat) : Nat :=
  if 0x67 ≤ r then r + 0x07
  else if 0x63 ≤ r || r = 0x5F then r - 0x37
  else r - 0x3D

/-- A sequence of Shift_JIS-2004 (or, with `later` false, Shift_JISX0213): the
bytes below 0x80 of JIS X 0201, where 0x5C is the yen sign and 0x7E the
overline; half-width katakana; pairs led by 0x81 to 0x9F or 0xE0 to 0xEF name
the first plane of JIS X 0213, led by 0xF0 to 0xFC the second. Unlike the other
Japanese codecs it reads the cell 0x2140 as the ASCII backslash. -/
def shiftJisx0213Step (later : Bool) : Step := fun b rest =>
  let c := b.toNat
  if c = 0x5C then some (['¥'], rest)
  else if c = 0x7E then some (['‾'], rest)
  else if c < 0x80 then some ([Char.ofNat c], rest)
  else if 0xA1 ≤ c && c ≤ 0xDF then some ([halfKana c], rest)
  else if (0x81 ≤ c && c ≤ 0x9F) || (0xE0 ≤ c && c ≤ 0xFC) then
    match rest with
    | t :: more => do
      let (r, col) ← shiftedCell c t.toNat
      if r = 0 && col = 0x40 then return (['\\'], more)
      else if r < 0x5E then
        let cs ← jisx0213Plane1Cell later (r + 0x21) col
        return (cs, more)
      else
        let ch ← jisx0213Plane2Cell later (plane2Row r) col
        return ([ch], more)
    | [] => none
  else none

/-! ### ISO-2022 -/

/-- The escape character. -/
def escByte : Nat := 0x1B

/-- The character sets of ISO-2022 text, each named by the final byte of its
escape sequence (and whether it is a set of pairs). -/
inductive Charset where
  | ascii
  /-- JIS X 0201, the Roman half: ASCII with the yen sign and overline. -/
  | roman
  /-- JIS X 0201, the katakana half. -/
  | katakana
  /-- The upper half of Latin-1, only through a single shift. -/
  | latinUpper
  /-- The upper half of ISO 8859-7, only through a single shift. -/
  | greekUpper
  | jis0208
  /-- JIS X 0208 designated by its 1978 sequence, read as JIS X 0208. -/
  | jis0208Old
  | jis0212
  | gb2312
  | ksx1001
  /-- The first plane of JIS X 0213 as of 2000. -/
  | jisx0213Early
  /-- The first plane of JIS X 0213 as of 2004. -/
  | jisx0213Late
  | jisx0213Plane2
  deriving Repr, DecidableEq

/-- The character set an escape sequence names by its final byte, for sets of
pairs or of single bytes. -/
def Charset.ofFinal (pairs : Bool) (f : Nat) : Option Charset :=
  if pairs then
    match f with
    | 0x40 => some .jis0208Old
    | 0x41 => some .gb2312
    | 0x42 => some .jis0208
    | 0x43 => some .ksx1001
    | 0x44 => some .jis0212
    | 0x4F => some .jisx0213Early
    | 0x50 => some .jisx0213Plane2
    | 0x51 => some .jisx0213Late
    | _ => none
  else
    match f with
    | 0x41 => some .latinUpper
    | 0x42 => some .ascii
    | 0x46 => some .greekUpper
    | 0x49 => some .katakana
    | 0x4A => some .roman
    | _ => none

/-- A flavour of ISO-2022: the character sets it may switch to, whether shift
out and shift in switch to the second set (else they are control characters),
whether an escape `N` reads one character of the third set, whether `&@` may
stand before a designation of JIS X 0208, and whether JIS X 0213 is taken as of
2004. -/
structure Iso2022 where
  sets : List Charset
  shifts : Bool
  singleShift : Bool
  prefixed : Bool
  later : Bool

/-- The flavour of an ISO-2022 codec. -/
def EastAsianCodec.iso2022? : EastAsianCodec → Option Iso2022
  | .iso2022Kr => some ⟨[.ksx1001], true, false, false, true⟩
  | .iso2022Jp => some ⟨[.jis0208, .roman, .jis0208Old], false, false, true, true⟩
  | .iso2022Jp1 => some ⟨[.jis0208, .jis0212, .roman, .jis0208Old], false, false, true, true⟩
  | .iso2022Jp2 => some ⟨[.jis0208, .jis0212, .ksx1001, .gb2312, .roman, .jis0208Old,
      .latinUpper, .greekUpper], false, true, true, true⟩
  | .iso2022Jp2004 => some ⟨[.jisx0213Late, .jis0208, .jisx0213Plane2], false, false, true, true⟩
  | .iso2022Jp3 => some ⟨[.jisx0213Early, .jis0208, .jisx0213Plane2], false, false, true, false⟩
  | .iso2022JpExt => some ⟨[.jis0208, .jis0212, .roman, .katakana, .jis0208Old],
      false, false, true, true⟩
  | _ => none

/-- The number of bytes a character of the set takes. -/
def Charset.width : Charset → Nat
  | .ascii | .roman | .katakana | .latinUpper | .greekUpper => 1
  | _ => 2

/-- The characters of one character of a set of pairs, from its two bytes. -/
def Charset.pair (later : Bool) (s : Charset) (a b : Nat) : Option (List Char) :=
  match s with
  | .jis0208 | .jis0208Old => jis0208Cell a b
  | .jis0212 => single (jis0212Table.get? a b)
  | .gb2312 => single (gb2312Table.get? a b)
  | .ksx1001 => single (ksx1001Table.get? a b)
  | .jisx0213Early => jisx0213Plane1Cell false a b
  | .jisx0213Late => jisx0213Plane1Cell true a b
  | .jisx0213Plane2 => single (jisx0213Plane2Cell later a b)
  | _ => none

/-- The character of one byte of a set of single bytes. -/
def Charset.byte (s : Charset) (b : Nat) : Option Char :=
  match s with
  | .ascii => some (Char.ofNat b)
  | .roman => some (if b = 0x5C then '¥' else if b = 0x7E then '‾' else Char.ofNat b)
  | .katakana => if 0x21 ≤ b && b ≤ 0x5F then some (halfKana (b + 0x80)) else none
  | _ => none

/-- The characters of ISO 8859-7 from 0xA0 on that are those of Latin-1. -/
def greekKept : List Nat :=
  [0xA0, 0xA3, 0xA6, 0xA7, 0xA8, 0xA9, 0xAB, 0xAC, 0xAD, 0xB0, 0xB1, 0xB2, 0xB3, 0xB7, 0xBB, 0xBD]

/-- The character of a byte of ISO 8859-7 after a single shift: the byte with
its high bit flipped; below 0xA0 as it is, above it Greek. -/
def greekByte (b : Nat) : Option Char :=
  let g := if b < 0x80 then b + 0x80 else b - 0x80
  if g < 0xA0 || greekKept.contains g then some (Char.ofNat g)
  else if g = 0xA1 then some '‘'
  else if g = 0xA2 then some '’'
  else if g = 0xAF then some '―'
  else if g = 0xA4 || g = 0xA5 || g = 0xAA || g = 0xAE || g = 0xD2 || g = 0xFF then none
  else if 0xB4 ≤ g then some (Char.ofNat (0x2D0 + g))
  else none

/-- The state of ISO-2022 decoding: the first, second and third designated
sets, whether shifted to the second, and whether an unknown escape sequence is
being passed through. -/
structure Iso2022State where
  g0 : Charset := .ascii
  g1 : Charset := .ascii
  g2 : Charset := .ascii
  shifted : Bool := false
  passing : Bool := false

/-- Whether a byte ends an escape sequence: a capital letter or `@`. -/
def endsEscape (b : Nat) : Bool := (0x41 ≤ b && b ≤ 0x5A) || b = 0x40

/-- The length of the escape sequence at the head of `bs` (the escape itself
included), ended by a capital letter or `@` among its first 16 bytes. With
`prefixed`, `&@` and the byte after it are passed over. `none` if the bytes end
first or the sequence is longer. -/
def escapeLength (prefixed : Bool) (bs : List UInt8) : Option Nat :=
  go 1 (bs.drop 1)
where
  /-- Look for the end from position `i` on. -/
  go (i : Nat) : List UInt8 → Option Nat
    | [] => none
    | [b] => if i < 16 && endsEscape b.toNat then some (i + 1) else none
    | b :: n :: more =>
      if 16 ≤ i then none
      else if endsEscape b.toNat then some (i + 1)
      else if prefixed && b = 0x26 && n = 0x40 then go (i + 3) more.tail
      else go (i + 1) (n :: more)
  termination_by l => l.length
  decreasing_by
    all_goals simp only [List.length_cons, List.length_tail]
    all_goals omega

/-- The designation an escape sequence of `len` bytes makes: the set and the
slot (0, 1 or 2) it goes to. -/
def designation (cfg : Iso2022) (bs : List UInt8) (len : Nat) : Option (Charset × Nat) := do
  let byteAt (i : Nat) : Nat := (bs.getD i 0).toNat
  let (set, slot) ← match len with
    | 3 =>
      if byteAt 1 = 0x24 then (Charset.ofFinal true (byteAt 2)).map (·, 0)
      else
        let slot ← if byteAt 1 = 0x28 then some 0
          else if byteAt 1 = 0x29 then some 1
          else if cfg.singleShift && byteAt 1 = 0x2E then some 2
          else none
        (Charset.ofFinal false (byteAt 2)).map (·, slot)
    | 4 =>
      if byteAt 1 ≠ 0x24 then none
      else
        let slot ← if byteAt 2 = 0x28 then some 0 else if byteAt 2 = 0x29 then some 1 else none
        (Charset.ofFinal true (byteAt 3)).map (·, slot)
    | 6 =>
      if cfg.prefixed && byteAt 3 = escByte && byteAt 4 = 0x24 && byteAt 5 = 0x42 then some (.jis0208, 0)
      else none
    | _ => none
  if set = .ascii || cfg.sets.contains set then some (set, slot) else none

/-- The state with a set designated to a slot. -/
def Iso2022State.designate (st : Iso2022State) (set : Charset) : Nat → Iso2022State
  | 0 => { st with g0 := set }
  | 1 => { st with g1 := set }
  | _ => { st with g2 := set }

/-- The character a single shift reads from the third set. -/
def singleShifted (st : Iso2022State) (b : Nat) : Option Char :=
  match st.g2 with
  | .latinUpper => if b < 0x80 then some (Char.ofNat (b + 0x80)) else none
  | .greekUpper => greekByte b
  | .ascii => if b < 0x80 then some (Char.ofNat b) else none
  | _ => none

/-- Decode ISO-2022 text from a state. -/
def iso2022From (cfg : Iso2022) : Nat → List UInt8 → Iso2022State → Array Char → Option (Array Char)
  | _, [], _, acc => some acc
  | 0, _ :: _, _, _ => none
  | fuel + 1, b :: rest, st, acc =>
    let c := b.toNat
    if st.passing then
      iso2022From cfg fuel rest { st with passing := !endsEscape c } (acc.push (Char.ofNat c))
    else if c = escByte then
      match rest with
      | [] => none
      | n :: more =>
        let n := n.toNat
        if n = 0x28 || n = 0x29 || n = 0x24 || n = 0x2E || n = 0x26 then do
          let len ← escapeLength cfg.prefixed (b :: rest)
          let (set, slot) ← designation cfg (b :: rest) len
          iso2022From cfg fuel ((b :: rest).drop len) (st.designate set slot) acc
        else if cfg.singleShift && n = 0x4E then
          match more with
          | x :: after => do
            let ch ← singleShifted st x.toNat
            iso2022From cfg fuel after st (acc.push ch)
          | [] => none
        else iso2022From cfg fuel rest { st with passing := true } (acc.push '\x1b')
    else if c = 0x0F && cfg.shifts then iso2022From cfg fuel rest { st with shifted := false } acc
    else if c = 0x0E && cfg.shifts then iso2022From cfg fuel rest { st with shifted := true } acc
    else if c = 0x0A then iso2022From cfg fuel rest { st with shifted := false } (acc.push '\n')
    else if c < 0x20 then iso2022From cfg fuel rest st (acc.push (Char.ofNat c))
    else if 0x80 ≤ c then none
    else
      let set := if st.shifted then st.g1 else st.g0
      if set = .ascii then iso2022From cfg fuel rest st (acc.push (Char.ofNat c))
      else if set.width = 1 then do
        let ch ← set.byte c
        iso2022From cfg fuel rest st (acc.push ch)
      else
        match rest with
        | t :: more => do
          let cs ← set.pair cfg.later c t.toNat
          iso2022From cfg fuel more st (acc ++ cs.toArray)
        | [] => none

/-! ### Decoding -/

/-- The text of bytes in an East Asian codec, or `none` when they are no text
of it. -/
def EastAsianCodec.decode (codec : EastAsianCodec) (bs : List UInt8) : Option (Array Char) :=
  let steps (s : Step) := runSteps s bs.length bs #[]
  match codec with
  | .gb2312 => steps (pairStep gb2312Pair)
  | .gbk => steps (pairStep gbkPair)
  | .gb18030 => steps gb18030Step
  | .hz => hzFrom bs.length bs false #[]
  | .big5 => steps (pairStep fun c t => single (big5Table.get? c t))
  | .cp950 => steps (pairStep cp950Pair)
  | .big5hkscs => steps (pairStep big5hkscsPair)
  | .eucKr => steps eucKrStep
  | .cp949 => steps (pairStep cp949Pair)
  | .johab => steps (pairStep johabPair)
  | .eucJp => steps eucJpStep
  | .shiftJis => steps shiftJisStep
  | .cp932 => steps cp932Step
  | .eucJis2004 => steps (eucJisx0213Step true)
  | .eucJisx0213 => steps (eucJisx0213Step false)
  | .shiftJis2004 => steps (shiftJisx0213Step true)
  | .shiftJisx0213 => steps (shiftJisx0213Step false)
  | other =>
    match other.iso2022? with
    | some cfg => iso2022From cfg bs.length bs {} #[]
    | none => none

end MaskedLog.Text

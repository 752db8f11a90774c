import MaskedLog.Unicode.Surrogate
/-!
# UTF-8

Texts are written as UTF-8 bytes, and bytes are read back as text. Reading
stops at no error: each maximal ill-formed subsequence (the longest prefix of a
well-formed sequence that cannot be completed, or else a single byte) is
replaced, by U+FFFD when substituting and by nothing when ignoring.

* `encode` — the bytes of a text.
* `decodeWith` — the text of bytes, each ill-formed part replaced.
* `decodeLossy`, `decodeDropping` — the two replacements.
* `encodePoint`, `encodePassing`, `encodeStrict?` — the bytes of a text of
  code points, which may hold lone surrogates: written as the three bytes of
  their numbers, or refused.

## References

Python's UTF-8 codec with the `replace`, `ignore` and `surrogatepass` error
handlers, used by `bodylog/capture.py` (`decode_body`) and
`bodylog/content.py` (`truncate`, `looks_binary`).
-/

namespace MaskedLog.Text

open MaskedLog.Unicode

/-- The UTF-8 bytes of a text. -/
def encode (s : List Char) : List UInt8 := s.flatMap String.utf8EncodeChar

/-- The UTF-8 bytes of a string. -/
def encodeString (s : String) : List UInt8 := encode s.toList

/-- The bytes of a code point: a character's UTF-8 bytes, and for a surrogate
the three bytes its number takes by the UTF-8 layout, as an encoder writes them
when it lets surrogates pass. -/
def encodePoint (p : CodePoint) : List UInt8 :=
  if p.isSurrogate then
    [UInt8.ofNat (0xE0 + p.val / 4096), UInt8.ofNat (0x80 + p.val / 64 % 64),
      UInt8.ofNat (0x80 + p.val % 64)]
  else String.utf8EncodeChar (Char.ofNat p.val)

/-- The bytes of a text with its lone surrogates passed through. -/
def encodePassing (t : List CodePoint) : List UInt8 := t.flatMap encodePoint

/-- The UTF-8 bytes of a text, or `none` if it holds a lone surrogate, which
UTF-8 cannot write. -/
def encodeStrict? (t : List CodePoint) : Option (List UInt8) :=
  if t.any CodePoint.isSurrogate then none else some (encodePassing t)

/-- The range of the second byte of a sequence led by `b`, and the number of
continuation bytes after the lead, or `none` for a byte that leads nothing. -/
def leadShape (b : Nat) : Option (Nat × Nat × Nat) :=
  if b < 0xC2 then none
  else if b ≤ 0xDF then some (0x80, 0xBF, 1)
  else if b = 0xE0 then some (0xA0, 0xBF, 2)
  else if b ≤ 0xEC then some (0x80, 0xBF, 2)
  else if b = 0xED then some (0x80, 0x9F, 2)
  else if b ≤ 0xEF then some (0x80, 0xBF, 2)
  else if b = 0xF0 then some (0x90, 0xBF, 3)
  else if b ≤ 0xF3 then some (0x80, 0xBF, 3)
  else if b = 0xF4 then some (0x80, 0x8F, 3)
  else none

/-- Whether `b` is a continuation byte. -/
def isTrail (b : Nat) : Bool := 0x80 ≤ b && b ≤ 0xBF

/-- The well-formed continuation of a sequence: how many of the `need` bytes
after the lead are present and fit (the first within `lo … hi`, the others
continuation bytes). -/
def fittingTrail (lo hi : Nat) : Nat → List UInt8 → Nat
  | 0, _ => 0
  | _, [] => 0
  | need + 1, b :: rest =>
    if lo ≤ b.toNat && b.toNat ≤ hi then 1 + fittingTrail 0x80 0xBF need rest else 0

/-- The code point of a lead byte and its continuation bytes. -/
def codePoint (lead : Nat) (trail : List UInt8) : Nat :=
  let first :=
    if trail.length = 1 then lead % 0x20
    else if trail.length = 2 then lead % 0x10
    else lead % 0x08
  trail.foldl (fun acc b => acc * 64 + b.toNat % 64) first

/-- The text of UTF-8 bytes, each maximal ill-formed subsequence replaced by `r`. -/
def decodeWith (r : List Char) : List UInt8 → List Char
  | [] => []
  | b :: rest =>
    if b.toNat < 0x80 then Char.ofNat b.toNat :: decodeWith r rest
    else
      match leadShape b.toNat with
      | none => r ++ decodeWith r rest
      | some (lo, hi, need) =>
        let k := fittingTrail lo hi need rest
        if k = need then Char.ofNat (codePoint b.toNat (rest.take k)) :: decodeWith r (rest.drop k)
        else r ++ decodeWith r (rest.drop k)
termination_by bs => bs.length
decreasing_by all_goals (simp only [List.length_cons, List.length_drop]; omega)

/-- The text of bytes, ill-formed parts shown as U+FFFD. -/
def decodeLossy (bs : List UInt8) : String := String.ofList (decodeWith ['�'] bs)

/-- The text of bytes, ill-formed parts left out. -/
def decodeDropping (bs : List UInt8) : String := String.ofList (decodeWith [] bs)

/-- The text of bytes that must be well-formed UTF-8. -/
def decodeStrict? (bs : List UInt8) : Option String :=
  let s := decodeWith ['�'] bs
  if encode s == bs then some (String.ofList s) else none

end MaskedLog.Text

import MaskedLog.Unicode.CodeText
import MaskedLog.Unicode.NormData
import Std.Data.HashMap

/-!
# Compatibility composition

The normal form NFKC that host names are prepared in, as the Unicode 3.2
database of the stringprep profile computes it: characters are decomposed
fully by their Unicode 3.2 compatibility decompositions (a character that 3.2
did not assign stays as it is), marks are put in canonical order by their
Unicode 14.0 combining classes, and the result is composed again with the
Unicode 14.0 primary composites.

Ordering moves each mark (a character of class other than zero) back past the
marks of higher class before it; a character of class zero is never passed.
Composition goes left to right. A Hangul leading consonant and vowel, and a
trailing consonant after them, make a syllable. Any other character that
begins a composite absorbs, one after another, each later character it
composes with that is not blocked: a character is blocked when a character of
class zero, or of class at least its own, stands between it and the
composite. The first character of class zero that does not compose ends the
search.

## Main definitions

* `decomposeCompat`, `canonicalOrder`, `composeCanonical`.
* `nfkc` — the composed normal form.

## References

`unicodedata.ucd_3_2_0.normalize` of Python, as `encodings.idna.nameprep`
calls it.
-/

namespace MaskedLog.Unicode

/-! ### Tables -/

/-- The full compatibility decompositions of Unicode 3.2, Hangul apart. -/
def compatDecomps : Array (Nat × List Nat) := readCodeMap compatDecompText

/-- The runs of non-zero canonical combining classes. -/
def combiningClasses : Array (Nat × Nat × Nat) := readRanges combiningClassText

/-- The canonical combining class of a code point. -/
def combiningClass (c : Nat) : Nat := (rangeValue? combiningClasses c).getD 0

/-- The primary composites by their canonical pairs. -/
def composites : Std.HashMap (Nat × Nat) Nat :=
  (readCodeMap compositionText).foldl (fun m (c, pair) =>
    match pair with
    | [a, b] => m.insert (a, b) c
    | _ => m) {}

/-- The characters that begin a canonical pair. -/
def compositeStarts : Std.HashMap Nat Unit :=
  composites.fold (fun m (a, _) _ => m.insert a ()) {}

/-! ### Hangul -/

/-- The first Hangul syllable. -/
def syllableBase : Nat := 0xAC00

/-- The first leading consonant, vowel and (one before the first) trailing
consonant of the conjoining jamo. -/
def leadBase : Nat := 0x1100

/-- The first conjoining vowel. -/
def vowelBase : Nat := 0x1161

/-- One before the first conjoining trailing consonant. -/
def tailBase : Nat := 0x11A7

/-- The jamo a Hangul syllable decomposes into. -/
def syllableJamo (c : Nat) : List Nat :=
  let s := c - syllableBase
  let t := s % 28
  [leadBase + s / 588, vowelBase + s % 588 / 28] ++ (if t = 0 then [] else [tailBase + t])

/-! ### Decomposition and order -/

/-- The full compatibility decomposition of a sequence. -/
def decomposeCompat (cs : List Nat) : List Nat :=
  cs.flatMap fun c =>
    if syllableBase ≤ c && c < syllableBase + 11172 then syllableJamo c
    else (codeMapGet? compatDecomps c).getD [c]

/-- Put a mark of class `k` into a reversed sequence, behind the marks of
higher class at its end. -/
def insertMark (k c : Nat) : List Nat → List Nat
  | [] => [c]
  | t :: rest =>
    let kt := combiningClass t
    if kt != 0 && kt > k then t :: insertMark k c rest else c :: t :: rest

/-- The canonical order of a sequence: each run of marks sorted by class,
stably. -/
def canonicalOrder (cs : List Nat) : List Nat :=
  (cs.foldl (fun acc c =>
    let k := combiningClass c
    if k = 0 then c :: acc else insertMark k c acc) []).reverse

/-! ### Composition -/

/-- The composite `cur` becomes by absorbing the characters from position `i`
on that compose with it and are not blocked, `comb` being the highest class
passed over; with the positions absorbed added to `skipped`. At most `fuel`
characters are looked at. -/
def absorb (d : Array Nat) : Nat → Nat → Nat → Nat → List Nat → Nat × List Nat
  | 0, cur, _, _, skipped => (cur, skipped)
  | fuel + 1, cur, i, comb, skipped =>
    if i ≥ d.size then (cur, skipped)
    else
      let c := d.getD i 0
      let k := combiningClass c
      if comb != 0 && k = 0 then (cur, skipped)
      else if comb != 0 && comb ≥ k then absorb d fuel cur (i + 1) comb skipped
      else
        match composites.get? (cur, c) with
        | some next =>
          if compositeStarts.contains next then absorb d fuel next (i + 1) comb (i :: skipped)
          else (next, i :: skipped)
        | none => if k = 0 then (cur, skipped) else absorb d fuel cur (i + 1) k skipped

/-- Compose the characters of an ordered decomposition from position `i` on,
after the reversed output `out`, passing over the positions in `skipped`. -/
def composeFrom (d : Array Nat) : Nat → Nat → List Nat → List Nat → List Nat
  | 0, _, _, out => out.reverse
  | fuel + 1, i, skipped, out =>
    if i ≥ d.size then out.reverse
    else if skipped.contains i then composeFrom d fuel (i + 1) (skipped.erase i) out
    else
      let c := d.getD i 0
      let v := d.getD (i + 1) 0
      if leadBase ≤ c && c < leadBase + 19 && i + 1 < d.size && vowelBase ≤ v && v < vowelBase + 21 then
        let s := syllableBase + ((c - leadBase) * 21 + (v - vowelBase)) * 28
        let t := d.getD (i + 2) 0
        if i + 2 < d.size && tailBase < t && t < tailBase + 28 then
          composeFrom d fuel (i + 3) skipped ((s + (t - tailBase)) :: out)
        else composeFrom d fuel (i + 2) skipped (s :: out)
      else if compositeStarts.contains c then
        let (cur, skipped) := absorb d d.size c (i + 1) 0 skipped
        composeFrom d fuel (i + 1) skipped (cur :: out)
      else composeFrom d fuel (i + 1) skipped (c :: out)

/-- The canonical composition of an ordered decomposition. -/
def composeCanonical (cs : List Nat) : List Nat :=
  let d := cs.toArray
  composeFrom d (d.size + 1) 0 [] []

/-- The compatibility composed normal form of a sequence. -/
def nfkc (cs : List Nat) : List Nat := composeCanonical (canonicalOrder (decomposeCompat cs))

end MaskedLog.Unicode

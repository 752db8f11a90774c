import MaskedLog.Redact.Scanner
/-!
# Redaction with its tables searched as lists

Lowercasing reads three tables: the runs of the lowercase mapping
(`lowerRuns`), and the case-ignorable and cased characters of the final-sigma
rule (`caseIgnorable`, `casedSolid`). They are arrays, searched with
`Array.find?` and `Array.any`, whose loops are well-founded recursions. The
kernel unfolds such a recursion slowly: one search of `caseIgnorable` that
finds nothing costs it seconds, so deciding a redaction of a short Greek text
took longer than anything else in the library.

The same searches over the tables' lists are structural. This module gives each
function between the tables and `redactNames` a twin that searches the lists
and is otherwise the same, and proves every twin equal to its original. A closed
redaction is then decided by rewriting it into the twins first
(`Scanner.redact_eq_fast`), which the kernel evaluates quickly.

## Main definitions

* `CodeRanges.containsList`, `lowerCharFast`, `sigmaIsFinalFast`,
  `lowerAfterFast` — lowercasing with the tables searched as lists.
* `shadowFast`, `redactNamesFast` — the shadow and redaction built on them.

## Main results

* `shadow_eq_shadowFast`, `redactNames_eq_redactNamesFast` — the twins are the
  originals.
* `Scanner.redact_eq_fast` — a redaction through the twins.

## References

`bodylog/redact/scanner.py` (`shadow_copy`, `RedactionScanner.redact`).
-/

namespace MaskedLog.Unicode

/-! ### The table lookups -/

/-- Whether some range holds the code point, searched through the list of ranges. -/
def CodeRanges.containsList (rs : CodeRanges) (n : Nat) : Bool :=
  rs.toList.any fun r => r.1 ≤ n && n ≤ r.2

theorem CodeRanges.contains_eq_containsList (rs : CodeRanges) (n : Nat) :
    rs.contains n = rs.containsList n :=
  Array.any_toList.symm

/-- `lowerChar`, with the runs searched through their list. -/
def lowerCharFast (c : Char) : Char :=
  let n := c.toNat
  if n < 128 then
    if 65 ≤ n && n ≤ 90 then Char.ofNat (n + 32) else c
  else
    (lowerRuns.toList.find? (·.covers n)).elim c fun r => Char.ofNat (Int.toNat (n + r.delta))

theorem lowerChar_eq_lowerCharFast : lowerChar = lowerCharFast := by
  funext c
  rw [lowerChar, lowerCharFast, ← Array.find?_toList]
  -- both sides read the same search of the runs; its result settles them
  generalize List.find? (fun r => r.covers c.toNat) lowerRuns.toList = found
  cases found <;> rfl

/-- `lowerFull`, through `lowerCharFast`. -/
def lowerFullFast (c : Char) : List Char :=
  if c.toNat = 0x130 then ['i', '\u0307'] else [lowerCharFast c]

theorem lowerFull_eq_lowerFullFast : lowerFull = lowerFullFast := by
  funext c
  rw [lowerFull, lowerFullFast, lowerChar_eq_lowerCharFast]

/-- `sigmaIsFinal`, with the two tables searched through their lists. -/
def sigmaIsFinalFast (before after : List Char) : Bool :=
  (((before.dropWhile (caseIgnorable.containsList ·.toNat)).head?.map
      (casedSolid.containsList ·.toNat)).getD false) &&
    (((after.dropWhile (caseIgnorable.containsList ·.toNat)).head?.map
      (!casedSolid.containsList ·.toNat)).getD true)

theorem sigmaIsFinal_eq_sigmaIsFinalFast : sigmaIsFinal = sigmaIsFinalFast := by
  have hign : isCaseIgnorable = (caseIgnorable.containsList ·.toNat) :=
    funext fun c => CodeRanges.contains_eq_containsList _ _
  have hsolid : isCasedSolid = (casedSolid.containsList ·.toNat) :=
    funext fun c => CodeRanges.contains_eq_containsList _ _
  funext before after
  rw [sigmaIsFinal, sigmaIsFinalFast, hign, hsolid]
  -- each side looks at the first character past the case-ignorable ones
  generalize List.dropWhile (fun x => caseIgnorable.containsList x.toNat) before = b
  generalize List.dropWhile (fun x => caseIgnorable.containsList x.toNat) after = a
  cases b <;> cases a <;> rfl

/-- `lowerAfter`, through the twins above. -/
def lowerAfterFast (before : List Char) : List Char → List Char
  | [] => []
  | c :: rest =>
    (if c = capitalSigma then [if sigmaIsFinalFast before rest then 'ς' else 'σ']
     else lowerFullFast c) ++ lowerAfterFast (c :: before) rest

theorem lowerAfter_eq_lowerAfterFast : lowerAfter = lowerAfterFast := by
  funext before s
  induction s generalizing before with
  | nil => rfl
  | cons c rest ih =>
    rw [lowerAfter, lowerAfterFast, ih, sigmaIsFinal_eq_sigmaIsFinalFast,
      lowerFull_eq_lowerFullFast]

end MaskedLog.Unicode

namespace MaskedLog.Redact

open MaskedLog.Unicode

/-! ### The shadow and redaction -/

/-- `lowerOrKeep`, through `lowerCharFast`: U+0130 is kept, since its
lowercase form is two characters. -/
def lowerOrKeepFast (c : Char) : Char :=
  if c.toNat = 0x130 then c else lowerCharFast c

/-- `shadow`, through the twins of lowercasing. -/
def shadowFast (t : List Char) : List Char :=
  let l := lowerAfterFast [] t
  if l.length = t.length then l else t.map lowerOrKeepFast

theorem shadow_eq_shadowFast : shadow = shadowFast := by
  funext t
  have hkeep : lowerOrKeep = lowerOrKeepFast := by
    funext c
    rw [lowerOrKeep, lowerOrKeepFast, lowerFull_eq_lowerFullFast, lowerFullFast]
    by_cases hd : c.toNat = 0x130 <;> simp [hd]
  rw [shadow, shadowFast, lower, lowerAfter_eq_lowerAfterFast, hkeep]

/-- `maskPass`, with the new shadow through `shadowFast`. -/
def maskPassFast (ts : List Char × List Char) (name : List Char) : List Char × List Char :=
  let spans := pass ts.1 ts.2 name
  if spans.isEmpty then ts
  else
    let t := Span.mask ts.1 spans
    (t, shadowFast t)

/-- `redactNames`, through `maskPassFast` and `shadowFast`. -/
def redactNamesFast (names : List (List Char)) (t : List Char) : List Char :=
  (names.foldl maskPassFast (t, shadowFast t)).1

theorem redactNames_eq_redactNamesFast : redactNames = redactNamesFast := by
  have hpass : maskPass = maskPassFast := by
    funext ts name
    rw [maskPass, maskPassFast, shadow_eq_shadowFast]
  funext names t
  rw [redactNames, redactNamesFast, hpass, shadow_eq_shadowFast]

/-- A redaction, through the twins that search the tables as lists. -/
theorem Scanner.redact_eq_fast (sc : Scanner) (t : String) :
    sc.redact t = String.ofList (redactNamesFast (sc.fields.map String.toList) t.toList) := by
  rw [Scanner.redact, Scanner.redactChars, redactNames_eq_redactNamesFast]

end MaskedLog.Redact

import MaskedLog.Failure
import MaskedLog.Number.Fixed
import MaskedLog.Number.Read
import MaskedLog.Unicode.Lower
import MaskedLog.Unicode.Upper
import MaskedLog.Unicode.Blank
/-!
# Byte sizes

A size is shown in the largest unit it reaches, with one decimal at most
(`1.5KB`, `1KB`, `1023.9KB`), and a size setting is read from a number of bytes
or a text such as `64KB`, `1.5 MiB` or `3gb`. All units are powers of 1024, the
`KB` spelling as much as `KiB`.

* `Size.show` — the text of a byte count.
* `Size.text` — the same for a value that must be a nonnegative integer.
* `Size.parse` — the byte count a size setting denotes.

## References

`bodylog/size.py` (`size_str`, `size_to_bytes`).
-/

namespace MaskedLog.Size

open MaskedLog.Unicode

/-- The units of the display, largest first. -/
def displayUnits : List (Nat × String) :=
  [(Nat.pow 2 30, "GB"), (Nat.pow 2 20, "MB"), (Nat.pow 2 10, "KB"), (1, "B")]

/-- Drop trailing zeros, then a trailing point. -/
def trimFraction (s : String) : String :=
  let cs := (s.toList.reverse.dropWhile (· = '0'))
  let cs := match cs with
    | '.' :: rest => rest
    | _ => cs
  String.ofList cs.reverse

/-- A count in a unit: the quotient as a double, written as a whole number when
it is one, else with one decimal rounded half to even, trailing zeros dropped. -/
def inUnit (n u : Nat) (name : String) : Except Failure String :=
  let v := Binary64.ofQuotient n u
  if v.isInfinite then .error .overflow
  else if v.isIntegral then .ok (toString ((v.truncate).getD 0) ++ name)
  else .ok (trimFraction (v.fixed 1) ++ name)

/-- The text of a byte count: `0B`, or the count in the largest unit it reaches. -/
def «show» (n : Nat) : Except Failure String :=
  if n = 0 then .ok "0B"
  else
    match displayUnits.find? (fun u => u.1 ≤ n) with
    | some (u, name) => inUnit n u name
    | none => .ok (toString n ++ "B")

/-- The text of a size given as a value, which must be a nonnegative integer. -/
def text (v : Value) : Except Failure String :=
  match v with
  | .int n => if n ≥ 0 then «show» n.toNat else .error (bad v)
  | _ => .error (bad v)
where
  bad (v : Value) : Failure := .size "Size must be a non-negative integer" [("size", v)]

/-- The units of a size text and their multipliers, keyed by their uppercase
spelling. -/
def unitTable : List (String × Nat) :=
  [("B", 1), ("KB", Nat.pow 2 10), ("MB", Nat.pow 2 20), ("GB", Nat.pow 2 30),
   ("KIB", Nat.pow 2 10), ("MIB", Nat.pow 2 20), ("GIB", Nat.pow 2 30)]

/-- The unit spellings in the order they are tried. -/
def unitPatterns : List String := ["GIB", "MIB", "KIB", "GB", "MB", "KB", "B"]

/-- Whether `c` matches the letter `l` of a unit without regard to case: their
simple lowercase forms agree, and a dotless `ı` counts as an `i`. -/
def letterMatches (l c : Char) : Bool :=
  let lo := simpleLower c
  lo == l.toLower || (l.toLower == 'i' && lo == 'ı')

/-- Whether the text `r` spells the unit `p` without regard to case. -/
def spells (p : String) (r : List Char) : Bool :=
  p.length == r.length && (p.toList.zip r).all fun (l, c) => letterMatches l c

/-- The split of a size text into its number and its unit: decimal digits of
any script, optionally a point and more digits, blanks, then a unit. -/
def splitSize (s : List Char) : Option (List Char × List Char) :=
  let whole := s.takeWhile isDigit
  let rest := s.dropWhile isDigit
  if whole.isEmpty then none else
  let (num, rest) :=
    match rest with
    | '.' :: more =>
      let frac := more.takeWhile isDigit
      if frac.isEmpty then (whole, rest) else (whole ++ '.' :: frac, more.dropWhile isDigit)
    | _ => (whole, rest)
  let unit := rest.dropWhile isBlank
  if unitPatterns.any (spells · unit) then some (num, unit) else none

/-- `⌊x · 2^k⌋` for a nonnegative double `x`, failing when the product
overflows. -/
def scaleDown (x : Binary64) (k : Nat) : Except Failure Nat :=
  match x.toRat? with
  | some (a, b) =>
    let y := Binary64.nearest false (a.toNat * Nat.pow 2 k) b
    if y.isInfinite then .error .overflow else .ok ((y.truncate).getD 0).toNat
  | none => .error .overflow

/-- The number of bytes a size setting denotes: a nonnegative integer as it is,
or a size text. -/
def parse (v : Value) : Except Failure Nat :=
  match v with
  | .bool _ => .error (.size "Size must be an integer or size string" [("value", v)])
  | .int n => if n < 0 then .error (.size "Size cannot be negative" [("value", v)]) else .ok n.toNat
  | .str s =>
    let t := trim s.toList
    if t.isEmpty then .error (.size "Size string cannot be empty")
    else
      match splitSize t with
      | none => .error (.size "Could not parse size string" [("value", v)])
      | some (num, unit) =>
        match unitTable.lookup (String.ofList (upper unit)) with
        | none => .error .missingKey
        | some mult =>
          match Number.readFloat (String.ofList num) with
          | some x => scaleDown x mult.log2
          | none => .error (.size "Could not parse size string" [("value", v)])
  | _ => .error (.size "Size must be an integer or size string" [("value", v)])

end MaskedLog.Size

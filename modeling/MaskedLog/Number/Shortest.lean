import MaskedLog.Number.Binary64
/-!
# Shortest decimal form of a double

Every finite double is the rounding of an interval of reals: the points nearer
to it than to either neighbour, the ends included when its significand is even
(a tie goes to the even significand). The shortest decimal of a double is the
decimal with the fewest significant digits inside that interval, and of two
such the nearer one. For `k = 1, 2, …, 17` significant digits the two decimals
of `k` digits around the double are tested; 17 digits always suffice.

Where the point goes and how an exponent is written is a matter of layout, fixed
by a `FloatLayout` record.

* `Binary64.shortest` — the significant digits and exponent of the shortest decimal.
* `FloatLayout` — positional or exponent form, and the spelling of the specials.
* `Binary64.render` — the text of a double in a layout.

## References

Python's `repr` of a `float`.
-/

namespace MaskedLog

namespace Binary64

/-- The number of decimal digits of `n` (one for zero). -/
def decimalLength (n : Nat) : Nat := (Nat.toDigits 10 n).length

/-- Compares `a · 10^p · 2^q` with `b · 10^r · 2^s`. -/
def compareScaled (a : Nat) (p q : Int) (b : Nat) (r s : Int) : Ordering :=
  let p' := p - r
  let q' := q - s
  compare (a * Nat.pow 10 (max p' 0).toNat * Nat.pow 2 (max q' 0).toNat)
    (b * Nat.pow 10 (max (-p') 0).toNat * Nat.pow 2 (max (-q') 0).toNat)

/-- `⌊log₁₀ (m · 2^e)⌋` for `m > 0`. -/
def floorLog10 (m : Nat) (e : Int) : Int :=
  let (n, d) := scale m 1 e
  let est : Int := (decimalLength n : Int) - (decimalLength d : Int)
  if compareScaled 1 est 0 m 0 e != .gt then est else est - 1

/-- `⌊m · 2^e / 10^E⌋`. -/
def floorOnGrid (m : Nat) (e E : Int) : Nat :=
  (m * Nat.pow 2 (max e 0).toNat * Nat.pow 10 (max (-E) 0).toNat) /
    (Nat.pow 2 (max (-e) 0).toNat * Nat.pow 10 (max E 0).toNat)

/-- Whether `d · 10^E` rounds to the double `m · 2^e` (`m > 0`). -/
def roundsTo (m : Nat) (e : Int) (d : Nat) (E : Int) : Bool :=
  -- in units of `2^(e-2)` the interval runs from `4m - lo` to `4m + 2`
  let lo := if m = Nat.pow 2 52 && e > minExponent then 1 else 2
  let incl := m % 2 == 0
  let above := compareScaled d E 0 (4 * m - lo) 0 (e - 2)
  let below := compareScaled d E 0 (4 * m + 2) 0 (e - 2)
  (above == .gt || (incl && above == .eq)) && (below == .lt || (incl && below == .eq))

/-- Of the decimals `d · 10^E` and `(d + 1) · 10^E` around `m · 2^e`, those
that round to it, the nearer first (a tie goes to the even `d`). -/
def hitsOnGrid (m : Nat) (e E : Int) : Option Nat :=
  let d := floorOnGrid m e E
  let inLo := roundsTo m e d E
  let inHi := roundsTo m e (d + 1) E
  -- compare `2x` with the midpoint `(2d + 1) · 10^E`
  let side := compareScaled (2 * m) 0 e (2 * d + 1) E 0
  let nearerLo := side == .lt || (side == .eq && d % 2 == 0)
  if inLo && inHi then some (if nearerLo then d else d + 1)
  else if inLo then some d
  else if inHi then some (d + 1)
  else none

/-- Drop trailing zero digits, raising the exponent. -/
def trimZeros (d : Nat) (E : Int) : Nat × Int :=
  go d E (decimalLength d)
where
  go (d : Nat) (E : Int) : Nat → Nat × Int
    | 0 => (d, E)
    | fuel + 1 => if d ≠ 0 && d % 10 == 0 then go (d / 10) (E + 1) fuel else (d, E)

/-- The shortest decimal `d · 10^E` that rounds to `m · 2^e` (`m > 0`), with no
trailing zero in `d`. -/
def shortest (m : Nat) (e : Int) : Nat × Int :=
  let p := floorLog10 m e
  let rec search : List Nat → Nat × Int
    | [] => trimZeros (floorOnGrid m e (p - 16)) (p - 16)
    | k :: ks =>
      let E := p - (k : Int) + 1
      match hitsOnGrid m e E with
      | some d => trimZeros d E
      | none => search ks
  search (List.range' 1 17)

end Binary64

/-- How a double is written: the decimal exponents written positionally, the
least number of exponent digits, and the spelling of infinities and NaN. -/
structure FloatLayout where
  /-- Positional when `lowPoint < point ≤ highPoint`, where the value is `0.ddd × 10^point`. -/
  lowPoint : Int
  highPoint : Int
  exponentDigits : Nat
  infinityText : String
  nanText : String

/-- The layout of a double's text: positional for values from `1e-4` below
`1e16`, else one digit, a point and the rest, `e`, a sign and at least two
exponent digits; a whole number keeps `.0`. -/
def FloatLayout.standard : FloatLayout := ⟨-4, 16, 2, "inf", "nan"⟩

/-- The layout of JSON output: as `standard`, with `Infinity` and `NaN`. -/
def FloatLayout.json : FloatLayout := ⟨-4, 16, 2, "Infinity", "NaN"⟩

namespace Binary64

/-- Write the digits `ds` of a value `0.ds × 10^point` in a layout. -/
def placeDigits (layout : FloatLayout) (ds : String) (point : Int) : String :=
  if point ≤ layout.lowPoint || point > layout.highPoint then
    let exp := point - 1
    let mant := if ds.length ≤ 1 then ds else String.ofList (ds.toList.take 1) ++ "." ++ String.ofList (ds.toList.drop 1)
    let expDigits := toString exp.natAbs
    let padded := String.ofList (List.replicate (layout.exponentDigits - expDigits.length) '0') ++ expDigits
    mant ++ "e" ++ (if exp < 0 then "-" else "+") ++ padded
  else if point ≤ 0 then
    "0." ++ String.ofList (List.replicate point.natAbs '0') ++ ds
  else if point.toNat ≥ ds.length then
    ds ++ String.ofList (List.replicate (point.toNat - ds.length) '0') ++ ".0"
  else
    String.ofList (ds.toList.take point.toNat) ++ "." ++ String.ofList (ds.toList.drop point.toNat)

/-- The text of a double in a layout. -/
def render (layout : FloatLayout) (x : Binary64) : String :=
  match x.decode with
  | .nan => layout.nanText
  | .infinite neg => (if neg then "-" else "") ++ layout.infinityText
  | .finite neg m e =>
    let sign := if neg then "-" else ""
    if m = 0 then sign ++ "0.0"
    else
      let (d, E) := shortest m e
      let ds := toString d
      sign ++ placeDigits layout ds (ds.length + E)

/-- The standard text of a double: `0.1`, `1.0`, `1e-05`, `1.5e+300`, `inf`, `nan`. -/
def repr (x : Binary64) : String := render FloatLayout.standard x

end Binary64

end MaskedLog

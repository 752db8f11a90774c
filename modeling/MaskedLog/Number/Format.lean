import MaskedLog.Number.Shortest
/-!
# Doubles in a given precision

Besides their shortest text, doubles are written with a given number of digits:
`fixedDigits` keeps `p` places after the point, `significantDigits` keeps `p`
significant digits, both rounding the exact binary value half to even. Either
gives a digit string without trailing zeros and the place of the decimal point
(`0.ddd × 10^point`); `placeNotation` writes such digits out.

Three notations are built on this:

* exponent (`e`): one digit, the point, `p` more digits, then the exponent
  with a sign and at least two digits;
* fixed (`f`): `p` digits after the point;
* general (`g`): `p` significant digits (at least one), in exponent notation
  when the exponent is below -4 or at least `p`, trailing zeros dropped.

The alternate form keeps the point (and, for `g`, the trailing zeros). Upper
case notations write `E`, `INF` and `NAN`.

## Main definitions

* `Notation`, `Binary64.inNotation` — a double in a notation and precision.

## References

The `e`, `f` and `g` conversions of Python's `%` formatting of a `float`.
-/

namespace MaskedLog

namespace Binary64

/-- Digits without their trailing zeros. -/
def dropTrailingZeros (ds : List Char) : List Char :=
  (ds.reverse.dropWhile (· = '0')).reverse

/-- The digits of a positive `m · 2^e` rounded to `n ≥ 1` significant digits,
and the place of the point. -/
def significantDigits (m : Nat) (e : Int) (n : Nat) : List Char × Int :=
  let k := floorLog10 m e
  let E := k - n + 1
  let num := m * Nat.pow 2 (max e 0).toNat * Nat.pow 10 (max (-E) 0).toNat
  let den := Nat.pow 2 (max (-e) 0).toNat * Nat.pow 10 (max E 0).toNat
  let d := roundHalfEven num den
  let (d, k) := if d = Nat.pow 10 n then (Nat.pow 10 (n - 1), k + 1) else (d, k)
  (dropTrailingZeros (Nat.toDigits 10 d), k + 1)

/-- The digits of `m · 2^e` rounded to `p` places after the point, and the
place of the point; no digits when it rounds to zero. -/
def fixedDigits (m : Nat) (e : Int) (p : Nat) : List Char × Int :=
  let (a, b) := scale m 1 e
  let q := roundHalfEven (a * Nat.pow 10 p) b
  if q = 0 then ([], -(p : Int))
  else
    let ds := Nat.toDigits 10 q
    (dropTrailingZeros ds, (ds.length : Int) - p)

/-- `k` zeros, none when `k ≤ 0`. -/
def zeros (k : Int) : List Char := List.replicate k.toNat '0'

/-- Write digits `0.ds × 10^point` showing at least up to the place `upTo`
(counted like `point`), in exponent notation when asked, the point dropped at
the end unless `alt`. -/
def placeNotation (ds : List Char) (point upTo : Int) (useExp alt : Bool) (expChar : Char) :
    String :=
  let (exp, point) := if useExp then (point - 1, (1 : Int)) else (0, point)
  let start := if point ≤ 0 then point - 1 else 0
  let upTo := max upTo point
  let n : Int := ds.length
  let lead := if point ≤ 0 then zeros (point - start) ++ ['.'] ++ zeros (-point) else zeros (-start)
  let body := if 0 < point && point ≤ n then ds.take point.toNat ++ ['.'] ++ ds.drop point.toNat else ds
  let tail := if n < point then zeros (point - n) ++ ['.'] ++ zeros (upTo - point) else zeros (upTo - n)
  let text := lead ++ body ++ tail
  let text := if !alt && text.getLast? == some '.' then text.dropLast else text
  let expText :=
    if useExp then
      let digits := toString exp.natAbs
      String.ofList [expChar] ++ (if exp < 0 then "-" else "+") ++
        (if digits.length < 2 then "0" else "") ++ digits
    else ""
  String.ofList text ++ expText

/-- The notations of a double with a precision. -/
inductive Notation where
  | exponent
  | fixed
  | general
  deriving Repr, DecidableEq

/-- A double in a notation with precision `p`; `upper` writes `E`, `INF` and
`NAN`, `alt` is the alternate form. -/
def inNotation (x : Binary64) (n : Notation) (p : Nat) (alt upper : Bool) : String :=
  match x.decode with
  | .nan => if upper then "NAN" else "nan"
  | .infinite neg => (if neg then "-" else "") ++ (if upper then "INF" else "inf")
  | .finite neg m e =>
    let sign := if neg then "-" else ""
    let expChar := if upper then 'E' else 'e'
    let sig (k : Nat) : List Char × Int := if m = 0 then (['0'], 1) else significantDigits m e k
    match n with
    | .exponent =>
      let (ds, point) := sig (p + 1)
      sign ++ placeNotation ds point (p + 1) true alt expChar
    | .fixed =>
      let (ds, point) := fixedDigits m e p
      sign ++ placeNotation ds point (point + p) false alt expChar
    | .general =>
      let p := max p 1
      let (ds, point) := sig p
      let useExp := point ≤ -4 || point > p
      sign ++ placeNotation ds point (if alt then p else ds.length) useExp alt expChar

end Binary64

end MaskedLog

/-!
# Binary64 numbers, exactly

A double is kept as its 64-bit word and read through `Binary64.decode` as a
sign, an integer significand and a power of two, so every operation the
library needs on doubles is exact integer arithmetic with one rounding step,
`Binary64.nearest`, that rounds a nonnegative rational to the nearest double,
a tie going to the even significand.

* `Binary64.decode` — the value of a word: finite `±m · 2^e`, infinite or NaN.
* `Binary64.nearest` — the double nearest a signed rational.
* `Binary64.compareRat` — exact comparison of a double with a rational.
* `Binary64.truncate` — the integer part of a finite double.

## References

Python's `float`, an IEEE 754 binary64 number.
-/

namespace MaskedLog

/-- A double, as its IEEE 754 binary64 word. -/
structure Binary64 where
  bits : UInt64
  deriving DecidableEq, Repr

/-- The value a binary64 word stands for. -/
inductive Binary64.Shape where
  /-- `(-1)^neg · m · 2^e`, with `m < 2^53`. -/
  | finite (neg : Bool) (m : Nat) (e : Int)
  | infinite (neg : Bool)
  | nan
  deriving DecidableEq, Repr

namespace Binary64

/-- The number of fraction bits. -/
def fractionBits : Nat := 52

/-- The exponent of the least subnormal, `2^-1074`. -/
def minExponent : Int := -1074

/-- The value of a word. -/
def decode (x : Binary64) : Shape :=
  let b : Nat := x.bits.toNat
  let neg : Bool := b / Nat.pow 2 63 = 1
  let field : Nat := (b / Nat.pow 2 52) % Nat.pow 2 11
  let frac : Nat := b % Nat.pow 2 52
  if field = 2047 then (if frac = 0 then .infinite neg else .nan)
  else if field = 0 then .finite neg frac minExponent
  else .finite neg (frac + Nat.pow 2 52) ((field : Int) - 1075)

/-- The word of a sign, an 11-bit exponent field and a fraction. -/
def ofFields (neg : Bool) (field frac : Nat) : Binary64 :=
  ⟨UInt64.ofNat ((if neg then Nat.pow 2 63 else 0) + field * Nat.pow 2 52 + frac)⟩

/-- Positive or negative infinity. -/
def infinity (neg : Bool) : Binary64 := ofFields neg 2047 0

/-- The NaN that arithmetic produces. -/
def nan : Binary64 := ofFields false 2047 (Nat.pow 2 51)

/-- Zero of either sign. -/
def zero (neg : Bool) : Binary64 := ofFields neg 0 0

/-- The integer nearest `n / d`, a tie going to the even one. -/
def roundHalfEven (n d : Nat) : Nat :=
  let q := n / d
  let r := n % d
  if 2 * r > d || (2 * r == d && q % 2 == 1) then q + 1 else q

/-- `⌊log₂ n⌋` for `n > 0`, and `0` for `n = 0`. -/
def log2 (n : Nat) : Nat := n.log2

/-- `n / d · 2^k` as a numerator and a denominator. -/
def scale (n d : Nat) (k : Int) : Nat × Nat :=
  if k ≥ 0 then (n * Nat.pow 2 k.toNat, d) else (n, d * Nat.pow 2 k.natAbs)

/-- Whether `n / d / 2^e < 2^52`. -/
def below (n d : Nat) (e : Int) : Bool :=
  let (a, b) := scale n d (-e)
  a < b * Nat.pow 2 52

/-- The double nearest to `(-1)^neg · n / d`, for `d > 0`: the significand is
chosen with 53 bits (fewer below the normal range), rounded half to even, and a
value past the largest double becomes an infinity. -/
def nearest (neg : Bool) (n d : Nat) : Binary64 :=
  if n = 0 then zero neg else
  -- `n / d / 2^e1` lies in `(2^51, 2^53)`; one step down puts it in `[2^52, 2^53)`
  let e1 : Int := (log2 n : Int) - (log2 d : Int) - 52
  let e2 := if below n d e1 then e1 - 1 else e1
  let e := max e2 minExponent
  let (a, b) := scale n d (-e)
  let m := roundHalfEven a b
  let (m, e) := if m = Nat.pow 2 53 then (Nat.pow 2 52, e + 1) else (m, e)
  if m < Nat.pow 2 52 then ofFields neg 0 m
  else if e + 1075 ≥ 2047 then infinity neg
  else ofFields neg (e + 1075).toNat (m - Nat.pow 2 52)

/-- The double nearest to an integer. -/
def ofInt (i : Int) : Binary64 := nearest (i < 0) i.natAbs 1

/-- The double nearest to `a / b`, the quotient of two integers with `b ≠ 0`. -/
def ofQuotient (a b : Int) : Binary64 :=
  nearest ((a < 0) != (b < 0)) a.natAbs b.natAbs

/-- Whether the word is an infinity. -/
def isInfinite (x : Binary64) : Bool :=
  match x.decode with
  | .infinite _ => true
  | _ => false

/-- Whether the word is a NaN. -/
def isNaN (x : Binary64) : Bool := x.decode == .nan

/-- Whether the sign bit is set. -/
def signBit (x : Binary64) : Bool := x.bits.toNat / Nat.pow 2 63 = 1

/-- A finite value as a signed rational `num / den`. -/
def toRat? (x : Binary64) : Option (Int × Nat) :=
  match x.decode with
  | .finite neg m e =>
    let (a, b) := scale m 1 e
    some (if neg then -(a : Int) else a, b)
  | _ => none

/-- Exact comparison of a double with the rational `num / den` (`den > 0`):
`none` for a NaN, infinities below or above every rational. -/
def compareRat (x : Binary64) (num : Int) (den : Nat) : Option Ordering :=
  match x.decode with
  | .nan => none
  | .infinite neg => some (if neg then .lt else .gt)
  | .finite .. =>
    match x.toRat? with
    | some (a, b) => some (compare (a * den) (num * b))
    | none => none

/-- Exact comparison of two doubles, `none` when either is a NaN. -/
def compareTo (x y : Binary64) : Option Ordering :=
  match x.decode, y.decode with
  | .nan, _ => none
  | _, .nan => none
  | .infinite a, .infinite b => some (compare (if a then 0 else 1 : Nat) (if b then 0 else 1))
  | .infinite a, _ => some (if a then .lt else .gt)
  | _, .infinite b => some (if b then .gt else .lt)
  | _, _ =>
    match y.toRat? with
    | some (a, b) => x.compareRat a b
    | none => none

/-- The integer part of a finite double, rounding toward zero; `none` for an
infinity or a NaN. -/
def truncate (x : Binary64) : Option Int :=
  match x.toRat? with
  | some (a, b) => some (a.tdiv b)
  | none => none

/-- Whether a finite double is a whole number. -/
def isIntegral (x : Binary64) : Bool :=
  match x.toRat? with
  | some (a, b) => a % b == 0
  | none => false

end Binary64

end MaskedLog

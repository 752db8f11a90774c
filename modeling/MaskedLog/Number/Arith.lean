import MaskedLog.Number.Binary64
/-!
# Arithmetic on doubles

Negation, sum and product of doubles, each the exact result rounded once to
the nearest double (ties to even), with the IEEE 754 rules for the special
values: a NaN spreads, an infinity times zero and the sum of opposite
infinities are NaN, and an exact zero sum is `+0` unless both terms are `-0`.

* `Binary64.negate`, `Binary64.add`, `Binary64.mul`.

## References

The arithmetic of Python's `float`, which `bodylog/size.py` and
`bodylog/content.py` compute with.
-/

namespace MaskedLog.Binary64

/-- The double with the other sign. -/
def negate (x : Binary64) : Binary64 := ⟨x.bits ^^^ ((1 : UInt64) <<< 63)⟩

/-- The sum of two doubles. -/
def add (x y : Binary64) : Binary64 :=
  match x.decode, y.decode with
  | .nan, _ | _, .nan => nan
  | .infinite a, .infinite b => if a == b then infinity a else nan
  | .infinite a, _ => infinity a
  | _, .infinite b => infinity b
  | _, _ =>
    match x.toRat?, y.toRat? with
    | some (a, b), some (c, d) =>
      let num := a * d + c * b
      if num = 0 then zero (x.signBit && y.signBit)
      else nearest (num < 0) num.natAbs (b * d)
    | _, _ => nan

/-- The product of two doubles. -/
def mul (x y : Binary64) : Binary64 :=
  let neg := x.signBit != y.signBit
  match x.decode, y.decode with
  | .nan, _ | _, .nan => nan
  | .infinite _, .finite _ 0 _ | .finite _ 0 _, .infinite _ => nan
  | .infinite _, _ | _, .infinite _ => infinity neg
  | _, _ =>
    match x.toRat?, y.toRat? with
    | some (a, b), some (c, d) => nearest neg (a * c).natAbs (b * d)
    | _, _ => nan

end MaskedLog.Binary64

import MaskedLog.Failure
/-!
# Comparing values

Values are ordered only when both are numbers; comparing anything else is a
failure of type. Numbers are compared exactly, whatever mix of integers and
doubles, and a NaN is unordered.

## References

Python's `<` and `<=` on numbers, as `BodyLogConfig.__post_init__` of
`bodylog/config.py` compares the ratio and the minimum length.
-/

namespace MaskedLog.Value

/-- The order of two values that must both be numbers (truth values count as
0 and 1): `none` when a NaN is involved, a failure for a value that is no number. -/
def compareTo (a b : Value) : Except Failure (Option Ordering) :=
  match a.asNumber?, b.asNumber? with
  | some x, some y => .ok (compareNumbers x y)
  | _, _ => .error .wrongType

/-- Whether `a ≤ b` for two numbers; false when a NaN is involved. -/
def le (a b : Value) : Except Failure Bool :=
  (compareTo a b).map fun o => o == some .lt || o == some .eq

/-- Whether `a < b` for two numbers; false when a NaN is involved. -/
def lt (a b : Value) : Except Failure Bool :=
  (compareTo a b).map (· == some .lt)

end MaskedLog.Value

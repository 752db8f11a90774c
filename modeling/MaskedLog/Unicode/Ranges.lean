/-!
# Sets of code points as sorted ranges

A character property of the Unicode database is stored as a sorted array of
inclusive code point ranges. `CodeRanges.contains` is the membership test.

## References

The property tables of Python's `unicodedata`.
-/

namespace MaskedLog.Unicode

/-- Inclusive ranges `(lo, hi)` of code points, sorted and disjoint. -/
abbrev CodeRanges := Array (Nat × Nat)

/-- Whether some range holds the code point `n`. -/
def CodeRanges.contains (rs : CodeRanges) (n : Nat) : Bool :=
  rs.any fun r => r.1 ≤ n && n ≤ r.2

end MaskedLog.Unicode

import MaskedLog.Number.Binary64
/-!
# Fixed-point text of a double

A double written with a fixed number of digits after the point is its exact
binary value rounded to that many places, a tie going to the even last digit:
`1.25` with one place is `1.2`, `0.35` (just below 0.35 in binary) is `0.3`.
The sign of a negative value, even one that rounds to zero, is kept.

* `Binary64.fixed` — the text with `p` places.

## References

The `.1f` format of a `float` in `size_str` of `bodylog/size.py`.
-/

namespace MaskedLog

namespace Binary64

/-- The digits of `q / 10^p` with a point before the last `p` digits. -/
def pointed (p q : Nat) : String :=
  let ds := Nat.toDigits 10 q
  let ds := List.replicate (p + 1 - ds.length) '0' ++ ds
  let whole := ds.take (ds.length - p)
  let frac := ds.drop (ds.length - p)
  String.ofList whole ++ (if p = 0 then "" else "." ++ String.ofList frac)

/-- The text of a double with `p` digits after the point. -/
def fixed (p : Nat) (x : Binary64) : String :=
  match x.decode with
  | .nan => "nan"
  | .infinite neg => if neg then "-inf" else "inf"
  | .finite neg m e =>
    let (a, b) := scale m 1 e
    (if neg then "-" else "") ++ pointed p (roundHalfEven (a * Nat.pow 10 p) b)

end Binary64

end MaskedLog

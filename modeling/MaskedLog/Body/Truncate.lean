import MaskedLog.Size
import MaskedLog.Text.Utf8
import MaskedLog.Redact.Span
/-!
# Cutting a body to a byte budget

A logged text is cut to at most a number of UTF-8 bytes. A character the cut
splits is left out, and a marker with the full size is appended whenever
anything was cut: `…...(truncated, 2.1KB)`. A negative budget counts from the
end of the bytes. The text is one of code points: a lone surrogate counts the
three bytes of its number, and a cut never keeps it, since it is no UTF-8.

* `truncate`, `truncateTo`.

## References

`bodylog/content.py` (`truncate`).
-/

namespace MaskedLog.Body

open MaskedLog.Text MaskedLog.Redact MaskedLog.Unicode

/-- The text cut to `limit` UTF-8 bytes, with a marker if anything was cut. -/
def truncate (t : List CodePoint) (limit : Int) : Except Failure (List CodePoint) :=
  let bytes := encodePassing t
  let n := bytes.length
  if (n : Int) ≤ limit then .ok t
  else do
    let total ← Size.show n
    let head := decodeDropping (bytes.take (resolvePosition n limit))
    return codePoints (head ++ "...(truncated, " ++ total ++ ")")

/-- `truncate` with a budget of any kind: an integer or a truth value (as `0`
or `1`) is used as it is; a double only when nothing needs cutting, since a cut
needs an integer; anything else cannot be compared with a length. -/
def truncateTo (t : List CodePoint) (limit : Value) : Except Failure (List CodePoint) :=
  match limit with
  | .int n => truncate t n
  | .bool b => truncate t (if b then 1 else 0)
  | .float x =>
    match x.compareRat (encodePassing t).length 1 with
    | some .gt | some .eq => .ok t
    | _ => .error .wrongType
  | _ => .error .wrongType

end MaskedLog.Body

/-!
# Spans and masking

A span marks the interior of a string value, `text[start:stop]`, by code point
positions. Masking replaces each span of a list by the mask text and keeps
everything between the spans.

* `Span` — a pair of positions.
* `Span.mask` — the text with each span replaced.
* `resolvePosition` — the position meant by an index that may count from the
  end of a text.

## References

`bodylog/redact/scanner.py` (`Edit`, `apply_edits`).
-/

namespace MaskedLog.Redact

/-- The interior `text[start:stop]` of a string value. -/
structure Span where
  start : Nat
  stop : Nat
  deriving DecidableEq, Repr

/-- The text that replaces a masked value. -/
def maskText : List Char := ['*', '*', '*']

/-- Replace each span of `spans` in `t` by `m`, reading `t` from position
`prev` on: the text from `prev` to a span's start is kept, the span is dropped,
and reading goes on at its stop. A span that starts before `prev` keeps nothing
in front of it. -/
def maskFrom (t : Array Char) (m : List Char) (prev : Nat) : List Span → List Char
  | [] => (t.extract prev t.size).toList
  | s :: rest => (t.extract prev s.start).toList ++ m ++ maskFrom t m s.stop rest

/-- `t` with each of `spans` replaced by `m`, spans taken in list order. -/
def Span.mask (t : List Char) (spans : List Span) (m : List Char := maskText) : List Char :=
  maskFrom t.toArray m 0 spans

/-- The position of `text[i]` in a text of length `len` when negative indexes
count from the end, clipped to `0 … len`. -/
def resolvePosition (len : Nat) (i : Int) : Nat :=
  if i < 0 then (len - i.natAbs) else min i.toNat len

@[simp] theorem maskFrom_nil (t : Array Char) (m : List Char) (prev : Nat) :
    maskFrom t m prev [] = t.toList.drop prev := by
  simp only [maskFrom, Array.toList_extract]
  exact List.take_of_length_le (by simp)

@[simp] theorem maskFrom_cons (t : Array Char) (m : List Char) (prev : Nat) (s : Span) (rest : List Span) :
    maskFrom t m prev (s :: rest) =
      (t.toList.drop prev).take (s.start - prev) ++ m ++ maskFrom t m s.stop rest := by
  simp [maskFrom]

@[simp] theorem Span.mask_nil (t m : List Char) : Span.mask t [] m = t := by
  simp [Span.mask]

end MaskedLog.Redact

import MaskedLog.Unicode.Lower
/-!
# The shadow of a text

Sensitive keys are matched case-insensitively by searching a lowercase copy of
the text, the shadow, and acting on the text at the same positions. That only
works if the shadow has the text's length, so when lowercasing the whole text
would change its length (U+0130 lowercases to two characters), the shadow is
built character by character instead and keeps each character whose lowercase
form is longer than one character. Built that way no context is seen, so a
capital sigma always becomes the medial `σ`.

* `shadow` — the shadow of a text.
* `length_shadow` — the shadow is exactly as long as the text.

## References

`bodylog/redact/scanner.py` (`shadow_copy`).
-/

namespace MaskedLog.Redact

open MaskedLog.Unicode

/-- The lowercase form of `c` if it is one character, else `c` itself. -/
def lowerOrKeep (c : Char) : Char :=
  match lowerFull c with
  | [d] => d
  | _ => c

/-- The lowercase copy of `t` that has `t`'s length. -/
def shadow (t : List Char) : List Char :=
  let l := lower t
  if l.length = t.length then l else t.map lowerOrKeep

theorem length_shadow (t : List Char) : (shadow t).length = t.length := by
  unfold shadow
  dsimp only
  split
  · assumption
  · simp

end MaskedLog.Redact

import MaskedLog.Redact.Span
import MaskedLog.Text.Find
/-!
# One pass of the field scan

A pass looks for every occurrence of one quoted key, `"name"`, in the shadow of
a text and, for each, for a string value after it: the first colon after the
key, then spaces and tabs, then a quote. The value runs to the first quote that
is not consumed by the backslash rule (a backslash consumes the next character
when there is one); a value with no closing quote is no value. Each value found
gives the span of its interior. Keys and values are not parsed beyond that, so
a key whose value is a number, an object or an unterminated string gives no span.

A key found inside the span just recorded, or at its opening quote, is no key:
masking removes it, so the search goes on after that span.

* `closingQuote` — where a string value ends.
* `valueAfter` — the span of the string value after a key.
* `indexIn` — where a key occurs.
* `pass` — all spans of one key, in order.

## References

`bodylog/redact/scanner.py` (`_FieldScan`, `RedactionScanner.find_spans`).
-/

namespace MaskedLog.Redact

open MaskedLog.Text

/-- The position of the quote that closes a string whose interior starts at
position `i` of `t`, by the backslash rule, or `none` if the text ends first. -/
def closingQuote (t : Array Char) (i : Nat) : Option Nat :=
  if h : i < t.size then
    if t[i] = '"' then some i
    else if t[i] = '\\' && i + 1 < t.size then closingQuote t (i + 2)
    else closingQuote t (i + 1)
  else none
termination_by t.size - i

/-- The first position at or after `i` of `t` that holds no space or tab. -/
def skipBlanks (t : Array Char) (i : Nat) : Nat :=
  if h : i < t.size then
    if t[i] = ' ' || t[i] = '\t' then skipBlanks t (i + 1) else i
  else i
termination_by t.size - i

/-- The span of the string value that follows a key ending at position `i` of
`t`: the first colon at or after `i`, blanks, then a terminated string. -/
def valueAfter (t : Array Char) (i : Nat) : Option Span :=
  match indexIn [':'] t i with
  | none => none
  | some k =>
    let open_ := skipBlanks t (k + 1)
    if t[open_]? = some '"' then (closingQuote t (open_ + 1)).map fun e => ⟨open_ + 1, e⟩
    else none

/-- The quoted form `"name"` of a key. -/
def quoted (name : List Char) : List Char := '"' :: name ++ ['"']

theorem length_quoted (name : List Char) : (quoted name).length = name.length + 2 := by
  simp [quoted]

/-- Where the search resumes when a key found at `pos` lies inside the last
recorded span or at its opening quote: after that span. -/
def resumeAfter (found : List Span) (pos : Nat) : Option Nat :=
  match found with
  | last :: _ => if last.start ≤ pos + 1 && pos < last.stop then some last.stop else none
  | [] => none

theorem lt_of_resumeAfter {found : List Span} {pos stop : Nat}
    (h : resumeAfter found pos = some stop) : pos < stop := by
  unfold resumeAfter at h
  split at h
  · split at h
    · rename_i hc
      cases h
      simp at hc
      omega
    · cases h
  · cases h

/-- Add the span `v`, if any, unless it repeats the last one: two keys before
one colon share their value. -/
def record (found : List Span) : Option Span → List Span
  | none => found
  | some s => if found.head? = some s then found else s :: found

set_option linter.unusedVariables false in
/-- The spans of the values of `"name"` in `t`, searching the shadow `sh` from
position `from_` on, after the spans `found` (newest first). -/
def passFrom (t sh : Array Char) (name : List Char) (from_ : Nat) (found : List Span) : List Span :=
  match h : indexIn (quoted name) sh from_ with
  | none => found.reverse
  | some pos =>
    match hr : resumeAfter found pos with
    | some stop => passFrom t sh name stop found
    | none =>
      let next := pos + (quoted name).length
      passFrom t sh name next (record found (valueAfter t next))
termination_by sh.size + 1 - from_
decreasing_by
  all_goals
    have hb := indexIn_bounds _ _ _ _ h
    simp only [length_quoted] at hb
  · have := lt_of_resumeAfter hr
    omega
  · simp only [length_quoted]
    omega

/-- The spans of the string values of the key `"name"` in `t`, in text order,
where `sh` is the shadow of `t`. -/
def pass (t sh name : List Char) : List Span := passFrom t.toArray sh.toArray name 0 []

end MaskedLog.Redact

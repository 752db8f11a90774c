import MaskedLog.Redact.Scan
import MaskedLog.Redact.Shadow
import MaskedLog.Redact.Field
import MaskedLog.Value.Text
/-!
# The redaction scanner

A scanner holds the sensitive field names in order. Redacting a text runs one
pass per name, in that order, and masks all the spans of a pass at once before
the next pass looks at the masked text (through a new shadow). Redaction never
fails: an occurrence that does not fit the shape of a key and a string value is
left as it is.

* `Scanner` — the field names.
* `Scanner.redactChars`, `Scanner.redact` — the masked text.
* `findSpans` — the spans a single pass for one name finds.

## References

`bodylog/redact/scanner.py` (`RedactionScanner`, `redact`).
-/

namespace MaskedLog.Redact

open MaskedLog.Unicode

/-- A redaction scanner: sensitive field names, trimmed, lowercase, each once. -/
structure Scanner where
  fields : List String
  deriving Repr

/-- The scanner for the default field names. -/
def Scanner.default : Scanner := ⟨defaultFields⟩

/-- The scanner for the names a value gives. -/
def Scanner.ofValue (v : Value) : Except Failure Scanner := Scanner.mk <$> normalizeFields v

/-- One pass for `name` applied to a text and its shadow: the masked text and its
new shadow, or both unchanged when the pass finds nothing. -/
def maskPass (ts : List Char × List Char) (name : List Char) : List Char × List Char :=
  let spans := pass ts.1 ts.2 name
  if spans.isEmpty then ts
  else
    let t := Span.mask ts.1 spans
    (t, shadow t)

/-- The text with the string values of the names' keys masked, one name after
another. -/
def redactNames (names : List (List Char)) (t : List Char) : List Char :=
  (names.foldl maskPass (t, shadow t)).1

/-- The scanner's redaction of a text. -/
def Scanner.redactChars (sc : Scanner) (t : List Char) : List Char :=
  redactNames (sc.fields.map String.toList) t

/-- The scanner's redaction of a string. -/
def Scanner.redact (sc : Scanner) (t : String) : String :=
  String.ofList (sc.redactChars t.toList)

/-- The spans a single pass for `field` finds in `t`; the field is lowercased
but not otherwise checked. -/
def findSpans (t field : String) : List Span :=
  let cs := t.toList
  pass cs (shadow cs) (lower field.toList)

/-- How a scanner presents itself: `RedactionScanner(fields=['a', 'b'])`. -/
def Scanner.describe (sc : Scanner) : String :=
  "RedactionScanner(fields=" ++ (Value.list (sc.fields.map .str)).quoted ++ ")"

end MaskedLog.Redact

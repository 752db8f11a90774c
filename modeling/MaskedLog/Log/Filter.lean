import MaskedLog.Log.Record
import MaskedLog.Redact.Scanner
/-!
# The masking filter

A filter on a logger or handler masks sensitive values in every record that
passes, and lets every record pass. It masks the template when it is a
non-empty text, every text argument (by position or by key), and the extra
fields `params` and `response_body` when they are non-empty texts. Other
values are left as they are.

## Main definitions

* `bodyFields` — the extra fields that carry bodies.
* `maskRecord` — a record after the filter.

## References

`bodylog/redact/filter.py` (`RedactingFilter`, `add_redacting_filter`).
-/

namespace MaskedLog.Log

open MaskedLog.Redact

/-- The extra fields that carry captured bodies. -/
def bodyFields : List String := ["params", "response_body"]

/-- A value masked if it is a text. -/
def maskText (sc : Scanner) : Value → Value
  | .str s => .str (sc.redact s)
  | v => v

/-- A value masked if it is a non-empty text. -/
def maskNonEmpty (sc : Scanner) : Value → Value
  | .str s => if s.isEmpty then .str s else .str (sc.redact s)
  | v => v

/-- The arguments after the filter: a mapping keeps its keys, anything else
becomes a tuple of its items. -/
def maskArgs (sc : Scanner) (args : Value) : Value :=
  if !args.truthy then args
  else match args with
    | .dict es => .dict (es.map fun (k, v) => (k, maskText sc v))
    | a => match a.items? with
      | some xs => .tuple (xs.map (maskText sc))
      | none => a

/-- A record after the masking filter. -/
def maskRecord (sc : Scanner) (r : LogRecord) : LogRecord :=
  { r with msg := maskNonEmpty sc r.msg, args := maskArgs sc r.args,
           extras := r.extras.map fun (k, v) => if bodyFields.contains k then (k, maskNonEmpty sc v) else (k, v) }

end MaskedLog.Log

import MaskedLog.Redact.Scan
/-!
# A field pass as a loop over states

A pass for one key runs as a loop over named states, one handler step at a
time: find the key in the shadow, find the colon after it in the text, skip
blanks, read a string value to its closing quote, then record the value's
interior or give the occurrence up. The loop stops in `done`, when the key
occurs no more. A cursor record carries where the key search resumes, the
position being read, where the current value opens and where its loop stopped,
and the spans recorded so far, newest first.

`pass` gives the same spans by one recursion over the occurrences of the key;
this is the same pass written as the loop of handlers, step by step.

* `ScanState` — the states of a pass.
* `ScanCursor` — the cursor record.
* `stringEnd` — where the loop over a string value stops.
* `scanStep` — one handler step.
* `scanStart`, `scanRun` — where every pass starts, and where it stands after
  some steps.

## References

`bodylog/redact/scanner.py` (`ScanState`, `_FieldScan`).
-/

namespace MaskedLog.Redact

open MaskedLog.Text

/-- The states of one field pass. -/
inductive ScanState where
  | seekField
  | seekColon
  | skipWhitespace
  | seekStringValueEnd
  | skipNonString
  | replaceOrSkip
  | done
  deriving DecidableEq, Repr

/-- The cursor record of one field pass. -/
structure ScanCursor where
  /-- Where the next search for the key starts, in the shadow. -/
  searchFrom : Nat
  /-- The position being read in the text. -/
  cursor : Nat
  /-- The opening quote of the current string value. -/
  valueStart : Nat
  /-- Where the loop over the current string value stopped. -/
  valueEnd : Nat
  /-- The spans recorded so far, newest first. -/
  edits : List Span
  deriving DecidableEq, Repr

/-- Where the loop over a string value read from position `i` stops: at the
first quote that no backslash consumes, or at the end of the text. A backslash
consumes the next character when there is one. -/
def stringEnd (t : Array Char) (i : Nat) : Nat :=
  if h : i < t.size then
    if t[i] = '"' then i
    else if t[i] = '\\' && i + 1 < t.size then stringEnd t (i + 2)
    else stringEnd t (i + 1)
  else i
termination_by t.size - i

/-- One handler step of a pass for `token` over the text `t`, whose shadow is
`sh`. -/
def scanStep (t sh : Array Char) (token : List Char) : ScanState × ScanCursor → ScanState × ScanCursor
  | (.seekField, c) =>
    match indexIn token sh c.searchFrom with
    | none => (.done, c)
    | some pos =>
      match resumeAfter c.edits pos with
      | some stop => (.seekField, { c with searchFrom := stop })
      | none =>
        (.seekColon, { c with searchFrom := pos + token.length, cursor := pos + token.length })
  | (.seekColon, c) =>
    match indexIn [':'] t c.cursor with
    | none => (.seekField, c)
    | some k => (.skipWhitespace, { c with cursor := k + 1 })
  | (.skipWhitespace, c) =>
    let i := skipBlanks t c.cursor
    if t[i]? = some '"' then (.seekStringValueEnd, { c with cursor := i, valueStart := i })
    else (.skipNonString, { c with cursor := i })
  | (.seekStringValueEnd, c) =>
    (.replaceOrSkip, { c with valueEnd := stringEnd t (c.valueStart + 1) })
  | (.skipNonString, c) => (.seekField, c)
  | (.replaceOrSkip, c) =>
    -- a string with no closing quote is no value
    if c.valueEnd < t.size then
      (.seekField, { c with edits := record c.edits (some ⟨c.valueStart + 1, c.valueEnd⟩) })
    else (.seekField, c)
  | (.done, c) => (.done, c)

/-- Where every pass starts: looking for the key from the start of the text,
with no span recorded. -/
def scanStart : ScanState × ScanCursor := (.seekField, ⟨0, 0, 0, 0, []⟩)

/-- The state of a pass after `k` handler steps. Once `done`, it stays there. -/
def scanRun (t sh : Array Char) (token : List Char) : Nat → ScanState × ScanCursor
  | 0 => scanStart
  | k + 1 => scanStep t sh token (scanRun t sh token k)

end MaskedLog.Redact

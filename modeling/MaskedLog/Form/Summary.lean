import MaskedLog.Form.Params
import MaskedLog.Form.Reader
import MaskedLog.Redact.Scanner
import MaskedLog.Text.Codec
import MaskedLog.Text.Utf8
/-!
# The summary of a form

A multipart form is logged as a summary of its parts, without file contents:
each text field as `"key[i]":` followed by the redaction of `"key":"value"`,
each file as `"key[i]":"file: name (size bytes)"`, where `i` counts the parts
of that name among fields and among files separately. Fields come first, then
files, each in body order, joined by `, ` inside braces.

The parts come from a form reader, the web framework's, taken here as a
parameter (`FormReader`): it gives the parts in body order, or a problem that
makes the body no form, or a failure of its own. The summary turns a problem
into a fixed error text, and passes a failure on.

The framework's reader (`collectForm`) collects the parts from the events of
the multipart reader. A part needs a
`Content-Disposition` header with a `name`; with a `filename` it is a file. Text
is decoded with the codec the form's charset names (UTF-8 by default), falling
back to Latin-1 when the codec rejects the bytes or the name finds no codec. A form with
a missing boundary or name, more than 1000 fields or files, or a field over
1 MiB cannot be summarised, which gives a fixed error text; a body the reader
cannot read is a failure. Only parts that end are counted.

* `FormEntry`, `FormReader` — the parts of a body, and what reads them.
* `collectForm` — the framework's reader.
* `summarize`, `formSummary` — the summary text.

## References

`bodylog/content.py` (`multipart_summary`); Starlette's `MultiPartParser` and
the python-multipart reader under it.
-/

namespace MaskedLog.Form

open MaskedLog.Text MaskedLog.Unicode MaskedLog.Redact

/-- A part of a form: a text field, or a file with its name and size. -/
inductive FormEntry where
  | field (value : String)
  | file (filename : String) (size : Nat)
  deriving Repr, DecidableEq

/-- Why a form cannot be summarised. -/
inductive FormProblem where
  | noBoundary
  | noName
  | tooManyFiles
  | tooManyFields
  | partTooLarge
  deriving Repr, DecidableEq

/-- The text of bytes read one character per byte. -/
def latin1 (bs : List UInt8) : String := String.ofList (bs.map fun b => Char.ofNat b.toNat)

/-- The bytes of a text whose characters are all below 256. -/
def latin1Bytes (s : String) : List UInt8 := s.toList.map fun c => UInt8.ofNat c.toNat

/-- Bytes decoded with the codec a charset names, or as Latin-1 when the name
finds no text codec or the codec rejects the bytes. A name holding a NUL
character, and a codec that fails outright, are failures; no bytes are the
empty text whatever the name (bar a NUL). -/
def decodeCharset (charset : String) (bs : List UInt8) : Except Failure String :=
  if charset.contains '\x00' then .error (.badValue "embedded null character")
  else if bs.isEmpty then .ok ""
  else
    match findCodec charset with
    | none => .ok (latin1 bs)
    | some codec =>
      match codec.decode bs with
      | .ok s => .ok s
      | .error .rejected => .ok (latin1 bs)
      | .error .broken => .error .codecFailed

/-- The most fields and the most files a form may have. -/
def maxParts : Nat := 1000

/-- The largest field, in bytes. -/
def maxFieldSize : Nat := 1024 * 1024

/-- The part being read. -/
structure PartState where
  disposition : Option (List UInt8) := none
  name : String := ""
  data : Array UInt8 := #[]
  file : Option (String × Nat) := none

/-- The collector's state: the entries so far (newest first), the header being
read, the part being read and the counts of files and fields. -/
structure Collector where
  entries : List (String × FormEntry) := []
  headerName : List UInt8 := []
  headerValue : List UInt8 := []
  part : PartState := {}
  files : Nat := 0
  fields : Nat := 0

/-- The bytes of a range of the body. -/
def slice (body : Array UInt8) (start stop : Nat) : Array UInt8 := body.extract start stop

/-- The collector after one event. -/
def Collector.feed (charset : String) (body : Array UInt8) (c : Collector) :
    FormEvent → Except (Sum FormProblem Failure) Collector
  | .partBegin => .ok { c with part := {} }
  | .headerField s e => .ok { c with headerName := c.headerName ++ (slice body s e).toList }
  | .headerValue s e => .ok { c with headerValue := c.headerValue ++ (slice body s e).toList }
  | .headerEnd =>
    let name := c.headerName.map fun b => if 65 ≤ b.toNat && b.toNat ≤ 90 then b + 32 else b
    let part := if name == latin1Bytes "content-disposition" then
      { c.part with disposition := some c.headerValue } else c.part
    .ok { c with part := part, headerName := [], headerValue := [] }
  | .headersFinished => do
    let (_, opts) ← match parseOptions (latin1 (c.part.disposition.getD [])) with
      | .ok r => pure r
      | .error f => throw (.inr f)
    let some name := lookupLast opts "name" | throw (.inl .noName)
    let fieldName ← (decodeCharset charset (latin1Bytes name)).mapError .inr
    match lookupLast opts "filename" with
    | some fname =>
      if c.files + 1 > maxParts then throw (.inl .tooManyFiles)
      let file := (← (decodeCharset charset (latin1Bytes fname)).mapError .inr, 0)
      return { c with files := c.files + 1, part := { c.part with name := fieldName, file := some file } }
    | none =>
      if c.fields + 1 > maxParts then throw (.inl .tooManyFields)
      return { c with fields := c.fields + 1, part := { c.part with name := fieldName, file := none } }
  | .partData s e =>
    match c.part.file with
    | some (fname, size) => .ok { c with part := { c.part with file := some (fname, size + (e - s)) } }
    | none =>
      if c.part.data.size + (e - s) > maxFieldSize then .error (.inl .partTooLarge)
      else .ok { c with part := { c.part with data := c.part.data ++ slice body s e } }
  | .partEnd => do
    let entry ← match c.part.file with
      | some (fname, size) => pure (FormEntry.file fname size)
      | none => (decodeCharset charset c.part.data.toList).mapError .inr |>.map .field
    return { c with entries := (c.part.name, entry) :: c.entries }
  | .finish => .ok c

/-- A form reader: the parts of a multipart body with a content type, in body
order; a problem that makes the body no form (`inl`), or a failure of the
reader (`inr`). -/
abbrev FormReader := String → List UInt8 → Except (Sum FormProblem Failure) (List (String × FormEntry))

/-- The parts of a multipart body with the given content type, in body order:
a problem that prevents a summary, or a failure. -/
def collectForm (contentType : String) (body : List UInt8) :
    Except (Sum FormProblem Failure) (List (String × FormEntry)) := do
  let (_, params) ← match parseOptions contentType with
    | .ok r => pure r
    | .error f => throw (.inr f)
  let charset := (lookupLast params "charset").getD "utf-8"
  let some boundary := lookupLast params "boundary" | throw (.inl .noBoundary)
  let (events, err) := readForm (latin1Bytes boundary) body
  let data := body.toArray
  let c ← events.foldlM (Collector.feed charset data) {}
  match err with
  | some msg => throw (.inr (.badForm msg))
  | none => return c.entries.reverse

/-- The text logged for a form that cannot be summarised. -/
def formErrorText : String := "\x7b\"error\": \"unable to parse form data\"\x7d"

/-- Number the entries of each name from zero, in order. -/
def numberEntries (es : List (String × α)) : List (String × Nat × α) :=
  (es.foldl (fun (acc : List (String × Nat × α) × List (String × Nat)) (k, v) =>
    let n := (acc.2.lookup k).getD 0
    ((k, n, v) :: acc.1, (k, n + 1) :: acc.2.filter (·.1 != k))) ([], [])).1.reverse

/-- The summary entry of a text field. -/
def fieldEntry (sc : Scanner) (key : String) (i : Nat) (value : String) : String :=
  "\"" ++ key ++ "[" ++ toString i ++ "]\":" ++ sc.redact ("\"" ++ key ++ "\":\"" ++ value ++ "\"")

/-- The summary entry of a file. -/
def fileEntry (key : String) (i : Nat) (filename : String) (size : Nat) : String :=
  "\"" ++ key ++ "[" ++ toString i ++ "]\":\"file: " ++ filename ++ " (" ++ toString size ++ " bytes)\""

/-- The summary of form entries: fields first, then files, each numbered by name. -/
def summarize (sc : Scanner) (entries : List (String × FormEntry)) : String :=
  let fields := entries.filterMap fun
    | (k, .field v) => some (k, v)
    | _ => none
  let files := entries.filterMap fun
    | (k, .file n s) => some (k, (n, s))
    | _ => none
  let parts := (numberEntries fields).map (fun (k, i, v) => fieldEntry sc k i v) ++
    (numberEntries files).map (fun (k, i, f) => fileEntry k i f.1 f.2)
  if parts.isEmpty then "\x7b\x7d" else "\x7b" ++ ", ".intercalate parts ++ "\x7d"

/-- The logged summary of a multipart body read by `read`, or a failure when
the reader fails. -/
def formSummary (read : FormReader) (sc : Scanner) (contentType : String) (body : List UInt8) :
    Except Failure String :=
  match read contentType body with
  | .ok entries => .ok (summarize sc entries)
  | .error (.inl _) => .ok formErrorText
  | .error (.inr f) => .error f

end MaskedLog.Form

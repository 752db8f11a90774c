import MaskedLog.Redact.Scanner
import MaskedLog.Text.Find
import MaskedLog.Text.Utf8
import MaskedLog.Value.Compare
import MaskedLog.Unicode.Upper
/-!
# Which bodies are logged

Uploads and binary media are not logged: a body is skipped when its content
type contains one of the skipped types (taken in order; an item that is no
text cannot be looked for in a text and fails the test when it is reached), or
when it looks binary, meaning that
it is longer than a minimum number of UTF-8 bytes and the share of its
characters outside ASCII, counted against its bytes, exceeds a ratio. A request
without a body to speak of (`GET`) logs its query text instead of its body.

* `defaultSkippedTypes` — uploads, streams, images, audio, video, archives.
* `isSkippedContentType`, `looksBinary`, `shouldLogBody`.
* `isMultipart` — whether a content type announces a multipart form.
* `requestParams` — the query of a `GET`, else the redacted body.

The binary test takes its text as code points, since a lone surrogate counts
the three bytes of its number.

## References

`bodylog/content.py` (`is_skipped_content_type`, `looks_binary`,
`should_log_body`, `is_multipart`, `extract_params`).
-/

namespace MaskedLog.Body

open MaskedLog.Unicode MaskedLog.Text MaskedLog.Redact

/-- Content types whose bodies are not logged, matched as parts of the lowercase
content type. -/
def defaultSkippedTypes : List String :=
  ["multipart/form-data", "application/octet-stream", "image/", "video/", "audio/",
   "application/pdf", "application/zip", "application/gzip"]

/-- Whether the content type holds one of the skipped types, tried in order. A
missing or empty content type holds none. Only a text can be looked for in a
text: an item of another kind reached before a match fails. -/
def isSkippedContentType (contentType : Option String) (skipped : List Value) :
    Except Failure Bool :=
  match contentType with
  | none => .ok false
  | some ct =>
    if ct.isEmpty then .ok false
    else skipped.anyM fun
      | .str t => .ok (contains (lowerString ct) t)
      | _ => .error .wrongType

/-- The number of code points of `t` outside ASCII. -/
def nonAsciiCount (t : List CodePoint) : Nat := (t.filter (·.val > 127)).length

/-- Whether a text looks binary: more UTF-8 bytes than `minLength`, and the
non-ASCII characters per byte, as a double, above `ratio`. Both bounds must be
numbers; an empty text with a negative minimum divides by zero. -/
def looksBinary (t : List CodePoint) (ratio minLength : Value) : Except Failure Bool := do
  let bytes := (encodePassing t).length
  if ← Value.le (.int bytes) minLength then return false
  if bytes = 0 then throw .zeroDivision
  let share := Binary64.ofQuotient (nonAsciiCount t) bytes
  Value.lt ratio (.float share)

/-- Whether a body is logged: its content type is not skipped and it does not
look binary. -/
def shouldLogBody (contentType : Option String) (t : List CodePoint) (skipped : List Value)
    (ratio minLength : Value) : Except Failure Bool := do
  if ← isSkippedContentType contentType skipped then return false
  (!·) <$> looksBinary t ratio minLength

/-- Whether a content type announces a multipart form. -/
def isMultipart (contentType : Option String) : Bool :=
  match contentType with
  | none => false
  | some ct => contains (lowerString ct) "multipart/form-data"

/-- Whether a method is `GET` in any letter case. -/
def isGet (method : String) : Bool := upperString method == "GET"

/-- What a request logs as its parameters: the query of a `GET`, else the body
with its sensitive values masked. -/
def requestParams (method query body : String) (sc : Scanner) : String :=
  if isGet method then query else sc.redact body

end MaskedLog.Body

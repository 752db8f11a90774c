import MaskedLog.Value.Text
/-!
# Failures

What can go wrong, as a value. A *report* is a failure the library raises on
purpose, with a message and named context values; its text is the message
followed by the context in parentheses, `message (k1=v1, k2=v2)`, each value in
display form. The other failures are faults of a kind: a value of the wrong
type, a missing key, a number out of range, undecodable bytes.

* `ReportKind`, `Report`, `Report.text`.
* `Failure` — a report or a fault.

## References

`bodylog/exceptions.py` (`BodyLogError`, `ConfigError`, `CaptureError`) and
`bodylog/size.py` (`InvalidSizeError`).
-/

namespace MaskedLog

/-- The kind of a report: a setting, a size within the settings, reading a
stream, or none of these. -/
inductive ReportKind where
  | general
  | config
  | capture
  | size
  deriving DecidableEq, Repr

/-- Whether reports of this kind are about the settings. -/
def ReportKind.isConfig : ReportKind → Bool
  | .config | .size => true
  | _ => false

/-- A failure raised on purpose: its kind, message and context. -/
structure Report where
  kind : ReportKind
  message : String
  context : List (String × Value) := []
  deriving Repr

/-- The text of a report: the message, and the context in parentheses. -/
def Report.text (r : Report) : String :=
  if r.context.isEmpty then r.message
  else
    r.message ++ " (" ++ ", ".intercalate (r.context.map fun (k, v) => k ++ "=" ++ v.display) ++ ")"

/-- Why an operation failed. -/
inductive Failure where
  /-- A report raised on purpose. -/
  | report (r : Report)
  /-- A value of a type the operation cannot take. -/
  | wrongType
  /-- A mapping lacks a key the operation reads. -/
  | missingKey
  /-- A number too large for a double. -/
  | overflow
  /-- A division by zero. -/
  | zeroDivision
  /-- Bytes that are not UTF-8. -/
  | badUtf8
  /-- Text with a character that the required encoding cannot write. -/
  | unencodable
  /-- A value lacks an operation that was applied to it. -/
  | noAttribute
  /-- A value outside what an operation accepts, with a message. -/
  | badValue (message : String)
  /-- An index past the end of a sequence. -/
  | outOfRange
  /-- A text codec failed other than by rejecting its input. -/
  | codecFailed
  /-- A time whose year the system calendar cannot hold. -/
  | yearOverflow
  /-- A text too long to hold in memory. -/
  | outOfMemory
  /-- Data nested deeper than the reader's call stack allows. -/
  | tooDeep
  /-- The operating system refused a request. -/
  | systemRefused
  /-- Malformed multipart form data, with the parser's message. -/
  | badForm (message : String)
  /-- The application failed with a message. -/
  | appFailed (message : String)
  /-- Receiving a message failed, with the transport's message. -/
  | receiveFailed (message : String)
  deriving Repr

/-- A report about the settings. -/
def Failure.config (message : String) (context : List (String × Value) := []) : Failure :=
  .report ⟨.config, message, context⟩

/-- A report about a size setting. -/
def Failure.size (message : String) (context : List (String × Value) := []) : Failure :=
  .report ⟨.size, message, context⟩

end MaskedLog

import MaskedLog.Log.Format
import MaskedLog.Log.Filter
/-!
# Handler setup

Setting up logging for a logger name sets the logger's level (a level setting,
see `parseLevel`), replaces the handler an earlier setup installed on it (other
handlers stay) with one writing to a fresh stream in the JSON or console
layout, and, unless told otherwise, puts the masking filter on that handler.

Records logged on the logger reach the stream when their level is above zero
and at least the logger's effective level: its own when set, else that of the
nearest set ancestor (`a` for `a.b`), else `WARNING`. A record is masked, then
formatted; a record that cannot be formatted writes nothing. Each record
written ends with a line break; the stream's text is read back as lines.

## Main definitions

* `Emission`, `SetupCall` — what a caller sets up and logs.
* `runSetups` — a sequence of setups with what each stream received.

## References

`bodylog/log/__init__.py` (`setup_logging`) and the handler lookup of Python's
`logging`.
-/

namespace MaskedLog.Log

open MaskedLog.Redact

/-- A record a caller logs. -/
structure Emission where
  level : Int := infoLevel
  msg : Value
  args : Value := .tuple []
  extras : List (String × Value) := []

/-- One setup and the records logged after it. -/
structure SetupCall where
  name : String := "bodylog"
  level : Value := .str "info"
  /-- `console`, or anything else for JSON lines. -/
  layout : Value := .str "json"
  mask : Bool := true
  scanner : Scanner := Scanner.default
  /-- A handler installed on the logger by someone else before the setup. -/
  foreignHandler : Bool := false
  created : Value
  records : List Emission := []

/-- What setup leaves on a logger: its level, and its handlers. -/
structure LoggerState where
  level : Value := .int 0
  foreign : Nat := 0
  installed : Bool := false

/-- What one setup reports: the logger's level, its number of handlers and the
lines its stream received. -/
structure SetupReport where
  level : Value
  handlers : Nat
  lines : List String

/-- A level value as a number. -/
def levelNumber : Value → Int
  | .int n => n
  | .bool b => if b then 1 else 0
  | _ => 0

/-- The ancestors of a logger name, nearest first: `a.b` for `a.b.c`, then `a`. -/
def ancestors (name : String) : List String :=
  let parts := name.splitOn "."
  (List.range (parts.length - 1)).reverse.map fun k => ".".intercalate (parts.take (k + 1))

/-- The effective level of a logger. -/
def effectiveLevel (loggers : List (String × LoggerState)) (name : String) : Int :=
  let set := (name :: ancestors name).filterMap fun n =>
    (loggers.lookup n).bind fun s => if levelNumber s.level ≠ 0 then some (levelNumber s.level) else none
  set.headD 30

/-- Line breaks that end a line when a text is read back as lines. -/
def isLineBreak (c : Char) : Bool :=
  c = '\n' || c = '\r' || c = '\x0b' || c = '\x0c' || c = '\x1c' || c = '\x1d' || c = '\x1e' ||
    c = '\x85' || c = '\u2028' || c = '\u2029'

/-- The lines of a text: split at line breaks (`\r\n` is one), no empty line
after a final break. -/
def splitLines (s : String) : List String :=
  let rec go : List Char → List Char → List String
    | [], acc => if acc.isEmpty then [] else [String.ofList acc.reverse]
    | '\r' :: '\n' :: rest, acc => String.ofList acc.reverse :: go rest []
    | c :: rest, acc => if isLineBreak c then String.ofList acc.reverse :: go rest [] else go rest (c :: acc)
  go s.toList []

/-- The line of one record through the installed handler, if it writes one. -/
def handlerLine (call : SetupCall) (r : LogRecord) : Option String :=
  let r := if call.mask then maskRecord call.scanner r else r
  let line := if call.layout.same (.str "console") then ConsoleLayout.format {} r
    else JsonLayout.format {} r
  match line with
  | .ok t => some t
  | .error _ => none

/-- Run one setup on the loggers: the loggers afterwards and the report. -/
def runSetup (loggers : List (String × LoggerState)) (call : SetupCall) :
    Except Failure (List (String × LoggerState) × SetupReport) := do
  let old := (loggers.lookup call.name).getD {}
  let foreign := old.foreign + (if call.foreignHandler then 1 else 0)
  let level ← parseLevel call.level
  let state : LoggerState := { level, foreign, installed := true }
  let loggers := (call.name, state) :: loggers.filter (·.1 != call.name)
  let threshold := effectiveLevel loggers call.name
  let text ← call.records.foldlM (fun (out : String) e => do
    if e.level ≤ 0 || e.level < threshold then return out
    let r ← makeRecord call.name e.level e.msg e.args call.created none e.extras
    match handlerLine call r with
    | some line => return out ++ line ++ "\n"
    | none => return out) ""
  return (loggers, ⟨level, foreign + 1, splitLines text⟩)

/-- Run setups in order on the same loggers. -/
def runSetups (calls : List SetupCall) : Except Failure (List SetupReport) :=
  let step (acc : List (String × LoggerState) × List SetupReport) (call : SetupCall) := do
    let (loggers, report) ← runSetup acc.1 call
    return (loggers, report :: acc.2)
  (fun acc => acc.2.reverse) <$> calls.foldlM step ([], [])

end MaskedLog.Log

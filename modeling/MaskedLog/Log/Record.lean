import MaskedLog.Failure
import MaskedLog.Log.Level
import MaskedLog.Log.Percent
import MaskedLog.Log.Time
/-!
# Log records

A record carries a logger name, a level, a message template with its
arguments, its creation time, the text of an attached failure if any, and
extra fields given by the caller. The arguments are a tuple, or a mapping for
templates with keyed conversions; a tuple holding one non-empty mapping stands
for that mapping. A record cannot be made with an extra field that has the name
of one of its own attributes (or `message`, `asctime`), nor with a mapping of
exactly one entry as its arguments (the entry would be looked up as item `0`),
nor with a non-zero number as its arguments (it has no length).

The record's message is its template, shown as text, filled with its
arguments when there are any.

## Main definitions

* `LogRecord`, `makeRecord`.
* `LogRecord.message` — the filled template.
* `LogRecord.extraFields` — the extra fields a formatter shows.
* `LogRecord.attributes` — every attribute, for a line template.

## References

Python's `logging.LogRecord` and `Logger.makeRecord`; `record_extras` of
`bodylog/log/formatters.py`.
-/

namespace MaskedLog.Log

/-- A log record. -/
structure LogRecord where
  name : String
  level : Int
  /-- The message template, of any type; it is shown as text. -/
  msg : Value
  /-- The arguments: a tuple, or a mapping. -/
  args : Value
  /-- Seconds since the epoch, an integer or a double. -/
  created : Value
  /-- The message of the failure attached to the record, if any. -/
  failure : Option String := none
  /-- Extra fields, in order. -/
  extras : List (String × Value) := []
  deriving Repr

/-- The attributes every record has. -/
def recordAttributes : List String :=
  ["name", "msg", "args", "levelname", "levelno", "pathname", "filename", "module", "exc_info",
    "exc_text", "stack_info", "lineno", "funcName", "created", "msecs", "relativeCreated",
    "thread", "threadName", "processName", "process"]

/-- Names no extra field may take. -/
def reservedNames : List String := recordAttributes ++ ["message", "asctime"]

/-- The arguments a record keeps. Arguments that count as true are measured,
so a true number cannot be arguments. -/
def recordArgs (args : Value) : Except Failure Value :=
  match args with
  | .int _ | .float _ | .bool _ => if args.truthy then .error .wrongType else .ok args
  | .tuple [m@(.dict (_ :: _))] => .ok m
  | .dict [(k, v)] =>
    if k.same (.int 0) then
      match v with
      | .dict (_ :: _) => .ok v
      | _ => .ok args
    else .error .missingKey
  | a => .ok a

/-- Make a record, refusing extra fields with reserved names. -/
def makeRecord (name : String) (level : Int) (msg args created : Value)
    (failure : Option String) (extras : List (String × Value)) : Except Failure LogRecord := do
  let args ← recordArgs args
  if extras.any (fun e => reservedNames.contains e.1) then throw .missingKey
  return { name, level, msg, args, created, failure, extras }

/-- The message of a record: its template as text, filled with the arguments
when there are any. -/
def LogRecord.message (r : LogRecord) : Except FormatError String :=
  if r.args.truthy then percentFormat r.msg.display r.args else .ok r.msg.display

/-- The extra fields a formatter shows: those not starting with `_`, in order. -/
def LogRecord.extraFields (r : LogRecord) : List (String × Value) :=
  r.extras.filter fun e => !e.1.startsWith "_" && e.1 != "taskName"

/-- The text of the failure attached to a record: its kind and message. -/
def failureLine (message : String) : String :=
  if message.isEmpty then "ValueError" else "ValueError: " ++ message

/-- The failure a record carries, as the attribute shows it: its kind, the
failure itself and no traceback. -/
def failureInfo (message : String) : Value :=
  let shown := "(<class 'ValueError'>, ValueError(" ++ (Value.str message).quoted ++ "), None)"
  .foreign "tuple" shown shown true

/-- Every attribute of a record as a mapping, with the message and, when
given, the console stamp. -/
def LogRecord.attributes (r : LogRecord) (message : String) (asctime : Option String) : Value :=
  let millis := match millisOf r.created with
    | .ok n => Value.float (Binary64.ofInt n)
    | .error _ => .float (Binary64.zero false)
  let base : List (String × Value) :=
    [("name", .str r.name), ("msg", r.msg), ("args", r.args), ("levelname", .str (levelName r.level)),
      ("levelno", .int r.level), ("pathname", .str "test.py"), ("filename", .str "test.py"),
      ("module", .str "test"), ("exc_info", match r.failure with
        | some m => failureInfo m
        | none => .none),
      ("exc_text", .none), ("stack_info", .none), ("lineno", .int 1), ("funcName", .none),
      ("created", r.created), ("msecs", millis), ("threadName", .str "MainThread"),
      ("processName", .str "MainProcess")] ++ r.extras ++ [("message", .str message)] ++
    (match asctime with
      | some t => [("asctime", .str t)]
      | none => [])
  .dict (base.map fun (k, v) => (.str k, v))

end MaskedLog.Log

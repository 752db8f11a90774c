import MaskedLog.Log.Record
import MaskedLog.Log.Json
import MaskedLog.Unicode.Digit
import MaskedLog.Unicode.Printable
import MaskedLog.Unicode.Alnum
import MaskedLog.Unicode.Blank
import MaskedLog.Text.Find
/-!
# Log lines

Two layouts turn a record into a line.

The JSON layout writes one object: `timestamp` (ISO, `unix` for the number
itself, `epoch` for its whole part), `level`, `logger`, `message`, then the
extra fields (a value without JSON text is written as its display text), then
`exception` when a failure is attached, then the layout's own fixed fields,
which replace fields of the same name. When the message cannot be filled, or a
fixed field has no JSON text, the line is instead an object with the
timestamp, level, logger, the unfilled template and the error.

The console layout fills a line template (by default
`%(asctime)s %(levelname)s %(name)s %(message)s`) with the record's attributes,
adds the failure on the next line, and writes the extra fields as `[key:value]`
after the first line. A template must contain at least one keyed conversion.

## Main definitions

* `JsonLayout`, `JsonLayout.format`.
* `ConsoleLayout`, `ConsoleLayout.make`, `ConsoleLayout.format`.

## References

`bodylog/log/formatters.py` (`JSONFormatter`, `ConsoleFormatter`).
-/

namespace MaskedLog.Log

open MaskedLog.Unicode MaskedLog.Text

/-! ### JSON lines -/

/-- The settings of the JSON layout. -/
structure JsonLayout where
  /-- `iso`, `unix` or `epoch`; anything else is `iso`. -/
  timestampFormat : String := "iso"
  /-- Indent the object by two spaces a level. -/
  pretty : Bool := false
  /-- Fields added to every line: a mapping, or a sequence of key and value
pairs; a value that counts as false adds none. -/
  customFields : Value := .dict []

/-- Set a field of a mapping: replaced in place, or added at the end. -/
def putField (es : List (Value × Value)) (k : Value) (v : Value) : List (Value × Value) :=
  if es.any (fun e => e.1.same k) then es.map fun e => if e.1.same k then (e.1, v) else e
  else es ++ [(k, v)]

/-- The first item of a value that cannot be a mapping key (a list, a mapping,
or one inside a tuple), if any, by its type name. -/
def unhashablePart : Value → Option String
  | .list _ => some "list"
  | .dict _ => some "dict"
  | .tuple xs => xs.attach.findSome? fun ⟨x, _⟩ => unhashablePart x
  | _ => none

/-- Set a field, refusing a key that cannot be a mapping key. -/
def putHashable (es : List (Value × Value)) (k v : Value) : Except String (List (Value × Value)) :=
  match unhashablePart k with
  | some t => .error ("unhashable type: '" ++ t ++ "'")
  | none => .ok (putField es k v)

/-- The key and value an item of an update sequence gives: the item must be
walkable and hold exactly two items. -/
def updatePair (i : Nat) (item : Value) : Except String (Value × Value) :=
  match item.items? with
  | none => .error ("cannot convert dictionary update sequence element #" ++ toString i ++
      " to a sequence")
  | some [k, v] => .ok (k, v)
  | some xs => .error ("dictionary update sequence element #" ++ toString i ++ " has length " ++
      toString xs.length ++ "; 2 is required")

/-- Fields updated from a value, as a mapping update: by the entries of a
mapping, or by the pairs that the items of a walkable value give, in order. -/
def updateFields (data : List (Value × Value)) (src : Value) :
    Except String (List (Value × Value)) :=
  match src with
  | .dict es => es.foldlM (fun d (k, v) => putHashable d k v) data
  | _ =>
    match src.items? with
    | none => .error ("'" ++ src.typeName ++ "' object is not iterable")
    | some items =>
      (items.zipIdx.foldlM (fun d (item, i) => do
        let (k, v) ← updatePair i item
        putHashable d k v) data)

/-- A value with JSON text, else its display text. -/
def jsonSafe (v : Value) : Value :=
  match v.toJson none with
  | .ok _ => v
  | .error _ => .str v.display

/-- The timestamp of a record in the layout's format. -/
def JsonLayout.timestamp (l : JsonLayout) (r : LogRecord) : Except Failure String :=
  if l.timestampFormat == "unix" then .ok r.created.display
  else if l.timestampFormat == "epoch" then toString <$> wholeSeconds r.created
  else isoTimestamp r.created

/-- The fields of a record's JSON line, or the error text when it has none. -/
def JsonLayout.fields (l : JsonLayout) (stamp : String) (r : LogRecord) :
    Except String (List (Value × Value)) := do
  let message ← (r.message.mapError FormatError.text)
  let data : List (Value × Value) :=
    [(.str "timestamp", .str stamp), (.str "level", .str (levelName r.level)),
      (.str "logger", .str r.name), (.str "message", .str message)]
  let data := r.extraFields.foldl (fun d (k, v) => putField d (.str k) (jsonSafe v)) data
  let data := match r.failure with
    | some m => putField data (.str "exception") (.str (failureLine m ++ "\n"))
    | none => data
  if l.customFields.truthy then updateFields data l.customFields else return data

/-- The JSON line of a record. -/
def JsonLayout.format (l : JsonLayout) (r : LogRecord) : Except Failure String := do
  let stamp ← l.timestamp r
  let indent := if l.pretty then some 2 else none
  let fallback (e : String) : Except Failure String :=
    (Value.dict [(.str "timestamp", .str stamp), (.str "level", .str (levelName r.level)),
      (.str "logger", .str r.name), (.str "message", .str r.msg.display),
      (.str "error", .str ("JSON formatting failed: " ++ e))]).toJson indent |>.mapError .badValue
  match l.fields stamp r with
  | .error e => fallback e
  | .ok data =>
    match (Value.dict data).toJson indent with
    | .ok t => .ok t
    | .error e => fallback e

/-! ### Console lines -/

/-- The default console line template. -/
def defaultConsoleTemplate : String := "%(asctime)s %(levelname)s %(name)s %(message)s"

/-- A character of a name in a keyed conversion: a letter, a number or `_`. -/
def isWordChar (c : Char) : Bool := isWord c

/-- Whether a keyed conversion starts at the front of these characters:
`%(name)`, flags, a width, a precision and a conversion type. -/
def keyedAt : List Char → Bool
  | '%' :: '(' :: rest =>
    let name := rest.takeWhile isWordChar
    match rest.dropWhile isWordChar with
    | ')' :: more =>
      if name.isEmpty then false else
      let more := more.dropWhile (fun c => "#0+ -".contains c)
      let count (cs : List Char) : List Char :=
        match cs with
        | '*' :: r => r
        | r => r.dropWhile isDigit
      let more := count more
      let more := match more with
        | '.' :: r =>
          match r with
          | '*' :: t => t
          | d :: t => if isDigit d then t.dropWhile isDigit else '.' :: r
          | [] => '.' :: r
        | r => r
      match more with
      | c :: _ => "diouxefgcrsa%".contains c.toLower
      | [] => false
    | _ => false
  | _ => false

/-- Whether a template contains a keyed conversion somewhere. -/
def hasKeyedConversion : List Char → Bool
  | [] => false
  | c :: cs => keyedAt (c :: cs) || hasKeyedConversion cs

/-- A console layout: its line template. -/
structure ConsoleLayout where
  template : String := defaultConsoleTemplate

/-- A console layout for a template, refused when the template has no keyed
conversion. -/
def ConsoleLayout.make (template : String) : Except Failure ConsoleLayout :=
  if hasKeyedConversion template.toList then .ok ⟨template⟩
  else .error (.badValue ("Invalid format '" ++ template ++ "' for '%' style"))

/-- Whether the template shows the console stamp. -/
def ConsoleLayout.usesTime (l : ConsoleLayout) : Bool := contains l.template "%(asctime)"

/-- The console line of a record. -/
def ConsoleLayout.format (l : ConsoleLayout) (r : LogRecord) : Except Failure String := do
  let message ← r.message.mapError FormatError.toFailure
  let asctime ← if l.usesTime then some <$> consoleTimestamp r.created else pure none
  let line ← (percentFormat l.template (r.attributes message asctime)).mapError fun
    | .missingKey k => .badValue ("Formatting field not found in record: " ++ quoteText k)
    | e => e.toFailure
  let line := match r.failure with
    | some m => (if line.endsWith "\n" then line else line ++ "\n") ++ failureLine m
    | none => line
  let extras := r.extraFields
  if extras.isEmpty then return line
  let parts := " ".intercalate (extras.map fun (k, v) => "[" ++ k ++ ":" ++ v.display ++ "]")
  match line.splitOn "\n" with
  | head :: rest@(_ :: _) => return head ++ " " ++ parts ++ "\n" ++ "\n".intercalate rest
  | _ => return line ++ " " ++ parts

end MaskedLog.Log

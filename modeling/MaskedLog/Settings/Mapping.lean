import MaskedLog.Settings.Basic
/-!
# Settings from a mapping

Settings read from a mapping of field names to values, as a settings file or
the environment gives them. The mapping must be one, every key must name a
field (unknown keys are reported together, sorted), and each value must have
its field's type: lists of texts for the name lists (a single text counts as a
list of one, nothing as the empty list), truth values for the switches, an
integer for the minimum length, nonempty texts for the header and the logger,
a number for the ratio (made a double). The body budget is checked as a size
when the settings are built.

* `convertSetting` — the check of one field's value.
* `Settings.ofMapping` — settings from a mapping, or nothing for the defaults.

## References

`bodylog/config.py` (`BodyLogConfig.from_dict`, `_convert_value`).
-/

namespace MaskedLog

/-- The fields holding lists of names. -/
def listKeys : List String := ["sensitive_fields", "skip_content_types", "skip_paths"]

/-- The fields holding truth values. -/
def switchKeys : List String := ["log_request_body", "log_response_body"]

/-- The fields holding texts. -/
def textKeys : List String := ["request_id_header", "logger_name"]

/-- Whether every item is a text. -/
def allTexts (xs : List Value) : Bool :=
  xs.all fun | .str _ => true | _ => false

/-- Check one field's value against its field's type, converting where the
field's type asks. -/
def convertSetting (key : String) (v : Value) : Except Failure Value :=
  let wrong (what : String) : Except Failure Value :=
    .error (.config s!"'{key}' must be {what}" [("value", v)])
  if listKeys.contains key then
    match v with
    | .none => .ok (.tuple [])
    | .str s => .ok (.tuple [.str s])
    | .list xs | .tuple xs => if allTexts xs then .ok (.tuple xs) else wrong "a list of strings"
    | _ => wrong "a list of strings"
  else if switchKeys.contains key then
    match v with
    | .bool _ => .ok v
    | _ => wrong "a boolean"
  else if key == "binary_min_length" then
    match v with
    | .int _ => .ok v
    | _ => wrong "an integer"
  else if textKeys.contains key then
    match v with
    | .str s => if s.isEmpty then wrong "a non-empty string" else .ok v
    | _ => wrong "a non-empty string"
  else if key == "binary_ratio" then
    match v with
    | .int n =>
      let x := Binary64.ofInt n
      if x.isInfinite then .error .overflow else .ok (.float x)
    | .float _ => .ok v
    | _ => wrong "a number"
  else .ok v

/-- The keys of a mapping that name no field, sorted; a key that is no text
cannot be sorted among them. -/
def unknownKeys (keys : List Value) : Except Failure (List String) := do
  let unknown := keys.filter fun
    | .str k => !settingsKeys.contains k
    | _ => true
  let names ← unknown.mapM fun
    | .str k => pure k
    | _ => throw .wrongType
  return names.mergeSort (fun a b => decide (a ≤ b))

/-- Set one field from a mapping entry whose key names a field. -/
def setEntry (input : Settings.Input) (entry : Value × Value) : Except Failure Settings.Input := do
  let key := entry.1.display
  let converted ← convertSetting key entry.2
  pure ((input.set? key converted).getD input)

/-- Settings from a mapping of field names to values; nothing gives the
defaults. -/
def Settings.ofMapping (data : Value) : Except Failure Settings :=
  match data with
  | .none => Settings.default
  | .dict entries => do
    let unknown ← unknownKeys (entries.map (·.1))
    unless unknown.isEmpty do
      throw (.config "Unknown configuration keys" [("keys", .str (",".intercalate unknown))])
    let input ← entries.foldlM setEntry {}
    input.check
  | other => .error (.config "Configuration must be a mapping" [("type", .str other.typeName)])

end MaskedLog

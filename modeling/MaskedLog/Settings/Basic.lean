import MaskedLog.Body.Policy
import MaskedLog.Size
import MaskedLog.Value.Compare
/-!
# Settings

The settings of body logging: which fields are masked, whether request and
response bodies are logged, the byte budget of a logged body, which content
types are skipped, the bounds of the binary test, the header carrying the
request id, the paths passed through unlogged and the logger's name.

Building settings takes a value for each field (`Settings.Input`, defaults
filled in) and checks and normalises them (`Settings.Input.check`): field names
are normalised, skipped types lowercased (texts, and bytes in ASCII), the body
budget read as a size, the
ratio must lie in `[0, 1]` and the minimum length must not be negative. The
other fields are kept as given.

* `Settings.Input`, `Settings.Input.set?` — the values the constructor receives.
* `Settings`, `Settings.Input.check` — checked settings.
* `Settings.toInput` — the values that rebuild the same settings.

## References

`bodylog/config.py` (`BodyLogConfig`, `BodyLogConfig.__post_init__`).
-/

namespace MaskedLog

open MaskedLog.Redact MaskedLog.Body MaskedLog.Unicode

/-- The names of the settings fields, in order. -/
def settingsKeys : List String :=
  ["sensitive_fields", "log_request_body", "log_response_body", "max_body_size",
   "skip_content_types", "binary_ratio", "binary_min_length", "request_id_header",
   "skip_paths", "logger_name"]

/-- The default ratio of the binary test, `0.2`. -/
def defaultRatio : Binary64 := Binary64.ofQuotient 1 5

/-- The values the settings constructor receives, one per field. -/
structure Settings.Input where
  sensitiveFields : Value := .tuple (defaultFields.map .str)
  logRequestBody : Value := .bool true
  logResponseBody : Value := .bool false
  maxBodySize : Value := .int 65536
  skipContentTypes : Value := .tuple (defaultSkippedTypes.map .str)
  binaryRatio : Value := .float defaultRatio
  binaryMinLength : Value := .int 100
  requestIdHeader : Value := .str "X-Request-ID"
  skipPaths : Value := .tuple []
  loggerName : Value := .str "bodylog.http"
  deriving Inhabited

/-- Set the field named `key`; `none` for a name that is no field. -/
def Settings.Input.set? (i : Settings.Input) (key : String) (v : Value) : Option Settings.Input :=
  match key with
  | "sensitive_fields" => some { i with sensitiveFields := v }
  | "log_request_body" => some { i with logRequestBody := v }
  | "log_response_body" => some { i with logResponseBody := v }
  | "max_body_size" => some { i with maxBodySize := v }
  | "skip_content_types" => some { i with skipContentTypes := v }
  | "binary_ratio" => some { i with binaryRatio := v }
  | "binary_min_length" => some { i with binaryMinLength := v }
  | "request_id_header" => some { i with requestIdHeader := v }
  | "skip_paths" => some { i with skipPaths := v }
  | "logger_name" => some { i with loggerName := v }
  | _ => none

/-- Checked settings. -/
structure Settings where
  sensitiveFields : List String
  logRequestBody : Value
  logResponseBody : Value
  maxBodySize : Nat
  skipContentTypes : List Value
  binaryRatio : Value
  binaryMinLength : Value
  requestIdHeader : Value
  skipPaths : List Value
  loggerName : Value
  deriving Inhabited

/-- The items of a value that is walked over; a failure for one that cannot be. -/
def walk (v : Value) : Except Failure (List Value) :=
  match v.items? with
  | some xs => .ok xs
  | none => .error .wrongType

/-- A byte with an ASCII capital lowercased. -/
def lowerByte (b : UInt8) : UInt8 := if 65 ≤ b.toNat && b.toNat ≤ 90 then b + 32 else b

/-- The lowercase form of an item: a text lowercased, bytes with their ASCII
capitals lowercased; other items have no lowercase form. -/
def lowerItem : Value → Except Failure Value
  | .str s => .ok (.str (lowerString s))
  | .bytes b => .ok (.bytes (b.map lowerByte))
  | _ => .error .noAttribute

/-- Check and normalise the constructor's values, field by field in order. -/
def Settings.Input.check (i : Settings.Input) : Except Failure Settings := do
  let fields ← normalizeFields i.sensitiveFields
  let skipped ← (← walk i.skipContentTypes).mapM lowerItem
  let paths ← walk i.skipPaths
  let budget ← Size.parse i.maxBodySize
  let low ← Value.le (.float (Binary64.zero false)) i.binaryRatio
  let high ← if low then Value.le i.binaryRatio (.float (Binary64.ofInt 1)) else pure false
  unless low && high do
    throw (.config "binary_ratio must be between 0 and 1" [("binary_ratio", i.binaryRatio)])
  if ← Value.lt i.binaryMinLength (.int 0) then
    throw (.config "binary_min_length cannot be negative" [("binary_min_length", i.binaryMinLength)])
  return {
    sensitiveFields := fields
    logRequestBody := i.logRequestBody
    logResponseBody := i.logResponseBody
    maxBodySize := budget
    skipContentTypes := skipped
    binaryRatio := i.binaryRatio
    binaryMinLength := i.binaryMinLength
    requestIdHeader := i.requestIdHeader
    skipPaths := paths
    loggerName := i.loggerName }

/-- The constructor's values that give back these settings. -/
def Settings.toInput (s : Settings) : Settings.Input where
  sensitiveFields := .tuple (s.sensitiveFields.map .str)
  logRequestBody := s.logRequestBody
  logResponseBody := s.logResponseBody
  maxBodySize := .int s.maxBodySize
  skipContentTypes := .tuple s.skipContentTypes
  binaryRatio := s.binaryRatio
  binaryMinLength := s.binaryMinLength
  requestIdHeader := s.requestIdHeader
  skipPaths := .tuple s.skipPaths
  loggerName := s.loggerName

/-- The scanner for the settings' field names. -/
def Settings.scanner (s : Settings) : Scanner := ⟨s.sensitiveFields⟩

/-- The default settings. -/
def Settings.default : Except Failure Settings := ({} : Settings.Input).check

end MaskedLog

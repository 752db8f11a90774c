import MaskedLog.Failure
import MaskedLog.Unicode.Lower
import MaskedLog.Unicode.Blank
/-!
# Sensitive field names

The names whose values are masked. A name is matched case-insensitively as a
quoted key, so names are kept trimmed and in lowercase, each once, in the order
first given. A name must be a text, must not be empty once trimmed, and must not
hold a double quote, since the quote delimits the key.

* `defaultFields` — the names masked when none are configured.
* `normalizeName`, `normalizeFields` — the checks and the normal form.

## References

`bodylog/redact/fields.py` (`normalize_fields`).
-/

namespace MaskedLog.Redact

open MaskedLog.Unicode

/-- Credentials, tokens, API keys, contact numbers and identity numbers. -/
def defaultFields : List String :=
  ["password", "passwd", "pwd", "old_password", "new_password",
   "secret", "token", "access_token", "refresh_token",
   "api_key", "apikey", "api-key",
   "phone", "mobile", "telephone",
   "id_card", "idcard"]

/-- The normal form of one name: trimmed and lowercased. -/
def normalForm (name : String) : String := lowerString (trimString name)

/-- The normal form of one name, or the report of why it is no name. -/
def normalizeName : Value → Except Failure String
  | .str name =>
    let n := normalForm name
    if n.isEmpty then .error (.config "Sensitive field name cannot be empty")
    else if n.contains '"' then
      .error (.config "Sensitive field name cannot contain quotes" [("field", .str name)])
    else .ok n
  | other => .error (.config "Sensitive field name must be a string" [("field", other)])

/-- Add `n` at the end unless it is already there. -/
def insertNew (ns : List String) (n : String) : List String :=
  if ns.contains n then ns else ns ++ [n]

/-- The normal forms of the names, each once, in first-seen order. -/
def normalizeNames (names : List Value) : Except Failure (List String) :=
  names.foldlM (fun acc v => insertNew acc <$> normalizeName v) []

/-- The field names given by a value: a single text is refused, any other
value must be one that can be walked over. -/
def normalizeFields (v : Value) : Except Failure (List String) :=
  match v with
  | .str _ => .error (.config "Sensitive fields must be a list of names, not a string")
  | _ =>
    match v.items? with
    | some names => normalizeNames names
    | none => .error .wrongType

end MaskedLog.Redact

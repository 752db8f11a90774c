import MaskedLog.Settings.Mapping
import MaskedLog.Number.Read
/-!
# Settings from the environment

Environment variables whose name starts with a prefix (`BODYLOG_` by default)
override settings: the rest of the name, lowercased, is the field. Name lists
are read as comma-separated texts, the header and logger names verbatim, and
anything else as a typed value: nothing (`null`, `none` or empty, in any case),
a truth value (`true` or `false`), a comma-separated list of such values, a
double when the text holds a point, an integer, or else the text itself.

The environment is a mapping: setting a name again replaces its value where the
name first stood. The system refuses a name that is empty or holds `=`, and a
NUL in a name or value.

* `envValue`, `envList` — the two readings of a variable's text.
* `Environment`, `Environment.set?`, `Environment.ofPairs?`.
* `envOverrides` — the overrides the environment gives.

## References

`bodylog/config.py` (`collect_env_overrides`, `_convert_env_value`,
`_split_env_list`).
-/

namespace MaskedLog

open MaskedLog.Unicode MaskedLog.Number

/-- The prefix of the variables that override settings. -/
def defaultEnvPrefix : String := "BODYLOG_"

/-- Whether a lowercase text spells nothing. -/
def spellsNothing (lowered : String) : Bool :=
  lowered == "null" || lowered == "none" || lowered == ""

/-- A text without a comma read as a typed value. -/
def envScalar (s : String) : Value :=
  let lowered := lowerString s
  if spellsNothing lowered then .none
  else if lowered == "true" || lowered == "false" then .bool (lowered == "true")
  else if s.contains '.' then
    match readFloat s with
    | some x => .float x
    | none => .str s
  else
    match readInt s with
    | some n => .int n
    | none => .str s

/-- A variable's text read as a typed value: a comma makes a list of the trimmed
items, each read as a value. -/
def envValue (s : String) : Value :=
  let lowered := lowerString s
  if spellsNothing lowered || lowered == "true" || lowered == "false" then envScalar s
  else if s.contains ',' then .list ((s.splitOn ",").map fun item => envScalar (trimString item))
  else envScalar s

/-- A variable's text read as a list of names: nothing, or the trimmed nonempty
items between commas. -/
def envList (s : String) : Value :=
  if spellsNothing (lowerString (trimString s)) then .none
  else .list (((s.splitOn ",").map trimString).filter (!·.isEmpty) |>.map .str)

/-- Environment variables in the order they were first set. -/
structure Environment where
  vars : List (String × String)
  deriving Inhabited

/-- Set `key` to `v` in a list of entries: in place if present, else at the end. -/
def putEntry {α β : Type} [BEq α] (es : List (α × β)) (key : α) (v : β) : List (α × β) :=
  if es.any (·.1 == key) then es.map fun e => if e.1 == key then (key, v) else e
  else es ++ [(key, v)]

/-- Set a variable as the system does. A NUL in the name or the value fails
first, then an `=` in the name, then an empty name. -/
def Environment.set? (e : Environment) (k v : String) : Except Failure Environment := do
  if k.contains '\x00' || v.contains '\x00' then throw (.badValue "embedded null byte")
  if k.contains '=' then throw (.badValue "illegal environment variable name")
  if k.isEmpty then throw .systemRefused
  return ⟨putEntry e.vars k v⟩

/-- The environment after setting each pair in turn, or the failure of the
first pair the system refuses. -/
def Environment.ofPairs? (pairs : List (String × String)) : Except Failure Environment :=
  pairs.foldlM (fun e (k, v) => e.set? k v) ⟨[]⟩

/-- The overrides the environment gives, in the order their variables stand. -/
def envOverrides (env : Environment) (pre : String) : List (String × Value) :=
  env.vars.foldl (fun acc (k, v) =>
    if k.startsWith pre then
      let key := lowerString (String.ofList (k.toList.drop pre.length))
      let value :=
        if listKeys.contains key then envList v
        else if textKeys.contains key then .str v
        else envValue v
      putEntry acc key value
    else acc) []

end MaskedLog

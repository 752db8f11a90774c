import MaskedLog.Failure
import MaskedLog.Unicode.Lower
import MaskedLog.Unicode.Blank
/-!
# Log levels

Levels are integers; the named ones are `DEBUG` 10, `INFO` 20, `WARNING` 30,
`ERROR` 40 and `CRITICAL` 50. A level setting may be a number, used as it is,
or a name, read after trimming and lowercasing (`warn` is `WARNING`); an
unknown name, and any setting that counts as false, is `INFO`.

## Main definitions

* `parseLevel` — the level a setting names.
* `levelName` — the name a record shows for its level.
* `levelOfName` — the level of an upper-case level name.

## References

`bodylog/log/__init__.py` (`parse_level`) and the level names of Python's
`logging`.
-/

namespace MaskedLog.Log

open MaskedLog.Unicode

/-- The default level. -/
def infoLevel : Int := 20

/-- The level names a setting may use, lowercase. -/
def settingLevels : List (String × Int) :=
  [("debug", 10), ("info", 20), ("warn", 30), ("warning", 30), ("error", 40), ("critical", 50)]

/-- The level a setting names: a number as it is (a truth value is the number
it stands for and is kept as such), an unknown name or a false setting `INFO`. -/
def parseLevel (v : Value) : Except Failure Value :=
  match v with
  | .int n => .ok (.int n)
  | .bool b => .ok (.bool b)
  | v =>
    if !v.truthy then .ok (.int infoLevel)
    else match v with
      | .str s => .ok (.int ((settingLevels.lookup (lowerString (trimString s))).getD infoLevel))
      | .bytes _ => .ok (.int infoLevel)
      | _ => .error .noAttribute

/-- The name a record shows for a level. -/
def levelName (n : Int) : String :=
  match [(50, "CRITICAL"), (40, "ERROR"), (30, "WARNING"), (20, "INFO"), (10, "DEBUG"),
      (0, "NOTSET")].lookup n with
  | some s => s
  | none => "Level " ++ toString n

/-- The level of an upper-case level name. -/
def levelOfName (s : String) : Option Int :=
  [("CRITICAL", 50), ("FATAL", 50), ("ERROR", 40), ("WARN", 30), ("WARNING", 30), ("INFO", 20),
    ("DEBUG", 10), ("NOTSET", 0)].lookup s

end MaskedLog.Log

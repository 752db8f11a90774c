import MaskedLog.Settings.Env
import MaskedLog.Yaml.Document
import MaskedLog.Text.Utf8
/-!
# Settings from a file

Settings are read from a YAML file (optional), then overridden from the
environment (unless that is turned off), then checked.

The file must exist as a regular file of at most 1 MiB (1048576 bytes). Its
bytes must be UTF-8; as text, `\r\n` and `\r` are line breaks like `\n`. The
YAML must be valid and hold one document: nothing, or a mapping. The settings
are the mapping's `bodylog` entry if it has one (nothing, or a mapping), else
the whole mapping. The YAML reader is the YAML library's, taken here as a
parameter (`YamlLoader`); `Document.read` is one that runs. Problems with the file are reported with its path, written
in normal form (`./a//b/` is `a/b`). The system refuses to look up a path of
4096 bytes or more, or one whose first name (after any `..`) is longer than
255 bytes.

* `normalPath` — the normal form of a path.
* `FileState`, `SettingsFile` — what stands at the settings path.
* `YamlLoader` — the reader of the file's YAML.
* `readSettingsFile` — the settings mapping a file holds.
* `loadSettings` — settings from a file and the environment.

## References

`bodylog/config.py` (`load_config`, `_read_config_file`), and `yaml.safe_load`
of PyYAML for the file's YAML.
-/

namespace MaskedLog

open MaskedLog.Yaml

/-- The largest settings file, in bytes. -/
def fileSizeLimit : Nat := 1048576

/-- The normal form of a path: the components other than empty ones and `.`,
after a root of one slash (two when the path starts with exactly two); `.` when
nothing is left. -/
def normalPath (p : String) : String :=
  let lead := (p.toList.takeWhile (· = '/')).length
  let root := if lead = 0 then "" else if lead = 2 then "//" else "/"
  let parts := (p.splitOn "/").filter fun c => !c.isEmpty && c != "."
  let text := root ++ "/".intercalate parts
  if text.isEmpty then "." else text

/-- Whether the system refuses to look a path up for its length: 4096 bytes of
UTF-8 or more in all, or a first name (after any `..`) of more than 255 bytes.
A path holding a NUL, which the system cannot receive, is not looked up at
all. -/
def nameTooLong (p : String) : Bool :=
  let bs := Text.encodeString p
  let first := ((p.splitOn "/").find? fun c => !c.isEmpty && c != "..").getD ""
  !bs.contains 0 && (bs.length ≥ 4096 || (Text.encodeString first).length > 255)

/-- What stands at a path. -/
inductive FileState where
  | missing
  | directory
  | file (bytes : List UInt8)

/-- A settings path and what stands there. -/
structure SettingsFile where
  path : String
  state : FileState

/-- The reader of a settings file's YAML: the one document of a text, or
nothing when the text holds none. A text that is no valid YAML is reported as
such (`YamlError.invalid`); any other failure of the reader escapes as it is. -/
abbrev YamlLoader := String → Except YamlError (Option Document)

/-- Text with `\r\n` and lone `\r` read as `\n`. -/
def unifyBreaks (s : String) : String := (s.replace "\r\n" "\n").replace "\r" "\n"

/-- The entries of the settings mapping a file holds. -/
def readSettingsFile (load : YamlLoader) (f : SettingsFile) :
    Except Failure (List (Value × Value)) := do
  let path := normalPath f.path
  let pathField : List (String × Value) := [("path", .str path)]
  if nameTooLong path then throw .systemRefused
  match f.state with
  | .missing | .directory => throw (.config "Configuration file not found" pathField)
  | .file bytes =>
    if bytes.length > fileSizeLimit then
      throw (.config "Configuration file too large"
        (pathField ++ [("size", .int bytes.length), ("limit", .int fileSizeLimit)]))
    let some text := Text.decodeStrict? bytes | throw .badUtf8
    let doc ← match load (unifyBreaks text) with
      | .ok d => pure d
      | .error (.invalid _) => throw (.config "Invalid YAML in configuration file" pathField)
      | .error (.failure e) => throw e
    let some doc := doc | return []
    let notMapping := Failure.config "Configuration file must contain a mapping" pathField
    let rootEntries ← match doc.datum doc.root with
      | some (.scalar .none) => return []
      | some (.dict es) => pure es
      | _ => throw notMapping
    let part := ((rootEntries.find? fun e => e.1.same (.str "bodylog")).map (·.2)).getD doc.root
    match doc.datum part with
    | some (.scalar .none) => return []
    | some (.dict es) => return es.map fun (k, v) => (k, doc.value v)
    | _ => throw (.config "'bodylog' section must be a mapping" pathField)

/-- Set a text key in a mapping's entries: in place if an equal key is
present, else at the end. -/
def putText (es : List (Value × Value)) (k : String) (v : Value) : List (Value × Value) :=
  if es.any (·.1.same (.str k)) then es.map fun e => if e.1.same (.str k) then (e.1, v) else e
  else es ++ [(.str k, v)]

/-- Settings from an optional file, then the environment's overrides (with
the given variable prefix) unless turned off. -/
def loadSettings (load : YamlLoader) (file : Option SettingsFile) (env : Environment)
    (pre : String) (useEnv : Bool) : Except Failure Settings := do
  let data ← match file with
    | some f => readSettingsFile load f
    | none => pure []
  let data := if useEnv then (envOverrides env pre).foldl (fun es (k, v) => putText es k v) data
    else data
  Settings.ofMapping (.dict data)

end MaskedLog

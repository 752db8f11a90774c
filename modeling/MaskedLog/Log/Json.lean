import MaskedLog.Value.Text
/-!
# JSON text of values

Log lines are JSON objects written from values: nothing is `null`, truth values
are `true` and `false`, doubles use their shortest text with `NaN`, `Infinity`
and `-Infinity`, texts are quoted with `\"`, `\\`, the short escapes and
`\u00XX` for other control characters (everything else is written as it is),
tuples are lists, and mapping keys are texts (numbers, truth values and nothing
are written as texts). Items are separated by `, ` and keys by `: `; with an
indent, every item goes on its own line, indented by its depth.

Bytes, and mapping keys of other types, have no JSON text: writing them fails
with the message a reader sees.

## Main definitions

* `jsonQuote` — a quoted JSON text.
* `Value.toJson` — the JSON text of a value.

## References

`bodylog/log/formatters.py` (`_sanitize`, `JSONFormatter._dict_to_json`), which
writes with Python's `json.dumps`.
-/

namespace MaskedLog

/-- One character of a JSON text. -/
def jsonEscape (c : Char) : String :=
  if c = '"' then "\\\""
  else if c = '\\' then "\\\\"
  else if c = '\n' then "\\n"
  else if c = '\r' then "\\r"
  else if c = '\t' then "\\t"
  else if c = '\x08' then "\\b"
  else if c = '\x0c' then "\\f"
  else if c.toNat < 0x20 then "\\u" ++ hexDigits 4 c.toNat
  else c.toString

/-- A quoted JSON text. -/
def jsonQuote (s : String) : String := "\"" ++ String.join (s.toList.map jsonEscape) ++ "\""

/-- The text of a mapping key, or why it has none. -/
def jsonKey : Value → Except String String
  | .str s => .ok s
  | .float x => .ok (x.render FloatLayout.json)
  | .bool b => .ok (if b then "true" else "false")
  | .none => .ok "null"
  | .int n => .ok (toString n)
  | k => .error ("keys must be str, int, float, bool or None, not " ++ k.typeName)

/-- Join items: on one line with `, `, or one per line at depth `depth + 1`. -/
def jsonJoin (indent : Option Nat) (depth : Nat) (opening closing : String) (items : List String) :
    String :=
  if items.isEmpty then opening ++ closing
  else match indent with
    | none => opening ++ ", ".intercalate items ++ closing
    | some n =>
      let inner := "\n" ++ String.ofList (List.replicate (n * (depth + 1)) ' ')
      let outer := "\n" ++ String.ofList (List.replicate (n * depth) ' ')
      opening ++ inner ++ ("," ++ inner).intercalate items ++ outer ++ closing

namespace Value

/-- The JSON text of a value at a depth, or the message of why it has none. -/
def toJsonAt (indent : Option Nat) (depth : Nat) (v : Value) : Except String String :=
  match v with
  | .none => .ok "null"
  | .bool b => .ok (if b then "true" else "false")
  | .int n => .ok (toString n)
  | .float x => .ok (x.render FloatLayout.json)
  | .str s => .ok (jsonQuote s)
  | .list xs => do
    let items ← xs.attach.mapM fun ⟨x, _⟩ => toJsonAt indent (depth + 1) x
    return jsonJoin indent depth "[" "]" items
  | .tuple xs => do
    let items ← xs.attach.mapM fun ⟨x, _⟩ => toJsonAt indent (depth + 1) x
    return jsonJoin indent depth "[" "]" items
  | .dict es => do
    let items ← es.attach.mapM fun ⟨(k, w), _⟩ => do
      let key ← jsonKey k
      let text ← toJsonAt indent (depth + 1) w
      pure (jsonQuote key ++ ": " ++ text)
    return jsonJoin indent depth "\x7b" "\x7d" items
  | v => .error ("Object of type " ++ v.typeName ++ " is not JSON serializable")
termination_by sizeOf v
decreasing_by
  all_goals
    have := List.sizeOf_lt_of_mem ‹_ ∈ _›
    simp_all
    omega

/-- The JSON text of a value, items on one line or indented by `indent`. -/
def toJson (indent : Option Nat) (v : Value) : Except String String := toJsonAt indent 0 v

end Value

end MaskedLog

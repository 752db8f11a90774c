import MaskedLog.Value.Basic
import MaskedLog.Number.Shortest
import MaskedLog.Unicode.Printable
/-!
# The text of a value

Two renderings of a value. The display form (`Value.display`) is what messages
and `[key:value]` log fields show: a text stands for itself. The quoted form
(`Value.quoted`) is used for the items of containers and wherever a text must be
told apart from other values: a text is put in quotes with its special
characters escaped.

* `quoteText` — a text in single quotes, or double quotes when it holds a single
  quote and no double quote; backslash, the quote, tab, newline, carriage
  return and unprintable characters escaped.
* `quoteBytes` — the same for bytes, prefixed by `b`; bytes outside printable
  ASCII escaped as `\xhh`.
* `Value.quoted`, `Value.display`.

## References

Python's `str` and `repr` of values, as `BodyLogError.__str__` of
`bodylog/exceptions.py` and the log fields show them.
-/

namespace MaskedLog

open MaskedLog.Unicode

/-- `n` in lowercase hexadecimal, padded with zeros to `width` digits. -/
def hexDigits (width n : Nat) : String :=
  let ds := Nat.toDigits 16 n
  String.ofList (List.replicate (width - ds.length) '0' ++ ds)

/-- A character inside quotes `q`: escaped if it is the quote, a backslash, or
not printable. -/
def escapeChar (q c : Char) : String :=
  let n := c.toNat
  if c = q || c = '\\' then String.ofList ['\\', c]
  else if c = '\t' then "\\t"
  else if c = '\n' then "\\n"
  else if c = '\r' then "\\r"
  else if n < 0x20 || n = 0x7f then "\\x" ++ hexDigits 2 n
  else if n < 0x7f || isPrintable c then c.toString
  else if n < 0x100 then "\\x" ++ hexDigits 2 n
  else if n < 0x10000 then "\\u" ++ hexDigits 4 n
  else "\\U" ++ hexDigits 8 n

/-- The quote for a text: double when it holds a single quote and no double
quote, else single. -/
def pickQuote (hasSingle hasDouble : Bool) : Char :=
  if hasSingle && !hasDouble then '"' else '\''

/-- A text in quotes, escaped. -/
def quoteText (s : String) : String :=
  let q := pickQuote (s.contains '\'') (s.contains '"')
  q.toString ++ String.join (s.toList.map (escapeChar q)) ++ q.toString

/-- One byte inside quotes `q`. -/
def escapeByte (q : Char) (b : UInt8) : String :=
  let n := b.toNat
  if n = q.toNat || n = 0x5c then String.ofList ['\\', Char.ofNat n]
  else if n = 9 then "\\t"
  else if n = 10 then "\\n"
  else if n = 13 then "\\r"
  else if n < 0x20 || n ≥ 0x7f then "\\x" ++ hexDigits 2 n
  else (Char.ofNat n).toString

/-- Bytes in quotes after a `b`, escaped. -/
def quoteBytes (bs : List UInt8) : String :=
  let q := pickQuote (bs.contains 0x27) (bs.contains 0x22)
  "b" ++ q.toString ++ String.join (bs.map (escapeByte q)) ++ q.toString

namespace Value

/-- The quoted form of a value: texts and bytes quoted, numbers and constants
spelled out, containers with their items in quoted form. -/
def quoted (v : Value) : String :=
  match v with
  | .none => "None"
  | .bool b => if b then "True" else "False"
  | .int n => toString n
  | .float x => x.repr
  | .str s => quoteText s
  | .bytes b => quoteBytes b
  | .list xs => "[" ++ ", ".intercalate (xs.attach.map fun ⟨x, _⟩ => quoted x) ++ "]"
  | .tuple xs =>
    "(" ++ ", ".intercalate (xs.attach.map fun ⟨x, _⟩ => quoted x) ++
      (if xs.length = 1 then ",)" else ")")
  | .dict es =>
    "\x7b" ++ ", ".intercalate (es.attach.map fun ⟨(k, w), _⟩ => quoted k ++ ": " ++ quoted w) ++ "\x7d"
  | .foreign _ _ q _ => q
termination_by sizeOf v
decreasing_by
  all_goals
    have := List.sizeOf_lt_of_mem ‹_ ∈ _›
    simp_all
    omega

/-- The display form of a value: a text is itself, anything else is in quoted form. -/
def display : Value → String
  | .str s => s
  | .foreign _ shown _ _ => shown
  | v => v.quoted

end Value

end MaskedLog

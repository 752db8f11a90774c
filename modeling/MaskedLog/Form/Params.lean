import MaskedLog.Failure
import MaskedLog.Unicode.Lower
import MaskedLog.Unicode.Blank
/-!
# Header parameters

A header such as `Content-Disposition: form-data; name="a"; filename="b.txt"`
carries a value and parameters. The text is split at semicolons that stand
outside quotes; each parameter is `key=value` (a parameter without `=` has the
empty value), keys are trimmed and lowercased, values trimmed and unquoted
(surrounding quotes removed and `\"`, `\\` unescaped, or surrounding angle
brackets removed).

Parameters in the extended notation of RFC 2231 (`key*=charset'lang'%xx…`,
`key*0=…; key*1=…`) are joined in the order of their numbers, percent escapes
decoded, and the charset and language stripped; they come after the plain
parameters. A file name that looks like a full Windows path (`C:\…` or `\\…`)
is cut to its last component.

* `splitParams` — the parameters of a header value.
* `unquote` — a parameter value without its quotes.
* `parseOptions` — the value and the parameters as a list of key and value.

## References

`parse_options_header` of python-multipart, which Starlette's form parser
calls for `multipart_summary` in `bodylog/content.py`.
-/

namespace MaskedLog.Form

open MaskedLog.Unicode

/-- The number of non-overlapping occurrences of `pat` in `s`. -/
def countOccurrences (pat s : List Char) : Nat :=
  match pat with
  | [] => s.length + 1
  | p :: ps => go (p :: ps) s (s.length + 1)
where
  go (pat s : List Char) : Nat → Nat
    | 0 => 0
    | fuel + 1 =>
      match s with
      | [] => 0
      | c :: rest =>
        if pat.isPrefixOf (c :: rest) then 1 + go pat (s.drop pat.length) fuel
        else go pat rest fuel

/-- Whether the quotes in `s` leave a quoted part open: quotes not preceded by
a backslash are counted, and an odd count is open. -/
def quoteOpen (s : List Char) : Bool :=
  (countOccurrences ['"'] s - countOccurrences ['\\', '"'] s) % 2 == 1

/-- The position of the first `;` at or after `from` in `s`. -/
def semicolonFrom (s : List Char) (from_ : Nat) : Option Nat :=
  ((s.drop from_).findIdx? (· = ';')).map (· + from_)

/-- The end of the parameter that starts `s`: the first semicolon outside
quotes, or the end of `s`. -/
def paramEnd (s : List Char) : Nat :=
  go (semicolonFrom s 0) (s.length + 1)
where
  go : Option Nat → Nat → Nat
    | none, _ => s.length
    | some e, 0 => e
    | some e, fuel + 1 =>
      if e > 0 && quoteOpen (s.take e) then go (semicolonFrom s (e + 1)) fuel else e

/-- One parameter with its key trimmed and lowercased and its value trimmed. -/
def normalizeParam (f : List Char) : List Char :=
  match f.findIdx? (· = '=') with
  | some i => trim (lower (trim (f.take i))) ++ '=' :: trim (f.drop (i + 1))
  | none => trim f

/-- The parameters of a header value, the value itself first. -/
def splitParams (s : List Char) : List (List Char) :=
  go s (s.length + 1)
where
  go (s : List Char) : Nat → List (List Char)
    | 0 => []
    | fuel + 1 =>
      let e := paramEnd s
      let here := normalizeParam (s.take e)
      match s.drop e with
      | ';' :: rest => here :: go rest fuel
      | _ => [here]

/-- A value without surrounding double quotes (unescaping `\\` and `\"`) or
angle brackets. -/
def unquote (v : List Char) : List Char :=
  if v.length > 1 && v.head? = some '"' && v.getLast? = some '"' then
    let inner := (v.drop 1).dropLast
    unescape (unescapeBackslashes inner)
  else if v.length > 1 && v.head? = some '<' && v.getLast? = some '>' then (v.drop 1).dropLast
  else v
where
  unescapeBackslashes : List Char → List Char
    | '\\' :: '\\' :: rest => '\\' :: unescapeBackslashes rest
    | c :: rest => c :: unescapeBackslashes rest
    | [] => []
  unescape : List Char → List Char
    | '\\' :: '"' :: rest => '"' :: unescape rest
    | c :: rest => c :: unescape rest
    | [] => []

/-- The value of a hexadecimal digit. -/
def hexValue (c : Char) : Option Nat :=
  if '0' ≤ c && c ≤ '9' then some (c.toNat - 48)
  else if 'a' ≤ c && c ≤ 'f' then some (c.toNat - 87)
  else if 'A' ≤ c && c ≤ 'F' then some (c.toNat - 55)
  else none

/-- Decode `%xx` escapes to the characters with those codes. -/
def percentDecode : List Char → List Char
  | '%' :: a :: b :: rest =>
    match hexValue a, hexValue b with
    | some x, some y => Char.ofNat (16 * x + y) :: percentDecode rest
    | _, _ => '%' :: percentDecode (a :: b :: rest)
  | c :: rest => c :: percentDecode rest
  | [] => []

/-- A key split into key and value at its first `=`; a key without `=` has the
empty value. -/
def splitKey (p : List Char) : List Char × List Char :=
  match p.findIdx? (· = '=') with
  | some i => (trim (p.take i), trim (p.drop (i + 1)))
  | none => (trim p, [])

/-- Whether a character is a letter, digit or underscore of ASCII. -/
def isWordChar (c : Char) : Bool := c.isAlphanum || c = '_'

/-- The parts of an extended key `name*`, `name*n` or `name*n*`: the name, the
number if any, and whether the value is percent-encoded. -/
def extendedKey (k : List Char) : Option (List Char × Option Nat × Bool) :=
  let name := k.takeWhile isWordChar
  match k.drop name.length with
  | '*' :: rest =>
    if name.isEmpty then none
    else
      let digits := rest.takeWhile Char.isDigit
      let after := rest.drop digits.length
      let num := if digits.isEmpty then none
        else some (digits.foldl (fun n c => 10 * n + (c.toNat - 48)) 0)
      match after with
      | [] => some (name, num, digits.isEmpty)
      | ['*'] => if digits.isEmpty then none else some (name, num, true)
      | _ => none
  | _ => none

/-- One piece of an extended parameter: its number, value and whether it is
percent-encoded. -/
structure Piece where
  num : Option Nat
  value : List Char
  encoded : Bool

/-- The order of pieces: by number, then value, then encoding. -/
def Piece.le (a b : Piece) : Bool :=
  let n (p : Piece) := p.num.getD 0
  if n a ≠ n b then n a < n b
  else if a.value ≠ b.value then decide (String.ofList a.value ≤ String.ofList b.value)
  else !a.encoded || b.encoded

/-- The value of an extended parameter from its pieces, or a failure when
numbered and unnumbered pieces cannot be ordered together. -/
def joinPieces (ps : List Piece) : Except Failure (List Char) := do
  if ps.any (·.num.isSome) && ps.any (·.num.isNone) && ps.length > 1 then throw .wrongType
  let sorted := ps.mergeSort fun a b => a.le b
  let joined := sorted.flatMap fun p => if p.encoded then percentDecode p.value else p.value
  if ps.any (·.encoded) then
    -- charset and language come first, each ended by an apostrophe
    match joined.splitOn '\'' with
    | _ :: _ :: third :: more => return "'".toList.intercalate (third :: more)
    | _ => return joined
  else return joined

/-- A file name that is a full Windows path cut to its last component. -/
def basename (v : List Char) : List Char :=
  if (v.drop 1).take 2 = [':', '\\'] || v.take 2 = ['\\', '\\'] then
    ((v.splitOn '\\').getLast?).getD v
  else v

/-- The value and parameters of a header value, later keys overriding earlier
ones in the result's lookups. -/
def parseOptions (header : String) : Except Failure (String × List (String × String)) := do
  let cs := header.toList
  if cs.isEmpty then return ("", [])
  if !cs.contains ';' then return (String.ofList (trim (lower cs)), [])
  match splitParams cs with
  | [] => return ("", [])
  | first :: rest =>
    let kvs := rest.map splitKey
    let plain := kvs.filterMap fun (k, v) =>
      if (extendedKey k).isSome then none else some (k, unquote v)
    let extended := kvs.filterMap fun (k, v) =>
      (extendedKey k).map fun (name, num, enc) => (name, Piece.mk num (unquote v) enc)
    let names := extended.foldl (fun acc (n, _) => if acc.contains n then acc else acc ++ [n]) []
    let joined ← names.mapM fun n => do
      let v ← joinPieces (extended.filterMap fun (m, p) => if m == n then some p else none)
      return (n, v)
    let all := (plain ++ joined).map fun (k, v) =>
      (String.ofList k, String.ofList (if k == "filename".toList then basename v else v))
    return (String.ofList (splitKey first).1, all)

/-- The last value given for a key. -/
def lookupLast (kvs : List (String × String)) (k : String) : Option String :=
  (kvs.filter (·.1 == k)).getLast?.map (·.2)

end MaskedLog.Form

import MaskedLog.Failure
import MaskedLog.Number.Format
import MaskedLog.Unicode.Surrogate
/-!
# Percent formatting

A log message is a template whose `%` conversions take their values from the
record's arguments: a tuple fills them in order, a mapping fills conversions
that name a key, `%(key)s`. A conversion is

`%` [`(key)`] [flags `-+ #0`] [width or `*`] [`.` precision or `*`] [`h` `l` `L`] type

with types `s r a` (display, quoted, quoted in ASCII), `d i u o x X` (integers),
`e E f F g G` (doubles) and `c` (one character); `%%` is a percent sign.

The template is read from left to right and each conversion takes its values
as it is met (the key's value, a star width, a star precision, then the value
itself), so the error reported is the first one met: a key without a mapping,
a missing key, too few values, a conversion of the wrong type of value, a
template that ends inside a conversion. Values left over at the end are an
error too, unless the arguments are a mapping.

## Main definitions

* `FormatError` — why a template cannot be filled, and its text.
* `percentFormat` — a filled template.

## References

Python's `%` formatting, as `logging.LogRecord.getMessage` applies it to the
records that `bodylog/log/formatters.py` formats.
-/

namespace MaskedLog.Log

open MaskedLog.Unicode

/-- Why a template cannot be filled. -/
inductive FormatError where
  /-- A value of the wrong type, or the wrong number of values. -/
  | wrongType (message : String)
  /-- A malformed template or a value out of its domain. -/
  | badValue (message : String)
  /-- A key missing from the mapping. -/
  | missingKey (key : String)
  /-- A number too large. -/
  | overflow (message : String)
  /-- A padded conversion too long to hold in memory. -/
  | outOfMemory
  deriving Repr, DecidableEq

/-- The text of a formatting error; a missing key shows in quoted form. -/
def FormatError.text : FormatError → String
  | .wrongType m => m
  | .badValue m => m
  | .missingKey k => quoteText k
  | .overflow m => m
  | .outOfMemory => ""

/-- The failure a formatting error raises. -/
def FormatError.toFailure : FormatError → Failure
  | .wrongType _ => .wrongType
  | .badValue m => .badValue m
  | .missingKey _ => .missingKey
  | .overflow _ => .overflow
  | .outOfMemory => .outOfMemory

/-- The flags of a conversion. -/
structure Flags where
  leftAlign : Bool := false
  plus : Bool := false
  blank : Bool := false
  alternate : Bool := false
  zeroPad : Bool := false
  deriving Repr

/-- The values a template draws on: the current object (the whole arguments,
or the value of the last key), the items of a tuple, the next position and the
number of items (`-1` for an object that is one value), and the mapping keys
are looked up in, if any. -/
structure Cursor where
  current : Value
  items : Array Value
  next : Int
  count : Int
  mapping : Option Value

/-- Whether a value can be indexed by keys. -/
def isMapping : Value → Bool
  | .dict _ | .list _ | .bytes _ => true
  | _ => false

/-- The cursor at the start of a template. -/
def Cursor.start (args : Value) : Cursor :=
  match args with
  | .tuple xs => ⟨args, xs.toArray, 0, xs.length, none⟩
  | v => ⟨v, #[], -2, -1, if isMapping v then some v else none⟩

/-- The next value of the cursor. -/
def Cursor.take (c : Cursor) : Except FormatError (Value × Cursor) :=
  if c.next < c.count then
    let v := if c.count < 0 then c.current else c.items.getD c.next.toNat .none
    .ok (v, { c with next := c.next + 1 })
  else .error (.wrongType "not enough arguments for format string")

/-- Look a key up in the mapping: its value becomes the current object. -/
def Cursor.lookup (c : Cursor) (key : String) : Except FormatError Cursor :=
  match c.mapping with
  | none => .error (.wrongType "format requires a mapping")
  | some (.dict es) =>
    match es.find? (fun e => e.1.same (.str key) && e.1.typeName == "str") with
    | some (_, v) => .ok { c with current := v, count := -1, next := -2 }
    | none => .error (.missingKey key)
  | some m =>
    let what := if m.typeName == "bytes" then "byte" else m.typeName
    .error (.wrongType (what ++ " indices must be integers or slices, not str"))

/-- The key of `%(key)`: the text up to the parenthesis that balances the
opening one, and the rest of the template; `none` when it does not close. -/
def readKey : Nat → List Char → List Char → Option (List Char × List Char)
  | _, _, [] => none
  | depth, acc, c :: rest =>
    if c = ')' then
      if depth = 0 then some (acc.reverse, rest) else readKey (depth - 1) (c :: acc) rest
    else if c = '(' then readKey (depth + 1) (c :: acc) rest
    else readKey depth (c :: acc) rest

/-- Read the flags. -/
def readFlags (f : Flags) : List Char → Flags × List Char
  | '-' :: rest => readFlags { f with leftAlign := true } rest
  | '+' :: rest => readFlags { f with plus := true } rest
  | ' ' :: rest => readFlags { f with blank := true } rest
  | '#' :: rest => readFlags { f with alternate := true } rest
  | '0' :: rest => readFlags { f with zeroPad := true } rest
  | cs => (f, cs)

/-- The value of decimal digits. -/
def digitsValue (ds : List Char) : Nat := ds.foldl (fun n c => 10 * n + (c.toNat - 48)) 0

/-- The largest width and precision. -/
def maxWidth : Nat := Nat.pow 2 63 - 1

/-- The longest padded conversion that can be held in memory. -/
def maxPadded : Nat := Nat.pow 2 32
def maxPrecision : Nat := Nat.pow 2 31 - 1

/-- The integer a star takes. -/
def starValue (v : Value) : Except FormatError Int :=
  match v with
  | .int n => .ok n
  | .bool b => .ok (if b then 1 else 0)
  | _ => .error (.wrongType "* wants int")

/-- The text of an integer conversion before padding: sign, the prefix of the
alternate form, digits padded with zeros to the precision. -/
def integerText (n : Int) (alt : Bool) (prec : Nat) (conv : Char) : String :=
  let a := n.natAbs
  let (pre, ds) :=
    if conv = 'o' then ("0o", Nat.toDigits 8 a)
    else if conv = 'x' || conv = 'X' then ("0x", Nat.toDigits 16 a)
    else ("", Nat.toDigits 10 a)
  let ds := List.replicate (prec - ds.length) '0' ++ ds
  let s := (if n < 0 then "-" else "") ++ (if alt then pre else "") ++ String.ofList ds
  if conv = 'X' then s.toUpper else s

/-- The integer of a value for an integer conversion. -/
def integerOf (conv : Char) (v : Value) : Except FormatError Int :=
  let hexLike := conv = 'o' || conv = 'x' || conv = 'X'
  let wrong := if hexLike then
      .wrongType ("%" ++ conv.toString ++ " format: an integer is required, not " ++ v.typeName)
    else .wrongType ("%" ++ conv.toString ++ " format: a real number is required, not " ++ v.typeName)
  match v with
  | .int n => .ok n
  | .bool b => .ok (if b then 1 else 0)
  | .float x =>
    if hexLike then .error wrong
    else if x.isNaN then .error (.badValue "cannot convert float NaN to integer")
    else match x.truncate with
      | some n => .ok n
      | none => .error (.overflow "cannot convert float infinity to integer")
  | _ => .error wrong

/-- The double of a value for a double conversion. -/
def doubleOf (v : Value) : Except FormatError Binary64 :=
  match v with
  | .float x => .ok x
  | .int n =>
    let x := Binary64.ofInt n
    if x.isInfinite then .error (.overflow "int too large to convert to float") else .ok x
  | .bool b => .ok (Binary64.ofInt (if b then 1 else 0))
  | _ => .error (.wrongType ("must be real number, not " ++ v.typeName))

/-- The character of a value for `%c`. -/
def charOf (v : Value) : Except FormatError Char :=
  let range := FormatError.overflow "%c arg not in range(0x110000)"
  let code (n : Int) : Except FormatError Char :=
    if n < 0 || n > 0x10FFFF then .error range else .ok (Unicode.charOfCodePoint n.toNat)
  match v with
  | .str s => match s.toList with
    | [c] => .ok c
    | _ => .error (.wrongType "%c requires int or char")
  | .int n => code n
  | .bool b => code (if b then 1 else 0)
  | _ => .error (.wrongType "%c requires int or char")

/-- The quoted form of a value with every non-ASCII character escaped. -/
def asciiQuoted (v : Value) : String :=
  String.join (v.quoted.toList.map fun c =>
    let n := c.toNat
    if n < 0x80 then c.toString
    else if n < 0x100 then "\\x" ++ hexDigits 2 n
    else if n < 0x10000 then "\\u" ++ hexDigits 4 n
    else "\\U" ++ hexDigits 8 n)

/-- A piece of filled output: some text, or a run of one character, kept
unwritten until the whole template has been filled (a wide run is never built
when a later conversion fails). -/
inductive Piece where
  | text (s : String)
  | run (c : Char) (n : Nat)

/-- The text of a piece. -/
def Piece.render : Piece → String
  | .text s => s
  | .run c n => String.ofList (List.replicate n c)

/-- Pad a converted text to the width. A signed conversion moves a leading sign
(or the `+` or blank the flags ask for) and the alternate prefix in front of
zero padding. -/
def padConverted (text : String) (signed : Bool) (f : Flags) (width : Nat) (conv : Char) :
    List Piece :=
  let fill := if signed && f.zeroPad then '0' else ' '
  let cs := text.toList
  let (signChar, body) : Option Char × List Char :=
    if signed then
      match cs with
      | '-' :: r => (some '-', r)
      | '+' :: r => (some '+', r)
      | _ => (if f.plus then some '+' else if f.blank then some ' ' else none, cs)
    else (none, cs)
  let hasPrefix := f.alternate && (conv = 'x' || conv = 'X' || conv = 'o')
  let (pre, body) := if hasPrefix then (body.take 2, body.drop 2) else ([], body)
  let signText := match signChar with
    | some s => [s]
    | none => []
  let used := signText.length + pre.length + body.length
  let lead := Piece.text (String.ofList (signText ++ pre))
  let main := Piece.text (String.ofList body)
  if f.leftAlign then [lead, main, .run ' ' (width - used)]
  else if fill = '0' then [lead, .run '0' (width - used), main]
  else [.run ' ' (width - used), lead, main]

/-- Convert one value. -/
def convert (conv : Char) (f : Flags) (prec : Option Nat) (v : Value) (index : Nat) :
    Except FormatError (String × Bool) :=
  if conv = 's' || conv = 'r' || conv = 'a' then
    let t := if conv = 's' then v.display else if conv = 'r' then v.quoted else asciiQuoted v
    .ok (match prec with
      | some p => String.ofList (t.toList.take p)
      | none => t, false)
  else if "diuoxX".contains conv then do
    let n ← integerOf conv v
    return (integerText n f.alternate (prec.getD 0) conv, true)
  else if "eEfFgG".contains conv then do
    let x ← doubleOf v
    let style := if conv = 'e' || conv = 'E' then Binary64.Notation.exponent
      else if conv = 'f' || conv = 'F' then .fixed else .general
    return (x.inNotation style (prec.getD 6) f.alternate conv.isUpper, true)
  else if conv = 'c' then do
    let c ← charOf v
    return (c.toString, false)
  else
    let n := conv.toNat
    let shown := if 31 ≤ n && n ≤ 126 then conv else '?'
    .error (.badValue ("unsupported format character '" ++ shown.toString ++ "' (0x" ++
      String.ofList (Nat.toDigits 16 n) ++ ") at index " ++ toString index))

/-- The error for a template that ends inside a conversion. -/
def incomplete : FormatError := .badValue "incomplete format"

/-- Read a width or precision: a star takes a value, digits are read up to
their end; the character after it, and the rest. -/
def readCount (c : Cursor) (limit : Nat) (tooBig machine : String) (first : Char)
    (rest : List Char) : Except FormatError (Option Int × Cursor × Option (Char × List Char)) :=
  if first = '*' then do
    let (v, c) ← c.take
    let n ← starValue v
    if n > limit || n < -((limit : Int) + 1) then
      throw (.overflow ("Python int too large to convert to C " ++ machine))
    return (some n, c, rest.head?.map fun h => (h, rest.tail))
  else if first.isDigit then
    let ds := first :: rest.takeWhile Char.isDigit
    let after := rest.dropWhile Char.isDigit
    let n := digitsValue ds
    if n > limit then .error (.badValue tooBig)
    else .ok (some n, c, after.head?.map fun h => (h, after.tail))
  else .ok (none, c, some (first, rest))

/-- One conversion, the `%` already read at `pos`: the output, the cursor and
the rest of the template with its position. -/
def conversion (c : Cursor) (cs : List Char) (pos : Nat) :
    Except FormatError (List Piece × Cursor × List Char × Nat) := do
  let total := cs.length
  -- `%(key)`
  let (c, cs) ← match cs with
    | '(' :: rest => do
      if c.mapping.isNone then throw (.wrongType "format requires a mapping")
      let some (key, rest) := readKey 0 [] rest | throw (.badValue "incomplete format key")
      let c ← c.lookup (String.ofList key)
      pure (c, rest)
    | _ => pure (c, cs)
  let (f, cs) := readFlags {} cs
  let some first := cs.head? | throw incomplete
  -- width
  let (width, c, next) ← readCount c maxWidth "width too big" "ssize_t" first cs.tail
  let f := match width with
    | some w => if w < 0 then { f with leftAlign := true } else f
    | none => f
  -- a negative width is made positive, except the least one, whose negation
  -- does not fit and which therefore pads nothing
  let width := match width with
    | some w => if w = -((maxWidth : Int) + 1) then 0 else w.natAbs
    | none => 0
  let some (ch, rest) := next | throw incomplete
  -- precision
  let (prec, c, next) ← if ch = '.' then do
      match rest with
      | [] => throw incomplete
      | first :: more =>
        let (p, c, next) ← readCount c maxPrecision "precision too big" "int" first more
        match p with
        | some p => pure (some (max p 0).toNat, c, next)
        | none => pure (some 0, c, next)
    else pure (none, c, some (ch, rest))
  let some (ch, rest) := next | throw incomplete
  -- length modifier
  let (ch, rest) ← if ch = 'h' || ch = 'l' || ch = 'L' then
      match rest with
      | [] => throw incomplete
      | h :: t => pure (h, t)
    else pure (ch, rest)
  let after := pos + (total - rest.length)
  let (v, c) ← c.take
  let (text, signed) ← convert ch f prec v (after - 1)
  if width > text.length && width > maxPadded then throw .outOfMemory
  return (padConverted text signed f width ch, c, rest, after)

/-- Fill the rest of a template, with fuel for the number of its characters. -/
def fillFrom : Nat → Cursor → List Char → Nat → Array Piece →
    Except FormatError (Array Piece × Cursor)
  | 0, c, _, _, out => .ok (out, c)
  | _ + 1, c, [], _, out => .ok (out, c)
  | fuel + 1, c, '%' :: '%' :: rest, pos, out => fillFrom fuel c rest (pos + 2) (out.push (.text "%"))
  | fuel + 1, c, '%' :: rest, pos, out => do
    let (pieces, c, rest, pos') ← conversion c rest (pos + 1)
    fillFrom fuel c rest pos' (out ++ pieces.toArray)
  | fuel + 1, c, ch :: rest, pos, out => fillFrom fuel c rest (pos + 1) (out.push (.text ch.toString))

/-- A template filled with arguments: a tuple, or one value (a mapping serves
keyed conversions). -/
def percentFormat (template : String) (args : Value) : Except FormatError String := do
  let cs := template.toList
  let (out, c) ← fillFrom (cs.length + 1) (Cursor.start args) cs 0 #[]
  if c.next < c.count && c.mapping.isNone then
    throw (.wrongType "not all arguments converted during string formatting")
  return String.join (out.toList.map Piece.render)

end MaskedLog.Log

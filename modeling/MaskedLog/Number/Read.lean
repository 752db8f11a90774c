import MaskedLog.Number.Binary64
import MaskedLog.Unicode.Blank
import MaskedLog.Unicode.Digit
/-!
# Reading numbers from text

Two grammars of number text, both tolerant of surrounding white space, of
decimal digits of any script and of single underscores between digits:

* `readInt` — an optional sign and decimal digits, with single underscores
  between digits: `" -1_000 "`, `"007"`, `"١٢"`.
* `readIntIn` — an optional sign and digits of base 2, 8 or 16, after an
  optional prefix naming that base: `" 0x1F"`, `"-17"` in base 8.
* Decimal integer text has at most `maxDigits` digits; longer text is refused
  rather than read, as a guard against quadratic conversion costs. Bases that
  are powers of two have no such limit.
* `readFloat` — a decimal with an optional point and exponent (`"1."`, `".5"`,
  `"1_0.5e-3"`), or `inf`, `infinity`, `nan` in any case, each with an optional
  sign. The value is the double nearest the decimal; one too large is an infinity.

Underscores may stand only between two digits. Any other character, and a blank
inside the number, makes the text unreadable.

## References

Python's `int` and `float` of a text, as `bodylog/size.py` and
`bodylog/config.py` (`_convert_env_value`) call them, and the number scalars of
PyYAML.
-/

namespace MaskedLog.Number

open MaskedLog.Unicode

/-- The text with each character beyond ASCII rewritten: a blank as a space, a
decimal digit as its ASCII digit; `none` if it holds another such character.
ASCII characters (below DEL) stay as they are, so an ASCII control character
that counts as a blank elsewhere is not white space here. -/
def asciiForm (s : List Char) : Option (List Char) :=
  s.mapM fun c =>
    if c.toNat < 127 then some c
    else if isBlank c then some ' '
    else (digitValue c).map fun d => Char.ofNat (48 + d)

/-- ASCII white space. -/
def isAsciiSpace (c : Char) : Bool :=
  c = ' ' || c = '\t' || c = '\n' || c = '\r' || c = '\x0b' || c = '\x0c'

/-- The text without white space at either end. -/
def trimAscii (s : List Char) : List Char :=
  ((s.dropWhile isAsciiSpace).reverse.dropWhile isAsciiSpace).reverse

/-- Remove the underscores of a number, each of which must stand between two
digits; `none` if one does not. -/
def dropUnderscores (s : List Char) : Option (List Char) :=
  go ' ' s
where
  go (prev : Char) : List Char → Option (List Char)
    | [] => if prev = '_' then none else some []
    | c :: rest =>
      if c = '_' then (if prev.isDigit then go c rest else none)
      else if prev = '_' && !c.isDigit then none
      else (go c rest).map (c :: ·)

/-- The leading ASCII digits of a text and the rest. -/
def spanDigits (s : List Char) : List Char × List Char :=
  (s.takeWhile Char.isDigit, s.dropWhile Char.isDigit)

/-- The value of a list of ASCII digits. -/
def digitsValue (ds : List Char) : Nat :=
  ds.foldl (fun n c => 10 * n + (c.toNat - 48)) 0

/-- The double nearest `(-1)^neg · d · 10^k`. Values far outside the range of
doubles go to zero or infinity without computing the power. -/
def decimalToBinary64 (neg : Bool) (d : Nat) (k : Int) : Binary64 :=
  if d = 0 then Binary64.zero neg
  else
    let size := (Nat.toDigits 10 d).length + k
    if size > 310 then Binary64.infinity neg
    else if size < -330 then Binary64.zero neg
    else if k ≥ 0 then Binary64.nearest neg (d * Nat.pow 10 k.toNat) 1
    else Binary64.nearest neg d (Nat.pow 10 k.natAbs)

/-- A sign at the front: whether it is a minus, and the rest. -/
def splitSign : List Char → Bool × List Char
  | '-' :: rest => (true, rest)
  | '+' :: rest => (false, rest)
  | s => (false, s)

/-- Whether `s` begins with `word`, ignoring ASCII case. -/
def startsWithWord (word : String) (s : List Char) : Bool :=
  word.length ≤ s.length && (s.take word.length).map Char.toLower == word.toList

/-- An infinity or NaN spelled out; `none` for any other text. -/
def readSpecial (s : List Char) : Option Binary64 :=
  let (neg, rest) := splitSign s
  if startsWithWord "infinity" rest && rest.length = 8 then some (Binary64.infinity neg)
  else if startsWithWord "inf" rest && rest.length = 3 then some (Binary64.infinity neg)
  else if startsWithWord "nan" rest && rest.length = 3 then
    some (if neg then Binary64.ofFields true 2047 (Nat.pow 2 51) else Binary64.nan)
  else none

/-- A decimal with optional sign, point and exponent, and at least one digit
before the exponent. -/
def readDecimal (s : List Char) : Option Binary64 :=
  let (neg, rest) := splitSign s
  let (whole, rest) := spanDigits rest
  let (frac, rest) :=
    match rest with
    | '.' :: more => spanDigits more
    | _ => ([], rest)
  if whole.isEmpty && frac.isEmpty then none
  else
    let expo : Option Int :=
      match rest with
      | [] => some 0
      | c :: more =>
        if c = 'e' || c = 'E' then
          let (eneg, edigits) := splitSign more
          if !edigits.isEmpty && edigits.all Char.isDigit then
            let v := (digitsValue edigits : Int)
            some (if eneg then -v else v)
          else none
        else none
    expo.map fun x => decimalToBinary64 neg (digitsValue (whole ++ frac)) (x - frac.length)

/-- The double a text denotes as a floating-point literal, or `none`. -/
def readFloat (text : String) : Option Binary64 := do
  let s ← asciiForm text.toList
  let s := trimAscii s
  let s ← if s.contains '_' then dropUnderscores s else some s
  match readDecimal s with
  | some x => some x
  | none => readSpecial s

/-- The most digits a decimal integer text may have; leading zeros count. -/
def maxDigits : Nat := 4300

/-- The integer a text denotes in decimal, or `none`. -/
def readInt (text : String) : Option Int := do
  let s ← asciiForm text.toList
  let s := trimAscii s
  let (neg, rest) := splitSign s
  let ds ← dropUnderscores rest
  if ds.isEmpty || !ds.all Char.isDigit || ds.length > maxDigits then none
  else
    let v := (digitsValue ds : Int)
    some (if neg then -v else v)

/-- The value of a digit or letter as a digit of `base`, if it is one. -/
def digitIn (base : Nat) (c : Char) : Option Nat :=
  let v :=
    if '0' ≤ c && c ≤ '9' then c.toNat - 48
    else if 'a' ≤ c && c ≤ 'z' then c.toNat - 87
    else if 'A' ≤ c && c ≤ 'Z' then c.toNat - 55
    else base
  if v < base then some v else none

/-- Whether `p` is the prefix letter of `base` (`0b`, `0o`, `0x`). -/
def isBaseLetter (base : Nat) (p : Char) : Bool :=
  (base = 2 && (p = 'b' || p = 'B')) || (base = 8 && (p = 'o' || p = 'O')) ||
    (base = 16 && (p = 'x' || p = 'X'))

/-- The integer a text denotes in `base` (without underscores), or `none`;
decimal text longer than `maxDigits` is refused. -/
def readIntIn (base : Nat) (text : String) : Option Int := do
  let s ← asciiForm text.toList
  let (neg, rest) := splitSign (trimAscii s)
  let ds := match rest with
    | '0' :: p :: more => if isBaseLetter base p then more else rest
    | _ => rest
  if ds.isEmpty then none
  if base = 10 && ds.length > maxDigits then none
  let vs ← ds.mapM (digitIn base)
  let v : Int := (vs.foldl (fun (n d : Nat) => base * n + d) 0 : Nat)
  return if neg then -v else v

end MaskedLog.Number

/-!
# YAML text, positions and tokens

The first stage of reading a YAML document: the text as an array of
characters followed by an end marker `\0`, positions in it, the classes of
characters the scanner tests, and the tokens it produces.

A step over a character moves to the next line after a line break (`\n`,
`\x85`, `\u2028`, `\u2029`, or `\r` not followed by `\n`); a byte order mark
takes no column; any other character takes one.

## Main definitions

* `Source`, `Mark`, `Source.step`.
* `Token` — what the scanner produces.

## References

The `yaml.reader` and `yaml.tokens` modules of PyYAML.
-/

namespace MaskedLog.Yaml

/-- The text being read. Reading past its end gives the end marker `\0`. -/
structure Source where
  chars : Array Char

/-- The character at an index, or the end marker. -/
def Source.at (s : Source) (i : Nat) : Char := s.chars.getD i '\x00'

/-- A position: index, line and column, from zero. -/
structure Mark where
  index : Nat := 0
  line : Nat := 0
  column : Nat := 0
  deriving Repr, DecidableEq

/-- A line break character (`\r\n` counts as one break). -/
def isBreak (c : Char) : Bool :=
  c = '\r' || c = '\n' || c = '\x85' || c = '\u2028' || c = '\u2029'

/-- A line break or the end of the text. -/
def isBreakOrEnd (c : Char) : Bool := c = '\x00' || isBreak c

/-- A blank, a line break or the end of the text: what may follow an
indicator. -/
def isBlankOrEnd (c : Char) : Bool := c = ' ' || c = '\t' || isBreakOrEnd c

/-- A space, a line break or the end (no tab). -/
def isSpaceOrEnd (c : Char) : Bool := c = ' ' || isBreakOrEnd c

/-- An ASCII letter or digit, `-` or `_`: a character of anchors, directive
names and tag handles. -/
def isNameChar (c : Char) : Bool :=
  ('0' ≤ c && c ≤ '9') || ('A' ≤ c && c ≤ 'Z') || ('a' ≤ c && c ≤ 'z') || c = '-' || c = '_'

/-- A hexadecimal digit. -/
def isHexDigit (c : Char) : Bool :=
  ('0' ≤ c && c ≤ '9') || ('A' ≤ c && c ≤ 'F') || ('a' ≤ c && c ≤ 'f')

/-- The value of a hexadecimal digit. -/
def hexValue (c : Char) : Nat :=
  if '0' ≤ c && c ≤ '9' then c.toNat - 48
  else if 'a' ≤ c && c ≤ 'f' then c.toNat - 87
  else c.toNat - 55

/-- The position after the character at `m`. -/
def Source.step (s : Source) (m : Mark) : Mark :=
  let c := s.at m.index
  if c = '\n' || c = '\x85' || c = '\u2028' || c = '\u2029' ||
      (c = '\r' && s.at (m.index + 1) != '\n') then
    ⟨m.index + 1, m.line + 1, 0⟩
  else if c = '\uFEFF' then ⟨m.index + 1, m.line, m.column⟩
  else ⟨m.index + 1, m.line, m.column + 1⟩

/-- The position `n` characters on. -/
def Source.advance (s : Source) (m : Mark) : Nat → Mark
  | 0 => m
  | n + 1 => s.advance (s.step m) n

/-- The `n` characters from an index. -/
def Source.slice (s : Source) (i n : Nat) : String :=
  String.ofList ((List.range n).map fun k => s.at (i + k))

/-- The number of characters from index `i` on that satisfy `p`, stopping at
the end of the text. -/
def Source.runLength (s : Source) (p : Char → Bool) (i : Nat) : Nat :=
  go (s.chars.size + 1 - i) 0
where
  go : Nat → Nat → Nat
    | 0, n => n
    | fuel + 1, n => if i + n < s.chars.size && p (s.at (i + n)) then go fuel (n + 1) else n

/-- A tag as written: the handle (none for a verbatim tag) and the suffix. -/
structure TagText where
  handle : Option String
  suffix : String
  deriving Repr, DecidableEq

/-- The value of a directive. -/
inductive DirectiveValue where
  | version (major minor : Nat)
  | tag (handle pre : String)
  | other
  deriving Repr, DecidableEq

/-- A token of YAML text. -/
inductive Token where
  | streamStart
  | streamEnd
  | directive (name : String) (value : DirectiveValue)
  | documentStart
  | documentEnd
  | blockSequenceStart
  | blockMappingStart
  | blockEnd
  | flowSequenceStart
  | flowMappingStart
  | flowSequenceEnd
  | flowMappingEnd
  | key
  | value
  | blockEntry
  | flowEntry
  | alias (name : String)
  | anchor (name : String)
  | tag (t : TagText)
  /-- A scalar: its text and whether it was written plain (unquoted). -/
  | scalar (text : String) (plain : Bool)
  deriving Repr, DecidableEq

end MaskedLog.Yaml

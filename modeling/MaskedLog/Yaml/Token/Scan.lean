import MaskedLog.Yaml.Token
import MaskedLog.Text.Utf8
import MaskedLog.Unicode.Surrogate
import MaskedLog.Failure
import MaskedLog.Number.Read
/-!
# Scanning YAML text into tokens

The second stage of reading YAML: text to tokens. The scanner skips spaces
(never tabs), comments and line breaks between tokens, and in block context
tracks indentation, emitting the start of a block sequence or mapping when a
line's content is indented deeper than the current block and block ends when
it is shallower.

A mapping key without `?` (a *simple key*) is only recognised when the `:`
after it arrives: the scalar, alias, anchor, tag or flow collection that could
start a key is remembered with its token number, and the key token (and a
mapping start, in block context) is inserted there when the `:` comes. A
possible key goes stale at the end of its line or after 1024 characters; a
stale key that had to be a key (it stood at the block's indentation) is an
error.

Scalars are plain (ending before `: `, ` #`, a line break at lower
indentation, or a document separator; in flow context also at `,[]{}`), single
quoted (`''` is a quote), double quoted (with escapes), or block scalars
(`|` literal, `>` folded, with chomping and indentation indicators). Line
breaks inside plain and quoted scalars fold to spaces; blank lines stay.

## Main definitions

* `ScanState`, `ScanM` — the scanner state and its monad.
* `YamlError` — invalid YAML, or another failure met while reading it.
* `scanNext` — scan the next token, with the block ends and keys it brings.

## References

The `yaml.scanner` module of PyYAML.
-/

namespace MaskedLog.Yaml

/-- Why YAML text cannot be read: it is not valid YAML, or reading it met
another failure (a character code out of range, a bad value for a tag). -/
inductive YamlError where
  | invalid (message : String)
  | failure (f : Failure)
  deriving Repr

/-- A token that may turn out to be a simple key. -/
structure SimpleKey where
  tokenNumber : Nat
  required : Bool
  index : Nat
  line : Nat
  column : Nat

/-- The scanner's state. -/
structure ScanState where
  src : Source
  mark : Mark := {}
  /-- How many flow collections are open (it goes below zero on a stray closing bracket). -/
  flowLevel : Int := 0
  /-- Tokens scanned but not yet handed out. -/
  tokens : Array Token := #[]
  /-- How many tokens have been handed out. -/
  taken : Nat := 0
  indent : Int := -1
  indents : List Int := []
  allowSimpleKey : Bool := true
  /-- Possible simple keys, by flow level. -/
  simpleKeys : List (Int × SimpleKey) := []
  done : Bool := false

/-- The scanner's monad. -/
abbrev ScanM := StateT ScanState (Except YamlError)

/-- Fail: the text is not valid YAML. -/
def invalid (msg : String) : ScanM α := throw (.invalid msg)

/-- The character `k` places ahead. -/
def peek (k : Nat := 0) : ScanM Char := do
  let st ← get
  return st.src.at (st.mark.index + k)

/-- Move `n` characters on. -/
def forward (n : Nat := 1) : ScanM Unit :=
  modify fun st => { st with mark := st.src.advance st.mark n }

/-- The next `n` characters. -/
def ahead (n : Nat) : ScanM String := do
  let st ← get
  return st.src.slice st.mark.index n

/-- The number of characters from here on that satisfy `p`. -/
def runAhead (p : Char → Bool) : ScanM Nat := do
  let st ← get
  return st.src.runLength p st.mark.index

/-- A bound on the steps of any loop over the text. -/
def bound : ScanM Nat := return (← get).src.chars.size + 2

/-- The current column. -/
def column : ScanM Nat := return (← get).mark.column

/-- Whether the scanner is inside a flow collection. -/
def inFlow : ScanM Bool := return (← get).flowLevel != 0

/-- Set whether a simple key may start here. -/
def setAllowKey (b : Bool) : ScanM Unit := modify fun st => { st with allowSimpleKey := b }

/-- Read a line break, giving `\n` for `\r\n`, `\r`, `\n` and `\x85`, the
character itself for the Unicode separators, and nothing when there is none. -/
def lineBreak : ScanM String := do
  let c ← peek
  if c = '\r' || c = '\n' || c = '\x85' then
    if c = '\r' && (← peek 1) = '\n' then forward 2 else forward
    return "\n"
  else if c = '\u2028' || c = '\u2029' then
    forward
    return c.toString
  else return ""

/-- Skip spaces. -/
def skipSpaces : ScanM Unit := do
  let n ← runAhead (· = ' ')
  forward n

/-- Skip to the end of the line. -/
def skipComment : ScanM Unit := do
  let n ← runAhead (fun c => !isBreakOrEnd c)
  forward n

/-- Whether a document separator (`---` or `...` then a blank) starts here. -/
def atSeparator : ScanM Bool := do
  let p ← ahead 3
  return (p == "---" || p == "...") && isBlankOrEnd (← peek 3)

/-- Append a token. -/
def emit (t : Token) : ScanM Unit := modify fun st => { st with tokens := st.tokens.push t }

/-! ### Scalars -/

/-- The separating spaces and breaks inside a plain scalar: what they fold to
(empty when there are none), or none when the scalar ends at a document
separator. -/
def plainSpaces : ScanM (Option String) := do
  let n ← runAhead (· = ' ')
  let spaces ← ahead n
  forward n
  if isBreak (← peek) then
    let first ← lineBreak
    setAllowKey true
    if ← atSeparator then return none
    let mut breaks := ""
    for _ in [0:← bound] do
      let c ← peek
      if c = ' ' then forward
      else if isBreak c then
        breaks := breaks ++ (← lineBreak)
        if ← atSeparator then return none
      else break
    let fold := if first != "\n" then first else if breaks.isEmpty then " " else ""
    return some (fold ++ breaks)
  else return some spaces

/-- Scan a plain scalar. -/
def scanPlain : ScanM Token := do
  let indent : Int := (← get).indent + 1
  let flow ← inFlow
  let mut text := ""
  let mut spaces := ""
  for _ in [0:← bound] do
    if (← peek) = '#' then break
    let mut length := 0
    for _ in [0:← bound] do
      let c ← peek length
      let next ← peek (length + 1)
      if isBlankOrEnd c || (c = ':' && (isBlankOrEnd next || (flow && ",[]\x7b\x7d".contains next))) ||
          (flow && ",?[]\x7b\x7d".contains c) then break
      length := length + 1
    if length = 0 then break
    setAllowKey false
    text := text ++ spaces ++ (← ahead length)
    forward length
    match ← plainSpaces with
    | none => break
    | some sp =>
      spaces := sp
      if sp.isEmpty || (← peek) = '#' || (!flow && ((← column) : Int) < indent) then break
  return .scalar text true

/-- The replacement of a one-character escape in a double-quoted scalar. -/
def escapeReplacement (c : Char) : Option Char :=
  [('0', '\x00'), ('a', '\x07'), ('b', '\x08'), ('t', '\t'), ('\t', '\t'), ('n', '\n'),
    ('v', '\x0b'), ('f', '\x0c'), ('r', '\r'), ('e', '\x1b'), (' ', ' '), ('"', '"'),
    ('\\', '\\'), ('/', '/'), ('N', '\x85'), ('_', '\xa0'), ('L', '\u2028'),
    ('P', '\u2029')].lookup c

/-- The number of hexadecimal digits after `\x`, `\u` and `\U`. -/
def escapeLength (c : Char) : Option Nat := [('x', 2), ('u', 4), ('U', 8)].lookup c

/-- The character of a code point from an escape; a surrogate code point,
which no character has, becomes its stand-in. -/
def escapedChar (code : Nat) : Char := Unicode.charOfCodePoint code

/-- Line breaks inside a quoted scalar, up to its next text. -/
def quotedBreaks : ScanM String := do
  let mut text := ""
  for _ in [0:← bound] do
    if ← atSeparator then invalid "found unexpected document separator"
    let n ← runAhead (fun c => c = ' ' || c = '\t')
    forward n
    if isBreak (← peek) then text := text ++ (← lineBreak)
    else return text
  return text

/-- Text of a quoted scalar up to blanks, a line break or its closing quote. -/
def quotedText (double : Bool) : ScanM String := do
  let mut text := ""
  for _ in [0:← bound] do
    let n ← runAhead (fun c => !(c = '\'' || c = '"' || c = '\\' || isBlankOrEnd c))
    if n > 0 then
      text := text ++ (← ahead n)
      forward n
    let c ← peek
    if !double && c = '\'' && (← peek 1) = '\'' then
      text := text.push '\''
      forward 2
    else if (double && c = '\'') || (!double && (c = '"' || c = '\\')) then
      text := text.push c
      forward
    else if double && c = '\\' then
      forward
      let e ← peek
      match escapeReplacement e with
      | some r =>
        text := text.push r
        forward
      | none =>
        match escapeLength e with
        | some len =>
          forward
          let digits ← ahead len
          if digits.length != len || !digits.toList.all isHexDigit then
            invalid "expected escape sequence of hexadecimal numbers"
          let code := digits.toList.foldl (fun n d => 16 * n + hexValue d) 0
          if code > 0x7FFFFFFF then throw (.failure .overflow)
          if code > 0x10FFFF then
            throw (.failure (.badValue "escaped code point out of range"))
          text := text.push (escapedChar code)
          forward len
        | none =>
          if isBreak e then
            let _ ← lineBreak
            text := text ++ (← quotedBreaks)
          else invalid "found unknown escape character"
    else return text
  return text

/-- Blanks and line breaks inside a quoted scalar, folded. -/
def quotedSpaces : ScanM String := do
  let n ← runAhead (fun c => c = ' ' || c = '\t')
  let blanks ← ahead n
  forward n
  let c ← peek
  if c = '\x00' then invalid "found unexpected end of stream"
  else if isBreak c then
    let first ← lineBreak
    let breaks ← quotedBreaks
    let fold := if first != "\n" then first else if breaks.isEmpty then " " else ""
    return fold ++ breaks
  else return blanks

/-- Scan a single- or double-quoted scalar. -/
def scanQuoted (double : Bool) : ScanM Token := do
  let quote ← peek
  forward
  let mut text ← quotedText double
  for _ in [0:← bound] do
    if (← peek) = quote then break
    text := text ++ (← quotedSpaces)
    text := text ++ (← quotedText double)
  forward
  return .scalar text false

/-- The chomping (`+` keep, `-` strip) and indentation indicators of a block
scalar. -/
def blockIndicators : ScanM (Option Bool × Option Nat) := do
  let mut chomping : Option Bool := none
  let mut increment : Option Nat := none
  let c ← peek
  if c = '+' || c = '-' then
    chomping := some (c = '+')
    forward
    let d ← peek
    if d.isDigit then
      if d = '0' then invalid "expected indentation indicator in the range 1-9, but found 0"
      increment := some (d.toNat - 48)
      forward
  else if c.isDigit then
    if c = '0' then invalid "expected indentation indicator in the range 1-9, but found 0"
    increment := some (c.toNat - 48)
    forward
    let d ← peek
    if d = '+' || d = '-' then
      chomping := some (d = '+')
      forward
  if !isSpaceOrEnd (← peek) then invalid "expected chomping or indentation indicators"
  return (chomping, increment)

/-- The rest of a block scalar's header line: spaces and a comment. -/
def headerRest : ScanM Unit := do
  skipSpaces
  if (← peek) = '#' then skipComment
  if !isBreakOrEnd (← peek) then invalid "expected a comment or a line break"
  let _ ← lineBreak

/-- The leading empty lines of a block scalar and the deepest indentation met
among them. -/
def blockIndentation : ScanM (String × Nat) := do
  let mut breaks := ""
  let mut deepest := 0
  for _ in [0:← bound] do
    let c ← peek
    if c = ' ' then
      forward
      let col ← column
      if col > deepest then deepest := col
    else if isBreak c then breaks := breaks ++ (← lineBreak)
    else break
  return (breaks, deepest)

/-- Line breaks of a block scalar, skipping indentation up to `indent`. -/
def blockBreaks (indent : Int) : ScanM String := do
  let mut breaks := ""
  for _ in [0:← bound] do
    if ((← column) : Int) < indent && (← peek) = ' ' then forward else break
  for _ in [0:← bound] do
    if !isBreak (← peek) then break
    breaks := breaks ++ (← lineBreak)
    for _ in [0:← bound] do
      if ((← column) : Int) < indent && (← peek) = ' ' then forward else break
  return breaks

/-- Scan a literal (`|`) or folded (`>`) block scalar. -/
def scanBlockScalar (folded : Bool) : ScanM Token := do
  forward
  let (chomping, increment) ← blockIndicators
  headerRest
  let minIndent : Int := max ((← get).indent + 1) 1
  let (first, indent) ← match increment with
    | none => do
      let (b, deepest) ← blockIndentation
      pure (b, max minIndent (deepest : Int))
    | some inc => do
      let ind := minIndent + inc - 1
      let b ← blockBreaks ind
      pure (b, ind)
  let mut text := ""
  let mut breaks := first
  let mut lastBreak := ""
  for _ in [0:← bound] do
    if !(((← column) : Int) = indent && (← peek) != '\x00') then break
    text := text ++ breaks
    let c ← peek
    let leadingNonSpace := !(c = ' ' || c = '\t')
    let n ← runAhead (fun c => !isBreakOrEnd c)
    text := text ++ (← ahead n)
    forward n
    lastBreak ← lineBreak
    breaks ← blockBreaks indent
    let c ← peek
    if ((← column) : Int) = indent && c != '\x00' then
      if folded && lastBreak = "\n" && leadingNonSpace && !(c = ' ' || c = '\t') then
        if breaks.isEmpty then text := text.push ' '
      else text := text ++ lastBreak
    else break
  if chomping != some false then text := text ++ lastBreak
  if chomping = some true then text := text ++ breaks
  return .scalar text false

/-! ### Anchors, tags and directives -/

/-- Scan an alias (`*name`) or an anchor (`&name`). -/
def scanAnchor (isAlias : Bool) : ScanM Token := do
  forward
  let n ← runAhead isNameChar
  if n = 0 then invalid "expected alphabetic or numeric character"
  let name ← ahead n
  forward n
  let c ← peek
  if !(isBlankOrEnd c || "?:,]\x7d%@`".contains c) then
    invalid "expected alphabetic or numeric character"
  return if isAlias then .alias name else .anchor name

/-- Scan a tag handle, `!`, `!!` or `!name!`. -/
def tagHandle : ScanM String := do
  if (← peek) != '!' then invalid "expected '!'"
  let mut length := 1
  if (← peek 1) != ' ' then
    let st ← get
    length := 1 + st.src.runLength isNameChar (st.mark.index + 1)
    if (← peek length) != '!' then
      forward length
      invalid "expected '!'"
    length := length + 1
  let v ← ahead length
  forward length
  return v

/-- A character allowed in a tag URI. -/
def isUriChar (c : Char) : Bool :=
  ('0' ≤ c && c ≤ '9') || ('A' ≤ c && c ≤ 'Z') || ('a' ≤ c && c ≤ 'z') ||
    "-;/?:@&=+$,_.!~*'()[]%".contains c

/-- Percent escapes in a tag URI, decoded as UTF-8. -/
def uriEscapes : ScanM String := do
  let mut codes : List UInt8 := []
  for _ in [0:← bound] do
    if (← peek) != '%' then break
    forward
    let digits ← ahead 2
    if digits.length != 2 || !digits.toList.all isHexDigit then
      invalid "expected URI escape sequence"
    codes := codes ++ [UInt8.ofNat (digits.toList.foldl (fun n d => 16 * n + hexValue d) 0)]
    forward 2
  match Text.decodeStrict? codes with
  | some s => return s
  | none => invalid "invalid UTF-8 in URI escape"

/-- Scan a tag URI. -/
def tagUri : ScanM String := do
  let mut text := ""
  let mut length := 0
  for _ in [0:← bound] do
    let c ← peek length
    if !isUriChar c then break
    if c = '%' then
      text := text ++ (← ahead length)
      forward length
      length := 0
      text := text ++ (← uriEscapes)
    else length := length + 1
  if length > 0 then
    text := text ++ (← ahead length)
    forward length
  if text.isEmpty then invalid "expected URI"
  return text

/-- Scan a tag: `!<uri>`, `!`, `!suffix`, `!!suffix` or `!handle!suffix`. -/
def scanTag : ScanM Token := do
  let c ← peek 1
  let mut handle : Option String := none
  let mut suffix := ""
  if c = '<' then
    forward 2
    suffix ← tagUri
    if (← peek) != '>' then invalid "expected '>'"
    forward
  else if isBlankOrEnd c then
    suffix := "!"
    forward
  else
    let mut length := 1
    let mut useHandle := false
    let mut d := c
    for _ in [0:← bound] do
      if isSpaceOrEnd d then break
      if d = '!' then
        useHandle := true
        break
      length := length + 1
      d ← peek length
    if useHandle then handle := some (← tagHandle)
    else
      handle := some "!"
      forward
    suffix ← tagUri
  if !isSpaceOrEnd (← peek) then invalid "expected ' '"
  return .tag ⟨handle, suffix⟩

/-- A decimal number in a version directive; like any decimal text read as an
integer it may have at most `maxDigits` digits. -/
def versionNumber : ScanM Nat := do
  if !(← peek).isDigit then invalid "expected a digit"
  let n ← runAhead Char.isDigit
  if n > Number.maxDigits then
    throw (.failure (.badValue "Exceeds the limit (4300 digits) for integer string conversion"))
  let ds ← ahead n
  forward n
  return ds.toList.foldl (fun v d => 10 * v + (d.toNat - 48)) 0

/-- Scan a directive: `%YAML major.minor`, `%TAG handle prefix`, or another
name whose line is ignored. -/
def scanDirective : ScanM Token := do
  forward
  let n ← runAhead isNameChar
  if n = 0 then invalid "expected alphabetic or numeric character"
  let name ← ahead n
  forward n
  if !isSpaceOrEnd (← peek) then invalid "expected alphabetic or numeric character"
  let mut value := DirectiveValue.other
  if name = "YAML" then
    skipSpaces
    let major ← versionNumber
    if (← peek) != '.' then invalid "expected a digit or '.'"
    forward
    let minor ← versionNumber
    if !isSpaceOrEnd (← peek) then invalid "expected a digit or ' '"
    value := .version major minor
  else if name = "TAG" then
    skipSpaces
    let handle ← tagHandle
    if (← peek) != ' ' then invalid "expected ' '"
    skipSpaces
    let pre ← tagUri
    if !isSpaceOrEnd (← peek) then invalid "expected ' '"
    value := .tag handle pre
  else skipComment
  skipSpaces
  if (← peek) = '#' then skipComment
  if !isBreakOrEnd (← peek) then invalid "expected a comment or a line break"
  let _ ← lineBreak
  return .directive name value

/-! ### Indentation and simple keys -/

/-- Drop possible keys that went stale; a stale required key is an error. -/
def dropStaleKeys : ScanM Unit := do
  let st ← get
  let stale (key : SimpleKey) : Bool := key.line != st.mark.line || st.mark.index - key.index > 1024
  if st.simpleKeys.any fun (_, key) => stale key && key.required then
    invalid "could not find expected ':'"
  set { st with simpleKeys := st.simpleKeys.filter fun (_, key) => !stale key }

/-- Forget the possible key of the current flow level; a required one is an error. -/
def removeSimpleKey : ScanM Unit := do
  let st ← get
  match st.simpleKeys.lookup st.flowLevel with
  | some key =>
    if key.required then invalid "could not find expected ':'"
    set { st with simpleKeys := st.simpleKeys.filter (·.1 != st.flowLevel) }
  | none => pure ()

/-- Remember that the next token may be a simple key. -/
def saveSimpleKey : ScanM Unit := do
  let st ← get
  let required := st.flowLevel = 0 && st.indent = (st.mark.column : Int)
  if st.allowSimpleKey then
    removeSimpleKey
    let st ← get
    let key : SimpleKey := ⟨st.taken + st.tokens.size, required, st.mark.index, st.mark.line, st.mark.column⟩
    set { st with simpleKeys := (st.flowLevel, key) :: st.simpleKeys.filter (·.1 != st.flowLevel) }

/-- Close the blocks indented deeper than `col` (block context only). -/
def unwindIndent (col : Int) : ScanM Unit := do
  if ← inFlow then return
  for _ in [0:(← get).indents.length + 1] do
    let st ← get
    if st.indent > col then
      match st.indents with
      | i :: rest => set { st with indent := i, indents := rest, tokens := st.tokens.push .blockEnd }
      | [] => break
    else break

/-- Open a block at `col` if it is deeper than the current one. -/
def addIndent (col : Int) : ScanM Bool := do
  let st ← get
  if st.indent < col then
    set { st with indents := st.indent :: st.indents, indent := col }
    return true
  return false

/-! ### Tokens -/

/-- Skip spaces, comments and line breaks before the next token; a line break
in block context allows a simple key. A byte order mark is skipped at the
start. -/
def skipToToken : ScanM Unit := do
  if (← get).mark.index = 0 && (← peek) = '\uFEFF' then forward
  for _ in [0:← bound] do
    skipSpaces
    if (← peek) = '#' then skipComment
    let b ← lineBreak
    if b.isEmpty then break
    if !(← inFlow) then setAllowKey true

/-- A token after which no simple key may follow, closing blocks first. -/
def documentIndicator (t : Token) (width : Nat) : ScanM Unit := do
  unwindIndent (-1)
  removeSimpleKey
  setAllowKey false
  forward width
  emit t

/-- The start of a flow collection. -/
def flowStart (t : Token) : ScanM Unit := do
  saveSimpleKey
  modify fun st => { st with flowLevel := st.flowLevel + 1 }
  setAllowKey true
  forward
  emit t

/-- The end of a flow collection. -/
def flowEnd (t : Token) : ScanM Unit := do
  removeSimpleKey
  modify fun st => { st with flowLevel := st.flowLevel - 1 }
  setAllowKey false
  forward
  emit t

/-- A block sequence entry `-`. -/
def blockEntry : ScanM Unit := do
  if !(← inFlow) then
    if !(← get).allowSimpleKey then invalid "sequence entries are not allowed here"
    if ← addIndent (← column) then emit .blockSequenceStart
  setAllowKey true
  removeSimpleKey
  forward
  emit .blockEntry

/-- A complex key `?`. -/
def complexKey : ScanM Unit := do
  let flow ← inFlow
  if !flow then
    if !(← get).allowSimpleKey then invalid "mapping keys are not allowed here"
    if ← addIndent (← column) then emit .blockMappingStart
  setAllowKey !flow
  removeSimpleKey
  forward
  emit .key

/-- A value indicator `:`, turning a possible simple key into a key. -/
def valueIndicator : ScanM Unit := do
  let st ← get
  let flow := st.flowLevel != 0
  match st.simpleKeys.lookup st.flowLevel with
  | some key =>
    set { st with simpleKeys := st.simpleKeys.filter (·.1 != st.flowLevel),
                  tokens := st.tokens.insertIdxIfInBounds (key.tokenNumber - st.taken) .key }
    if !flow then
      if ← addIndent key.column then
        modify fun st => { st with tokens := st.tokens.insertIdxIfInBounds (key.tokenNumber - st.taken) .blockMappingStart }
    setAllowKey false
  | none =>
    if !flow then
      if !st.allowSimpleKey then invalid "mapping values are not allowed here"
      if ← addIndent (← column) then emit .blockMappingStart
    setAllowKey !flow
    removeSimpleKey
  forward
  emit .value

/-- Whether a plain scalar may start here. -/
def plainStarts : ScanM Bool := do
  let c ← peek
  let next ← peek 1
  let flow ← inFlow
  return !(isBlankOrEnd c || "-?:,[]\x7b\x7d#&*!|>'\"%@`".contains c) ||
    (!isBlankOrEnd next && (c = '-' || (!flow && (c = '?' || c = ':'))))

/-- Scan the next token (or tokens: block ends and inserted keys come along). -/
def scanNext : ScanM Unit := do
  skipToToken
  dropStaleKeys
  unwindIndent (← column)
  let c ← peek
  let col ← column
  let flow ← inFlow
  let next ← peek 1
  if c = '\x00' then
    unwindIndent (-1)
    removeSimpleKey
    modify fun st => { st with allowSimpleKey := false, simpleKeys := [], done := true }
    emit .streamEnd
  else if c = '%' && col = 0 then
    unwindIndent (-1)
    removeSimpleKey
    setAllowKey false
    emit (← scanDirective)
  else if c = '-' && col = 0 && (← ahead 3) == "---" && isBlankOrEnd (← peek 3) then
    documentIndicator .documentStart 3
  else if c = '.' && col = 0 && (← ahead 3) == "..." && isBlankOrEnd (← peek 3) then
    documentIndicator .documentEnd 3
  else if c = '[' then flowStart .flowSequenceStart
  else if c = '{' then flowStart .flowMappingStart
  else if c = ']' then flowEnd .flowSequenceEnd
  else if c = '}' then flowEnd .flowMappingEnd
  else if c = ',' then
    setAllowKey true
    removeSimpleKey
    forward
    emit .flowEntry
  else if c = '-' && isBlankOrEnd next then blockEntry
  else if c = '?' && (flow || isBlankOrEnd next) then complexKey
  else if c = ':' && (flow || isBlankOrEnd next) then valueIndicator
  else if c = '*' || c = '&' then
    saveSimpleKey
    setAllowKey false
    emit (← scanAnchor (c = '*'))
  else if c = '!' then
    saveSimpleKey
    setAllowKey false
    emit (← scanTag)
  else if (c = '|' || c = '>') && !flow then
    setAllowKey true
    removeSimpleKey
    emit (← scanBlockScalar (c = '>'))
  else if c = '\'' || c = '"' then
    saveSimpleKey
    setAllowKey false
    emit (← scanQuoted (c = '"'))
  else if ← plainStarts then
    saveSimpleKey
    setAllowKey false
    emit (← scanPlain)
  else invalid "found character that cannot start any token"

end MaskedLog.Yaml

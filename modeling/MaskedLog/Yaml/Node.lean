import MaskedLog.Yaml.Token.Scan
import MaskedLog.Yaml.Tag
import Std.Data.HashMap
/-!
# YAML node graphs

The third stage of reading YAML: tokens to events to a node graph.

The parser is a state machine over the grammar of YAML streams: each step
produces one event (a document's start or end, a scalar, an alias, the start or
end of a sequence or mapping) and names the next state, keeping a stack of the
states to return to. It pulls tokens from the scanner only as it needs them,
and the scanner looks ahead only while a token it handed out could still turn
out to be a mapping key, so errors surface in text order.

The composer turns the events of the one document into nodes. Nodes live in an
array and refer to their children by index, so an alias is simply a second
reference to the node its anchor names; a collection's anchor is known before
its children are read, so a collection may contain itself. Tags written with a
handle are expanded through the document's `%TAG` directives (`!` and `!!` by
default); untagged nodes get their tag from `implicitTag`.

## Main definitions

* `Node` — a scalar, sequence or mapping node with its tag.
* `Event`, `Phase` — the parser's output and states.
* `ReadState` — scanner, parser and composer state together.
* `readNodes` — the node graph and root of a text holding at most one document.

## References

The `yaml.parser` and `yaml.composer` modules of PyYAML.
-/

namespace MaskedLog.Yaml

/-- A node of a composed document; children are indices into the node array. -/
inductive Node where
  | scalar (tag : String) (value : String)
  | sequence (tag : String) (items : Array Nat)
  | mapping (tag : String) (pairs : Array (Nat × Nat))
  deriving Repr, Inhabited

/-- The tag of a node. -/
def Node.tag : Node → String
  | .scalar t _ | .sequence t _ | .mapping t _ => t

/-- An event of the parser. A scalar carries its anchor, its expanded tag,
whether its type is read from its text, and its value. -/
inductive Event where
  | streamStart
  | streamEnd
  | documentStart
  | documentEnd
  | alias (anchor : String)
  | scalar (anchor tag : Option String) (byText : Bool) (value : String)
  | sequenceStart (anchor tag : Option String)
  | sequenceEnd
  | mappingStart (anchor tag : Option String)
  | mappingEnd
  deriving Repr, Inhabited, DecidableEq

/-- The states of the parser. -/
inductive Phase where
  | streamStart
  | implicitDocumentStart
  | documentStart
  | documentEnd
  | documentContent
  | blockNode
  | blockNodeOrIndentlessSequence
  | flowNode
  | blockSequenceFirstEntry
  | blockSequenceEntry
  | indentlessSequenceEntry
  | blockMappingFirstKey
  | blockMappingKey
  | blockMappingValue
  | flowSequenceFirstEntry
  | flowSequenceEntry
  | flowSequenceEntryMappingKey
  | flowSequenceEntryMappingValue
  | flowSequenceEntryMappingEnd
  | flowMappingFirstKey
  | flowMappingKey
  | flowMappingValue
  | flowMappingEmptyValue
  | finished
  deriving Repr, Inhabited, DecidableEq

/-- The tag handles every document knows. -/
def defaultHandles : List (String × String) := [("!", "!"), ("!!", standardPrefix)]

/-- Scanner, parser and composer state. -/
structure ReadState where
  scanner : ScanState
  phase : Phase := .streamStart
  stack : List Phase := []
  handles : List (String × String) := defaultHandles
  /-- An event produced but not yet taken. -/
  current : Option Event := none
  nodes : Array Node := #[]
  anchors : Std.HashMap String Nat := {}

/-- The loader's monad. -/
abbrev ReadM := StateT ReadState (Except YamlError)

/-- Fail: the text is not valid YAML. -/
def broken (msg : String) : ReadM α := throw (.invalid msg)

/-- Run a scanner step on the loader's scanner. -/
def scan (m : ScanM α) : ReadM α := do
  let st ← get
  match m.run st.scanner with
  | .ok (a, sc) =>
    set { st with scanner := sc }
    return a
  | .error e => throw e

/-! ### Pulling tokens -/

/-- Whether the scanner must scan on before the parser may see the next token:
there is none yet, or the next one may still become a simple key. -/
def needMore : ReadM Bool := do
  let sc := (← get).scanner
  if sc.done then return false
  if sc.tokens.isEmpty then return true
  scan dropStaleKeys
  let sc := (← get).scanner
  return (sc.simpleKeys.map (·.2.tokenNumber)).min? == some sc.taken

/-- Scan until the next token is settled. -/
def settle : ReadM Unit := do
  let n := (← get).scanner.src.chars.size + 2
  for _ in [0:n] do
    if ← needMore then scan scanNext else break

/-- The next token, without taking it. -/
def peekToken : ReadM Token := do
  settle
  return (← get).scanner.tokens.getD 0 .streamEnd

/-- Take the next token. -/
def takeToken : ReadM Token := do
  let t ← peekToken
  modify fun st =>
    let sc := st.scanner
    { st with scanner := { sc with tokens := sc.tokens.extract 1 sc.tokens.size, taken := sc.taken + 1 } }
  return t

/-- Whether the next token is one of `ts`. -/
def nextIn (ts : List Token) : ReadM Bool := return ts.contains (← peekToken)

/-- Whether the next token is a directive. -/
def atDirective : ReadM Bool := do
  match ← peekToken with
  | .directive .. => return true
  | _ => return false

/-! ### The parser -/

/-- Go on with `p`. -/
def goTo (p : Phase) : ReadM Unit := modify fun st => { st with phase := p }

/-- Remember `p` to come back to. -/
def pushPhase (p : Phase) : ReadM Unit := modify fun st => { st with stack := p :: st.stack }

/-- Return to the state last remembered. -/
def popPhase : ReadM Unit :=
  modify fun st => match st.stack with
    | p :: rest => { st with phase := p, stack := rest }
    | [] => { st with phase := .finished }

/-- An empty plain scalar, standing for a missing node. -/
def emptyScalar : Event := .scalar none none true ""

/-- The tag a written tag stands for, through the handles of the document. -/
def expandTag (t : TagText) : ReadM String := do
  match t.handle with
  | none => return t.suffix
  | some h =>
    match (← get).handles.lookup h with
    | some pre => return pre ++ t.suffix
    | none => broken "found undefined tag handle"

/-- A node: an alias, or optional properties (anchor and tag, in either order)
and content. In block context a block collection may follow; with
`indentless`, a sequence of `-` entries at the indentation of its key. -/
def parseNode (block indentless : Bool) : ReadM Event := do
  if let .alias name ← peekToken then
    let _ ← takeToken
    popPhase
    return .alias name
  let mut anchor : Option String := none
  let mut written : Option TagText := none
  match ← peekToken with
  | .anchor a =>
    let _ ← takeToken
    anchor := some a
    if let .tag t ← peekToken then
      let _ ← takeToken
      written := some t
  | .tag t =>
    let _ ← takeToken
    written := some t
    if let .anchor a ← peekToken then
      let _ ← takeToken
      anchor := some a
  | _ => pure ()
  let tag ← match written with
    | some t => some <$> expandTag t
    | none => pure none
  let untyped := tag.isNone || tag == some "!"
  let next ← peekToken
  if indentless && next == .blockEntry then
    goTo .indentlessSequenceEntry
    return .sequenceStart anchor tag
  match next with
  | .scalar value plain =>
    let _ ← takeToken
    popPhase
    return .scalar anchor tag ((plain && tag.isNone) || tag == some "!") value
  | .flowSequenceStart =>
    goTo .flowSequenceFirstEntry
    return .sequenceStart anchor tag
  | .flowMappingStart =>
    goTo .flowMappingFirstKey
    return .mappingStart anchor tag
  | .blockSequenceStart =>
    if block then
      goTo .blockSequenceFirstEntry
      return .sequenceStart anchor tag
  | .blockMappingStart =>
    if block then
      goTo .blockMappingFirstKey
      return .mappingStart anchor tag
  | _ => pure ()
  if anchor.isSome || tag.isSome then
    popPhase
    return .scalar anchor tag untyped ""
  broken (if block then "while parsing a block node, expected the node content"
    else "while parsing a flow node, expected the node content")

/-- The directives before an explicit document: at most one `%YAML` of major
version 1, and `%TAG` handles each declared once. -/
def processDirectives : ReadM Unit := do
  let mut version : Option (Nat × Nat) := none
  let mut handles : List (String × String) := []
  let n := (← get).scanner.src.chars.size + 2
  for _ in [0:n] do
    match ← peekToken with
    | .directive name value =>
      let _ ← takeToken
      match value with
      | .version major minor =>
        if name = "YAML" then
          if version.isSome then broken "found duplicate YAML directive"
          if major != 1 then broken "found incompatible YAML document (version 1.* is required)"
          version := some (major, minor)
      | .tag handle pre =>
        if name = "TAG" then
          if (handles.lookup handle).isSome then broken "duplicate tag handle"
          handles := handles ++ [(handle, pre)]
      | .other => pure ()
    | _ => break
  let missing := defaultHandles.filter fun (h, _) => (handles.lookup h).isNone
  modify fun st => { st with handles := handles ++ missing }

/-- An explicit document, or the end of the stream. -/
def parseDocumentStart : ReadM Event := do
  let n := (← get).scanner.src.chars.size + 2
  for _ in [0:n] do
    if (← peekToken) == .documentEnd then
      let _ ← takeToken
    else break
  if (← peekToken) != .streamEnd then
    processDirectives
    if (← peekToken) != .documentStart then broken "expected '<document start>'"
    let _ ← takeToken
    pushPhase .documentEnd
    goTo .documentContent
    return .documentStart
  else
    let _ ← takeToken
    goTo .finished
    return .streamEnd

/-- The entries of a block sequence. -/
def parseBlockSequenceEntry : ReadM Event := do
  if (← peekToken) == .blockEntry then
    let _ ← takeToken
    if !(← nextIn [.blockEntry, .blockEnd]) then
      pushPhase .blockSequenceEntry
      return ← parseNode true false
    goTo .blockSequenceEntry
    return emptyScalar
  if (← peekToken) != .blockEnd then
    broken "while parsing a block collection, expected <block end>"
  let _ ← takeToken
  popPhase
  return .sequenceEnd

/-- The entries of a sequence of `-` entries at the indentation of its key. -/
def parseIndentlessSequenceEntry : ReadM Event := do
  if (← peekToken) == .blockEntry then
    let _ ← takeToken
    if !(← nextIn [.blockEntry, .key, .value, .blockEnd]) then
      pushPhase .indentlessSequenceEntry
      return ← parseNode true false
    goTo .indentlessSequenceEntry
    return emptyScalar
  popPhase
  return .sequenceEnd

/-- A key of a block mapping, or its end. -/
def parseBlockMappingKey : ReadM Event := do
  if (← peekToken) == .key then
    let _ ← takeToken
    if !(← nextIn [.key, .value, .blockEnd]) then
      pushPhase .blockMappingValue
      return ← parseNode true true
    goTo .blockMappingValue
    return emptyScalar
  if (← peekToken) != .blockEnd then
    broken "while parsing a block mapping, expected <block end>"
  let _ ← takeToken
  popPhase
  return .mappingEnd

/-- A value of a block mapping, empty when missing. -/
def parseBlockMappingValue : ReadM Event := do
  if (← peekToken) == .value then
    let _ ← takeToken
    if !(← nextIn [.key, .value, .blockEnd]) then
      pushPhase .blockMappingKey
      return ← parseNode true true
    goTo .blockMappingKey
    return emptyScalar
  goTo .blockMappingKey
  return emptyScalar

/-- An entry of a flow sequence (after the first, a `,` must come first), a
single pair written with `?` or `:`, or the end. -/
def parseFlowSequenceEntry (first : Bool) : ReadM Event := do
  if (← peekToken) != .flowSequenceEnd then
    if !first then
      if (← peekToken) == .flowEntry then
        let _ ← takeToken
      else broken "while parsing a flow sequence, expected ',' or ']'"
    if (← peekToken) == .key then
      goTo .flowSequenceEntryMappingKey
      return .mappingStart none none
    if (← peekToken) != .flowSequenceEnd then
      pushPhase .flowSequenceEntry
      return ← parseNode false false
  let _ ← takeToken
  popPhase
  return .sequenceEnd

/-- The key of a single pair inside a flow sequence. -/
def parseFlowSequenceEntryMappingKey : ReadM Event := do
  let _ ← takeToken
  if !(← nextIn [.value, .flowEntry, .flowSequenceEnd]) then
    pushPhase .flowSequenceEntryMappingValue
    return ← parseNode false false
  goTo .flowSequenceEntryMappingValue
  return emptyScalar

/-- The value of a single pair inside a flow sequence. -/
def parseFlowSequenceEntryMappingValue : ReadM Event := do
  if (← peekToken) == .value then
    let _ ← takeToken
    if !(← nextIn [.flowEntry, .flowSequenceEnd]) then
      pushPhase .flowSequenceEntryMappingEnd
      return ← parseNode false false
    goTo .flowSequenceEntryMappingEnd
    return emptyScalar
  goTo .flowSequenceEntryMappingEnd
  return emptyScalar

/-- A key of a flow mapping (after the first, a `,` must come first), or the end. -/
def parseFlowMappingKey (first : Bool) : ReadM Event := do
  if (← peekToken) != .flowMappingEnd then
    if !first then
      if (← peekToken) == .flowEntry then
        let _ ← takeToken
      else broken "while parsing a flow mapping, expected ',' or '\x7d'"
    if (← peekToken) == .key then
      let _ ← takeToken
      if !(← nextIn [.value, .flowEntry, .flowMappingEnd]) then
        pushPhase .flowMappingValue
        return ← parseNode false false
      goTo .flowMappingValue
      return emptyScalar
    if (← peekToken) != .flowMappingEnd then
      pushPhase .flowMappingEmptyValue
      return ← parseNode false false
  let _ ← takeToken
  popPhase
  return .mappingEnd

/-- A value of a flow mapping, empty when missing. -/
def parseFlowMappingValue : ReadM Event := do
  if (← peekToken) == .value then
    let _ ← takeToken
    if !(← nextIn [.flowEntry, .flowMappingEnd]) then
      pushPhase .flowMappingKey
      return ← parseNode false false
    goTo .flowMappingKey
    return emptyScalar
  goTo .flowMappingKey
  return emptyScalar

/-- One step of the parser: the next event. -/
def parseStep : ReadM Event := do
  match (← get).phase with
  | .streamStart =>
    let _ ← takeToken
    goTo .implicitDocumentStart
    return .streamStart
  | .implicitDocumentStart =>
    if (← atDirective) || (← nextIn [.documentStart, .streamEnd]) then parseDocumentStart
    else
      modify fun st => { st with handles := defaultHandles }
      pushPhase .documentEnd
      goTo .blockNode
      return .documentStart
  | .documentStart => parseDocumentStart
  | .documentEnd =>
    if (← peekToken) == .documentEnd then
      let _ ← takeToken
    goTo .documentStart
    return .documentEnd
  | .documentContent =>
    if (← atDirective) || (← nextIn [.documentStart, .documentEnd, .streamEnd]) then
      popPhase
      return emptyScalar
    parseNode true false
  | .blockNode => parseNode true false
  | .blockNodeOrIndentlessSequence => parseNode true true
  | .flowNode => parseNode false false
  | .blockSequenceFirstEntry =>
    let _ ← takeToken
    parseBlockSequenceEntry
  | .blockSequenceEntry => parseBlockSequenceEntry
  | .indentlessSequenceEntry => parseIndentlessSequenceEntry
  | .blockMappingFirstKey =>
    let _ ← takeToken
    parseBlockMappingKey
  | .blockMappingKey => parseBlockMappingKey
  | .blockMappingValue => parseBlockMappingValue
  | .flowSequenceFirstEntry =>
    let _ ← takeToken
    parseFlowSequenceEntry true
  | .flowSequenceEntry => parseFlowSequenceEntry false
  | .flowSequenceEntryMappingKey => parseFlowSequenceEntryMappingKey
  | .flowSequenceEntryMappingValue => parseFlowSequenceEntryMappingValue
  | .flowSequenceEntryMappingEnd =>
    goTo .flowSequenceEntry
    return .mappingEnd
  | .flowMappingFirstKey =>
    let _ ← takeToken
    parseFlowMappingKey true
  | .flowMappingKey => parseFlowMappingKey false
  | .flowMappingValue => parseFlowMappingValue
  | .flowMappingEmptyValue =>
    goTo .flowMappingKey
    return emptyScalar
  | .finished => return .streamEnd

/-- The next event, without taking it. -/
def peekEvent : ReadM Event := do
  match (← get).current with
  | some e => return e
  | none =>
    let e ← parseStep
    modify fun st => { st with current := some e }
    return e

/-- Take the next event. -/
def takeEvent : ReadM Event := do
  let e ← peekEvent
  modify fun st => { st with current := none }
  return e

/-! ### The composer -/

/-- Add a node, giving its index. -/
def addNode (n : Node) : ReadM Nat := do
  let id := (← get).nodes.size
  modify fun st => { st with nodes := st.nodes.push n }
  return id

/-- Name a node by an anchor. -/
def nameNode (anchor : Option String) (id : Nat) : ReadM Unit :=
  match anchor with
  | some a => modify fun st => { st with anchors := st.anchors.insert a id }
  | none => pure ()

/-- The tag of a collection: its own, unless none or `!`. -/
def collectionTag (tag : Option String) (default : String) : String :=
  match tag with
  | some t => if t == "!" then default else t
  | none => default

/-- How deep below the root a node may lie: the composer descends one call
per collection, two frames of a call stack a thousand frames deep, so a node
this deep or deeper exhausts it. -/
def maxNesting : Nat := 490

/-- Compose the node the next events describe, `depth` collections below the
root, giving its index. The fuel bounds the nesting and the number of entries,
and is far more than any text can use. -/
def composeNode (depth : Nat) : Nat → ReadM Nat
  | 0 => broken "document too deeply nested"
  | fuel + 1 => do
    if depth ≥ maxNesting then throw (.failure .tooDeep)
    match ← peekEvent with
    | .alias a =>
      let _ ← takeEvent
      match (← get).anchors.get? a with
      | some id => return id
      | none => broken "found undefined alias"
    | e =>
      let anchor := match e with
        | .scalar a .. | .sequenceStart a _ | .mappingStart a _ => a
        | _ => none
      if let some a := anchor then
        if (← get).anchors.contains a then broken "found duplicate anchor"
      match e with
      | .scalar _ tag byText value =>
        let _ ← takeEvent
        let tag := match tag with
          | some t => if t == "!" then implicitTag value byText else t
          | none => implicitTag value byText
        let id ← addNode (.scalar tag value)
        nameNode anchor id
        return id
      | .sequenceStart _ tag =>
        let _ ← takeEvent
        let tag := collectionTag tag (standardTag "seq")
        let id ← addNode (.sequence tag #[])
        nameNode anchor id
        let mut items : Array Nat := #[]
        for _ in [0:fuel] do
          if (← peekEvent) == .sequenceEnd then break
          items := items.push (← composeNode (depth + 1) fuel)
        let _ ← takeEvent
        modify fun st => { st with nodes := st.nodes.set! id (.sequence tag items) }
        return id
      | .mappingStart _ tag =>
        let _ ← takeEvent
        let tag := collectionTag tag (standardTag "map")
        let id ← addNode (.mapping tag #[])
        nameNode anchor id
        let mut pairs : Array (Nat × Nat) := #[]
        for _ in [0:fuel] do
          if (← peekEvent) == .mappingEnd then break
          let k ← composeNode (depth + 1) fuel
          let v ← composeNode (depth + 1) fuel
          pairs := pairs.push (k, v)
        let _ ← takeEvent
        modify fun st => { st with nodes := st.nodes.set! id (.mapping tag pairs) }
        return id
      | _ => broken "expected a node"

/-- The node graph of a text and the index of its root, or nothing for a text
with no document; a second document is an error. -/
def readNodes (text : String) : Except YamlError (Array Node × Option Nat) := do
  let src : Source := ⟨text.toList.toArray⟩
  let fuel := 16 * (src.chars.size + 4)
  let run : ReadM (Option Nat) := do
    let _ ← takeEvent
    let mut root : Option Nat := none
    if (← peekEvent) != .streamEnd then
      let _ ← takeEvent
      root := some (← composeNode 0 fuel)
      let _ ← takeEvent
      modify fun st => { st with anchors := {} }
    if (← peekEvent) != .streamEnd then
      let _ ← takeEvent
      broken "expected a single document in the stream"
    let _ ← takeEvent
    return root
  let (root, st) ← run.run { scanner := { src, tokens := #[.streamStart] } }
  return (st.nodes, root)

end MaskedLog.Yaml

import MaskedLog.Yaml.Node
import MaskedLog.Yaml.Timestamp
import MaskedLog.Number.Read
import MaskedLog.Number.Arith
import MaskedLog.Text.Base64
import MaskedLog.Value.Text
import MaskedLog.Value.SetOrder
import MaskedLog.Unicode.Lower
import Std.Data.HashMap
/-!
# YAML documents as data

The last stage of reading YAML: nodes to data. Each node is built once, by
its tag: null, booleans, integers (binary, octal, hexadecimal, base 60),
floats (with `.inf`, `.nan` and base 60), strings, base64 binary, timestamps,
sequences, mappings, sets, and ordered maps and pairs (lists of key-value
tuples). Any other tag is an error.

A collection is created empty when first met and filled later, in rounds:
the collections met while filling one round are filled in the next. So an
alias may refer to a collection that is still being filled, and data may
contain itself. A mapping's merge keys (`<<`) are replaced by the entries of
the mappings they name (the later of several merged mappings winning, and the
mapping's own entries over all merged ones), and a value key (`=`) becomes the
string `=`. Keys must be hashable (no lists, mappings or sets); a repeated key
keeps its first place and its last value.

A scalar tagged explicitly with a text that is no value of its type fails as
the conversion fails: an unknown boolean word as a missing key, an empty
integer or float as an index out of range, a bad literal as a bad value.

The data form a graph over node indices; `Document.value` unfolds the part
below a node into a `Value`, a collection met again inside itself shown as
`[...]` or `{...}`.

## Main definitions

* `Datum` — a constructed object; collections refer to nodes.
* `intValue`, `floatValue`, `boolWord` — scalar conversions.
* `Document`, `Document.read` — the data of a text, and its root.
* `Document.value` — the value below a node.

## References

The `SafeConstructor` of PyYAML, which `_read_yaml` of `bodylog/config.py`
reaches through `yaml.safe_load`.
-/

namespace MaskedLog.Yaml

open MaskedLog.Number MaskedLog.Unicode

/-- A constructed object. -/
inductive Datum where
  | scalar (v : Value)
  | list (items : Array Nat)
  | dict (entries : List (Value × Nat))
  /-- An ordered map or pairs: a list of key-value tuples. -/
  | pairs (entries : List (Nat × Nat))
  | set (keys : List Value)
  deriving Inhabited

/-- Split a list of characters at every `sep`. -/
def splitAt (sep : Char) (s : List Char) : List (List Char) :=
  (String.ofList s).splitOn sep.toString |>.map String.toList

/-- The integer of an integer scalar: underscores dropped, an optional sign,
then `0`, binary `0b…`, hexadecimal `0x…`, octal `0…`, base 60 `a:b:c`, or
decimal. -/
def intValue (text : String) : Except Failure Int := do
  let v := text.toList.filter (· ≠ '_')
  let some c := v.head? | throw .outOfRange
  let neg := c = '-'
  let v := if c = '-' || c = '+' then v.tail else v
  let signed (n : Int) : Int := if neg then -n else n
  let read (base : Nat) (ds : List Char) : Except Failure Int :=
    match readIntIn base (String.ofList ds) with
    | some n => pure (signed n)
    | none => throw (.badValue s!"not an integer in base {base}")
  if v == ['0'] then return 0
  match v with
  | '0' :: 'b' :: rest => read 2 rest
  | '0' :: 'x' :: rest => read 16 rest
  | '0' :: _ => read 8 v
  | [] => throw .outOfRange
  | _ =>
    if v.contains ':' then
      let parts ← (splitAt ':' v).mapM fun p =>
        match readInt (String.ofList p) with
        | some n => pure n
        | none => throw (.badValue "not an integer in base 10")
      return signed (parts.foldl (fun acc d => 60 * acc + d) 0)
    else read 10 v

/-- The NaN that `.nan` stands for. Every `.nan` is this one object, so as
keys they are equal; a NaN read from other text is an object of its own. -/
def sharedNaN : Binary64 := Binary64.nan.negate

/-- The float of a float scalar: underscores dropped, lowercased, an optional
sign, then `.inf`, `.nan`, base 60 `a:b.c` (summed in double arithmetic), or a
float literal. -/
def floatValue (text : String) : Except Failure Binary64 := do
  let v := (lowerString text).toList.filter (· ≠ '_')
  let some c := v.head? | throw .outOfRange
  let neg := c = '-'
  let v := if c = '-' || c = '+' then v.tail else v
  let signed (x : Binary64) : Binary64 := if neg then x.negate else x
  let read (p : List Char) : Except Failure Binary64 :=
    match readFloat (String.ofList p) with
    | some x => pure x
    | none => throw (.badValue "not a float")
  if v == ".inf".toList then return signed (Binary64.infinity false)
  if v == ".nan".toList then return sharedNaN
  if v.contains ':' then
    let digits ← (splitAt ':' v).mapM read
    let mut total := Binary64.zero false
    let mut base : Nat := 1
    for d in digits.reverse do
      let b := Binary64.ofInt base
      if b.isInfinite then throw .overflow
      total := total.add (d.mul b)
      base := base * 60
    return signed total
  signed <$> read v

/-- The truth value of a boolean word, lowercased. -/
def boolWord (w : String) : Option Bool :=
  [("yes", true), ("no", false), ("true", true), ("false", false), ("on", true),
    ("off", false)].lookup w

/-- The state of construction: the nodes (merge keys change mappings), the
object of each node built so far, the collections waiting to be filled, and a
bound on how deeply merge keys nest. -/
structure BuildState where
  nodes : Array Node
  data : Array (Option Datum)
  pending : Array Nat := #[]
  mergeBound : Nat := 0

/-- The monad of construction. -/
abbrev BuildM := StateT BuildState (Except YamlError)

/-- Fail: the data cannot be constructed. -/
def refuse (msg : String) : BuildM α := throw (.invalid msg)

/-- Fail as a conversion fails. -/
def convertOrFail (r : Except Failure α) : BuildM α :=
  match r with
  | .ok a => pure a
  | .error f => throw (.failure f)

/-- The node at an index. -/
def nodeAt (id : Nat) : BuildM Node := return (← get).nodes.getD id (.scalar "" "")

/-- The pairs of a mapping node (none for another node). -/
def pairsAt (id : Nat) : BuildM (Array (Nat × Nat)) := do
  match ← nodeAt id with
  | .mapping _ ps => return ps
  | _ => return #[]

/-- Replace the pairs of a mapping node. -/
def setPairs (id : Nat) (ps : Array (Nat × Nat)) : BuildM Unit :=
  modify fun b => { b with nodes := b.nodes.modify id fun
    | .mapping t _ => .mapping t ps
    | n => n }

/-- Record the object of a node. -/
def record (id : Nat) (d : Datum) : BuildM Unit :=
  modify fun b => { b with data := b.data.set! id (some d) }

/-- The value of a scalar node's text, with `f`. -/
def scalarWith (id : Nat) (f : String → Except Failure Value) : BuildM Datum := do
  match ← nodeAt id with
  | .scalar _ text => return .scalar (← convertOrFail (f text))
  | _ => refuse "expected a scalar node"

/-- Build the object of a node, unless built already. A collection is created
empty and queued to be filled. -/
def construct (id : Nat) : BuildM Unit := do
  if ((← get).data.getD id none).isSome then return
  let tag := (← nodeAt id).tag
  let later (d : Datum) : BuildM Unit := do
    record id d
    modify fun b => { b with pending := b.pending.push id }
  if tag == standardTag "null" then record id (← scalarWith id fun _ => pure .none)
  else if tag == standardTag "bool" then
    record id (← scalarWith id fun t => match boolWord (lowerString t) with
      | some b => pure (.bool b)
      | none => throw .missingKey)
  else if tag == standardTag "int" then record id (← scalarWith id fun t => .int <$> intValue t)
  else if tag == standardTag "float" then
    record id (← scalarWith id fun t => .float <$> floatValue t)
  else if tag == standardTag "binary" then
    match ← nodeAt id with
    | .scalar _ text =>
      if !text.toList.all (·.toNat < 128) then refuse "failed to convert base64 data into ascii"
      match Text.decodeBase64 text with
      | .ok bs => record id (.scalar (.bytes bs))
      | .error msg => refuse s!"failed to decode base64 data: {msg}"
    | _ => refuse "expected a scalar node"
  else if tag == standardTag "timestamp" then record id (← scalarWith id timestampValue)
  else if tag == standardTag "omap" || tag == standardTag "pairs" then later (.pairs [])
  else if tag == standardTag "set" then later (.set [])
  else if tag == standardTag "str" then record id (← scalarWith id fun t => pure (.str t))
  else if tag == standardTag "seq" then later (.list #[])
  else if tag == standardTag "map" then later (.dict [])
  else refuse "could not determine a constructor for the tag"

/-- A bound on loops over pairs, far above any that can occur. -/
def pairBound : Nat := Nat.pow 2 40

/-- Replace the merge keys of a mapping node by the pairs of the mappings they
name, first flattening those; value keys become string keys. -/
def flatten : Nat → Nat → BuildM Unit
  | 0, _ => refuse "merge keys nested too deeply"
  | fuel + 1, id => do
    let mut merged : Array (Nat × Nat) := #[]
    let mut index := 0
    for _ in [0:pairBound] do
      let ps ← pairsAt id
      if h : index < ps.size then
        let (k, v) := ps[index]
        let keyTag := (← nodeAt k).tag
        if keyTag == standardTag "merge" then
          setPairs id (ps.eraseIdx index)
          match ← nodeAt v with
          | .mapping .. =>
            flatten fuel v
            merged := merged ++ (← pairsAt v)
          | .sequence _ subs =>
            let mut parts : Array (Array (Nat × Nat)) := #[]
            for s in subs do
              match ← nodeAt s with
              | .mapping .. =>
                flatten fuel s
                parts := parts.push (← pairsAt s)
              | _ => refuse "expected a mapping for merging"
            for p in parts.reverse do
              merged := merged ++ p
          | _ => refuse "expected a mapping or list of mappings for merging"
        else
          if keyTag == standardTag "value" then
            modify fun b => { b with nodes := b.nodes.modify k fun
              | .scalar _ text => .scalar (standardTag "str") text
              | n => n }
          index := index + 1
      else break
    if !merged.isEmpty then setPairs id (merged ++ (← pairsAt id))

/-- The number of pairs of all mapping nodes, a bound on merge nesting: each
level of `flatten` removes a merge key before it goes deeper, and flattening
never adds one, so the count before construction bounds every nesting. -/
def pairCount (nodes : Array Node) : Nat :=
  nodes.foldl (fun n node => match node with
    | .mapping _ ps => n + ps.size
    | _ => n) 0

/-- A text that two hashable keys share exactly when they are equal: numbers
by value across integers, truth values and floats, texts and bytes by content,
dates by their text, dates and times by `datetimeKey`. `none` for a key equal to nothing else (a NaN of its own). -/
def keyPrint : Value → Option String
  | .none => some "n"
  | .bool b => some (if b then "i1" else "i0")
  | .int n => some ("i" ++ toString n)
  | .float x =>
    match x.decode with
    | .nan => if x == sharedNaN then some "nan" else none
    | .infinite neg => some (if neg then "-inf" else "+inf")
    | .finite .. =>
      match x.toRat? with
      | some (a, b) =>
        let g := Nat.gcd a.natAbs b
        if b / g = 1 then some ("i" ++ toString (a / g))
        else some ("q" ++ toString (a / g) ++ "/" ++ toString (b / g))
      | none => none
  | .str s => some ("s" ++ s)
  | .bytes b => some ("b" ++ toString (b.map UInt8.toNat))
  | .foreign "datetime" shown _ _ => some ("fdatetime:" ++ datetimeKey shown)
  | .foreign t _ q _ => some ("f" ++ t ++ ":" ++ q)
  | _ => none

/-- A mapping being built: its entries in order, and where each key stands. -/
structure KeyTable where
  entries : Array (Value × Nat) := #[]
  places : Std.HashMap String Nat := {}

/-- Add an entry: a key equal to one present keeps its place and takes the
new value. -/
def KeyTable.put (t : KeyTable) (k : Value) (v : Nat) : KeyTable :=
  match keyPrint k with
  | some p =>
    match t.places.get? p with
    | some i => { t with entries := t.entries.modify i fun e => (e.1, v) }
    | none =>
      let i := t.entries.size
      { entries := t.entries.push (k, v), places := t.places.insert p i }
  | none => { t with entries := t.entries.push (k, v) }

/-- The entries of a mapping node: merge keys flattened, each key built and
required hashable, each value built. -/
def mappingEntries (id : Nat) : BuildM (List (Value × Nat)) := do
  if let .mapping .. ← nodeAt id then
    flatten (← get).mergeBound id
  match ← nodeAt id with
  | .mapping _ ps =>
    let mut table : KeyTable := {}
    for (k, v) in ps do
      construct k
      let key ← match (← get).data.getD k none with
        | some (.scalar x) => pure x
        | _ => refuse "found unhashable key"
      construct v
      table := table.put key v
    return table.entries.toList
  | _ => refuse "expected a mapping node"

/-- Fill a queued collection. -/
def fill (id : Nat) : BuildM Unit := do
  match (← get).data.getD id none with
  | some (.list _) =>
    match ← nodeAt id with
    | .sequence _ items =>
      for c in items do construct c
      record id (.list items)
    | _ => refuse "expected a sequence node"
  | some (.dict _) => record id (.dict (← mappingEntries id))
  | some (.set _) => record id (.set ((← mappingEntries id).map (·.1)))
  | some (.pairs _) =>
    match ← nodeAt id with
    | .sequence _ subs =>
      let mut out : List (Nat × Nat) := []
      for s in subs do
        match ← nodeAt s with
        | .mapping _ ps =>
          if h : ps.size = 1 then
            let (k, v) := ps[0]
            construct k
            construct v
            out := (k, v) :: out
          else refuse "expected a single mapping item"
        | _ => refuse "expected a mapping of length 1"
      record id (.pairs out.reverse)
    | _ => refuse "expected a sequence"
  | _ => pure ()

/-- Constructed data and the node of its root. -/
structure Document where
  data : Array (Option Datum)
  root : Nat

/-- Build the object of the root, then fill queued collections round by round. -/
def Document.build (nodes : Array Node) (root : Nat) : Except YamlError Document := do
  let run : BuildM Unit := do
    construct root
    for _ in [0:nodes.size + 1] do
      let batch := (← get).pending
      if batch.isEmpty then break
      modify fun b => { b with pending := #[] }
      for id in batch do fill id
  let ((), b) ← run.run
    { nodes, data := Array.replicate nodes.size none, mergeBound := pairCount nodes + 2 }
  return ⟨b.data, root⟩

/-- A character YAML text may hold. -/
def isPrintable (c : Char) : Bool :=
  let n := c.toNat
  n = 0x09 || n = 0x0A || n = 0x0D || (0x20 ≤ n && n ≤ 0x7E) || n = 0x85 ||
    (0xA0 ≤ n && n ≤ 0xD7FF) || (0xE000 ≤ n && n ≤ 0xFFFD) || (0x10000 ≤ n && n ≤ 0x10FFFF)

/-- The data of a YAML text holding at most one document; nothing for a text
with no document. -/
def Document.read (text : String) : Except YamlError (Option Document) := do
  if !text.toList.all isPrintable then throw (.invalid "special characters are not allowed")
  let (nodes, root) ← readNodes text
  match root with
  | some r => some <$> Document.build nodes r
  | none => return none

/-- The object of a node. -/
def Document.datum (d : Document) (id : Nat) : Option Datum := d.data.getD id none

/-- The value below a node, a collection met again inside itself shown as
`[...]` or `{...}`. The path holds the collections being shown. -/
def Document.unfold (d : Document) : Nat → List Nat → Nat → Value
  | 0, _, _ => .none
  | fuel + 1, path, id =>
    let again := path.contains id
    let inner := d.unfold fuel (id :: path)
    match d.datum id with
    | some (.scalar v) => v
    | some (.list items) =>
      if again then .foreign "list" "[...]" "[...]" true else .list (items.toList.map inner)
    | some (.dict es) =>
      if again then .foreign "dict" "\x7b...\x7d" "\x7b...\x7d" true
      else .dict (es.map fun (k, v) => (k, inner v))
    | some (.pairs ps) =>
      if again then .foreign "list" "[...]" "[...]" true
      else .list (ps.map fun (k, v) => .tuple [inner k, inner v])
    | some (.set ks) =>
      let text := if ks.isEmpty then "set()"
        else "\x7b" ++ ", ".intercalate ((Value.setOrder ks).map Value.quoted) ++ "\x7d"
      .foreign "set" text text !ks.isEmpty
    | none => .none

/-- The value below a node. -/
def Document.value (d : Document) (id : Nat) : Value := d.unfold (d.data.size + 1) [] id

end MaskedLog.Yaml

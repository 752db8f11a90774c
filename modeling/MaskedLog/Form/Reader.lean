/-!
# Reading multipart form data

A multipart body is a sequence of parts between boundary lines. With a
boundary `B`, the body opens with `--B` and a line break (blank lines before it
are skipped), each part is header lines, a blank line and data, and parts are
separated by a line break followed by `--B` and a line break; a line break and
`--B--` ends the body, after which only line breaks are read and anything else
ends reading.

The reader goes through the bytes once and reports what it finds as a list of
`FormEvent`s, header names, header values and part data as ranges of the body.
It reports an error, with a message, when the opening boundary, a header line
or the blank line after the headers is malformed; the events before the error
stand. A header name is made of token characters. Data that may still be the
start of a boundary at the end of the body is not reported as data.

* `FormEvent` — what the reader reports.
* `readForm` — the events of a body, and the error that stopped reading, if any.

## References

The `MultipartParser` of python-multipart, as Starlette's form parser runs it
for `multipart_summary` in `bodylog/content.py`.
-/

namespace MaskedLog.Form

/-- What the reader reports about a body, in order. -/
inductive FormEvent where
  | partBegin
  | headerField (start stop : Nat)
  | headerValue (start stop : Nat)
  | headerEnd
  | headersFinished
  | partData (start stop : Nat)
  | partEnd
  | finish
  deriving Repr, DecidableEq

/-- Where the reader is. -/
inductive ReadState where
  | start
  | startBoundary
  | headerFieldStart
  | headerField
  | headerValueStart
  | headerValue
  | headerValueAlmostDone
  | headersAlmostDone
  | partDataStart
  | partData
  | endBoundary
  | done
  deriving Repr, DecidableEq

/-- The reader's state between two bytes: where it is, how far into a boundary
or a header, which line end followed a boundary, the start of the name, value
or data being read, and the events so far (newest first). -/
structure Reader where
  state : ReadState := .start
  index : Nat := 0
  afterCr : Bool := false
  afterHyphen : Bool := false
  fieldMark : Option Nat := none
  valueMark : Option Nat := none
  dataMark : Option Nat := none
  events : List FormEvent := []

/-- Carriage return, line feed, hyphen, colon and space. -/
def cr : UInt8 := 13
def lf : UInt8 := 10
def hyphen : UInt8 := 45
def colon : UInt8 := 58
def space : UInt8 := 32

/-- Token characters: letters, digits and ``!#$%&'*+-.^_`|~``. -/
def isTokenByte (b : UInt8) : Bool :=
  let c := Char.ofNat b.toNat
  c.isAlphanum || "!#$%&'*+-.^_`|~".contains c

/-- The byte at `i`, or zero past the end. -/
def byteAt (data : Array UInt8) (i : Nat) : UInt8 := data[i]?.getD 0

/-- Whether `pat` occurs in `data` at position `j`. -/
def occursAt (data pat : Array UInt8) (j : Nat) : Bool :=
  j + pat.size ≤ data.size && pat.size.all fun k _ => byteAt data (j + k) == byteAt pat k

/-- The first position at or after `i` where `pat` occurs in `data`. -/
def findFrom (data pat : Array UInt8) (i : Nat) : Option Nat :=
  if i + pat.size ≤ data.size then
    if occursAt data pat i then some i else findFrom data pat (i + 1)
  else none
termination_by data.size + 1 - i

/-- Report the range from the mark to `stop`, if it is not empty. -/
def emitRange (r : Reader) (mark : Option Nat) (stop : Nat) (ev : Nat → Nat → FormEvent) : Reader :=
  match mark with
  | some m => if stop > m then { r with events := ev m stop :: r.events } else r
  | none => r

/-- One step of the reader at byte position `i`: the next position and state, or
the error message. A step that only changes state returns the same position. -/
def step (bnd data : Array UInt8) (i : Nat) (r : Reader) : Except String (Nat × Reader) :=
  let c := byteAt data i
  let bl := bnd.size
  let push (ev : FormEvent) (r : Reader) : Reader := { r with events := ev :: r.events }
  match r.state with
  | .start =>
    if c == cr || c == lf then .ok (i + 1, r)
    else .ok (i, { r with state := .startBoundary, index := 0 })
  | .startBoundary =>
    if r.index == bl - 2 then
      if c == hyphen then .ok (i + 1, { r with state := .endBoundary, index := r.index + 1 })
      else if c != cr then .error s!"Did not find CR at end of boundary ({i})"
      else .ok (i + 1, { r with index := r.index + 1 })
    else if r.index == bl - 1 then
      if c != lf then .error s!"Did not find LF at end of boundary ({i})"
      else .ok (i + 1, push .partBegin { r with index := 0, state := .headerFieldStart })
    else
      let pos := r.index + 2
      let want := (byteAt bnd pos).toNat
      let got := c.toNat
      if want != got then .error s!"Expected boundary character {want}, got {got} at index {pos}"
      else .ok (i + 1, { r with index := r.index + 1 })
  | .headerFieldStart =>
    .ok (i, { r with index := 0, fieldMark := some i, state := .headerField })
  | .headerField =>
    if c == cr && r.index == 0 then
      .ok (i + 1, { r with fieldMark := none, state := .headersAlmostDone })
    else
      let index := r.index + 1
      if c == colon then
        if index == 1 then .error s!"Found 0-length header at {i}"
        else
          let r := emitRange r r.fieldMark i .headerField
          .ok (i + 1, { r with index := index, fieldMark := none, state := .headerValueStart })
      else if !isTokenByte c then
        let got := c.toNat
        .error s!"Found invalid character {got} in header at {i}"
      else .ok (i + 1, { r with index := index })
  | .headerValueStart =>
    if c == space then .ok (i + 1, r)
    else .ok (i, { r with valueMark := some i, state := .headerValue })
  | .headerValue =>
    if c == cr then
      let r := emitRange r r.valueMark i .headerValue
      .ok (i + 1, push .headerEnd { r with valueMark := none, state := .headerValueAlmostDone })
    else .ok (i + 1, r)
  | .headerValueAlmostDone =>
    let got := c.toNat
    if c != lf then .error s!"Did not find LF character at end of header (found {got})"
    else .ok (i + 1, { r with state := .headerFieldStart })
  | .headersAlmostDone =>
    let got := c.toNat
    if c != lf then .error s!"Did not find LF at end of headers (found {got})"
    else .ok (i + 1, push .headersFinished { r with state := .partDataStart })
  | .partDataStart =>
    .ok (i, { r with dataMark := some i, state := .partData })
  | .partData =>
    let prev := r.index
    -- with no boundary begun, jump to the next boundary or near the end
    let (i, index) :=
      if r.index == 0 then
        match findFrom data bnd i with
        | some j => (j + bl - 1, bl - 1)
        | none =>
          let k := max i (data.size - bl)
          let skip := ((List.range' k (data.size - 1 - k)).find? fun p => byteAt data p == byteAt bnd 0)
          (skip.getD (max k (data.size - 1)), 0)
      else (i, r.index)
    let c := byteAt data i
    if index < bl then
      let index := if byteAt bnd index == c then index + 1 else 0
      if index == 0 && prev > 0 then .ok (i, { r with index := 0 })
      else .ok (i + 1, { r with index := index })
    else if index == bl then
      if c == cr then .ok (i + 1, { r with index := index + 1, afterCr := true })
      else if c == hyphen then .ok (i + 1, { r with index := index + 1, afterHyphen := true })
      else if prev > 0 then .ok (i, { r with index := 0 })
      else .ok (i + 1, { r with index := 0 })
    else if index == bl + 1 then
      if r.afterCr then
        if c == lf then
          let r := emitRange r r.dataMark (i - index) .partData
          .ok (i + 1, push .partBegin (push .partEnd
            { r with afterCr := false, dataMark := none, index := 0, state := .headerFieldStart }))
        else if prev > 0 then .ok (i, { r with index := 0, afterCr := false })
        else .ok (i + 1, { r with index := 0, afterCr := false })
      else if r.afterHyphen then
        if c == hyphen then
          let r := emitRange r r.dataMark (i - index) .partData
          .ok (i + 1, push .finish (push .partEnd { r with dataMark := none, state := .done }))
        else if prev > 0 then .ok (i, { r with index := 0 })
        else .ok (i + 1, { r with index := 0 })
      else .ok (i + 1, r)
    else .ok (i + 1, r)
  | .done =>
    if c == cr || c == lf then .ok (i + 1, r)
    else .ok (data.size, r)
  | .endBoundary =>
    if r.index == bl - 1 then
      if c != hyphen then .error s!"Did not find - at end of boundary ({i})"
      else .ok (i + 1, push .finish { r with index := r.index + 1, state := .done })
    else .ok (i + 1, r)

/-- Run the reader from position `i` to the end of the body; `fuel` bounds the
steps (each byte takes at most two). -/
def run (bnd data : Array UInt8) : Nat → Nat → Reader → Except (String × Reader) Reader
  | 0, _, r => .ok r
  | fuel + 1, i, r =>
    if i < data.size then
      match step bnd data i r with
      | .ok (i', r') => run bnd data fuel i' r'
      | .error msg => .error (msg, r)
    else .ok r

/-- The events of a body read with the boundary `B` (the delimiter is a line
break, `--` and `B`), and the error that stopped reading. At the end of the body
the name, value or data being read is reported up to the end, data short of a
possible boundary start. -/
def readForm (boundary : List UInt8) (body : List UInt8) : List FormEvent × Option String :=
  let bnd := ([cr, lf, hyphen, hyphen] ++ boundary).toArray
  let data := body.toArray
  match run bnd data (2 * data.size + 2) 0 {} with
  | .error (msg, r) => (r.events.reverse, some msg)
  | .ok r =>
    let n := data.size
    let r := emitRange r r.fieldMark n .headerField
    let r := emitRange r r.valueMark n .headerValue
    let r := emitRange r r.dataMark (n - r.index) .partData
    (r.events.reverse, none)

end MaskedLog.Form

import MaskedLog.Failure
import MaskedLog.Text.Utf8
/-!
# Capturing a body

A body can be read only once, so it is drained into memory and handed on as a
replay that yields the same bytes. A read that fails does not fail the request:
it gives an empty text and no replay.

Two sources are covered. A *stream* is read once and then closed, whatever the
read gave; a close that raises is passed over. Its read gives bytes, a text of
code points (taken as its UTF-8 bytes), nothing (no bytes) or fails. A text
holding a lone surrogate has no UTF-8 bytes, and that fault is no failed read:
it fails the capture itself, after the close.
A *receive channel* yields messages one at a time: request messages carry body
chunks and say whether more follow; other kinds of message are passed over; a
disconnect, or a failed receive, ends the capture without a body. The chunks
are joined once the last has come, and must all be bytes. When its
messages run out a channel reports a disconnect for ever after.

* `Stream`, `Stream.readOnce`, `Stream.close` — a stream and the calls on it.
* `capture` — text and replay of a stream.
* `Receiver`, `Receiver.receive` — a channel and one receive on it.
* `drain` — the body of a channel and the receives it took.
* `Receiver.replaying` — the channel that first yields the whole body.
* `captureReceive` — the text of a channel's body and its replay.
* `Receiver.receiveMany` — several receives, keeping what came before a failure.

## References

`bodylog/capture.py` (`capture`, `_drain`, `_close`, `capture_receive`).
-/

namespace MaskedLog.Body

open MaskedLog.Text MaskedLog.Unicode

/-- What reading a stream gives. -/
inductive ReadOutcome where
  | bytes (b : List UInt8)
  | text (t : List CodePoint)
  | nothing
  | fails
  deriving Repr

/-- The bytes a read gave, or `none` when it failed; a text that UTF-8 cannot
write is a fault. -/
def ReadOutcome.data : ReadOutcome → Except Failure (Option (List UInt8))
  | .bytes b => .ok (some b)
  | .text t => match encodeStrict? t with
    | some b => .ok (some b)
    | none => .error .unencodable
  | .nothing => .ok (some [])
  | .fails => .ok none

/-- A stream as a capture uses it: what its read gives, the failure its close
raises, if any, and the reads and closes made on it so far. -/
structure Stream where
  read : ReadOutcome
  closeFailure : Option Failure := none
  reads : Nat := 0
  closes : Nat := 0

/-- Read a stream: what the read gives, and the stream with the read counted. -/
def Stream.readOnce (s : Stream) : ReadOutcome × Stream :=
  (s.read, { s with reads := s.reads + 1 })

/-- Close a stream: the failure the close raises, if any, and the stream with
the close counted. -/
def Stream.close (s : Stream) : Option Failure × Stream :=
  (s.closeFailure, { s with closes := s.closes + 1 })

/-- The outcome of capturing a stream: the text of its bytes and the bytes the
replay yields, or an empty text and no replay when the read failed. -/
structure Captured where
  text : String
  replay : Option (List UInt8)

/-- Capture a stream: the capture, and the stream afterwards. The stream is
read, its bytes are taken from what the read gave, and it is closed whatever
that was; the failure of a close is passed over. -/
def capture (s : Stream) : Except Failure Captured × Stream :=
  let (r, s) := s.readOnce
  let drained := r.data
  let (_, s) := s.close
  (drained.map fun
    | some b => ⟨decodeLossy b, some b⟩
    | none => ⟨"", none⟩, s)

/-- What one receive gives: a message, or a failure with the transport's text. -/
inductive Arrival where
  | message (m : Value)
  | failure (text : String)
  deriving Repr

/-- The message that reports a disconnect. -/
def disconnectMessage : Value := .dict [(.str "type", .str "http.disconnect")]

/-- A receive channel: a message to yield first without touching the source
(the replay of a captured body), the arrivals still to come from the source,
and the number of receives made on the source. -/
structure Receiver where
  front : Option Value := none
  pending : List Arrival
  calls : Nat := 0
  deriving Repr

/-- One receive: the first message if one waits in front, else the next arrival
of the source, or a disconnect once the source has run out. -/
def Receiver.receive (r : Receiver) : Except String Value × Receiver :=
  match r.front with
  | some m => (.ok m, { r with front := none })
  | none =>
    match r.pending with
    | [] => (.ok disconnectMessage, { r with calls := r.calls + 1 })
    | .message m :: rest => (.ok m, { r with pending := rest, calls := r.calls + 1 })
    | .failure t :: rest => (.error t, { r with pending := rest, calls := r.calls + 1 })

/-- The kind of a message; a message without one is a missing key. -/
def messageType (m : Value) : Except Failure Value :=
  match m.get? "type" with
  | some t => .ok t
  | none => .error .missingKey

/-- The body chunk of a request message, no bytes when absent. -/
def messageBody (m : Value) : Value := (m.get? "body").getD (.bytes [])

/-- The bytes of body chunks joined; every chunk must be bytes. -/
def joinChunks (chunks : List Value) : Except Failure (List UInt8) :=
  chunks.foldrM (fun c acc => match c with
    | .bytes b => .ok (b ++ acc)
    | _ => .error .wrongType) []

/-- Whether a request message says that more body follows. -/
def moreBody (m : Value) : Bool := (m.get? "more_body").any Value.truthy

set_option linter.unusedVariables false in
/-- Drain a source of arrivals from its front: the body, or `none` when a
receive failed or a disconnect came first, or a failure for a message without a
kind or a chunk that is not bytes; with the channel afterwards. `acc` holds the
chunks so far, in reverse. -/
def drainFrom (acc : List Value) (r : Receiver) :
    Except Failure (Option (List UInt8)) × Receiver :=
  match h : r.pending with
  | [] =>
    -- the source has run out: the next receive reports a disconnect
    (.ok none, { r with calls := r.calls + 1 })
  | a :: rest =>
    let r' := { r with pending := rest, calls := r.calls + 1 }
    match a with
    | .failure _ => (.ok none, r')
    | .message m =>
      match messageType m with
      | .error f => (.error f, r')
      | .ok t =>
        if Value.same t (.str "http.disconnect") then (.ok none, r')
        else if !Value.same t (.str "http.request") then drainFrom acc r'
        else
          let acc := messageBody m :: acc
          if moreBody m then drainFrom acc r'
          else
            match joinChunks acc.reverse with
            | .ok body => (.ok (some body), r')
            | .error f => (.error f, r')
termination_by r.pending.length
decreasing_by all_goals simp [h]

/-- The body of a channel whose front is empty, and the channel afterwards. -/
def drain (r : Receiver) : Except Failure (Option (List UInt8)) × Receiver :=
  drainFrom [] { r with front := none }

/-- The single request message that replays a whole body. -/
def replayMessage (body : List UInt8) : Value :=
  .dict [(.str "type", .str "http.request"), (.str "body", .bytes body),
    (.str "more_body", .bool false)]

/-- The channel that yields the whole body first, then the rest of the source. -/
def Receiver.replaying (r : Receiver) (body : List UInt8) : Receiver :=
  { r with front := some (replayMessage body) }

/-- Capture the body of a channel: its text and the channel that replays it, or
an empty text and no replay when the body could not be read; with the channel
afterwards. -/
def captureReceive (r : Receiver) : Except Failure (String × Option Receiver) × Receiver :=
  match drain r with
  | (.ok (some body), r') => (.ok (decodeLossy body, some (r'.replaying body)), r')
  | (.ok none, r') => (.ok ("", none), r')
  | (.error f, r') => (.error f, r')

/-- The messages of `n` receives on a channel, and the channel afterwards. -/
def Receiver.take (r : Receiver) : Nat → Except Failure (List Value) × Receiver
  | 0 => (.ok [], r)
  | n + 1 =>
    match r.receive with
    | (.ok m, r') =>
      let (rest, r'') := r'.take n
      (rest.map (m :: ·), r'')
    | (.error t, r') => (.error (.receiveFailed t), r')

/-- The messages of `n` receives, stopping at the first that fails; the text of
that failure, and the channel afterwards. -/
def Receiver.receiveMany (r : Receiver) : Nat → List Value × Option String × Receiver
  | 0 => ([], none, r)
  | n + 1 =>
    match r.receive with
    | (.ok m, r') =>
      let (ms, e, r'') := r'.receiveMany n
      (m :: ms, e, r'')
    | (.error t, r') => ([], some t, r')

end MaskedLog.Body

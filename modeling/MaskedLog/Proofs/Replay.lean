import MaskedLog.Body.Capture
/-!
# Replaying a drained request body

A request body arrives on a channel as messages, and it can be read only once.
The capture drains the channel up to the end of the body and hands the
application a replay: a channel that yields the whole body as one request
message and then goes on with the source where the drain left it. This module
shows that the replay is faithful for every sequence of arrivals whose messages
have a kind and carry bytes.

The drain stops at the first arrival that ends it: a failed receive, a
disconnect, or a request message that announces no more body. When the source
runs out, the next receive reports a disconnect, so there always is such an
arrival, and the drain has made exactly one receive more than the arrivals
before it. Only a last request message gives a body, and that body is the
request chunks up to it, joined in order.

## Main definitions

* `Receiver.advance` — a channel after some receives.
* `Arrival.Delivered` — a message with a kind whose body, if any, is bytes.
* `Arrival.ends`, `Arrival.isLast`, `Arrival.chunk` — how the drain reads one
  arrival.
* `stopIndex`, `requestBody` — where the drain stops and what it joins.

## Main results

* `advance_of_front` — receives on a channel without a replay take its
  arrivals one by one and count each.
* `drainFrom_eq` — the drain from any chunks read so far, arrival by arrival.
* `captureReceive_replays` — **the replay is faithful**: the capture makes
  `stopIndex + 1` receives, gives a body exactly when the drain stops at a last
  request message, and its replay yields that body and then what the source
  yields from the next receive on.

## References

`bodylog/capture.py` (`drain_receive`, `_replay_receive`, `capture_receive`).
-/

namespace MaskedLog.Body

open MaskedLog.Text

/-! ### The source channel, receive by receive -/

/-- The channel after `n` receives. -/
def Receiver.advance (r : Receiver) : Nat → Receiver
  | 0 => r
  | n + 1 => r.receive.2.advance n

/-- On a channel without a replay in front, each receive takes the next arrival,
or reports a disconnect once there is none, and counts one call. -/
theorem advance_of_front (r : Receiver) (h : r.front = none) (n : Nat) :
    r.advance n = { r with pending := r.pending.drop n, calls := r.calls + n } := by
  induction n generalizing r with
  | zero => rfl
  | succ n ih =>
    rw [Receiver.advance]
    rcases r with ⟨front, pending, calls⟩
    cases h
    rcases pending with _ | ⟨a, rest⟩
    · rw [ih _ rfl]
      simp only [Receiver.receive, List.drop_nil]
      congr 1
      omega
    · cases a <;>
      · rw [ih _ rfl]
        simp only [Receiver.receive, List.drop_succ_cons]
        congr 1
        omega

/-- The replay yields the body first; the channel after that is the one it
replays. -/
theorem receive_replaying (r : Receiver) (h : r.front = none) (body : List UInt8) :
    (r.replaying body).receive = (.ok (replayMessage body), r) := by
  rcases r with ⟨front, pending, calls⟩
  cases h
  rfl

/-! ### How the drain reads one arrival -/

/-- Whether a value is bytes. -/
def Value.isBytes : Value → Bool
  | .bytes _ => true
  | _ => false

/-- A message as a transport delivers it: a mapping with a kind, whose body,
when there is one, is bytes. A failed receive carries no message. -/
def Arrival.Delivered : Arrival → Prop
  | .message m => (m.get? "type").isSome ∧ (m.get? "body").all Value.isBytes
  | .failure _ => True

instance : DecidablePred Arrival.Delivered := fun a =>
  match a with
  | .message _ => inferInstanceAs (Decidable (_ ∧ _))
  | .failure _ => inferInstanceAs (Decidable True)

/-- Whether an arrival is a disconnect message. -/
def Arrival.isDisconnect : Arrival → Bool
  | .message m => (m.get? "type").any (Value.same · (.str "http.disconnect"))
  | .failure _ => false

/-- Whether an arrival is a request message. -/
def Arrival.isRequest : Arrival → Bool
  | .message m => (m.get? "type").any (Value.same · (.str "http.request"))
  | .failure _ => false

/-- Whether an arrival ends the drain: a failed receive, a disconnect, or a
request message that announces no more body. -/
def Arrival.ends : Arrival → Bool
  | a@(.message m) => a.isDisconnect || (a.isRequest && !moreBody m)
  | .failure _ => true

/-- Whether an arrival is the last message of a body: a request message, not a
disconnect, that announces no more body. -/
def Arrival.isLast (a : Arrival) : Bool := a.ends && !a.isDisconnect && a.isRequest

/-- The bytes of a value that is bytes. -/
def bytesOf : Value → List UInt8
  | .bytes b => b
  | _ => []

/-- The chunk a request message adds to the body, no bytes when it has none;
other arrivals add nothing. -/
def Arrival.chunk : Arrival → List UInt8
  | a@(.message m) => if !a.isDisconnect && a.isRequest then bytesOf (messageBody m) else []
  | .failure _ => []

/-- The index of the arrival that ends the drain, or the number of arrivals when
none does: then the drain ends at the disconnect that follows them. -/
def stopIndex (arrivals : List Arrival) : Nat := arrivals.findIdx Arrival.ends

/-- The body a drain joins from the arrivals it read. -/
def requestBody (arrivals : List Arrival) : List UInt8 := arrivals.flatMap Arrival.chunk

/-- A delivered message's body is bytes, no bytes when it has none. -/
theorem messageBody_of_delivered {m : Value} (h : (Arrival.message m).Delivered) :
    messageBody m = .bytes (bytesOf (messageBody m)) := by
  obtain ⟨-, hbody⟩ := h
  unfold messageBody
  cases hb : m.get? "body" with
  | none => rfl
  | some v =>
    rw [hb] at hbody
    cases v <;> simp_all [Value.isBytes, bytesOf]

/-- Chunks that are all bytes join to their concatenation. -/
theorem joinChunks_bytes (cs : List (List UInt8)) :
    joinChunks (cs.map Value.bytes) = .ok cs.flatten := by
  induction cs with
  | nil => rfl
  | cons c cs ih =>
    rw [joinChunks, List.map_cons, List.foldrM_cons, ← joinChunks, ih]
    rfl

/-- A delivered request chunk pushed onto the chunks read so far, which the drain
keeps in reverse, is one more bytes chunk at the end. -/
theorem reverse_push_delivered {m : Value} {acc : List Value} {cs : List (List UInt8)}
    (hacc : acc = (cs.map Value.bytes).reverse) (h : (Arrival.message m).Delivered) :
    (messageBody m :: acc).reverse = (cs ++ [bytesOf (messageBody m)]).map Value.bytes := by
  rw [hacc, List.reverse_cons, List.reverse_reverse, List.map_append, List.map_singleton,
    ← messageBody_of_delivered h]

theorem stopIndex_cons_of_ends {a : Arrival} (rest : List Arrival) (h : a.ends = true) :
    stopIndex (a :: rest) = 0 := by
  simp [stopIndex, List.findIdx_cons, h]

theorem stopIndex_cons_of_not_ends {a : Arrival} (rest : List Arrival) (h : a.ends = false) :
    stopIndex (a :: rest) = stopIndex rest + 1 := by
  simp [stopIndex, List.findIdx_cons, h]

theorem isDisconnect_message {m t : Value} (ht : messageType m = .ok t) :
    (Arrival.message m).isDisconnect = Value.same t (.str "http.disconnect") := by
  unfold messageType at ht
  split at ht <;> simp_all [Arrival.isDisconnect]

theorem isRequest_message {m t : Value} (ht : messageType m = .ok t) :
    (Arrival.message m).isRequest = Value.same t (.str "http.request") := by
  unfold messageType at ht
  split at ht <;> simp_all [Arrival.isRequest]

/-! ### The drain, arrival by arrival -/

/-- The drain from chunks `cs` already read: it stops after the arrival at
`stopIndex`, and gives a body, the chunks read so far followed by the request
chunks up to that arrival, exactly when that arrival is a last request message. -/
theorem drainFrom_eq (acc : List Value) (r : Receiver) :
    ∀ cs : List (List UInt8), acc = (cs.map Value.bytes).reverse →
      (∀ a ∈ r.pending, a.Delivered) →
      drainFrom acc r =
        (if (r.pending[stopIndex r.pending]?).any Arrival.isLast then
            .ok (some (cs.flatten ++ requestBody (r.pending.take (stopIndex r.pending + 1))))
          else .ok none,
         { r with pending := r.pending.drop (stopIndex r.pending + 1),
                  calls := r.calls + (stopIndex r.pending + 1) }) := by
  fun_induction drainFrom acc r with
  | case1 acc r hp =>
    -- the source has run out: the drain ends at the disconnect that follows
    intro cs _ _
    simp [hp, stopIndex]
  | case2 acc r rest r' text hp _ =>
    intro cs _ _
    rw [hp, stopIndex_cons_of_ends rest rfl]
    simp [r', Arrival.isLast, Arrival.ends, Arrival.isRequest]
  | case3 acc r rest r' m hp f hf _ =>
    intro cs _ hwf
    -- a delivered message has a kind
    obtain ⟨t, ht⟩ := Option.isSome_iff_exists.mp (hwf (.message m) (by simp [hp])).1
    simp [messageType, ht] at hf
  | case4 acc r rest r' m hp t ht hd _ =>
    intro cs _ _
    have hend : (Arrival.message m).ends = true := by
      simp [Arrival.ends, isDisconnect_message ht, hd]
    rw [hp, stopIndex_cons_of_ends rest hend]
    simp [r', Arrival.isLast, isDisconnect_message ht, hd]
  | case5 acc r rest r' m hp t ht hd hreq _ ih =>
    -- a message of another kind is passed over
    intro cs hacc hwf
    have hreq' : (Arrival.message m).isRequest = false := by
      simpa [isRequest_message ht] using hreq
    have hend : (Arrival.message m).ends = false := by
      simp [Arrival.ends, isDisconnect_message ht, hd, hreq']
    rw [ih cs hacc (fun a ha => hwf a (by rw [hp]; exact List.mem_cons_of_mem _ ha)), hp,
      stopIndex_cons_of_not_ends rest hend]
    simp [r', requestBody, Arrival.chunk, hreq']
    omega
  | case6 acc r rest r' m hp t ht hd hreq acc' hmore _ ih =>
    -- a request chunk with more to come joins the chunks read so far
    intro cs hacc hwf
    have hreq' : (Arrival.message m).isRequest = true := by
      simpa [isRequest_message ht] using hreq
    have hend : (Arrival.message m).ends = false := by
      simp [Arrival.ends, isDisconnect_message ht, hd, hreq', hmore]
    have hacc' : acc' = ((cs ++ [bytesOf (messageBody m)]).map Value.bytes).reverse := by
      rw [← reverse_push_delivered hacc (hwf (.message m) (by simp [hp])), List.reverse_reverse]
    rw [ih _ hacc' (fun a ha => hwf a (by rw [hp]; exact List.mem_cons_of_mem _ ha)), hp,
      stopIndex_cons_of_not_ends rest hend]
    simp [r', requestBody, Arrival.chunk, hreq', isDisconnect_message ht, hd]
    omega
  | case7 acc r rest r' m hp t ht hd hreq acc' hmore body hbody _ =>
    -- the last request chunk: the drain joins everything read
    intro cs hacc hwf
    have hreq' : (Arrival.message m).isRequest = true := by
      simpa [isRequest_message ht] using hreq
    have hend : (Arrival.message m).ends = true := by
      simp [Arrival.ends, isDisconnect_message ht, hd, hreq', hmore]
    rw [reverse_push_delivered hacc (hwf (.message m) (by simp [hp])), joinChunks_bytes] at hbody
    cases hbody
    rw [hp, stopIndex_cons_of_ends rest hend]
    simp [r', requestBody, Arrival.chunk, Arrival.isLast, hend, hreq', isDisconnect_message ht, hd]
  | case8 acc r rest r' m hp t ht hd hreq acc' hmore f hf _ =>
    -- chunks of delivered messages are bytes, so joining them cannot fail
    intro cs hacc hwf
    rw [reverse_push_delivered hacc (hwf (.message m) (by simp [hp])), joinChunks_bytes] at hf
    cases hf

/-- The drain of a channel of delivered arrivals, read off the arrivals: it
stops after the arrival at `stopIndex`, and gives the request chunks up to it
exactly when that arrival is a last request message. -/
theorem drain_eq {source : Receiver} (h : ∀ a ∈ source.pending, a.Delivered) :
    drain source =
      (if (source.pending[stopIndex source.pending]?).any Arrival.isLast then
          .ok (some (requestBody (source.pending.take (stopIndex source.pending + 1))))
        else .ok none,
       { pending := source.pending.drop (stopIndex source.pending + 1),
         calls := source.calls + (stopIndex source.pending + 1) }) := by
  rw [drain, drainFrom_eq [] { source with front := none } [] rfl h]
  simp

/-! ### The replay -/

/-- **The replay is faithful.** Over a source of delivered arrivals, draining and
capturing make `stopIndex + 1` receives and leave the source where those
receives leave it. They give a body exactly when the drain stops at a last
request message: the request chunks up to it, joined in order, with its text;
otherwise the capture gives an empty text and no replay. The replay yields the
body as one request message, and after that it is the source itself. -/
theorem captureReceive_replays (arrivals : List Arrival) (h : ∀ a ∈ arrivals, a.Delivered) :
    let source : Receiver := { pending := arrivals }
    let j := stopIndex arrivals
    let body := requestBody (arrivals.take (j + 1))
    let last := (arrivals[j]?).any Arrival.isLast
    (source.advance (j + 1)).calls = j + 1 ∧
      drain source = (if last then .ok (some body) else .ok none, source.advance (j + 1)) ∧
      captureReceive source =
        (if last then .ok (decodeLossy body, some ((source.advance (j + 1)).replaying body))
          else .ok ("", none), source.advance (j + 1)) ∧
      ((source.advance (j + 1)).replaying body).receive =
        (.ok (replayMessage body), source.advance (j + 1)) := by
  intro source j body last
  have hadv : source.advance (j + 1) =
      { source with pending := arrivals.drop (j + 1), calls := j + 1 } := by
    rw [advance_of_front source rfl]
    simp [source]
  have hdrain : drain source = (if last then .ok (some body) else .ok none, source.advance (j + 1)) := by
    rw [drain_eq h, hadv]
    simp [source, j, body, last]
  refine ⟨by rw [hadv], hdrain, ?_, receive_replaying _ (by rw [hadv]) body⟩
  rw [captureReceive, hdrain]
  by_cases hl : last <;> simp [hl]

/-- A body in two chunks around a message of another kind, followed by a
disconnect that the application still receives after the replay. -/
def twoChunks : List Arrival :=
  [.message (.dict [(.str "type", .str "http.request"), (.str "body", .bytes [97]),
      (.str "more_body", .bool true)]),
    .message (.dict [(.str "type", .str "lifespan.startup")]),
    .message (.dict [(.str "type", .str "http.request"), (.str "body", .bytes [98])]),
    .message (.dict [(.str "type", .str "http.disconnect")])]

theorem captureReceive_replays_twoChunks :
    (∀ a ∈ twoChunks, a.Delivered) ∧
      let source : Receiver := { pending := twoChunks }
      let j := stopIndex twoChunks
      let body := requestBody (twoChunks.take (j + 1))
      let last := (twoChunks[j]?).any Arrival.isLast
      (source.advance (j + 1)).calls = j + 1 ∧
        drain source = (if last then .ok (some body) else .ok none, source.advance (j + 1)) ∧
        captureReceive source =
          (if last then .ok (decodeLossy body, some ((source.advance (j + 1)).replaying body))
            else .ok ("", none), source.advance (j + 1)) ∧
        ((source.advance (j + 1)).replaying body).receive =
          (.ok (replayMessage body), source.advance (j + 1)) :=
  ⟨by decide, captureReceive_replays twoChunks (by decide)⟩

example : stopIndex twoChunks = 2 ∧ requestBody (twoChunks.take 3) = [97, 98] := by decide +kernel

end MaskedLog.Body

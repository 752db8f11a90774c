import Mathlib.Data.List.Forall2
import MaskedLog.Exchange.Recorder
/-!
# The recorder passes every message on

Between the application and the server, the recorder fails on a message in
two ways only: a start without headers, and a header operation that fails.
Under header operations that keep their laws (`HeaderOps.Lawful`), setting the
request id fails only when the lowercase header name or the id leaves Latin-1,
and looking up the content type never fails. So when every start carries
headers, the recorder takes every message and changes nothing but the start's
headers: a run of the application through the recorder matches, message for
message, a run against a sink that takes everything. The body bytes the
recorder counts are bounded by the bytes the application sends.

A start without headers ends the run where it stands: the recorder has noted
the response as started with its status, fails for the missing key, and passes
nothing on.

## Main definitions

* `Forwarded` — a message and the one the server gets for it.
* `Outgoing.chunk` — the body bytes of a message.
* `Outgoing.headerless` — a start that leaves out its headers.

## Main results

* `listHeaders_lawful` — the framework's operations on a list keep the laws.
* `Recorder.send_eq_ok` — everything one message through the recorder does.
* `sendAll_recorder` — the recorder takes a whole list of messages.
* `play_recorder` — a run through the recorder is a run with a sink that
  takes everything, the start's headers apart.
* `play_recorder_headerless` — a start without headers fails the run.

## References

`bodylog/middleware.py` (`_ResponseRecorder.__call__`).
-/

namespace MaskedLog

namespace Http

open MaskedLog.Unicode

theorem headerKey_of_latin1 {name : String} (h : isLatin1 (lowerString name) = true) :
    headerKey name = .ok (lowerString name) := by
  simp [headerKey, h]

theorem Headers.get?_of_latin1 (hs : Headers) {name : String}
    (h : isLatin1 (lowerString name) = true) :
    hs.get? name = .ok (hs.lookup (lowerString name)) := by
  rw [Headers.get?, headerKey_of_latin1 h]
  rfl

/-- A name whose lowercase form is Latin-1 can be set to any Latin-1 value. -/
theorem Headers.set_ok (hs : Headers) {name value : String}
    (hk : isLatin1 (lowerString name) = true) (hv : isLatin1 value = true) :
    ∃ hs', hs.set name value = .ok hs' := by
  rw [Headers.set, headerKey_of_latin1 hk]
  simp only [hv, Bool.not_true, Bool.false_eq_true, if_false]
  -- the value passes, so the name is replaced or appended
  by_cases hany : hs.any (·.1 == lowerString name) = true
  · exact ⟨_, if_pos hany⟩
  · exact ⟨_, if_neg hany⟩

/-- A value a lookup finds is the value of a stored header. -/
theorem mem_of_lookup_eq_some {hs : Headers} {k v : String} (h : hs.lookup k = some v) :
    ∃ k', (k', v) ∈ hs := by
  obtain ⟨l₁, l₂, hsplit, -⟩ := List.lookup_eq_some_iff.mp h
  exact ⟨k, by simp [hsplit]⟩

/-- The framework's header operations on a list keep the laws the logger
relies on. -/
theorem listHeaders_lawful : listHeaders.Lawful where
  get_ok hs _ h := ⟨_, hs.get?_of_latin1 h, fun _ hx => mem_of_lookup_eq_some (Option.mem_def.mp hx)⟩
  set_ok hs _ _ hk hv := Headers.set_ok hs hk hv

/-- The name of the content type is Latin-1, so lawful operations look it up. -/
theorem latin1_contentType : isLatin1 (lowerString "content-type") = true := by
  decide

end Http

namespace Exchange

open MaskedLog.Body MaskedLog.Http

/-- The message the server gets for one the application sends, with the header
operations `ops`: the same body chunk, or the same start with the request id
set among its headers. -/
inductive Forwarded (ops : HeaderOps) (idHeader requestId : String) : Outgoing → Outgoing → Prop
  | start (status : Value) {hs hs' : Headers} (h : ops.set hs idHeader requestId = .ok hs') :
      Forwarded ops idHeader requestId (.start status (some hs)) (.start status (some hs'))
  | body (chunk : List UInt8) (more : Bool) :
      Forwarded ops idHeader requestId (.body chunk more) (.body chunk more)

/-- The body bytes of a message; a start has none. -/
def Outgoing.chunk : Outgoing → List UInt8
  | .start _ _ => []
  | .body chunk _ => chunk

/-- Whether a message is a start that leaves out its headers. -/
def Outgoing.headerless : Outgoing → Bool
  | .start _ none => true
  | _ => false

/-- Every chunk but the last says more follow. -/
@[simp] theorem chunkMessages_cons_cons (c c' : List UInt8) (rest : List (List UInt8)) :
    chunkMessages (c :: c' :: rest) = .body c true :: chunkMessages (c' :: rest) := rfl

/-- The body bytes of the messages of a list of chunks are the chunks, joined. -/
theorem flatMap_chunk_chunkMessages (cs : List (List UInt8)) :
    (chunkMessages cs).flatMap Outgoing.chunk = cs.flatten := by
  induction cs with
  | nil => rfl
  | cons c rest ih =>
    cases rest with
    | nil => simp [chunkMessages, Outgoing.chunk]
    | cons c' rest' =>
      rw [chunkMessages_cons_cons, List.flatMap_cons, ih]
      rfl

theorem flatMap_chunk_messages (d : Downstream) :
    d.messages.flatMap Outgoing.chunk = d.chunks.flatten := by
  rw [Downstream.messages, List.flatMap_append, flatMap_chunk_chunkMessages]
  cases d.start <;> rfl

theorem headerless_chunkMessages :
    ∀ cs : List (List UInt8), ∀ m ∈ chunkMessages cs, m.headerless = false
  | [] => by simp [chunkMessages]
  | [c] => by simp [chunkMessages, Outgoing.headerless]
  | c :: c' :: rest => by
    intro m hm
    rw [chunkMessages_cons_cons, List.mem_cons] at hm
    rcases hm with rfl | hm
    · rfl
    · exact headerless_chunkMessages (c' :: rest) m hm

/-- An application whose start, if it sends one, carries headers sends no
headerless start. -/
theorem Downstream.headerless_messages {d : Downstream} (h : d.start = true → d.headers.isSome) :
    ∀ m ∈ d.messages, m.headerless = false := by
  intro m hm
  rw [Downstream.messages, List.mem_append] at hm
  rcases hm with hm | hm
  · cases hs : d.start
    · simp [hs] at hm
    · simp only [hs, if_true, List.mem_singleton] at hm
      obtain ⟨hs', h'⟩ := Option.isSome_iff_exists.mp (h hs)
      rw [hm, h']
      rfl
  · exact headerless_chunkMessages d.chunks m hm

/-! ### One message -/

variable {ops : HeaderOps}

/-- Everything one message through the recorder does when it raises nothing:
the id header and the id stay, the server is sent what `Forwarded` allows, and
the bytes counted grow by at most the message's body bytes. -/
theorem Recorder.send_eq_ok {r r' : Recorder} {m : Outgoing} (h : r.send ops m = (r', none)) :
    r'.idHeader = r.idHeader ∧ r'.requestId = r.requestId ∧
      (∃ m', Forwarded ops r.idHeader r.requestId m m' ∧ r'.sent = m' :: r.sent) ∧
      r'.size ≤ r.size + m.chunk.length := by
  cases m with
  | start status hs =>
    rcases hs with _ | hs
    · simp [Recorder.send] at h
    rcases hset : ops.set hs r.idHeader r.requestId with f | hs'
    · simp [Recorder.send, hset] at h
    rcases hct : ops.get? hs' "content-type" with f | ct
    · simp [Recorder.send, hset, hct] at h
    · simp only [Recorder.send, hset, hct, Prod.mk.injEq, and_true] at h
      subst h
      exact ⟨rfl, rfl, ⟨_, .start status hset, rfl⟩, Nat.le_add_right _ _⟩
  | body chunk more =>
    simp only [Recorder.send] at h
    split at h <;> obtain ⟨rfl, -⟩ := Prod.mk.inj h
    · exact ⟨rfl, rfl, ⟨_, .body chunk more, rfl⟩, Nat.le_refl _⟩
    · exact ⟨rfl, rfl, ⟨_, .body chunk more, rfl⟩, Nat.le_add_right _ _⟩

/-- The recorder takes every message but a headerless start, under lawful header
operations and when the id can be set as a header. -/
theorem Recorder.send_ok (hops : ops.Lawful) (r : Recorder)
    (hk : isLatin1 (Unicode.lowerString r.idHeader) = true) (hv : isLatin1 r.requestId = true)
    {m : Outgoing} (hm : m.headerless = false) : ∃ r', r.send ops m = (r', none) := by
  cases m with
  | start status hs =>
    rcases hs with _ | hs
    · simp [Outgoing.headerless] at hm
    obtain ⟨hs', hset⟩ := hops.set_ok hs r.idHeader r.requestId hk hv
    obtain ⟨ct, hct, -⟩ := hops.get_ok hs' "content-type" latin1_contentType
    simp only [Recorder.send, hset, hct]
    exact ⟨_, rfl⟩
  | body chunk more =>
    simp only [Recorder.send]
    split <;> exact ⟨_, rfl⟩

/-! ### A list of messages -/

/-- A sink that takes everything collects the messages, newest first. -/
theorem sendAll_accept (acc ms : List Outgoing) :
    sendAll (fun (acc : List Outgoing) m => (m :: acc, none)) acc ms = (ms.reverse ++ acc, none) := by
  induction ms generalizing acc with
  | nil => rfl
  | cons m ms ih => simp [sendAll, ih]

/-- The recorder takes a whole list of messages without a headerless start and
forwards each; the id header and the id stay, so each message finds the
recorder as the first did. -/
theorem sendAll_recorder (hops : ops.Lawful) (ms : List Outgoing)
    (hms : ∀ m ∈ ms, m.headerless = false) :
    ∀ r : Recorder, isLatin1 (Unicode.lowerString r.idHeader) = true →
      isLatin1 r.requestId = true →
      ∃ r', sendAll (Recorder.send ops) r ms = (r', none) ∧
        r'.idHeader = r.idHeader ∧ r'.requestId = r.requestId ∧
        (∃ fs, List.Forall₂ (Forwarded ops r.idHeader r.requestId) ms fs ∧
          r'.sent = fs.reverse ++ r.sent) ∧
        r'.size ≤ r.size + (ms.flatMap Outgoing.chunk).length := by
  induction ms with
  | nil =>
    intro r _ _
    exact ⟨r, rfl, rfl, rfl, ⟨[], .nil, rfl⟩, by simp⟩
  | cons m ms ih =>
    intro r hk hv
    obtain ⟨r₁, hsend⟩ := r.send_ok hops hk hv (hms m (List.mem_cons_self ..))
    obtain ⟨hid, hrid, ⟨m', hfw, hsent⟩, hsize⟩ := Recorder.send_eq_ok hsend
    obtain ⟨r', hall, hid', hrid', ⟨fs, hfs, hsent'⟩, hsize'⟩ :=
      ih (fun m' hm' => hms m' (List.mem_cons_of_mem m hm')) r₁ (hid ▸ hk) (hrid ▸ hv)
    refine ⟨r', ?_, hid'.trans hid, hrid'.trans hrid, ⟨m' :: fs, ?_, ?_⟩, ?_⟩
    · simp [sendAll, hsend, hall]
    · exact .cons hfw (hid ▸ hrid ▸ hfs)
    · simp [hsent', hsent]
    · simp only [List.flatMap_cons, List.length_append]
      omega

/-! ### A run of the application -/

/-- **A run through the recorder is a run with a sink that takes everything.**
When the application's start carries headers, it receives the same messages,
leaves the channel the same and ends with the same failure, its own: the
recorder refuses nothing. The server gets each message the application sent, in
order, the start with the request id set; and the recorder counts no more body
bytes than the application sent. -/
theorem play_recorder (hops : ops.Lawful) (d : Downstream) (hd : d.start = true → d.headers.isSome)
    (ch : Receiver) (r : Recorder)
    (hk : isLatin1 (Unicode.lowerString r.idHeader) = true) (hv : isLatin1 r.requestId = true) :
    let p := d.play ch (Recorder.send ops) r
    let q := d.play ch (fun (acc : List Outgoing) m => (m :: acc, none)) []
    p.received = q.received ∧ p.source = q.source ∧ p.raised = q.raised ∧
      (∃ fs, List.Forall₂ (Forwarded ops r.idHeader r.requestId) q.sink.reverse fs ∧
        p.sink.sent = fs.reverse ++ r.sent) ∧
      p.sink.size ≤ r.size + d.chunks.flatten.length := by
  intro p q
  obtain ⟨r', hall, -, -, ⟨fs, hfs, hsent⟩, hsize⟩ :=
    sendAll_recorder hops d.messages (Downstream.headerless_messages hd) r hk hv
  rw [flatMap_chunk_messages] at hsize
  simp only [p, q, Downstream.play]
  rcases ch.receiveMany d.reads with ⟨got, err, ch'⟩
  -- the receives and the failure before the start do not involve the sink
  rcases err with _ | t
  · rcases hb : d.failBeforeStart with _ | msg
    · simp only [hall, sendAll_accept, List.append_nil, List.reverse_reverse, true_and]
      exact ⟨⟨fs, hfs, hsent⟩, hsize⟩
    · exact ⟨rfl, rfl, rfl, ⟨[], .nil, rfl⟩, Nat.le_add_right _ _⟩
  · exact ⟨rfl, rfl, rfl, ⟨[], .nil, rfl⟩, Nat.le_add_right _ _⟩

/-- A headerless start stops the recorder: the response is noted as started
with its status, and the missing key is raised. -/
theorem sendAll_headerless (r : Recorder) (status : Value) (ms : List Outgoing) :
    sendAll (Recorder.send ops) r (.start status none :: ms) =
      ({ r with started := true, status := status }, some .missingKey) := rfl

/-- **A start without headers fails the run.** When the application's receives
and its work before the start succeed and it starts the response without
headers, the recorder raises the missing key at the start: the response is
noted as started with the application's status, and nothing reaches the
server. -/
theorem play_recorder_headerless (d : Downstream) (hstart : d.start = true)
    (hnone : d.headers = none) (ch : Receiver) (hrecv : (ch.receiveMany d.reads).2.1 = none)
    (hbefore : d.failBeforeStart = none) (r : Recorder) :
    let p := d.play ch (Recorder.send ops) r
    p.raised = some .missingKey ∧ p.sink.started = true ∧ p.sink.status = d.status ∧
      p.sink.sent = r.sent := by
  intro p
  have hmsg : d.messages = .start d.status none :: chunkMessages d.chunks := by
    simp [Downstream.messages, hstart, hnone]
  simp only [p, Downstream.play]
  rcases hr : ch.receiveMany d.reads with ⟨got, err, ch'⟩
  rw [hr] at hrecv
  -- no receive failed, so the run reaches the start
  obtain rfl : err = none := hrecv
  simp only [hbefore, hmsg, sendAll_headerless, and_self]

end Exchange

end MaskedLog

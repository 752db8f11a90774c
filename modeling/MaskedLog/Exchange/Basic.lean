import MaskedLog.Body.Capture
import MaskedLog.Http.Headers
/-!
# Requests, responses and the application behind the logger

An exchange is one request passing through the logger to an application and
the application's response passing back. This module fixes what the two sides
hand over.

A request's `Scope` has a kind (`http` for plain requests), a method, a path, a
query and headers, each of the last four possibly absent, and the peer's host.
The body arrives through a `Receiver`. The response is a list of `Outgoing`
messages: a start with a status and headers (which a start may leave out), then
body chunks, each saying whether more follow.

The application is a script (`Downstream`): it receives a number of times, may
fail before it starts the response, may start it, sends its chunks and may fail
at the end. `Downstream.play` runs the script against a channel and a sink that
takes each outgoing message. Taking a message gives the sink's state
afterwards and the failure it raised, if any: a sink that fails keeps what it
changed before it failed, and the failure ends the script.

## Main definitions

* `Scope`, `Outgoing`, `Downstream`.
* `sendAll` — messages through a sink, up to the first it fails on.
* `Downstream.play` — one run of the application.

## References

`bodylog/middleware.py` (`BodyLoggingMiddleware.__call__`); the ASGI messages
`http.response.start` and `http.response.body`.
-/

namespace MaskedLog.Exchange

open MaskedLog.Body MaskedLog.Http

/-- A request as the server hands it to the logger. -/
structure Scope where
  /-- The kind of connection; only `http` requests are logged. -/
  kind : String := "http"
  method : Option String := some "POST"
  path : Option String := some "/"
  /-- The query, as Latin-1 text. -/
  query : Option String := some ""
  /-- The request headers, with lowercase names. -/
  headers : Headers := []
  /-- The client entry of the connection, normally a `(host, port)` pair;
  nothing when unknown. -/
  client : Value := .none
  deriving Repr

/-- A message of a response. -/
inductive Outgoing where
  /-- The start of the response: its status and its headers, if it gives them. -/
  | start (status : Value) (headers : Option Headers)
  /-- A chunk of the response body, and whether more follow. -/
  | body (chunk : List UInt8) (more : Bool)
  deriving Repr

/-- A scripted application. -/
structure Downstream where
  /-- How many messages it receives first. -/
  reads : Nat := 1
  /-- The failure it raises before starting the response, if any. -/
  failBeforeStart : Option String := none
  /-- Whether it starts the response. -/
  start : Bool := true
  status : Value := .int 200
  /-- The headers of its start; `none` leaves them out of the message. -/
  headers : Option Headers := some []
  /-- The body chunks it sends, each in its own message. -/
  chunks : List (List UInt8) := []
  /-- The failure it raises after sending, if any. -/
  failAfter : Option String := none

/-- The body messages of a list of chunks: more follow on all but the last. -/
def chunkMessages : List (List UInt8) → List Outgoing
  | [] => []
  | [c] => [.body c false]
  | c :: rest => .body c true :: chunkMessages rest

/-- The messages the application sends. -/
def Downstream.messages (d : Downstream) : List Outgoing :=
  (if d.start then [.start d.status d.headers] else []) ++ chunkMessages d.chunks

/-- Hand messages to a sink in order, stopping at the first it fails on, with
the sink as that message left it. -/
def sendAll (send : σ → Outgoing → σ × Option Failure) : σ → List Outgoing → σ × Option Failure
  | s, [] => (s, none)
  | s, m :: ms =>
    match send s m with
    | (s', none) => sendAll send s' ms
    | (s', some f) => (s', some f)

/-- What one run of the application did: the messages it received, the channel
and the sink afterwards, and the failure it ended with, if any. -/
structure Played (σ : Type) where
  received : List Value
  source : Receiver
  sink : σ
  raised : Option Failure

/-- Run the application against a channel and a sink. -/
def Downstream.play (d : Downstream) (r : Receiver) (send : σ → Outgoing → σ × Option Failure)
    (s : σ) : Played σ :=
  let (got, err, r') := r.receiveMany d.reads
  match err with
  | some t => ⟨got, r', s, some (.receiveFailed t)⟩
  | none =>
    match d.failBeforeStart with
    | some m => ⟨got, r', s, some (.appFailed m)⟩
    | none =>
      let (s', refused) := sendAll send s d.messages
      match refused with
      | some f => ⟨got, r', s', some f⟩
      | none => ⟨got, r', s', d.failAfter.map Failure.appFailed⟩

end MaskedLog.Exchange

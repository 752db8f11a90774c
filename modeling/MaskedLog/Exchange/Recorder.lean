import MaskedLog.Exchange.Basic
/-!
# The response recorder

The logger stands between the application and the server on the way out. Every
message passes through unchanged except the start, which gets the request id
under the configured header name (replacing any entry of that name the
application set in lowercase). On the way the recorder notes the status (500
until a start is seen), whether the response started, its content type, and,
when response bodies are logged, a copy of the body.

A start is noted as started, with its status, before its headers are read. A
start without headers then fails for the missing key, as does a header
operation that fails: the response stays noted as started, and nothing goes on
to the server.

The copy never holds more than `limit` bytes: the running size counts every
chunk, a chunk is kept while the running size stays within the limit, and the
first chunk past it drops everything kept so far. So the copy is either the
whole body or empty, and `Recorder.overflowed` tells which.

## Main definitions

* `Recorder`, `Recorder.send` — the recorder and one message through it.
* `Recorder.overflowed`, `Recorder.body` — what was copied.

## References

`bodylog/middleware.py` (`_ResponseRecorder`).
-/

namespace MaskedLog.Exchange

open MaskedLog.Http

/-- The recorder's state. -/
structure Recorder where
  /-- The header that carries the request id. -/
  idHeader : String
  requestId : String
  /-- Whether the response body is copied. -/
  keepBody : Bool
  /-- The most bytes of body copied. -/
  limit : Nat
  /-- The chunks copied, in order. -/
  kept : List (List UInt8) := []
  /-- The bytes of body seen, when copying. -/
  size : Nat := 0
  status : Value := .int 500
  started : Bool := false
  contentType : Option String := none
  /-- The messages passed on to the server, newest first. -/
  sent : List Outgoing := []

/-- Pass one message through the recorder, with the header operations `ops`:
the recorder afterwards and the failure raised, if any. -/
def Recorder.send (ops : HeaderOps) (r : Recorder) : Outgoing → Recorder × Option Failure
  | .start status hs =>
    let r := { r with started := true, status := status }
    match hs with
    | none => (r, some .missingKey)
    | some hs =>
      match ops.set hs r.idHeader r.requestId with
      | .error f => (r, some f)
      | .ok hs =>
        match ops.get? hs "content-type" with
        | .error f => (r, some f)
        | .ok ct => ({ r with contentType := ct, sent := .start status (some hs) :: r.sent }, none)
  | .body chunk more =>
    let m := Outgoing.body chunk more
    if r.keepBody then
      let size := r.size + chunk.length
      let kept := if size ≤ r.limit then r.kept ++ [chunk] else []
      ({ r with size := size, kept := kept, sent := m :: r.sent }, none)
    else ({ r with sent := m :: r.sent }, none)

/-- Whether the copied body went past the limit. -/
def Recorder.overflowed (r : Recorder) : Bool := r.size > r.limit

/-- The copied body. -/
def Recorder.body (r : Recorder) : List UInt8 := r.kept.flatten

end MaskedLog.Exchange

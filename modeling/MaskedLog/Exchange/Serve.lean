import MaskedLog.Exchange.Recorder
import MaskedLog.Settings.Basic
import MaskedLog.Form.Summary
import MaskedLog.Body.Policy
import MaskedLog.Body.Truncate
/-!
# One request through the logger

The logger passes requests that are not plain `http`, or whose path is skipped,
straight to the application. Every other request gets an id (the one its
configured header carries, or a fresh one), its parameters are captured, the
application runs with the body replayed and its response recorded, and one
entry is logged with

* `request_id`, `method`, `path`, `query`, `ip`, `status`, `duration_ms`,
  `user_agent`, always;
* `params`, the masked query or body, when not empty;
* `response_body`, the masked response, when not empty.

When the application fails, a second entry reports the failure under the
request id, and the failure passes on. A failure while preparing the request
(a missing method, a form the reader cannot read) reaches the server before
the application runs and nothing is logged.

The parameters of a `GET` are its query, read without touching the body. Other
bodies are drained: a drain that fails logs nothing and leaves the application
the channel as it is; otherwise the application gets a replay. A multipart body
logs its form summary; another body logs nothing when its content type is
skipped or it looks binary, and its masked text otherwise. Masking comes before
cutting to `maxBodySize` bytes, so no value is cut open.

## Main definitions

* `LogEntry`, `Outcome` — what an exchange leaves behind.
* `requestParamsOf`, `responseText` — the two logged bodies.
* `serve` — one exchange.

The header operations and the form reader are the web framework's, taken as
parameters (`HeaderOps`, `Form.FormReader`).

## References

`bodylog/middleware.py` (`BodyLoggingMiddleware.__call__`, `_request_params`,
`_response_body`); `bodylog/content.py`.
-/

namespace MaskedLog.Exchange

open MaskedLog.Body MaskedLog.Http MaskedLog.Text MaskedLog.Redact MaskedLog.Unicode

/-- The severity of a log entry. -/
inductive Severity where
  | info
  | error
  deriving Repr, DecidableEq

/-- The name of a severity. -/
def Severity.name : Severity → String
  | .info => "INFO"
  | .error => "ERROR"

/-- One logged entry: severity, message, extra fields and the failure reported. -/
structure LogEntry where
  severity : Severity
  message : String
  extras : List (String × Value)
  failure : Option Failure := none

/-- What an exchange leaves behind: the log entries, the messages the server
got, the messages the application received, the receives made on the request
channel and the failure that reached the server. -/
structure Outcome where
  entries : List LogEntry
  sent : List Outgoing
  received : List Value
  calls : Nat
  raised : Option Failure

/-- A path as a value: absent is `None`. -/
def pathValue : Option String → Value
  | some p => .str p
  | none => .none

/-- Whether a request goes straight to the application. -/
def passesThrough (s : Settings) (scope : Scope) : Bool :=
  scope.kind != "http" || s.skipPaths.any (Value.same (pathValue scope.path))

/-- The logged parameters of a drained body. -/
def bodyParams (ops : HeaderOps) (read : Form.FormReader) (s : Settings) (sc : Scanner)
    (method query : String) (hs : Headers) (body : List UInt8) : Except Failure String := do
  let ct ← ops.get? hs "content-type"
  if isMultipart ct then
    stringOf <$> truncate (codePoints (← Form.formSummary read sc (ct.getD "") body)) s.maxBodySize
  else
    let text := decodeLossy body
    if !(← shouldLogBody ct (codePoints text) s.skipContentTypes s.binaryRatio
        s.binaryMinLength) then
      return ""
    stringOf <$> truncate (codePoints (requestParams method query text sc)) s.maxBodySize

/-- The logged parameters of a request, and the channel the application reads. -/
def requestParamsOf (ops : HeaderOps) (read : Form.FormReader) (s : Settings) (sc : Scanner)
    (method query : String) (hs : Headers) (source : Receiver) : Except Failure String × Receiver :=
  if !s.logRequestBody.truthy then (.ok "", source)
  else if isGet method then (.ok (requestParams method query "" sc), source)
  else
    match drain source with
    | (.error f, r) => (.error f, r)
    | (.ok none, r) => (.ok "", r)
    | (.ok (some body), r) => (bodyParams ops read s sc method query hs body, r.replaying body)

/-- The logged response body: nothing unless response bodies are logged and the
response started; a size note when the copy overflowed; else the masked text,
unless its content type is skipped or it looks binary. -/
def responseText (s : Settings) (sc : Scanner) (r : Recorder) : Except Failure String := do
  if !s.logResponseBody.truthy || !r.started then return ""
  if r.overflowed then return "(omitted, " ++ (← Size.show r.size) ++ ")"
  let text := decodeLossy r.body
  if !(← shouldLogBody r.contentType (codePoints text) s.skipContentTypes s.binaryRatio
      s.binaryMinLength) then
    return ""
  return sc.redact text

/-- The request id and method of a request, checked before anything is read. -/
def opening (ops : HeaderOps) (s : Settings) (fresh : String) (scope : Scope) :
    Except Failure (String × String × String) := do
  let idHeader ← match s.requestIdHeader with
    | .str h => pure h
    | _ => throw .noAttribute
  let given ← ops.get? scope.headers idHeader
  let requestId := match given with
    | some v => if v.isEmpty then fresh else v
    | none => fresh
  let some method := scope.method | throw .missingKey
  return (idHeader, requestId, method)

/-- The entries of a logged exchange, or the failure that replaced them. -/
def entriesOf (ops : HeaderOps) (s : Settings) (sc : Scanner) (elapsed : Value) (scope : Scope)
    (requestId method query params : String) (r : Recorder) (raised : Option Failure) :
    Except Failure (List LogEntry) := do
  let hs := scope.headers
  let ip ← clientAddress ops hs scope.client
  let agent ← ops.getD hs "user-agent" ""
  let response ← responseText s sc r
  let extras := [("request_id", Value.str requestId), ("method", .str method),
    ("path", .str (scope.path.getD "")), ("query", .str query), ("ip", ip),
    ("status", r.status), ("duration_ms", elapsed), ("user_agent", .str agent)] ++
    (if params.isEmpty then [] else [("params", .str params)]) ++
    (if response.isEmpty then [] else [("response_body", .str response)])
  let main : LogEntry := ⟨.info, "HTTP Request", extras, none⟩
  match raised with
  | some f => return [main, ⟨.error, "Request Error", [("request_id", .str requestId)], some f⟩]
  | none => return [main]

/-- One exchange: the request `scope` with its body arriving on `source`, served
by `app`, with the header operations `ops` and the form reader `read`. A
request without an id gets `fresh`; `elapsed` is the duration logged. -/
def serve (ops : HeaderOps) (read : Form.FormReader) (s : Settings) (sc : Scanner) (fresh : String)
    (elapsed : Value) (scope : Scope) (source : Receiver) (app : Downstream) : Outcome :=
  if passesThrough s scope then
    let p := app.play source (fun (acc : List Outgoing) m => (m :: acc, none)) []
    ⟨[], p.sink.reverse, p.received, p.source.calls, p.raised⟩
  else
    match opening ops s fresh scope with
    | .error f => ⟨[], [], [], source.calls, some f⟩
    | .ok (idHeader, requestId, method) =>
      let query := scope.query.getD ""
      match requestParamsOf ops read s sc method query scope.headers source with
      | (.error f, r) => ⟨[], [], [], r.calls, some f⟩
      | (.ok params, channel) =>
        let recorder : Recorder :=
          { idHeader, requestId, keepBody := s.logResponseBody.truthy, limit := s.maxBodySize }
        let p := app.play channel (Recorder.send ops) recorder
        let sent := p.sink.sent.reverse
        match entriesOf ops s sc elapsed scope requestId method query params p.sink p.raised with
        | .ok entries => ⟨entries, sent, p.received, p.source.calls, p.raised⟩
        | .error f => ⟨[], sent, p.received, p.source.calls, some f⟩

end MaskedLog.Exchange

import MaskedLog.Exchange.Serve
import MaskedLog.Proofs.Forwarding
import MaskedLog.Proofs.Measure
import MaskedLog.Proofs.Replay
/-!
# Logging does not fail a request

The logger is meant never to be the reason a request fails. This module shows
that it is not, on every path a request takes: passed straight through, or
logged with body logging off, as a `GET`, with a drain that finds no body, with
a multipart form, with a skipped or binary-looking body, and on the way back
with the response copied or not. The request is then served by exactly one
run of the application, whose failure is the only one the server sees. A
logged request leaves exactly one request entry, and one error entry when the
application failed. Every message the application sent reaches the server.

What this needs:

* settings the constructor accepts, whose minimum length for the binary test
  is no NaN, and whose id header is a text with a Latin-1 lowercase form;
* a scope as a server builds it (`Scope.Valid`), a fresh id in Latin-1, and
  messages that carry a kind and bytes;
* bodies whose sizes a double can show, well past anything a server holds;
* a multipart body that the form reader can read.

The last condition is where the logger does fail a request. A multipart body
the reader cannot read makes the form summary fail, and that failure reaches
the server before the application runs; `serve_unreadable_form_fails` shows
one such body.

## Main definitions

* `Scope.Valid` — a scope as a server hands it over.
* `ServedOnce` — what serving a request through the logger should come to.

## Main results

* `requestParamsOf_ok`, `entriesOf_ok` — preparing a request and logging it
  never fail.
* `serve_served_once` — **logging does not fail a request**.
* `serve_unreadable_form_fails` — a form the reader cannot read does.

## References

`bodylog/middleware.py` (`BodyLoggingMiddleware.__call__`, `_request_params`,
`_response_body`) and `bodylog/config.py` (`BodyLogConfig`).
-/

namespace MaskedLog

open MaskedLog.Body MaskedLog.Http MaskedLog.Text MaskedLog.Unicode MaskedLog.Redact

/-! ### Computations that succeed -/

@[simp] theorem ok_bind {ε α β : Type} (a : α) (f : α → Except ε β) :
    (Except.ok a >>= f) = f a := rfl

@[simp] theorem pure_eq_ok {ε α : Type} (a : α) : (pure a : Except ε α) = .ok a := rfl

@[simp] theorem error_bind {ε α β : Type} (e : ε) (f : α → Except ε β) :
    (Except.error e >>= f) = .error e := rfl

theorem bind_eq_ok {ε α β : Type} {x : Except ε α} {f : α → Except ε β} {b : β} :
    x >>= f = .ok b ↔ ∃ a, x = .ok a ∧ f a = .ok b := by
  cases x <;> simp [bind, Except.bind]

theorem eq_ok_of_toOption {ε α : Type} {x : Except ε α} {a : α} (h : x.toOption = some a) :
    x = .ok a := by
  cases x <;> simp_all [Except.toOption]

theorem throw_bind_ne_ok {ε α β : Type} (e : ε) (f : α → Except ε β) (b : β) :
    (throw e >>= f) ≠ .ok b := by
  simp [throw, throwThe, MonadExceptOf.throw, bind, Except.bind]

namespace Value

theorem compareTo_ok {a b : Value} (ha : a.asNumber?.isSome) (hb : b.asNumber?.isSome) :
    ∃ o, compareTo a b = .ok o := by
  obtain ⟨x, hx⟩ := Option.isSome_iff_exists.mp ha
  obtain ⟨y, hy⟩ := Option.isSome_iff_exists.mp hb
  exact ⟨compareNumbers x y, by simp [compareTo, hx, hy]⟩

theorem isSome_of_compareTo_ok {a b : Value} {o : Option Ordering} (h : compareTo a b = .ok o) :
    a.asNumber?.isSome ∧ b.asNumber?.isSome := by
  unfold compareTo at h
  split at h
  · simp_all
  · cases h

theorem le_ok {a b : Value} (ha : a.asNumber?.isSome) (hb : b.asNumber?.isSome) :
    ∃ x, le a b = .ok x := by
  obtain ⟨o, ho⟩ := compareTo_ok ha hb
  exact ⟨_, by rw [le, ho]; rfl⟩

theorem lt_ok {a b : Value} (ha : a.asNumber?.isSome) (hb : b.asNumber?.isSome) :
    ∃ x, lt a b = .ok x := by
  obtain ⟨o, ho⟩ := compareTo_ok ha hb
  exact ⟨_, by rw [lt, ho]; rfl⟩

theorem isSome_of_le_ok {a b : Value} {x : Bool} (h : le a b = .ok x) :
    a.asNumber?.isSome ∧ b.asNumber?.isSome := by
  unfold le at h
  rcases hc : compareTo a b with f | o
  · simp [hc, Except.map] at h
  · exact isSome_of_compareTo_ok hc

end Value

/-- Accepted settings compare their ratio with numbers, so the ratio is one. -/
theorem Settings.Input.check_ratio {i : Settings.Input} {s : Settings} (h : i.check = .ok s) :
    s.binaryRatio.asNumber?.isSome := by
  simp only [Settings.Input.check, bind_eq_ok] at h
  obtain ⟨_, -, _, -, _, -, _, -, _, -, low, hlow, h⟩ := h
  have hnum := (Value.isSome_of_le_ok hlow).2
  -- every way through the remaining guards that returns keeps the ratio given
  cases low
  · simp [pure, Except.pure, bind, Except.bind] at h
  · simp only [if_true, bind_eq_ok] at h
    obtain ⟨high, -, h⟩ := h
    cases high
    · exact absurd h (throw_bind_ne_ok _ _ _)
    · simp only [Bool.and_self, if_true, bind_eq_ok] at h
      obtain ⟨neg, -, h⟩ := h
      cases neg
      · cases h
        exact hnum
      · simp [throw, throwThe, MonadExceptOf.throw] at h

/-- A name already in normal form, not empty and without a quote, is kept as
it is. -/
theorem normalizeName_normal {n : String} (h : normalForm n = n) (hne : n ≠ "")
    (hq : '"' ∉ n.toList) : normalizeName (.str n) = .ok n := by
  simp [normalizeName, h, hne, hq]

/-- Names in normal form are kept, each once, in the order given. -/
theorem normalizeFields_normal (ns : List String)
    (hn : ∀ n ∈ ns, normalForm n = n ∧ n ≠ "" ∧ '"' ∉ n.toList) :
    normalizeFields (.tuple (ns.map .str)) = .ok (ns.foldl insertNew []) := by
  suffices h : ∀ acc, (ns.map Value.str).foldlM
      (fun acc v => insertNew acc <$> normalizeName v) acc = .ok (ns.foldl insertNew acc) from
    h []
  induction ns with
  | nil => intro acc; rfl
  | cons n rest ih =>
    intro acc
    obtain ⟨hnf, hne, hq⟩ := hn n (List.mem_cons_self ..)
    simp only [List.map_cons, List.foldlM_cons, normalizeName_normal hnf hne hq, List.foldl_cons]
    exact ih (fun m hm => hn m (List.mem_cons_of_mem _ hm)) _

/-- The settings the constructor builds from its default values. -/
def defaultSettings : Settings where
  sensitiveFields := defaultFields
  logRequestBody := .bool true
  logResponseBody := .bool false
  maxBodySize := 65536
  skipContentTypes := defaultSkippedTypes.map .str
  binaryRatio := .float defaultRatio
  binaryMinLength := .int 100
  requestIdHeader := .str "X-Request-ID"
  skipPaths := []
  loggerName := .str "bodylog.http"

/-- Texts have their lowercase forms as items. -/
theorem mapM_lowerItem_str (ts : List String) :
    (ts.map Value.str).mapM lowerItem = .ok ((ts.map lowerString).map .str) := by
  induction ts with
  | nil => rfl
  | cons t ts ih => simp [List.mapM_cons, lowerItem, ih]

set_option maxRecDepth 8000 in
theorem Settings.default_eq : Settings.default = .ok defaultSettings := by
  -- the steps that read names and doubles are evaluated by the kernel
  have hfields : normalizeFields (.tuple (defaultFields.map .str)) = .ok defaultFields := by
    rw [normalizeFields_normal _ (by decide +kernel)]
    rfl
  have hskipped : (defaultSkippedTypes.map Value.str).mapM lowerItem =
      .ok (defaultSkippedTypes.map .str) := by
    rw [mapM_lowerItem_str,
      show defaultSkippedTypes.map lowerString = defaultSkippedTypes by decide]
  have hlow : Value.le (.float (Binary64.zero false)) (.float defaultRatio) = .ok true :=
    eq_ok_of_toOption (by decide)
  have hhigh : Value.le (.float defaultRatio) (.float (Binary64.ofInt 1)) = .ok true :=
    eq_ok_of_toOption (by decide)
  have hbudget : Size.parse (.int 65536) = .ok 65536 := rfl
  have hneg : Value.lt (.int 100) (.int 0) = .ok false := rfl
  simp only [Settings.default, Settings.Input.check, hfields, walk, Value.items?, hskipped,
    hbudget, hlow, hhigh, hneg, ok_bind, ↓reduceIte, Bool.and_self]
  rfl

/-! ### The binary test -/

namespace Body

/-- The binary test decides whenever the ratio is a number and the minimum
length is no NaN: a text that is not longer than the minimum never reaches the
division by its length. -/
theorem looksBinary_ok (t : List CodePoint) {ratio minLength : Value} (hr : ratio.asNumber?.isSome)
    (hm : Value.le (.int 0) minLength = .ok true) : ∃ b, looksBinary t ratio minLength = .ok b := by
  have hmin := (Value.isSome_of_le_ok hm).2
  obtain ⟨short, hshort⟩ := Value.le_ok (a := .int (encodePassing t).length) rfl hmin
  cases short
  · have hpos : (encodePassing t).length ≠ 0 := by
      intro h0
      rw [h0] at hshort
      simp [hm] at hshort
    obtain ⟨b, hb⟩ := Value.lt_ok (b := .float (Binary64.ofQuotient (nonAsciiCount t)
      (encodePassing t).length)) hr rfl
    exact ⟨b, by simp [looksBinary, hshort, hpos, hb]⟩
  · exact ⟨false, by simp [looksBinary, hshort]⟩

/-- The skip test decides when every skipped type is a text. -/
theorem isSkippedContentType_ok (ct : Option String) {skipped : List Value}
    (h : ∀ x ∈ skipped, ∃ t, x = .str t) : ∃ b, isSkippedContentType ct skipped = .ok b := by
  rcases ct with _ | c
  · exact ⟨_, rfl⟩
  by_cases he : c.isEmpty = true
  · exact ⟨false, by simp [isSkippedContentType, he]⟩
  simp only [isSkippedContentType, he, Bool.false_eq_true, if_false]
  -- each item is a text, looked for in the content type until one is found
  induction skipped with
  | nil => exact ⟨false, rfl⟩
  | cons x xs ih =>
    obtain ⟨t, rfl⟩ := h x (List.mem_cons_self ..)
    obtain ⟨b, hb⟩ := ih fun y hy => h y (List.mem_cons_of_mem _ hy)
    cases hct : contains (lowerString c) t
    · exact ⟨b, by simp [List.anyM, hct, hb]⟩
    · exact ⟨true, by simp [List.anyM, hct]⟩

theorem shouldLogBody_ok (ct : Option String) (t : List CodePoint) {skipped : List Value}
    (hskip : ∀ x ∈ skipped, ∃ s, x = .str s) {ratio minLength : Value}
    (hr : ratio.asNumber?.isSome) (hm : Value.le (.int 0) minLength = .ok true) :
    ∃ b, shouldLogBody ct t skipped ratio minLength = .ok b := by
  obtain ⟨skip, hskip'⟩ := isSkippedContentType_ok ct hskip
  obtain ⟨b, hb⟩ := looksBinary_ok t hr hm
  cases skip
  · exact ⟨!b, by simp [shouldLogBody, hskip', hb, Functor.map, Except.map]⟩
  · exact ⟨false, by simp [shouldLogBody, hskip']⟩

/-! ### The drain -/

theorem length_requestBody_take_le (arrivals : List Arrival) (k : Nat) :
    (requestBody (arrivals.take k)).length ≤ (requestBody arrivals).length := by
  have h := congrArg (fun l => (requestBody l).length) (List.take_append_drop k arrivals)
  simp only [requestBody, List.flatMap_append, List.length_append] at h
  simp only [requestBody]
  omega

/-- A drain of delivered messages never fails. -/
theorem drain_ok {source : Receiver} (h : ∀ a ∈ source.pending, a.Delivered) :
    ∃ b r, drain source = (.ok b, r) := by
  rw [drain_eq h]
  split <;> exact ⟨_, _, rfl⟩

/-- The drained body is no longer than the request chunks of all the arrivals. -/
theorem length_drain_le {source r : Receiver} {body : List UInt8}
    (h : ∀ a ∈ source.pending, a.Delivered) (hd : drain source = (.ok (some body), r)) :
    body.length ≤ (requestBody source.pending).length := by
  rw [drain_eq h] at hd
  split at hd
  · simp only [Prod.mk.injEq, Except.ok.injEq, Option.some.injEq] at hd
    rw [← hd.1]
    exact length_requestBody_take_le source.pending _
  · simp at hd

end Body

namespace Http

/-- The client entries a server gives: none, or a sequence such as a
`(host, port)` pair. -/
theorem clientHost_ok {client : Value}
    (h : client = .none ∨ ∃ xs, client = .tuple xs ∨ client = .list xs) :
    ∃ v, clientHost client = .ok v := by
  rcases h with rfl | ⟨xs, rfl | rfl⟩
  · exact ⟨_, rfl⟩
  all_goals
    cases xs with
    | nil => exact ⟨_, rfl⟩
    | cons x _ => exact ⟨x, rfl⟩

theorem clientAddress_ok {ops : HeaderOps} (hops : ops.Lawful) (hs : Headers) {client : Value}
    (h : client = .none ∨ ∃ xs, client = .tuple xs ∨ client = .list xs) :
    ∃ v, clientAddress ops hs client = .ok v := by
  obtain ⟨fwd, hfwd, -⟩ := hops.get_ok hs "x-forwarded-for" (by decide)
  obtain ⟨real, hreal, -⟩ := hops.get_ok hs "x-real-ip" (by decide)
  obtain ⟨host, hhost⟩ := clientHost_ok h
  simp only [clientAddress, hfwd, hreal, ok_bind]
  split
  · exact ⟨_, rfl⟩
  · rcases real with _ | r
    · exact ⟨host, hhost⟩
    · simp only
      split
      · exact ⟨_, rfl⟩
      · exact ⟨host, hhost⟩

end Http

namespace Exchange

/-- A request scope as a server hands it over: it has a method, its header
values are Latin-1 text, and its client entry is absent or a sequence such as a
`(host, port)` pair. -/
structure Scope.Valid (scope : Scope) : Prop where
  method : scope.method.isSome
  latin1 : ∀ p ∈ scope.headers, isLatin1 p.2 = true
  client : scope.client = .none ∨ ∃ xs, scope.client = .tuple xs ∨ scope.client = .list xs

/-- The opening checks pass: the id is the one the request carries, or the
fresh one, and either way Latin-1. -/
theorem opening_ok {ops : HeaderOps} (hops : ops.Lawful) {s : Settings} {h : String}
    (hid : s.requestIdHeader = .str h) (hh : isLatin1 (lowerString h) = true) {fresh : String}
    (hfresh : isLatin1 fresh = true) {scope : Scope} (hscope : scope.Valid) :
    ∃ requestId method, opening ops s fresh scope = .ok (h, requestId, method) ∧
      isLatin1 requestId = true := by
  obtain ⟨method, hm⟩ := Option.isSome_iff_exists.mp hscope.method
  obtain ⟨given, hget, hmem⟩ := hops.get_ok scope.headers h hh
  rcases given with _ | v
  · exact ⟨fresh, method, by simp [opening, hid, hget, hm], hfresh⟩
  · have hv : isLatin1 v = true := by
      -- the value found is the value of an entry
      obtain ⟨k, hk⟩ := hmem v rfl
      exact hscope.latin1 (k, v) hk
    by_cases he : v = ""
    · exact ⟨fresh, method, by simp [opening, hid, hget, hm, he], hfresh⟩
    · exact ⟨v, method, by simp [opening, hid, hget, hm, he], hv⟩

/-! ### Preparing the request -/

theorem sixteen_mul_lt {n : Nat} (h : n < Nat.pow 2 996) : 16 * n < Nat.pow 2 1000 := by
  have hpow : ∀ k, Nat.pow 2 (k + 4) = 16 * Nat.pow 2 k := fun k => by
    rw [Nat.mul_comm]
    exact Nat.pow_add 2 k 4
  -- keep the powers symbolic: `2 ^ 1000` is never evaluated
  generalize hK : 996 = K at h
  rw [show 1000 = K + 4 by omega, hpow]
  omega

section Settings

variable {ops : HeaderOps} (hops : ops.Lawful) (read : Form.FormReader) (s : Settings)
  (sc : Scanner) (hr : s.binaryRatio.asNumber?.isSome)
  (hm : Value.le (.int 0) s.binaryMinLength = .ok true)
  (hskip : ∀ x ∈ s.skipContentTypes, ∃ t, x = .str t)
include hr hm hskip

include hops in
theorem bodyParams_ok {method : String} (hget : isGet method = false) (query : String)
    (hs : Headers) (body : List UInt8) (hbody : body.length < Nat.pow 2 996)
    (hform : ∀ ct, ops.get? hs "content-type" = .ok ct → isMultipart ct = true →
      ∃ t, Form.formSummary read sc (ct.getD "") body = .ok t ∧
        (encodePassing (codePoints t)).length < Nat.pow 2 1000) :
    ∃ params, bodyParams ops read s sc method query hs body = .ok params := by
  obtain ⟨ct, hct, -⟩ := hops.get_ok hs "content-type" latin1_contentType
  by_cases hmp : isMultipart ct = true
  · obtain ⟨t, ht, hlen⟩ := hform ct hct hmp
    obtain ⟨p, hp⟩ := Body.truncate_ok hlen s.maxBodySize
    exact ⟨stringOf p, by simp [bodyParams, hct, hmp, ht, hp, Functor.map, Except.map]⟩
  · obtain ⟨b, hb⟩ := shouldLogBody_ok ct (codePoints (decodeLossy body)) hskip hr hm
    cases b
    · exact ⟨"", by simp [bodyParams, hct, hmp, hb]⟩
    · -- the logged text of the body: its redaction, at most sixteen bytes a byte
      have hlen :
          (encodePassing (codePoints (requestParams method query (decodeLossy body) sc))).length <
          Nat.pow 2 1000 := by
        rw [requestParams, if_neg (by simp [hget])]
        exact Nat.lt_of_le_of_lt (length_loggedBody_le sc body) (sixteen_mul_lt hbody)
      obtain ⟨p, hp⟩ := Body.truncate_ok hlen s.maxBodySize
      exact ⟨stringOf p, by simp [bodyParams, hct, hmp, hb, hp, Functor.map, Except.map]⟩

include hops in
/-- Preparing a request never fails, whatever path it takes, as long as a
multipart body is one the form reader reads. -/
theorem requestParamsOf_ok (method query : String) (hs : Headers) {source : Receiver}
    (hsrc : ∀ a ∈ source.pending, a.Delivered)
    (hbody : (requestBody source.pending).length < Nat.pow 2 996)
    (hform : ∀ body r, drain source = (.ok (some body), r) →
      ∀ ct, ops.get? hs "content-type" = .ok ct → isMultipart ct = true →
      ∃ t, Form.formSummary read sc (ct.getD "") body = .ok t ∧
        (encodePassing (codePoints t)).length < Nat.pow 2 1000) :
    ∃ params ch, requestParamsOf ops read s sc method query hs source = (.ok params, ch) := by
  unfold requestParamsOf
  split
  · exact ⟨_, _, rfl⟩
  · split
    · exact ⟨_, _, rfl⟩
    · rename_i hget
      obtain ⟨b, r, hd⟩ := drain_ok hsrc
      rw [hd]
      cases b with
      | none => exact ⟨_, _, rfl⟩
      | some body =>
        have hlen := Nat.lt_of_le_of_lt (length_drain_le hsrc hd) hbody
        obtain ⟨p, hp⟩ := bodyParams_ok hops read s sc hr hm hskip (by simpa using hget) query hs
          body hlen (hform body r hd)
        exact ⟨p, r.replaying body, by simp only [hp]⟩

/-! ### Logging the exchange -/

theorem responseText_ok (r : Recorder) (hsize : r.size < Nat.pow 2 1000) :
    ∃ t, responseText s sc r = .ok t := by
  unfold responseText
  split
  · exact ⟨_, rfl⟩
  · split
    · obtain ⟨t, ht⟩ := Size.show_ok hsize
      exact ⟨"(omitted, " ++ t ++ ")", by simp [ht]⟩
    · obtain ⟨b, hb⟩ := shouldLogBody_ok r.contentType (codePoints (decodeLossy r.body)) hskip hr hm
      cases b
      · exact ⟨"", by simp [hb]⟩
      · exact ⟨sc.redact (decodeLossy r.body), by simp [hb]⟩

include hops in
/-- Logging an exchange never fails: it gives one request entry, and one error
entry under the request id when the application failed. -/
theorem entriesOf_ok (elapsed : Value) {scope : Scope} (hscope : scope.Valid)
    (requestId method query params : String) {r : Recorder} (hsize : r.size < Nat.pow 2 1000)
    (raised : Option Failure) :
    ∃ main : LogEntry,
      entriesOf ops s sc elapsed scope requestId method query params r raised =
        .ok (main :: raised.toList.map fun f =>
          { severity := .error, message := "Request Error",
            extras := [("request_id", .str requestId)], failure := some f }) ∧
      main.severity = .info ∧ main.message = "HTTP Request" := by
  obtain ⟨ip, hip⟩ := clientAddress_ok hops scope.headers hscope.client
  obtain ⟨agent, hget, -⟩ := hops.get_ok scope.headers "user-agent" (by decide)
  have hagent : ops.getD scope.headers "user-agent" "" = .ok (agent.getD "") := by
    simp [HeaderOps.getD, hget]
  obtain ⟨resp, hresp⟩ := responseText_ok s sc hr hm hskip r hsize
  cases raised <;>
  · simp only [entriesOf, hip, hagent, hresp, ok_bind]
    exact ⟨_, rfl, rfl, rfl⟩

end Settings

/-! ### One request -/

/-- What serving a request through the logger should come to. The outcome is
that of one run of the application on the channel it reads: what it received,
the receives made and the failure it ended with, the only failure the server
sees. A request that passes through is logged nowhere and its messages reach
the server as sent. Any other gets exactly one request entry, followed by one
error entry under the request id when the application failed; the server gets
every message the application sent, the start with the request id set under
the id header by the header operations `ops`. -/
def ServedOnce (ops : HeaderOps) (s : Settings) (idHeader : String) (scope : Scope)
    (app : Downstream) (o : Outcome) : Prop :=
  ∃ ch : Receiver,
    let q := app.play ch (fun (acc : List Outgoing) m => (m :: acc, none)) []
    o.received = q.received ∧ o.calls = q.source.calls ∧ o.raised = q.raised ∧
      if passesThrough s scope then o.entries = [] ∧ o.sent = q.sink.reverse
      else ∃ requestId main,
        o.entries = main :: q.raised.toList.map (fun f =>
          { severity := .error, message := "Request Error",
            extras := [("request_id", .str requestId)], failure := some f }) ∧
        main.severity = .info ∧ main.message = "HTTP Request" ∧
        List.Forall₂ (Forwarded ops idHeader requestId) q.sink.reverse o.sent

/-- **Logging does not fail a request.** With header operations that keep their
laws, any form reader, settings the constructor accepts, skipped content types
that are texts, a minimum length for the binary test that is no NaN and an id
header with a Latin-1 lowercase form,
a valid scope, delivered messages, sizes a double can show, a multipart body
the form reader reads, and an application whose start carries headers, the
logger serves every request by one run of the application and logs it once. -/
theorem serve_served_once (ops : HeaderOps) (hops : ops.Lawful) (read : Form.FormReader)
    (i : Settings.Input) (s : Settings) (hchk : i.check = .ok s)
    (hmin : Value.le (.int 0) s.binaryMinLength = .ok true)
    (hskip : ∀ x ∈ s.skipContentTypes, ∃ t, x = .str t)
    {h : String} (hid : s.requestIdHeader = .str h) (hh : isLatin1 (lowerString h) = true)
    (sc : Scanner) {fresh : String} (hfresh : isLatin1 fresh = true) (elapsed : Value)
    {scope : Scope} (hscope : scope.Valid) {source : Receiver}
    (hsrc : ∀ a ∈ source.pending, a.Delivered)
    (hbody : (requestBody source.pending).length < Nat.pow 2 996)
    (hform : ∀ body r, drain source = (.ok (some body), r) →
      ∀ ct, ops.get? scope.headers "content-type" = .ok ct → isMultipart ct = true →
      ∃ t, Form.formSummary read sc (ct.getD "") body = .ok t ∧
        (encodePassing (codePoints t)).length < Nat.pow 2 1000)
    {app : Downstream} (hstart : app.start = true → app.headers.isSome)
    (happ : app.chunks.flatten.length < Nat.pow 2 1000) :
    ServedOnce ops s h scope app (serve ops read s sc fresh elapsed scope source app) := by
  have hr := Settings.Input.check_ratio hchk
  by_cases hpass : passesThrough s scope = true
  · -- passed straight to the application, with a sink that takes everything
    refine ⟨source, ?_⟩
    simp [serve, hpass]
  · obtain ⟨rid, method, hopen, hrid⟩ := opening_ok hops hid hh hfresh hscope
    obtain ⟨params, ch, hparams⟩ := requestParamsOf_ok hops read s sc hr hmin hskip method
      (scope.query.getD "") scope.headers hsrc hbody hform
    refine ⟨ch, ?_⟩
    simp only [serve, hpass, Bool.false_eq_true, ↓reduceIte, hopen, hparams]
    set rec₀ : Recorder :=
      { idHeader := h, requestId := rid, keepBody := s.logResponseBody.truthy,
        limit := s.maxBodySize }
    obtain ⟨hrecv, hsrc', hraised, ⟨fs, hfs, hsent⟩, hsize⟩ :=
      play_recorder hops app hstart ch rec₀ hh hrid
    have hsize' : (app.play ch (Recorder.send ops) rec₀).sink.size < Nat.pow 2 1000 :=
      calc _ ≤ rec₀.size + app.chunks.flatten.length := hsize
        _ = app.chunks.flatten.length := Nat.zero_add _
        _ < Nat.pow 2 1000 := happ
    obtain ⟨main, hentries, hsev, hmsg⟩ := entriesOf_ok hops s sc hr hmin hskip elapsed hscope rid method
      (scope.query.getD "") params hsize' (app.play ch (Recorder.send ops) rec₀).raised
    rw [hentries]
    simp only
    refine ⟨hrecv, by rw [hsrc'], hraised, rid, main, by rw [hraised], hsev, hmsg, ?_⟩
    -- the recorder started with nothing sent, so the server got exactly `fs`
    have hnone : rec₀.sent = [] := rfl
    rw [hsent, hnone, List.append_nil, List.reverse_reverse]
    exact hfs

/-- A `POST` of a JSON body. -/
def jsonScope : Scope := { path := some "/login", headers := [("content-type", "application/json")] }

/-- The body `\x7b\x7d` in one request message. -/
def jsonSource : Receiver :=
  { pending := [.message (.dict [(.str "type", .str "http.request"), (.str "body", .bytes [123, 125]),
      (.str "more_body", .bool false)])] }

set_option maxRecDepth 8000 in
theorem serve_served_once_json :
    listHeaders.Lawful ∧
      ServedOnce listHeaders defaultSettings "X-Request-ID" jsonScope {}
        (serve listHeaders Form.collectForm defaultSettings Scanner.default "0" (.int 0) jsonScope
          jsonSource {}) := by
  have hct : listHeaders.get? jsonScope.headers "content-type" = .ok (some "application/json") :=
    rfl
  refine ⟨listHeaders_lawful, serve_served_once listHeaders listHeaders_lawful Form.collectForm {}
    defaultSettings Settings.default_eq rfl (by simp [defaultSettings]) rfl rfl Scanner.default rfl
    (.int 0)
    ⟨rfl, by decide, .inl rfl⟩ (by decide) (by decide +kernel) ?_ (fun _ => rfl)
    (by decide)⟩
  -- the body is JSON, so no form is read
  intro _ _ _ ct hget hmp
  rw [hct] at hget
  cases hget
  exact absurd hmp (by decide)

/-- A multipart request whose body the form reader cannot read. -/
def formScope : Scope :=
  { path := some "/up", headers := [("content-type", "multipart/form-data; boundary=X")] }

/-- The body `garbage` in one request message. -/
def garbageSource : Receiver :=
  { pending := [.message (.dict [(.str "type", .str "http.request"),
      (.str "body", .bytes [103, 97, 114, 98, 97, 103, 101]), (.str "more_body", .bool false)])] }

/-- A form the framework's reader cannot read fails the request: with the
default settings, nothing is logged, the application never runs although it
would receive a message, and the reader's failure reaches the server. -/
theorem serve_unreadable_form_fails :
    Settings.default = .ok defaultSettings ∧
      (serve listHeaders Form.collectForm defaultSettings Scanner.default "0" (.int 0) formScope
        garbageSource {}).entries = [] ∧
      (serve listHeaders Form.collectForm defaultSettings Scanner.default "0" (.int 0) formScope
        garbageSource {}).received = [] ∧
      (serve listHeaders Form.collectForm defaultSettings Scanner.default "0" (.int 0) formScope
        garbageSource {}).raised.isSome ∧
      ¬ ServedOnce listHeaders defaultSettings "X-Request-ID" formScope {}
        (serve listHeaders Form.collectForm defaultSettings Scanner.default "0" (.int 0) formScope
          garbageSource {}) := by
  have hentries : (serve listHeaders Form.collectForm defaultSettings Scanner.default "0" (.int 0)
      formScope garbageSource {}).entries = [] :=
    List.isEmpty_iff.mp (by decide +kernel)
  refine ⟨Settings.default_eq, hentries, List.isEmpty_iff.mp (by decide +kernel),
    by decide +kernel, ?_⟩
  rintro ⟨ch, -, -, -, hlog⟩
  have hpass : passesThrough defaultSettings formScope = false := by decide
  rw [hpass, if_neg Bool.false_ne_true, hentries] at hlog
  obtain ⟨_, _, hcons, -⟩ := hlog
  cases hcons

end Exchange

end MaskedLog

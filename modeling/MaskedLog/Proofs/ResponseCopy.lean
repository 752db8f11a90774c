import MaskedLog.Proofs.Harmless
/-!
# The response copy is whole or empty

When response bodies are logged, the recorder copies the body on its way to the
server, up to a limit. It counts every chunk; a chunk is kept while the count
stays within the limit, and the first chunk past it drops the copy. The count
never goes down, so a copy dropped past the limit is never refilled. After any
run of messages the count is the length of the body so far, and the copy is
either that whole body or nothing.

What is logged of the response is therefore nothing, a note of the full size,
or the masked text of the whole body: never a body cut open. This holds for
any header operations that keep their laws and any run whose starts carry
headers.

## Main definitions

* `Recorder.Copies` — the copy in step with the body bytes seen.
* `CopiesWholeBody` — what a run through a copying recorder should come to.

## Main results

* `Recorder.Copies.send` — one message keeps the copy in step.
* `Recorder.Copies.run` — so does a run of messages.
* `responseText_of_copies` — what is logged of a copy in step.
* `recorder_copies_whole_body` — **the recorder never keeps a partial body**.

## References

`bodylog/middleware.py` (`_ResponseRecorder`, `BodyLoggingMiddleware._response_body`).
-/

namespace MaskedLog.Exchange

open MaskedLog.Body MaskedLog.Http MaskedLog.Text MaskedLog.Redact MaskedLog.Unicode

/-- The copy after the body bytes `seen`: the count is their length, and the
copy holds all of them while the count is within the limit, nothing past it. -/
structure Recorder.Copies (r : Recorder) (seen : List UInt8) : Prop where
  size_eq : r.size = seen.length
  copy : (r.size ≤ r.limit ∧ r.body = seen) ∨ (r.limit < r.size ∧ r.kept = [])

/-- A fresh recorder has seen nothing and copied nothing. -/
theorem Recorder.copies_fresh (idHeader requestId : String) (keep : Bool) (limit : Nat) :
    ({ idHeader, requestId, keepBody := keep, limit } : Recorder).Copies [] :=
  ⟨rfl, .inl ⟨Nat.zero_le _, rfl⟩⟩

variable {ops : HeaderOps}

/-- A start touches neither the settings nor the copy, whether it is taken or
not: only the status, the content type and the messages sent change. -/
theorem Recorder.send_start_frame (r : Recorder) (status : Value) (hs : Option Headers) :
    (r.send ops (.start status hs)).1.keepBody = r.keepBody ∧
      (r.send ops (.start status hs)).1.limit = r.limit ∧
      (r.send ops (.start status hs)).1.size = r.size ∧
      (r.send ops (.start status hs)).1.kept = r.kept := by
  rcases hs with _ | hs
  · exact ⟨rfl, rfl, rfl, rfl⟩
  rcases hset : ops.set hs r.idHeader r.requestId with f | hs'
  · simp [Recorder.send, hset]
  rcases hct : ops.get? hs' "content-type" with f | ct <;> simp [Recorder.send, hset, hct]

/-- A message leaves the recorder's settings as they were, whether it is taken
or not. -/
theorem Recorder.send_settings (r : Recorder) (m : Outgoing) :
    (r.send ops m).1.keepBody = r.keepBody ∧ (r.send ops m).1.limit = r.limit := by
  cases m with
  | start status hs =>
    obtain ⟨hkeep, hlimit, -, -⟩ := @Recorder.send_start_frame ops r status hs
    exact ⟨hkeep, hlimit⟩
  | body chunk more =>
    simp only [Recorder.send]
    split <;> exact ⟨rfl, rfl⟩

/-- **One message keeps the copy in step.** A start adds no body bytes; a chunk
is counted, and kept only while the count stays within the limit. -/
theorem Recorder.Copies.send {r r' : Recorder} {m : Outgoing} {seen : List UInt8}
    (hc : r.Copies seen) (hkeep : r.keepBody = true) (h : r.send ops m = (r', none)) :
    r'.Copies (seen ++ m.chunk) := by
  obtain ⟨hsize, hcopy⟩ := hc
  cases m with
  | start status hs =>
    -- a start touches neither the count nor the copy
    obtain ⟨-, hlimit, hsize', hkept⟩ := @Recorder.send_start_frame ops r status hs
    simp only [h] at hlimit hsize' hkept
    rw [Outgoing.chunk, List.append_nil]
    refine ⟨hsize'.trans hsize, ?_⟩
    simpa only [Recorder.body, hlimit, hsize', hkept] using hcopy
  | body chunk more =>
    simp only [Recorder.send, hkeep, if_true, Prod.mk.injEq, and_true] at h
    subst h
    refine ⟨by simp [hsize, Outgoing.chunk], ?_⟩
    by_cases hfit : r.size + chunk.length ≤ r.limit
    · -- within the limit the copy so far was the whole body, and the chunk joins it
      have hwhole : r.body = seen := by
        rcases hcopy with ⟨-, hb⟩ | ⟨hover, -⟩
        · exact hb
        · omega
      refine .inl ⟨hfit, ?_⟩
      simp only [Recorder.body, hfit, if_true, List.flatten_append, List.flatten_singleton]
      rw [← Recorder.body, hwhole]
      rfl
    · exact .inr ⟨by simp only; omega, by simp [hfit]⟩

/-- A run of messages leaves the limit as it was. -/
theorem sendAll_limit (ms : List Outgoing) :
    ∀ r : Recorder, (sendAll (Recorder.send ops) r ms).1.limit = r.limit := by
  induction ms with
  | nil => intro r; rfl
  | cons m ms ih =>
    intro r
    have hlimit := (@Recorder.send_settings ops r m).2
    rcases hsend : r.send ops m with ⟨r₁, _ | f⟩
    · simp only [sendAll, hsend]
      rw [ih r₁, ← hlimit, hsend]
    · simp only [sendAll, hsend]
      rw [← hlimit, hsend]

/-- **A run of messages keeps the copy in step**: when the recorder takes every
message, the count afterwards is the length of all their body bytes, and the
copy is all of them or nothing. -/
theorem Recorder.Copies.run (hops : ops.Lawful) (ms : List Outgoing)
    (hms : ∀ m ∈ ms, m.headerless = false) :
    ∀ {r : Recorder} {seen : List UInt8}, r.Copies seen → r.keepBody = true →
      isLatin1 (Unicode.lowerString r.idHeader) = true → isLatin1 r.requestId = true →
      (sendAll (Recorder.send ops) r ms).1.Copies (seen ++ ms.flatMap Outgoing.chunk) := by
  induction ms with
  | nil =>
    intro r seen hc _ _ _
    simpa [sendAll] using hc
  | cons m ms ih =>
    intro r seen hc hkeep hk hv
    obtain ⟨r₁, hsend⟩ := r.send_ok hops hk hv (hms m (List.mem_cons_self ..))
    obtain ⟨hid, hrid, -, -⟩ := Recorder.send_eq_ok hsend
    have hkeep₁ : r₁.keepBody = true := by
      rw [← hkeep, ← (@Recorder.send_settings ops r m).1, hsend]
    have hrest := ih (fun m' hm' => hms m' (List.mem_cons_of_mem m hm')) (hc.send hkeep hsend)
      hkeep₁ (hid ▸ hk) (hrid ▸ hv)
    simpa [sendAll, hsend, List.append_assoc] using hrest

section Settings

variable (s : Settings) (sc : Scanner) (hr : s.binaryRatio.asNumber?.isSome)
  (hm : Value.le (.int 0) s.binaryMinLength = .ok true)
  (hskip : ∀ x ∈ s.skipContentTypes, ∃ t, x = .str t)
include hr hm hskip

/-- What is logged of a copy in step with the body `seen`: nothing, a note of the
full size when the body went past the limit, or the masked text of the whole
body when it did not. -/
theorem responseText_of_copies {r : Recorder} {seen : List UInt8} (hc : r.Copies seen) :
    responseText s sc r = .ok "" ∨
      (r.limit < seen.length ∧
        responseText s sc r = (Size.show seen.length).map fun t => "(omitted, " ++ t ++ ")") ∨
      (seen.length ≤ r.limit ∧ responseText s sc r = .ok (sc.redact (decodeLossy seen))) := by
  unfold responseText
  split
  · exact .inl rfl
  · split
    · rename_i hover
      have hpast : r.limit < seen.length := by
        rw [← hc.size_eq]
        simpa [Recorder.overflowed] using hover
      refine .inr (.inl ⟨hpast, ?_⟩)
      rw [hc.size_eq]
      cases Size.show seen.length <;> rfl
    · rename_i hfits
      have hle : r.size ≤ r.limit := by simpa [Recorder.overflowed] using hfits
      -- within the limit the copy is the whole body
      have hbody : r.body = seen := by
        rcases hc.copy with ⟨-, hb⟩ | ⟨hover, -⟩
        · exact hb
        · omega
      obtain ⟨b, hb⟩ := shouldLogBody_ok r.contentType (codePoints (decodeLossy r.body)) hskip hr hm
      rw [hbody] at hb ⊢
      cases b
      · exact .inl (by simp [hb])
      · exact .inr (.inr ⟨hc.size_eq ▸ hle, by simp [hb]⟩)

end Settings

/-- What a run of messages through a fresh recorder that copies response bodies,
with the header operations `ops`, should come to. After each message the copy
is in step with the body so far. Every message reaches the server in order, the
start with the id set. What is logged of the response, under settings whose
binary test decides and whose skipped content types are texts, is nothing, a
note of the full size, or the masked text of the whole body. -/
def CopiesWholeBody (ops : HeaderOps) (idHeader requestId : String) (limit : Nat)
    (ms : List Outgoing) : Prop :=
  let r : Recorder := { idHeader, requestId, keepBody := true, limit }
  (∀ k, (sendAll (Recorder.send ops) r (ms.take k)).1.Copies
      ((ms.take k).flatMap Outgoing.chunk)) ∧
    (∃ fs, List.Forall₂ (Forwarded ops idHeader requestId) ms fs ∧
      (sendAll (Recorder.send ops) r ms).2 = none ∧
      (sendAll (Recorder.send ops) r ms).1.sent = fs.reverse) ∧
    ∀ (s : Settings) (sc : Scanner), s.binaryRatio.asNumber?.isSome →
      Value.le (.int 0) s.binaryMinLength = .ok true →
      (∀ x ∈ s.skipContentTypes, ∃ t, x = .str t) →
      let body := ms.flatMap Outgoing.chunk
      let logged := responseText s sc (sendAll (Recorder.send ops) r ms).1
      logged = .ok "" ∨
        (limit < body.length ∧
          logged = (Size.show body.length).map fun t => "(omitted, " ++ t ++ ")") ∨
        (body.length ≤ limit ∧ logged = .ok (sc.redact (decodeLossy body)))

/-- **The recorder never keeps a partial body.** A fresh recorder that copies
response bodies, under any limit, with header operations that keep their laws
and for any run of messages whose starts carry headers, keeps its copy in step
with the body, passes every message on and has nothing but the whole body to
mask, given an id header and id it can set. The logger's are: it looked the
header up before it built the recorder, and ids are Latin-1. -/
theorem recorder_copies_whole_body (ops : HeaderOps) (hops : ops.Lawful)
    (idHeader requestId : String) (limit : Nat)
    (hk : isLatin1 (Unicode.lowerString idHeader) = true) (hv : isLatin1 requestId = true)
    (ms : List Outgoing) (hms : ∀ m ∈ ms, m.headerless = false) :
    CopiesWholeBody ops idHeader requestId limit ms := by
  unfold CopiesWholeBody
  intro r
  have hfresh := Recorder.copies_fresh idHeader requestId true limit
  -- every prefix of the run is a run of its own from the fresh recorder
  have hrun : ∀ ms' : List Outgoing, (∀ m ∈ ms', m.headerless = false) →
      (sendAll (Recorder.send ops) r ms').1.Copies (ms'.flatMap Outgoing.chunk) := fun ms' hms' =>
    by simpa using hfresh.run hops ms' hms' rfl hk hv
  refine ⟨fun k => hrun (ms.take k) (fun m hm => hms m (List.mem_of_mem_take hm)), ?_,
    fun s sc hr hm hskip => ?_⟩
  · obtain ⟨r', hall, -, -, ⟨fs, hfs, hsent⟩, -⟩ := sendAll_recorder hops ms hms r hk hv
    exact ⟨fs, hfs, by rw [hall], by rw [hall, hsent]; exact List.append_nil _⟩
  · have hlimit : (sendAll (Recorder.send ops) r ms).1.limit = limit := sendAll_limit ms r
    simpa only [hlimit] using responseText_of_copies s sc hr hm hskip (hrun ms hms)

/-- A text response of five bytes under a limit of four. -/
def overflowingResponse : List Outgoing :=
  [.start (.int 200) (some [("content-type", "text/plain")]), .body [104, 105, 33] true,
    .body [10, 10] false]

theorem recorder_copies_whole_body_overflowing :
    listHeaders.Lawful ∧ isLatin1 (Unicode.lowerString "X-Request-ID") = true ∧
      isLatin1 "7f3a" = true ∧ (∀ m ∈ overflowingResponse, m.headerless = false) ∧
      CopiesWholeBody listHeaders "X-Request-ID" "7f3a" 4 overflowingResponse :=
  ⟨listHeaders_lawful, rfl, rfl, by decide,
    recorder_copies_whole_body listHeaders listHeaders_lawful "X-Request-ID" "7f3a" 4 rfl rfl
      overflowingResponse (by decide)⟩

end MaskedLog.Exchange

import Mathlib.Data.List.Basic
import MaskedLog.Body.Capture
import MaskedLog.Proofs.Truncation
/-!
# Capturing a stream

A stream is read once and closed once, and a read that fails does not fail the
request: the capture then gives an empty text and no replay. A read that gives
bytes, a text or nothing gives those bytes (a text as its UTF-8 bytes, nothing
as no bytes), their text as the log shows it, and a replay of exactly those
bytes. The text of a stream that gave a text is that text again, since UTF-8
bytes read back as the characters they write.

The counts of reads and closes are those of the calls the capture makes on the
stream: one read, then one close whatever the read gave. A close that raises
changes nothing the capture gives.

The capture itself fails in one case only, and then the failure reaches the
caller: a text that holds a lone surrogate, which UTF-8 cannot write. Writing
the text is no part of the read, so that fault is not turned into an empty
capture; the stream is closed all the same.

## Main definitions

* `ReadOutcome.bytesRead` — the bytes a read gave, as the capture promises them.
* `ReadOutcome.Writable` — a read whose text, if any, holds no lone surrogate.

## Main results

* `decodeLossy_encodePassing` — the UTF-8 bytes of a text read back as the text.
* `capture_calls` — a capture reads once and closes once.
* `capture_eq_error_iff` — the capture fails exactly on a text with a lone
  surrogate.
* `capture_degrades` — **a capture reads once, closes once, and gives either the
  bytes read with their text and replay, or an empty text and no replay when the
  read failed.**
* `capture_lone_surrogate_fails` — a text holding a lone surrogate fails it.

## References

`bodylog/capture.py` (`capture`, `_drain`, `_close`).
-/

namespace MaskedLog.Body

open MaskedLog.Text MaskedLog.Unicode

/-! ### The bytes of a text, read back -/

/-- The characters of code points that hold no surrogate are all of them. -/
theorem filterMap_toChar?_of_no_surrogate {t : List CodePoint}
    (h : ∀ p ∈ t, p.isSurrogate = false) :
    t.filterMap CodePoint.toChar? = t.map (Char.ofNat ·.val) :=
  List.filterMap_eq_map_iff_forall_eq_some.mpr fun p hp => by
    rw [CodePoint.toChar?, if_neg (by simp [h p hp])]

/-- Code points written as UTF-8 read back as their characters, whatever stands
for an ill-formed part, when no surrogate is among them. -/
theorem decodeWith_encodePassing (r : List Char) :
    ∀ t : List CodePoint, (∀ p ∈ t, p.isSurrogate = false) →
      decodeWith r (encodePassing t) = t.map (Char.ofNat ·.val)
  | [], _ => decodeWith_nil r
  | p :: t, h => by
    have hp := h p (List.mem_cons_self ..)
    have hrest := decodeWith_encodePassing r t fun q hq => h q (List.mem_cons_of_mem p hq)
    rw [encodePassing, List.flatMap_cons, decodeWith_encodePoint_append, if_neg (by simp [hp]),
      ← encodePassing, hrest]
    rfl

/-- **A text's UTF-8 bytes read back as the text.** -/
theorem decodeLossy_encodePassing {t : List CodePoint} (h : ∀ p ∈ t, p.isSurrogate = false) :
    decodeLossy (encodePassing t) = stringOf t := by
  rw [decodeLossy, decodeWith_encodePassing _ _ h, stringOf, filterMap_toChar?_of_no_surrogate h]

/-- UTF-8 writes a text exactly when it holds no lone surrogate. -/
theorem encodeStrict?_eq_some_iff (t : List CodePoint) :
    encodeStrict? t = some (encodePassing t) ↔ ∀ p ∈ t, p.isSurrogate = false := by
  unfold encodeStrict?
  simp

theorem encodeStrict?_eq_none_iff (t : List CodePoint) :
    encodeStrict? t = none ↔ ∃ p ∈ t, p.isSurrogate = true := by
  unfold encodeStrict?
  simp

/-! ### What a read gives -/

/-- The bytes a read gave, as the capture promises them: bytes as they are, a
text as its UTF-8 bytes, nothing as no bytes; `none` when the read failed. -/
def ReadOutcome.bytesRead : ReadOutcome → Option (List UInt8)
  | .bytes b => some b
  | .text t => some (encodePassing t)
  | .nothing => some []
  | .fails => none

/-- A read whose text, if it gave one, holds no lone surrogate. -/
def ReadOutcome.Writable (r : ReadOutcome) : Prop :=
  ∀ t, r = .text t → ∀ p ∈ t, p.isSurrogate = false

/-- A read that gives the code points of a string is writable. -/
theorem writable_codePoints (s : String) : (ReadOutcome.text (codePoints s)).Writable := by
  rintro t ⟨⟩ p hp
  obtain ⟨c, -, rfl⟩ := List.mem_map.mp hp
  exact CodePoint.isSurrogate_ofChar c

/-- A writable read gives the bytes it promises. -/
theorem ReadOutcome.data_of_writable {r : ReadOutcome} (h : r.Writable) :
    r.data = .ok r.bytesRead := by
  cases r with
  | text t => simp [data, bytesRead, (encodeStrict?_eq_some_iff t).mpr (h t rfl)]
  | bytes b | nothing | fails => rfl

/-! ### The capture -/

/-- A capture reads the stream once and then closes it once, whatever the read
and the close give. -/
theorem capture_calls (s : Stream) :
    (capture s).2.reads = s.reads + 1 ∧ (capture s).2.closes = s.closes + 1 :=
  ⟨rfl, rfl⟩

/-- What a capture gives is what the read gave, taken as bytes. -/
theorem capture_fst (s : Stream) :
    (capture s).1 = s.read.data.map fun
      | some b => ⟨decodeLossy b, some b⟩
      | none => ⟨"", none⟩ := rfl

/-- The capture fails exactly when the read gave a text that holds a lone
surrogate. -/
theorem capture_eq_error_iff (s : Stream) :
    (∃ f, (capture s).1 = .error f) ↔
      ∃ t, s.read = .text t ∧ ∃ p ∈ t, p.isSurrogate = true := by
  rw [capture_fst]
  cases s.read with
  | text t =>
    rcases ht : encodeStrict? t with _ | b
    · have hsur := (encodeStrict?_eq_none_iff t).mp ht
      simp [ReadOutcome.data, ht, Except.map, hsur]
    · have hnone : encodeStrict? t ≠ none := by simp [ht]
      rw [Ne, encodeStrict?_eq_none_iff] at hnone
      simp [ReadOutcome.data, ht, Except.map, hnone]
  | bytes b | nothing | fails => simp [ReadOutcome.data, Except.map]

/-- A stream that gives a text without lone surrogates captures that text
again. -/
theorem capture_text {s : Stream} {t : List CodePoint} (hs : s.read = .text t)
    (h : ∀ p ∈ t, p.isSurrogate = false) :
    (capture s).1 = .ok ⟨stringOf t, some (encodePassing t)⟩ := by
  have hdata : s.read.data = .ok (some (encodePassing t)) := by
    rw [ReadOutcome.data_of_writable fun _ ht => by rw [hs] at ht; cases ht; exact h, hs]
    rfl
  rw [capture_fst, hdata]
  simp [Except.map, decodeLossy_encodePassing h]

/-- **A capture degrades instead of failing.** For a read whose text, if any,
UTF-8 can write, and whatever the close does, the capture succeeds, reading the
stream once and closing it once. It gives an empty text and no replay exactly
when the read failed; otherwise the text of the bytes read and a replay of
those very bytes. -/
theorem capture_degrades (s : Stream) (h : s.read.Writable) :
    ∃ c, (capture s).1 = .ok c ∧ (capture s).2.reads = s.reads + 1 ∧
      (capture s).2.closes = s.closes + 1 ∧
      (c.text = "" ∧ c.replay = none ↔ s.read = .fails) ∧
      ∀ b, s.read.bytesRead = some b → c.text = decodeLossy b ∧ c.replay = some b := by
  obtain ⟨hreads, hcloses⟩ := capture_calls s
  rw [capture_fst, ReadOutcome.data_of_writable h]
  -- only a failed read promises no bytes
  rcases hb : s.read.bytesRead with _ | b
  · have hfail : s.read = .fails := by
      cases hr : s.read <;> simp_all [ReadOutcome.bytesRead]
    exact ⟨_, rfl, hreads, hcloses, by simp [hfail], by simp⟩
  · have hnot : s.read ≠ .fails := by
      intro hr
      rw [hr] at hb
      cases hb
    exact ⟨_, rfl, hreads, hcloses, by simp [hnot], by simp⟩

/-- A stream whose read gives the text `héllo 😀` and whose close raises. -/
def textStream : Stream :=
  { read := .text (codePoints "héllo 😀"), closeFailure := some (.appFailed "closed twice") }

theorem capture_degrades_text :
    textStream.read.Writable ∧
      ∃ c, (capture textStream).1 = .ok c ∧ (capture textStream).2.reads = textStream.reads + 1 ∧
        (capture textStream).2.closes = textStream.closes + 1 ∧
        (c.text = "" ∧ c.replay = none ↔ textStream.read = .fails) ∧
        ∀ b, textStream.read.bytesRead = some b → c.text = decodeLossy b ∧ c.replay = some b :=
  ⟨writable_codePoints _, capture_degrades textStream (writable_codePoints _)⟩

/-- A stream whose read gives a text holding the lone surrogate U+D800 fails the
capture, though its read succeeded; the stream is closed all the same. -/
theorem capture_lone_surrogate_fails :
    (¬ ∃ c, (capture { read := .text [loneSurrogate] }).1 = .ok c) ∧
      (capture { read := .text [loneSurrogate] }).2.closes = 1 := by
  obtain ⟨f, hf⟩ := (capture_eq_error_iff { read := .text [loneSurrogate] }).mpr
    ⟨_, rfl, loneSurrogate, List.mem_singleton_self _, by decide⟩
  refine ⟨?_, rfl⟩
  rintro ⟨c, hc⟩
  rw [hf] at hc
  cases hc

end MaskedLog.Body

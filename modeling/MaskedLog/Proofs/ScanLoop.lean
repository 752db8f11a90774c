import MaskedLog.Redact.Machine
import MaskedLog.Proofs.Idempotence
/-!
# The loop of a field pass ends, and finds what the pass finds

The handler loop of a field pass has no bound of its own: it steps until a
search for the key fails. It ends all the same, because each search for the key
that does not fail moves the search position strictly forward, either past the
key found or past the span just recorded, which ends after the key; and at most
four steps pass between two searches. The position never passes the end of the
text, so the loop makes at most five steps for each character and one more.

What the loop records is the spans of `pass`. Every state of the loop stands
for the spans `passFrom` would go on to find from it, and a step never changes
them; when the loop ends they are the spans it recorded.

## Main definitions

* `ScanMove` — what one step can do, state by state.
* `ScanInv` — the bounds that hold of every state the loop reaches.
* `ScanLoopEnds` — what it means that the loop ends.
* `scanRank`, `scanMeasure` — how far a state is from the end of the loop.
* `pendingSpans` — the spans a state of the loop stands for.

## Main results

* `ScanMove.measure_lt` — every step that does not end the loop lowers the
  measure.
* `exists_iterate_done` — from every state that keeps the bounds, the loop ends
  within its measure.
* `scan_loop_terminates` — **the loop of a pass ends**, with the search position
  strictly moving forward at each search.
* `scan_loop_finds_pass` — the loop records the spans of `pass`.

## References

`bodylog/redact/scanner.py` (`_FieldScan.run`).
-/

namespace MaskedLog.Redact

open MaskedLog.Text

/-! ### The loops inside the handlers -/

theorem stringEnd_bounds (t : Array Char) (i : Nat) :
    i ≤ stringEnd t i ∧ stringEnd t i ≤ max i t.size := by
  induction i using stringEnd.induct t with
  | case1 i hi hq =>
    rw [stringEnd, dif_pos hi, if_pos hq]
    omega
  | case2 i hi hq hb ih =>
    rw [stringEnd, dif_pos hi, if_neg hq, if_pos hb]
    simp only [Bool.and_eq_true, decide_eq_true_eq] at hb
    omega
  | case3 i hi hq hb ih =>
    rw [stringEnd, dif_pos hi, if_neg hq, if_neg hb]
    omega
  | case4 i hi =>
    rw [stringEnd, dif_neg hi]
    omega

/-- The value loop stops inside the text exactly where the string closes. -/
theorem closingQuote_eq_stringEnd (t : Array Char) (i : Nat) :
    closingQuote t i = if stringEnd t i < t.size then some (stringEnd t i) else none := by
  induction i using stringEnd.induct t with
  | case1 i hi hq =>
    rw [closingQuote, stringEnd, dif_pos hi, dif_pos hi, if_pos hq, if_pos hq, if_pos hi]
  | case2 i hi hq hb ih =>
    rw [closingQuote, stringEnd, dif_pos hi, dif_pos hi, if_neg hq, if_neg hq, if_pos hb,
      if_pos hb, ih]
  | case3 i hi hq hb ih =>
    rw [closingQuote, stringEnd, dif_pos hi, dif_pos hi, if_neg hq, if_neg hq, if_neg hb,
      if_neg hb, ih]
  | case4 i hi =>
    rw [closingQuote, stringEnd, dif_neg hi, dif_neg hi, if_neg hi]

theorem skipBlanks_le_max (t : Array Char) (i : Nat) : skipBlanks t i ≤ max i t.size := by
  induction i using skipBlanks.induct t with
  | case1 i hi hb ih =>
    rw [skipBlanks, dif_pos hi, if_pos hb]
    omega
  | case2 i hi hb =>
    rw [skipBlanks, dif_pos hi, if_neg hb]
    omega
  | case3 i hi =>
    rw [skipBlanks, dif_neg hi]
    omega

/-- A search resumes after a recorded span only at the end of the newest one,
and only when the key was found inside it or at its opening quote. -/
theorem resumeAfter_eq_some {found : List Span} {pos stop : Nat}
    (h : resumeAfter found pos = some stop) :
    ∃ last, found.head? = some last ∧ pos < last.stop ∧ stop = last.stop := by
  unfold resumeAfter at h
  split at h
  · rename_i last rest
    split at h
    · rename_i hc
      cases h
      simp only [Bool.and_eq_true, decide_eq_true_eq] at hc
      exact ⟨last, rfl, hc.2, rfl⟩
    · cases h
  · cases h

/-! ### What one step does -/

section Step

variable {t sh : Array Char} {token : List Char}

/-- What one step of the loop can do, state by state: the handler of each state
and the outcomes it chooses between. -/
inductive ScanMove (t sh : Array Char) (token : List Char) :
    ScanState × ScanCursor → ScanState × ScanCursor → Prop
  | keyAbsent {c : ScanCursor} (h : indexIn token sh c.searchFrom = none) :
      ScanMove t sh token (.seekField, c) (.done, c)
  | keyMasked {c : ScanCursor} {pos stop : Nat} (h : indexIn token sh c.searchFrom = some pos)
      (hr : resumeAfter c.edits pos = some stop) :
      ScanMove t sh token (.seekField, c) (.seekField, { c with searchFrom := stop })
  | keyFound {c : ScanCursor} {pos : Nat} (h : indexIn token sh c.searchFrom = some pos)
      (hr : resumeAfter c.edits pos = none) :
      ScanMove t sh token (.seekField, c)
        (.seekColon, { c with searchFrom := pos + token.length, cursor := pos + token.length })
  | colonAbsent {c : ScanCursor} (h : indexIn [':'] t c.cursor = none) :
      ScanMove t sh token (.seekColon, c) (.seekField, c)
  | colonFound {c : ScanCursor} {k : Nat} (h : indexIn [':'] t c.cursor = some k) :
      ScanMove t sh token (.seekColon, c) (.skipWhitespace, { c with cursor := k + 1 })
  | quoteOpens {c : ScanCursor} (h : t[skipBlanks t c.cursor]? = some '"') :
      ScanMove t sh token (.skipWhitespace, c)
        (.seekStringValueEnd,
          { c with cursor := skipBlanks t c.cursor, valueStart := skipBlanks t c.cursor })
  | noQuote {c : ScanCursor} (h : t[skipBlanks t c.cursor]? ≠ some '"') :
      ScanMove t sh token (.skipWhitespace, c) (.skipNonString, { c with cursor := skipBlanks t c.cursor })
  | valueRead {c : ScanCursor} :
      ScanMove t sh token (.seekStringValueEnd, c)
        (.replaceOrSkip, { c with valueEnd := stringEnd t (c.valueStart + 1) })
  | nonString {c : ScanCursor} : ScanMove t sh token (.skipNonString, c) (.seekField, c)
  | recorded {c : ScanCursor} (h : c.valueEnd < t.size) :
      ScanMove t sh token (.replaceOrSkip, c)
        (.seekField, { c with edits := record c.edits (some ⟨c.valueStart + 1, c.valueEnd⟩) })
  | unterminated {c : ScanCursor} (h : t.size ≤ c.valueEnd) :
      ScanMove t sh token (.replaceOrSkip, c) (.seekField, c)

/-- Every step short of the end is one of the moves of `ScanMove`. -/
theorem scanStep_move {s : ScanState × ScanCursor} (h : s.1 ≠ .done) :
    ScanMove t sh token s (scanStep t sh token s) := by
  obtain ⟨st, c⟩ := s
  cases st with
  | seekField =>
    simp only [scanStep]
    split
    · exact .keyAbsent ‹_›
    · split
      · exact .keyMasked ‹_› ‹_›
      · exact .keyFound ‹_› ‹_›
  | seekColon =>
    simp only [scanStep]
    split
    · exact .colonAbsent ‹_›
    · exact .colonFound ‹_›
  | skipWhitespace =>
    simp only [scanStep]
    split
    · exact .quoteOpens ‹_›
    · exact .noQuote ‹_›
  | seekStringValueEnd => exact .valueRead
  | skipNonString => exact .nonString
  | replaceOrSkip =>
    simp only [scanStep]
    split
    · exact .recorded ‹_›
    · exact .unterminated (Nat.le_of_not_lt ‹_›)
  | done => exact absurd rfl h

/-- A state that is done stays done. -/
theorem scanStep_of_done {s : ScanState × ScanCursor} (h : s.1 = .done) :
    scanStep t sh token s = s := by
  obtain ⟨st, c⟩ := s
  dsimp only at h
  subst h
  rfl

end Step

/-! ### Bounds that every state keeps -/

/-- The bounds that hold of every state a pass over a text of `n` characters
reaches: the search position, the cursor and the end of the value loop stay
within the text, every span recorded ends inside it, and a value being read
opens inside it. -/
structure ScanInv (n : Nat) (s : ScanState × ScanCursor) : Prop where
  searchFrom_le : s.2.searchFrom ≤ n
  cursor_le : s.2.cursor ≤ n
  valueEnd_le : s.2.valueEnd ≤ n
  edits_lt : ∀ e ∈ s.2.edits, e.stop < n
  valueStart_lt : s.1 = .seekStringValueEnd → s.2.valueStart < n

theorem scanInv_start (n : Nat) : ScanInv n scanStart where
  searchFrom_le := Nat.zero_le n
  cursor_le := Nat.zero_le n
  valueEnd_le := Nat.zero_le n
  edits_lt := fun _ h => nomatch h
  valueStart_lt := fun h => nomatch h

section Move

variable {t sh : Array Char} {token : List Char} {s s' : ScanState × ScanCursor}

/-- One move keeps the bounds. -/
theorem ScanMove.inv (m : ScanMove t sh token s s') (hsh : sh.size = t.size)
    (hi : ScanInv t.size s) : ScanInv t.size s' := by
  cases m with
  | keyAbsent hk => exact ⟨hi.searchFrom_le, hi.cursor_le, hi.valueEnd_le, hi.edits_lt, nofun⟩
  | keyMasked hk hr =>
    -- the search resumes at the end of the newest span, which ends inside the text
    obtain ⟨last, hlast, -, rfl⟩ := resumeAfter_eq_some hr
    exact ⟨Nat.le_of_lt (hi.edits_lt last (List.mem_of_mem_head? hlast)), hi.cursor_le, hi.valueEnd_le,
      hi.edits_lt, nofun⟩
  | keyFound hk hr =>
    -- the key found lies inside the shadow, which is as long as the text
    have hb := (indexIn_bounds _ _ _ _ hk).2
    exact ⟨by dsimp only; omega, by dsimp only; omega, hi.valueEnd_le, hi.edits_lt, nofun⟩
  | colonAbsent hk => exact ⟨hi.searchFrom_le, hi.cursor_le, hi.valueEnd_le, hi.edits_lt, nofun⟩
  | colonFound hk =>
    have hb := (indexIn_bounds _ _ _ _ hk).2
    exact ⟨hi.searchFrom_le, by dsimp only; simp only [List.length_singleton] at hb; omega, hi.valueEnd_le,
      hi.edits_lt, nofun⟩
  | quoteOpens hq =>
    have hlt := (Array.getElem?_eq_some_iff.mp hq).1
    exact ⟨hi.searchFrom_le, Nat.le_of_lt hlt, hi.valueEnd_le, hi.edits_lt, fun _ => hlt⟩
  | @noQuote c hq =>
    have hb := skipBlanks_le_max t c.cursor
    have hc := hi.cursor_le
    exact ⟨hi.searchFrom_le, by dsimp only at hc ⊢; omega, hi.valueEnd_le, hi.edits_lt, nofun⟩
  | @valueRead c =>
    have hb := stringEnd_bounds t (c.valueStart + 1)
    have hv := hi.valueStart_lt rfl
    exact ⟨hi.searchFrom_le, hi.cursor_le, by dsimp only at hv ⊢; omega, hi.edits_lt, nofun⟩
  | nonString => exact ⟨hi.searchFrom_le, hi.cursor_le, hi.valueEnd_le, hi.edits_lt, nofun⟩
  | recorded hv =>
    refine ⟨hi.searchFrom_le, hi.cursor_le, hi.valueEnd_le, fun e he => ?_, nofun⟩
    dsimp only at he
    rcases mem_record he with he | he
    · exact hi.edits_lt e he
    · cases he
      exact hv
  | unterminated hv => exact ⟨hi.searchFrom_le, hi.cursor_le, hi.valueEnd_le, hi.edits_lt, nofun⟩

/-- At most how many steps a state is from the next search for the key. -/
def scanRank : ScanState → Nat
  | .seekField => 0
  | .seekColon => 4
  | .skipWhitespace => 3
  | .seekStringValueEnd => 2
  | .replaceOrSkip => 1
  | .skipNonString => 1
  | .done => 0

/-- Five steps for each position the search for the key has still to pass, and
the rank of the state. -/
def scanMeasure (n : Nat) (s : ScanState × ScanCursor) : Nat :=
  5 * (n - s.2.searchFrom) + scanRank s.1

/-- A move that does not end the loop lowers the measure: a search for a key of
at least one character moves the search position forward, every other move
keeps it and lowers the rank. -/
theorem ScanMove.measure_lt (m : ScanMove t sh token s s') (hsh : sh.size = t.size)
    (htok : 0 < token.length) (hi : ScanInv t.size s) (hd : s'.1 ≠ .done) :
    scanMeasure t.size s' < scanMeasure t.size s := by
  have hsf := hi.searchFrom_le
  cases m with
  | keyAbsent hk => exact absurd rfl hd
  | keyMasked hk hr =>
    obtain ⟨last, hlast, hpos, rfl⟩ := resumeAfter_eq_some hr
    have hstop := hi.edits_lt last (List.mem_of_mem_head? hlast)
    have hfrom := (indexIn_bounds _ _ _ _ hk).1
    simp only [scanMeasure, scanRank] at hsf ⊢
    omega
  | keyFound hk hr =>
    have hb := indexIn_bounds _ _ _ _ hk
    simp only [scanMeasure, scanRank] at hsf ⊢
    omega
  | _ => simp only [scanMeasure, scanRank]; omega

/-- Between two searches for the key every move leads to a search, or to a state
of lower rank that is neither a search nor the end. -/
theorem ScanMove.rank_lt (m : ScanMove t sh token s s') (hf : s.1 ≠ .seekField) :
    s'.1 = .seekField ∨ (s'.1 ≠ .seekField ∧ s'.1 ≠ .done ∧ scanRank s'.1 < scanRank s.1) := by
  cases m with
  | keyAbsent => exact absurd rfl hf
  | keyMasked => exact absurd rfl hf
  | keyFound => exact absurd rfl hf
  | colonAbsent => exact .inl rfl
  | colonFound => exact .inr ⟨nofun, nofun, by simp [scanRank]⟩
  | quoteOpens => exact .inr ⟨nofun, nofun, by simp [scanRank]⟩
  | noQuote => exact .inr ⟨nofun, nofun, by simp [scanRank]⟩
  | valueRead => exact .inr ⟨nofun, nofun, by simp [scanRank]⟩
  | nonString => exact .inl rfl
  | recorded => exact .inl rfl
  | unterminated => exact .inl rfl

/-- A search for the key that does not end the loop moves the search position
strictly forward: past the key found, or to the end of the newest span, which
ends after the key. -/
theorem ScanMove.searchFrom_lt (m : ScanMove t sh token s s') (htok : 0 < token.length)
    (hf : s.1 = .seekField) (hd : s'.1 ≠ .done) :
    s.2.searchFrom < s'.2.searchFrom ∧
      ∃ pos, indexIn token sh s.2.searchFrom = some pos ∧
        (s'.2.searchFrom = pos + token.length ∨
          ∃ e, s.2.edits.head? = some e ∧ pos < e.stop ∧ s'.2.searchFrom = e.stop) := by
  cases m with
  | keyAbsent hk => exact absurd rfl hd
  | keyMasked hk hr =>
    obtain ⟨last, hlast, hpos, rfl⟩ := resumeAfter_eq_some hr
    have hfrom := (indexIn_bounds _ _ _ _ hk).1
    exact ⟨by dsimp only; omega, _, hk, .inr ⟨last, hlast, hpos, rfl⟩⟩
  | keyFound hk hr =>
    have hfrom := (indexIn_bounds _ _ _ _ hk).1
    exact ⟨by dsimp only; omega, _, hk, .inl rfl⟩
  | _ => simp at hf

end Move

/-! ### The loop ends -/

section Run

variable {t sh : Array Char} {token : List Char}

/-- One step keeps the bounds. -/
theorem ScanInv.step (hsh : sh.size = t.size) {s : ScanState × ScanCursor}
    (hi : ScanInv t.size s) : ScanInv t.size (scanStep t sh token s) := by
  by_cases hd : s.1 = .done
  · rwa [scanStep_of_done hd]
  · exact (scanStep_move hd).inv hsh hi

/-- Every state the loop reaches from the start keeps the bounds. -/
theorem scanInv_scanRun (hsh : sh.size = t.size) (k : Nat) :
    ScanInv t.size (scanRun t sh token k) := by
  induction k with
  | zero => exact scanInv_start t.size
  | succ k ih => exact ih.step hsh

/-- From every state that keeps the bounds the loop ends, within one step more
than its measure. -/
theorem exists_iterate_done (hsh : sh.size = t.size) (htok : 0 < token.length) :
    ∀ s, ScanInv t.size s →
      ∃ k ≤ scanMeasure t.size s + 1, ((scanStep t sh token)^[k] s).1 = .done := by
  -- strong induction on the measure, which each step short of the end lowers
  intro s
  induction h : scanMeasure t.size s using Nat.strong_induction_on generalizing s with
  | _ μ ih =>
    intro hi
    by_cases hd : s.1 = .done
    · exact ⟨0, Nat.zero_le _, hd⟩
    by_cases hd' : (scanStep t sh token s).1 = .done
    · exact ⟨1, by omega, hd'⟩
    have hlt := (scanStep_move hd).measure_lt hsh htok hi hd'
    obtain ⟨k, hk, hdone⟩ := ih _ (h ▸ hlt) _ rfl (hi.step hsh)
    exact ⟨k + 1, by omega, by rwa [Function.iterate_succ_apply]⟩

/-- From a state between two searches the loop reaches the next search within
the rank of the state. -/
theorem exists_iterate_seekField :
    ∀ (r : Nat) (s : ScanState × ScanCursor), scanRank s.1 ≤ r → s.1 ≠ .seekField → s.1 ≠ .done →
      ∃ j, 1 ≤ j ∧ j ≤ scanRank s.1 ∧ ((scanStep t sh token)^[j] s).1 = .seekField := by
  -- induction on a bound of the rank, which every move between two searches lowers
  intro r
  induction r with
  | zero =>
    intro s hr hf hd
    obtain ⟨st, c⟩ := s
    cases st <;> simp_all [scanRank]
  | succ r ih =>
    intro s hr hf hd
    rcases (scanStep_move hd).rank_lt hf with h | ⟨hf', hd', hlt⟩
    · refine ⟨1, Nat.le_refl 1, ?_, h⟩
      obtain ⟨st, c⟩ := s
      cases st <;> simp_all [scanRank]
    · obtain ⟨j, hj1, hjr, hj⟩ := ih _ (by omega) hf' hd'
      exact ⟨j + 1, by omega, by omega, by rwa [Function.iterate_succ_apply]⟩

theorem scanRank_le_four (st : ScanState) : scanRank st ≤ 4 := by
  cases st <;> decide

/-- After a search for the key that does not end the loop, the next search
comes at most four steps later. -/
theorem exists_next_seekField {s : ScanState × ScanCursor} (hd : (scanStep t sh token s).1 ≠ .done) :
    ∃ j ≤ 4, ((scanStep t sh token)^[j + 1] s).1 = .seekField := by
  by_cases hf : (scanStep t sh token s).1 = .seekField
  · exact ⟨0, Nat.zero_le 4, hf⟩
  · obtain ⟨j, hj1, hj4, hj⟩ := exists_iterate_seekField (scanRank (scanStep t sh token s).1) _
      (Nat.le_refl _) hf hd
    have := scanRank_le_four (scanStep t sh token s).1
    refine ⟨j, by omega, ?_⟩
    rwa [Function.iterate_succ_apply]

end Run

theorem scanRun_eq_iterate (t sh : Array Char) (token : List Char) (k : Nat) :
    scanRun t sh token k = (scanStep t sh token)^[k] scanStart := by
  induction k with
  | zero => rfl
  | succ k ih => rw [scanRun, ih, Function.iterate_succ_apply']

/-- What it means that the loop of a pass for `token` over `t` with the shadow
`sh` ends, and how. -/
structure ScanLoopEnds (t sh : Array Char) (token : List Char) : Prop where
  /-- The loop is done within five steps per character of the text and one more. -/
  ends : ∃ k ≤ 5 * t.size + 1, (scanRun t sh token k).1 = .done
  /-- The search position, the cursor and the end of the value loop never pass
  the end of the text. -/
  within : ∀ k, (scanRun t sh token k).2.searchFrom ≤ t.size ∧
    (scanRun t sh token k).2.cursor ≤ t.size ∧ (scanRun t sh token k).2.valueEnd ≤ t.size
  /-- Each search for the key that does not end the loop moves the search
  position strictly forward, past the key found or to the end of the newest
  span, which ends after the key; the next search comes at most four steps
  later. -/
  advances : ∀ k, (scanRun t sh token k).1 = .seekField →
    (scanRun t sh token (k + 1)).1 ≠ .done →
    (scanRun t sh token k).2.searchFrom < (scanRun t sh token (k + 1)).2.searchFrom ∧
      (∃ pos, indexIn token sh (scanRun t sh token k).2.searchFrom = some pos ∧
        ((scanRun t sh token (k + 1)).2.searchFrom = pos + token.length ∨
          ∃ e, (scanRun t sh token k).2.edits.head? = some e ∧ pos < e.stop ∧
            (scanRun t sh token (k + 1)).2.searchFrom = e.stop)) ∧
      ∃ j ≤ 4, (scanRun t sh token (k + 1 + j)).1 = .seekField
  /-- The loops over blanks and over a string value move forward and stop
  within the text. -/
  loops_within : ∀ i ≤ t.size, i ≤ skipBlanks t i ∧ skipBlanks t i ≤ t.size ∧
    i ≤ stringEnd t i ∧ stringEnd t i ≤ t.size

/-- **The loop of a pass ends.** For a text, a shadow as long as it and a key of
at least two characters, the loop of handlers is done within five steps per
character and one more, never reads past the end of the text, moves its search
position strictly forward at each search for the key, and searches again at
most four steps later. -/
theorem scan_loop_terminates (t sh : Array Char) (token : List Char) (hsh : sh.size = t.size)
    (htok : 2 ≤ token.length) : ScanLoopEnds t sh token := by
  have htok' : 0 < token.length := by omega
  refine ⟨?_, fun k => ?_, fun k hf hd => ?_, fun i hi => ?_⟩
  · obtain ⟨k, hk, hdone⟩ := exists_iterate_done hsh htok' scanStart (scanInv_start t.size)
    refine ⟨k, by simpa [scanMeasure, scanStart, scanRank] using hk, ?_⟩
    rwa [scanRun_eq_iterate]
  · have hi : ScanInv t.size (scanRun t sh token k) := scanInv_scanRun hsh k
    exact ⟨hi.searchFrom_le, hi.cursor_le, hi.valueEnd_le⟩
  · rw [scanRun] at hd ⊢
    have hmove := (scanStep_move (by rw [hf]; decide)).searchFrom_lt htok' hf hd
    obtain ⟨j, hj, hnext⟩ := exists_next_seekField hd
    refine ⟨hmove.1, hmove.2, j, hj, ?_⟩
    rwa [scanRun_eq_iterate, show k + 1 + j = (j + 1) + k by omega, Function.iterate_add_apply,
      ← scanRun_eq_iterate]
  · have hs := skipBlanks_spec t i
    have hs' := skipBlanks_le_max t i
    have he := stringEnd_bounds t i
    omega

/-- A pass for `"pin"` over `"pin": "1"`, its own shadow. -/
theorem scan_loop_terminates_pin :
    "\"pin\": \"1\"".toList.toArray.size = "\"pin\": \"1\"".toList.toArray.size ∧
      2 ≤ "\"pin\"".toList.length ∧
      ScanLoopEnds "\"pin\": \"1\"".toList.toArray "\"pin\": \"1\"".toList.toArray "\"pin\"".toList :=
  ⟨rfl, by decide, scan_loop_terminates _ _ _ rfl (by decide)⟩

/-! ### The loop finds what the pass finds -/

/-- The string value that opens at position `i` of `t`, if a quote stands there
and the string closes. -/
def stringAt (t : Array Char) (i : Nat) : Option Span :=
  if t[i]? = some '"' then (closingQuote t (i + 1)).map fun e => ⟨i + 1, e⟩ else none

theorem valueAfter_eq_stringAt (t : Array Char) (n : Nat) :
    valueAfter t n = (indexIn [':'] t n).bind fun k => stringAt t (skipBlanks t (k + 1)) := by
  unfold valueAfter
  cases indexIn [':'] t n <;> rfl

/-- The spans a state of the loop for the key `"name"` stands for: those
`passFrom` finds from its search position once the occurrence at hand, if any,
is read to its end and recorded. -/
def pendingSpans (t sh : Array Char) (name : List Char) : ScanState × ScanCursor → List Span
  | (.seekField, c) => passFrom t sh name c.searchFrom c.edits
  | (.seekColon, c) => passFrom t sh name c.searchFrom (record c.edits (valueAfter t c.cursor))
  | (.skipWhitespace, c) =>
    passFrom t sh name c.searchFrom (record c.edits (stringAt t (skipBlanks t c.cursor)))
  | (.seekStringValueEnd, c) =>
    passFrom t sh name c.searchFrom
      (record c.edits ((closingQuote t (c.valueStart + 1)).map fun e => ⟨c.valueStart + 1, e⟩))
  | (.skipNonString, c) => passFrom t sh name c.searchFrom c.edits
  | (.replaceOrSkip, c) =>
    passFrom t sh name c.searchFrom
      (record c.edits (if c.valueEnd < t.size then some ⟨c.valueStart + 1, c.valueEnd⟩ else none))
  | (.done, c) => c.edits.reverse

/-- A move keeps the spans the state stands for: each handler does one step of
what `passFrom` does at once. -/
theorem ScanMove.pendingSpans_eq {t sh : Array Char} {name : List Char}
    {s s' : ScanState × ScanCursor} (m : ScanMove t sh (quoted name) s s') :
    pendingSpans t sh name s' = pendingSpans t sh name s := by
  cases m with
  | keyAbsent hk => exact (passFrom_of_none hk).symm
  | keyMasked hk hr => exact (passFrom_of_resume hk hr).symm
  | keyFound hk hr => exact (passFrom_of_key hk hr).symm
  | colonAbsent hk =>
    simp only [pendingSpans, valueAfter_eq_stringAt, hk, Option.bind_none]
    rfl
  | colonFound hk => simp only [pendingSpans, valueAfter_eq_stringAt, hk, Option.bind_some]
  | quoteOpens hq => simp only [pendingSpans, stringAt, hq, if_true]
  | noQuote hq =>
    simp only [pendingSpans, stringAt, if_neg hq]
    rfl
  | valueRead =>
    simp only [pendingSpans, closingQuote_eq_stringEnd]
    split <;> rfl
  | nonString => rfl
  | recorded hv => simp only [pendingSpans, if_pos hv]
  | unterminated hv =>
    simp only [pendingSpans, if_neg (Nat.not_lt.mpr hv)]
    rfl

theorem pendingSpans_iterate (t sh : Array Char) (name : List Char) (k : Nat)
    (s : ScanState × ScanCursor) :
    pendingSpans t sh name ((scanStep t sh (quoted name))^[k] s) = pendingSpans t sh name s := by
  induction k generalizing s with
  | zero => rfl
  | succ k ih =>
    rw [Function.iterate_succ_apply, ih]
    by_cases hd : s.1 = .done
    · rw [scanStep_of_done hd]
    · exact (scanStep_move hd).pendingSpans_eq

/-- **The loop records the spans of `pass`.** The loop for the key `"name"` over a
text and a shadow as long as it ends, and whenever it has ended, the spans it
recorded are, oldest first, the spans of `pass`. -/
theorem scan_loop_finds_pass (t sh name : List Char) (hsh : sh.length = t.length) :
    (∃ k, (scanRun t.toArray sh.toArray (quoted name) k).1 = .done) ∧
    ∀ k, (scanRun t.toArray sh.toArray (quoted name) k).1 = .done →
      (scanRun t.toArray sh.toArray (quoted name) k).2.edits.reverse = pass t sh name := by
  refine ⟨?_, fun k hk => ?_⟩
  · have hsize : sh.toArray.size = t.toArray.size := by simpa using hsh
    have htok : 0 < (quoted name).length := by simp [length_quoted]
    obtain ⟨k, -, hk⟩ := exists_iterate_done hsize htok scanStart (scanInv_start _)
    exact ⟨k, by rwa [scanRun_eq_iterate]⟩
  · have hp := pendingSpans_iterate t.toArray sh.toArray name k scanStart
    rw [← scanRun_eq_iterate] at hp
    generalize scanRun t.toArray sh.toArray (quoted name) k = s at hk hp ⊢
    obtain ⟨st, c⟩ := s
    dsimp only at hk
    subst hk
    exact hp

end MaskedLog.Redact

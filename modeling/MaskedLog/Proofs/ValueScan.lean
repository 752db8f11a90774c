import Mathlib.Data.List.Chain
import MaskedLog.Redact.Scanner
/-!
# Where a pass finds string values

A pass of the field scan records the interior of a string value after a key.
Whatever key the pass was looking for, every span it records has the same
shape: its opening quote comes right after the colon or after a blank, and its
stop is where the backslash rule closes the string. The spans of one pass come
in text order with a gap between them, because a later key can only lead to
the same value again (which is dropped) or to a value whose opening quote lies
past the closing quote of the last one.

The proofs only read the text, never the shadow or the key, so they hold for
every key and every shadow.

## Main definitions

* `LeadsValue` — the characters that may stand before a value's opening quote.
* `Scanned` — the shape of a recorded span.

## Main results

* `closingQuote_le_of_quote` — a scan never runs past a quote that follows
  anything but a backslash.
* `valueAfter_sep` — a later search finds the same value or one past it.
* `pass_scanned`, `pass_isChain` — every span of a pass is `Scanned`, and the
  spans are in order with gaps.

## References

`bodylog/redact/scanner.py` (`_FieldScan`).
-/

namespace MaskedLog.Redact

open MaskedLog.Text

/-- The characters that may stand right before the opening quote of a value:
the colon after a key, or a blank skipped after it. -/
def LeadsValue (c : Char) : Prop := c = ':' ∨ c = ' ' ∨ c = '\t'

theorem LeadsValue.ne_backslash {c : Char} (h : LeadsValue c) : c ≠ '\\' := by
  rcases h with rfl | rfl | rfl <;> decide

theorem LeadsValue.ne_star {c : Char} (h : LeadsValue c) : c ≠ '*' := by
  rcases h with rfl | rfl | rfl <;> decide

theorem LeadsValue.ne_quote {c : Char} (h : LeadsValue c) : c ≠ '"' := by
  rcases h with rfl | rfl | rfl <;> decide

/-! ### Closing a string -/

theorem closingQuote_of_quote {t : Array Char} {i : Nat} (h : t[i]? = some '"') :
    closingQuote t i = some i := by
  obtain ⟨hi, hc⟩ := Array.getElem?_eq_some_iff.mp h
  rw [closingQuote, dif_pos hi, if_pos hc]

theorem closingQuote_of_escape {t : Array Char} {i : Nat} (h : t[i]? = some '\\')
    (hn : i + 1 < t.size) : closingQuote t i = closingQuote t (i + 2) := by
  obtain ⟨hi, hc⟩ := Array.getElem?_eq_some_iff.mp h
  rw [closingQuote, dif_pos hi, if_neg (by rw [hc]; decide), if_pos (by simp [hc, hn])]

theorem closingQuote_of_plain {t : Array Char} {i : Nat} {c : Char} (h : t[i]? = some c)
    (hq : c ≠ '"') (hb : c = '\\' → t.size ≤ i + 1) :
    closingQuote t i = closingQuote t (i + 1) := by
  obtain ⟨hi, hc⟩ := Array.getElem?_eq_some_iff.mp h
  rw [closingQuote, dif_pos hi, if_neg (by rw [hc]; exact hq),
    if_neg (by
      simp only [hc, Bool.and_eq_true, decide_eq_true_eq]
      exact fun h => absurd h.2 (Nat.not_lt.mpr (hb h.1)))]

theorem closingQuote_of_size_le {t : Array Char} {i : Nat} (h : t.size ≤ i) :
    closingQuote t i = none := by
  rw [closingQuote, dif_neg (by omega)]

/-- The cases of one scan step, as hypotheses about the character read. -/
theorem closingQuote_cases (t : Array Char) (i : Nat) :
    (t[i]? = some '"' ∧ closingQuote t i = some i) ∨
    (t[i]? = some '\\' ∧ i + 1 < t.size ∧ closingQuote t i = closingQuote t (i + 2)) ∨
    (∃ c, t[i]? = some c ∧ c ≠ '"' ∧ (c = '\\' → t.size ≤ i + 1) ∧
      closingQuote t i = closingQuote t (i + 1)) ∨
    (t.size ≤ i ∧ closingQuote t i = none) := by
  by_cases hi : i < t.size
  · have hget := Array.getElem?_eq_getElem hi
    by_cases hq : t[i] = '"'
    · exact .inl ⟨by rw [hget, hq], closingQuote_of_quote (by rw [hget, hq])⟩
    · by_cases hb : t[i] = '\\' ∧ i + 1 < t.size
      · exact .inr (.inl ⟨by rw [hget, hb.1], hb.2,
          closingQuote_of_escape (by rw [hget, hb.1]) hb.2⟩)
      · have hb' : t[i] = '\\' → t.size ≤ i + 1 := fun h => Nat.le_of_not_lt fun h' => hb ⟨h, h'⟩
        exact .inr (.inr (.inl ⟨t[i], hget, hq, hb', closingQuote_of_plain hget hq hb'⟩))
  · exact .inr (.inr (.inr ⟨by omega, closingQuote_of_size_le (by omega)⟩))

/-- The scan stops at a quote at or after where it started. -/
theorem closingQuote_spec {t : Array Char} {e : Nat} :
    ∀ {i : Nat}, closingQuote t i = some e → i ≤ e ∧ t[e]? = some '"' := by
  intro i
  induction i using closingQuote.induct t with
  | case1 i hi hq =>
    intro h
    rw [closingQuote_of_quote (by simp [hi, hq])] at h
    cases h
    exact ⟨Nat.le_refl _, by simp [hi, hq]⟩
  | case2 i hi hq hb ih =>
    intro h
    simp only [Bool.and_eq_true, decide_eq_true_eq] at hb
    rw [closingQuote_of_escape (by simp [hi, hb.1]) hb.2] at h
    have := ih h
    exact ⟨by omega, this.2⟩
  | case3 i hi hq hb ih =>
    intro h
    simp only [Bool.and_eq_true, decide_eq_true_eq] at hb
    rw [closingQuote_of_plain (Array.getElem?_eq_getElem hi) hq
      (fun h => Nat.le_of_not_lt fun h' => hb ⟨h, h'⟩)] at h
    have := ih h
    exact ⟨by omega, this.2⟩
  | case4 i hi =>
    intro h
    rw [closingQuote_of_size_le (by omega)] at h
    cases h

/-- A scan started at or before a quote stops at that quote at the latest,
unless a backslash right before the quote may consume it. -/
theorem closingQuote_le_of_quote {t : Array Char} {j : Nat} (hj : t[j]? = some '"')
    (hb : 0 < j → t[j - 1]? ≠ some '\\') :
    ∀ {i : Nat}, i ≤ j → ∃ e, e ≤ j ∧ closingQuote t i = some e := by
  have hjs : j < t.size := (Array.getElem?_eq_some_iff.mp hj).1
  intro i
  induction i using closingQuote.induct t with
  | case1 i hi hq =>
    intro hij
    exact ⟨i, hij, closingQuote_of_quote (by simp [hi, hq])⟩
  | case2 i hi hq hb' ih =>
    intro hij
    simp only [Bool.and_eq_true, decide_eq_true_eq] at hb'
    have hti : t[i]? = some '\\' := by simp [hi, hb'.1]
    -- the quote itself stops the scan, and the backslash right before it is excluded
    have hne : i ≠ j := fun h => by subst h; simp [hti] at hj
    have hne' : i + 1 ≠ j := fun h => hb (by omega) (by rw [show j - 1 = i by omega, hti])
    obtain ⟨e, he, hc⟩ := ih (by omega)
    exact ⟨e, he, by rw [closingQuote_of_escape hti hb'.2, hc]⟩
  | case3 i hi hq hb' ih =>
    intro hij
    simp only [Bool.and_eq_true, decide_eq_true_eq] at hb'
    have hne : i ≠ j := by
      rintro rfl
      rw [Array.getElem?_eq_getElem hi] at hj
      exact hq (Option.some.inj hj)
    obtain ⟨e, he, hc⟩ := ih (by omega)
    exact ⟨e, he, by rw [closingQuote_of_plain (Array.getElem?_eq_getElem hi) hq
      (fun h => Nat.le_of_not_lt fun h' => hb' ⟨h, h'⟩), hc]⟩
  | case4 i hi =>
    intro hij
    omega

/-- The scan reads the text only from where it starts: reading `t` from `i` is
reading a text that holds `t` at an offset `d` from `i + d`. -/
theorem closingQuote_shift {t u : Array Char} {d : Nat} (hu : ∀ k, u[k + d]? = t[k]?)
    (i : Nat) : closingQuote u (i + d) = (closingQuote t i).map (· + d) := by
  have hsize : ∀ k, k < t.size ↔ k + d < u.size := fun k => by
    rw [← not_iff_not]
    simp only [Nat.not_lt, ← Array.getElem?_eq_none_iff, hu]
  rcases closingQuote_cases t i with ⟨hq, hc⟩ | ⟨hb, hn, hc⟩ | ⟨c, hget, hq, hb, hc⟩ | ⟨hi, hc⟩
  · rw [hc, closingQuote_of_quote (by rw [hu, hq])]
    rfl
  · rw [hc, closingQuote_of_escape (by rw [hu, hb]) (by have := (hsize (i + 1)).mp hn; omega),
      show i + d + 2 = i + 2 + d by omega]
    exact closingQuote_shift hu (i + 2)
  · rw [hc, closingQuote_of_plain (by rw [hu, hget]) hq
      (fun h => by have := mt (hsize (i + 1)).mpr (by have := hb h; omega); omega),
      show i + d + 1 = i + 1 + d by omega]
    exact closingQuote_shift hu (i + 1)
  · rw [hc, closingQuote_of_size_le (by have := mt (hsize i).mpr (by omega); omega)]
    rfl
termination_by t.size - i
decreasing_by
  all_goals
    have := (Array.getElem?_eq_some_iff.mp ‹_›).1
    omega

/-- The scan reads nothing past where it stops: a text that agrees with `t` up
to the stop closes at the same place. -/
theorem closingQuote_of_agree {t u : Array Char} {e : Nat}
    (hagree : ∀ k, k ≤ e → u[k]? = t[k]?) :
    ∀ {i : Nat}, closingQuote t i = some e → closingQuote u i = some e := by
  intro i
  induction i using closingQuote.induct t with
  | case1 i hi hq =>
    intro h
    rw [closingQuote_of_quote (by simp [hi, hq])] at h
    cases h
    exact closingQuote_of_quote (by rw [hagree _ le_rfl]; simp [hi, hq])
  | case2 i hi hq hb ih =>
    intro h
    simp only [Bool.and_eq_true, decide_eq_true_eq] at hb
    rw [closingQuote_of_escape (by simp [hi, hb.1]) hb.2] at h
    have hie : i + 2 ≤ e := (closingQuote_spec h).1
    have hs' : i + 1 < u.size := by
      have := hagree (i + 1) (by omega)
      rw [Array.getElem?_eq_getElem hb.2] at this
      exact (Array.getElem?_eq_some_iff.mp this).1
    rw [closingQuote_of_escape (by rw [hagree i (by omega)]; simp [hi, hb.1]) hs']
    exact ih h
  | case3 i hi hq hb ih =>
    intro h
    simp only [Bool.and_eq_true, decide_eq_true_eq] at hb
    rw [closingQuote_of_plain (Array.getElem?_eq_getElem hi) hq
      (fun h => Nat.le_of_not_lt fun h' => hb ⟨h, h'⟩)] at h
    have hie : i + 1 ≤ e := (closingQuote_spec h).1
    have hte : e < t.size := (Array.getElem?_eq_some_iff.mp (closingQuote_spec h).2).1
    rw [closingQuote_of_plain (by rw [hagree i (by omega)]; exact Array.getElem?_eq_getElem hi)
      hq (fun h => absurd (Nat.lt_of_le_of_lt hie hte) (fun h' => hb ⟨h, h'⟩))]
    exact ih h
  | case4 i hi =>
    intro h
    rw [closingQuote_of_size_le (by omega)] at h
    cases h

/-! ### From the key to the value -/

/-- Blanks skipped: the scan moves on over spaces and tabs only. -/
theorem skipBlanks_spec (t : Array Char) (i : Nat) :
    i ≤ skipBlanks t i ∧
      ∀ j, i ≤ j → j < skipBlanks t i → t[j]? = some ' ' ∨ t[j]? = some '\t' := by
  induction i using skipBlanks.induct t with
  | case1 i hi hb ih =>
    rw [skipBlanks, dif_pos hi, if_pos hb]
    refine ⟨by omega, fun j hij hj => ?_⟩
    rcases Nat.lt_or_ge i j with h | h
    · exact ih.2 j h hj
    · have hji : j = i := by omega
      subst hji
      simp only [Bool.or_eq_true, decide_eq_true_eq] at hb
      rcases hb with hb | hb <;> simp [hi, hb]
  | case2 i hi hb =>
    rw [skipBlanks, dif_pos hi, if_neg hb]
    exact ⟨Nat.le_refl _, fun j hij hj => by omega⟩
  | case3 i hi =>
    rw [skipBlanks, dif_neg hi]
    exact ⟨Nat.le_refl _, fun j hij hj => by omega⟩

/-- After a colon and the blanks that follow it, the character before the
first other one leads a value. -/
theorem leadsValue_skipBlanks {t : Array Char} {k : Nat} (hk : t[k]? = some ':') :
    ∃ c, t[skipBlanks t (k + 1) - 1]? = some c ∧ LeadsValue c := by
  obtain ⟨hle, hblank⟩ := skipBlanks_spec t (k + 1)
  rcases Nat.eq_or_lt_of_le hle with h | h
  · exact ⟨':', by rw [← h]; simpa using hk, .inl rfl⟩
  · rcases hblank (skipBlanks t (k + 1) - 1) (by omega) (by omega) with hc | hc
    · exact ⟨' ', hc, .inr (.inl rfl)⟩
    · exact ⟨'\t', hc, .inr (.inr rfl)⟩

theorem occursAt_singleton {c : Char} {s : Array Char} {i : Nat} :
    occursAt [c] s i = true ↔ s[i]? = some c := by
  simp [occursAt]

/-- A search finds the first occurrence at or after where it starts. -/
theorem indexIn_spec {key : List Char} {s : Array Char} {i p : Nat}
    (h : indexIn key s i = some p) :
    occursAt key s p = true ∧ ∀ j, i ≤ j → j < p → occursAt key s j = false := by
  induction i using indexIn.induct key s with
  | case1 i hb ho =>
    rw [indexIn, if_pos hb, if_pos ho] at h
    cases h
    exact ⟨ho, fun j hij hj => by omega⟩
  | case2 i hb ho ih =>
    rw [indexIn, if_pos hb, if_neg ho] at h
    obtain ⟨hp, hfirst⟩ := ih h
    refine ⟨hp, fun j hij hj => ?_⟩
    rcases Nat.eq_or_lt_of_le hij with rfl | hlt
    · simpa using ho
    · exact hfirst j hlt hj
  | case3 i hb =>
    rw [indexIn, if_neg hb] at h
    cases h

/-- The first colon at or after a position. -/
theorem indexIn_colon {t : Array Char} {i k : Nat} (h : indexIn [':'] t i = some k) :
    i ≤ k ∧ t[k]? = some ':' ∧ ∀ j, i ≤ j → j < k → t[j]? ≠ some ':' := by
  obtain ⟨hk, hfirst⟩ := indexIn_spec h
  refine ⟨(indexIn_bounds _ _ _ _ h).1, occursAt_singleton.mp hk, fun j hij hj hc => ?_⟩
  have := hfirst j hij hj
  rw [occursAt_singleton.mpr hc] at this
  cases this

/-- What `valueAfter` reads: the first colon, the blanks after it, an opening
quote, and the string up to where the scan closes it. -/
theorem valueAfter_eq_some {t : Array Char} {n : Nat} {s : Span}
    (h : valueAfter t n = some s) :
    ∃ k, indexIn [':'] t n = some k ∧ s.start = skipBlanks t (k + 1) + 1 ∧
      t[skipBlanks t (k + 1)]? = some '"' ∧ closingQuote t s.start = some s.stop := by
  unfold valueAfter at h
  split at h
  · cases h
  · rename_i k hk
    dsimp only at h
    split at h
    · rename_i hq
      obtain ⟨e, he, rfl⟩ := Option.map_eq_some_iff.mp h
      exact ⟨k, hk, rfl, hq, he⟩
    · cases h

/-- The shape of a span recorded by a pass in the text `t`: its opening quote
follows a character that leads a value, and the scan from its start closes it
at its stop. -/
structure Scanned (t : Array Char) (s : Span) : Prop where
  two_le : 2 ≤ s.start
  lead : ∃ c, t[s.start - 2]? = some c ∧ LeadsValue c
  opens : t[s.start - 1]? = some '"'
  closes : closingQuote t s.start = some s.stop

theorem Scanned.start_le_stop {t : Array Char} {s : Span} (h : Scanned t s) :
    s.start ≤ s.stop :=
  (closingQuote_spec h.closes).1

theorem Scanned.closes_quote {t : Array Char} {s : Span} (h : Scanned t s) :
    t[s.stop]? = some '"' :=
  (closingQuote_spec h.closes).2

theorem valueAfter_scanned {t : Array Char} {n : Nat} {s : Span}
    (h : valueAfter t n = some s) : Scanned t s := by
  obtain ⟨k, hk, hstart, hq, hc⟩ := valueAfter_eq_some h
  have hle := (skipBlanks_spec t (k + 1)).1
  refine ⟨by omega, ?_, by rw [hstart]; simpa using hq, hc⟩
  rw [hstart, show skipBlanks t (k + 1) + 1 - 2 = skipBlanks t (k + 1) - 1 by omega]
  exact leadsValue_skipBlanks (indexIn_colon hk).2.1

/-- A search for a value from a later position finds the same value again, or
one whose opening quote lies past the closing quote of the first. -/
theorem valueAfter_sep {t : Array Char} {n₀ n : Nat} {a b : Span}
    (ha : valueAfter t n₀ = some a) (hn : n₀ ≤ n) (hb : valueAfter t n = some b) :
    b = a ∨ a.stop < b.start := by
  obtain ⟨k₀, hk₀, ha₁, hq₀, hc₀⟩ := valueAfter_eq_some ha
  obtain ⟨k, hk, hb₁, hq, hc⟩ := valueAfter_eq_some hb
  obtain ⟨hn₀, hcol₀, hfirst₀⟩ := indexIn_colon hk₀
  obtain ⟨hnk, hcol, hfirst⟩ := indexIn_colon hk
  rcases Nat.lt_or_ge k₀ n with hlt | hge
  · -- the later colon lies past the blanks that end in the first value's quote
    obtain ⟨hle₀, hblank₀⟩ := skipBlanks_spec t (k₀ + 1)
    have hko : skipBlanks t (k₀ + 1) < k := by
      rcases Nat.lt_or_ge k (skipBlanks t (k₀ + 1)) with h | h
      · rcases hblank₀ k (by omega) h with hc' | hc' <;> rw [hcol] at hc' <;> cases hc'
      · rcases Nat.eq_or_lt_of_le h with h | h
        · rw [h, hcol] at hq₀
          cases hq₀
        · exact h
    obtain ⟨hle, -⟩ := skipBlanks_spec t (k + 1)
    obtain ⟨c, hlead, hc'⟩ := leadsValue_skipBlanks hcol
    obtain ⟨e, he, hce⟩ := closingQuote_le_of_quote hq
      (fun _ => by rw [hlead]; exact fun h => hc'.ne_backslash (Option.some.inj h))
      (i := a.start) (by omega)
    rw [hc₀] at hce
    cases hce
    right
    omega
  · -- both searches stop at the same colon
    have hkk : k = k₀ := by
      rcases Nat.lt_trichotomy k k₀ with h | h | h
      · exact absurd hcol (hfirst₀ k (by omega) h)
      · exact h
      · exact absurd hcol₀ (hfirst k₀ hge h)
    subst hkk
    left
    have hstart : b.start = a.start := by omega
    rw [hstart, hc₀] at hc
    cases a
    cases b
    simp_all

/-! ### One pass -/

section Pass

variable {t sh : Array Char} {name : List Char} {from_ : Nat} {found : List Span}

theorem passFrom_of_none (h : indexIn (quoted name) sh from_ = none) :
    passFrom t sh name from_ found = found.reverse := by
  rw [passFrom]
  split
  · rfl
  · rename_i heq
    rw [h] at heq
    cases heq

theorem passFrom_of_resume {pos stop : Nat} (h : indexIn (quoted name) sh from_ = some pos)
    (hr : resumeAfter found pos = some stop) :
    passFrom t sh name from_ found = passFrom t sh name stop found := by
  rw [passFrom]
  split
  · rename_i heq
    rw [h] at heq
    cases heq
  · rename_i pos' heq
    rw [h] at heq
    cases heq
    split
    · rename_i stop' hr'
      rw [hr] at hr'
      cases hr'
      rfl
    · rename_i hr'
      rw [hr] at hr'
      cases hr'

theorem passFrom_of_key {pos : Nat} (h : indexIn (quoted name) sh from_ = some pos)
    (hr : resumeAfter found pos = none) :
    passFrom t sh name from_ found =
      passFrom t sh name (pos + (quoted name).length)
        (record found (valueAfter t (pos + (quoted name).length))) := by
  rw [passFrom]
  split
  · rename_i heq
    rw [h] at heq
    cases heq
  · rename_i pos' heq
    rw [h] at heq
    cases heq
    split
    · rename_i stop' hr'
      rw [hr] at hr'
      cases hr'
    · rfl

/-- What a pass keeps true of the spans found so far (newest first): each is
`Scanned`, they are in order, and the newest was found from a position no
later than where the search stands. -/
structure PassInv (t : Array Char) (from_ : Nat) (found : List Span) : Prop where
  scanned : ∀ s ∈ found, Scanned t s
  chain : found.IsChain (fun a b => b.stop < a.start)
  anchored : ∀ a ∈ found.head?, ∃ n₀ ≤ from_, valueAfter t n₀ = some a

theorem PassInv.mono {from' : Nat} (h : PassInv t from_ found) (hle : from_ ≤ from') :
    PassInv t from' found :=
  ⟨h.scanned, h.chain, fun a ha => by
    obtain ⟨n₀, hn₀, hv⟩ := h.anchored a ha
    exact ⟨n₀, by omega, hv⟩⟩

/-- Recording the value after a key keeps the invariant. -/
theorem PassInv.record_valueAfter {next : Nat} (h : PassInv t from_ found) (hle : from_ ≤ next) :
    PassInv t next (record found (valueAfter t next)) := by
  cases hv : valueAfter t next with
  | none => exact h.mono hle
  | some v =>
    simp only [record]
    split
    · exact h.mono hle
    · rename_i hne
      refine ⟨?_, ?_, fun a ha => ⟨next, le_rfl, by simpa [hv] using ha⟩⟩
      · intro s hs
        rcases List.mem_cons.mp hs with rfl | hs
        · exact valueAfter_scanned hv
        · exact h.scanned s hs
      · refine List.isChain_cons.mpr ⟨fun a ha => ?_, h.chain⟩
        obtain ⟨n₀, hn₀, ha'⟩ := h.anchored a ha
        rcases valueAfter_sep ha' (by omega) hv with rfl | hlt
        · exact absurd (by simpa using ha) hne
        · exact hlt

theorem passFrom_inv (h : PassInv t from_ found) :
    (∀ s ∈ passFrom t sh name from_ found, Scanned t s) ∧
      (passFrom t sh name from_ found).IsChain (fun a b => a.stop < b.start) := by
  induction from_, found using passFrom.induct t sh name with
  | case1 from_ found hnone =>
    rw [passFrom_of_none hnone]
    exact ⟨fun s hs => h.scanned s (List.mem_reverse.mp hs), List.isChain_reverse.mpr h.chain⟩
  | case2 from_ found pos hpos stop hr ih =>
    rw [passFrom_of_resume hpos hr]
    have := (indexIn_bounds _ _ _ _ hpos).1
    exact ih (h.mono (by have := lt_of_resumeAfter hr; omega))
  | case3 from_ found pos hpos hr _ ih =>
    rw [passFrom_of_key hpos hr]
    have := (indexIn_bounds _ _ _ _ hpos).1
    exact ih (h.record_valueAfter (by omega))

end Pass

/-- Every span of a pass has the shape of a value in the text. -/
theorem pass_scanned (t sh name : List Char) :
    ∀ s ∈ pass t sh name, Scanned t.toArray s :=
  (passFrom_inv ⟨by simp, by simp, by simp⟩).1

/-- The spans of a pass are in text order, with a gap between any two. -/
theorem pass_isChain (t sh name : List Char) :
    (pass t sh name).IsChain (fun a b => a.stop < b.start) :=
  (passFrom_inv ⟨by simp, by simp, by simp⟩).2

end MaskedLog.Redact

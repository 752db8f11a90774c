import MaskedLog.Proofs.Offset
/-!
# Lowercasing around quotes

A text and its shadow hold the same quotes, backslashes, colons and blanks at
the same places, and the same U+0130: no other character lowercases to one of
them. Two texts with one shadow therefore look alike to every step of a value
scan.

Lowercasing reads context only for a capital sigma, and that context stops at
a quote, which is neither cased nor case-ignorable. A quote thus cuts a text
into parts that lowercase on their own, and masking a quoted interior commutes
with lowercasing: in a text without U+0130, whose shadow is its lowercase form,
the shadow of the masked text is the masked shadow.

## Main definitions

* `fixedChars` — the characters a shadow holds exactly where its text does.
* `LowersTo` — a lowercase form of a character one character long.

## Main results

* `getElem?_shadow_eq_fixed` — the shadow holds a fixed character exactly where
  the text does.
* `lower_append_quote` — lowercasing splits at a quote.
* `shadow_mask` — without U+0130, the shadow of a text with quoted interiors
  masked is its shadow with them masked.
* `shadow_lines_up` — **the shadow lines up with the text**, position by
  position, so a key found in the shadow is in the text up to case.

## References

`bodylog/redact/scanner.py` (`shadow_copy`).
-/

namespace MaskedLog.Unicode

/-- A code point outside every range of a table is in none of them. Deciding
the hypothesis over the list of ranges costs the kernel far less than running
`Array.any` on the table. -/
theorem CodeRanges.contains_eq_false {rs : CodeRanges} {n : Nat}
    (h : ∀ r ∈ rs.toList, n < r.1 ∨ r.2 < n) : rs.contains n = false := by
  unfold CodeRanges.contains
  rw [Array.any_eq_false']
  intro r hr
  have := h r (Array.mem_toList_iff.mpr hr)
  simp only [Bool.and_eq_true, decide_eq_true_eq]
  omega

end MaskedLog.Unicode

namespace MaskedLog.Redact

open MaskedLog.Unicode

/-! ### Characters that only lowercase from themselves -/

/-- The characters a value scan reads, and U+0130: each is its own lowercase
form and the lowercase form of no other character. -/
def fixedChars : List Char := ['"', '\\', ':', ' ', '\t', 'İ']

theorem toNat_of_ofNat {n : Nat} {c : Char} (h : Char.ofNat n = c) :
    c.toNat = n ∨ c.toNat = 0 := by
  subst h
  -- a valid code point is kept, any other becomes the null character
  by_cases hv : n.isValidChar
  · left
    rw [Char.ofNat, dif_pos hv]
    rfl
  · right
    rw [Char.ofNat, dif_neg hv]
    rfl

theorem toNat_fixed {c : Char} (hc : c ∈ fixedChars) :
    c.toNat ∈ [0x22, 0x5C, 0x3A, 0x20, 0x09, 0x130] := by
  simp only [fixedChars, List.mem_cons, List.not_mem_nil, or_false] at hc
  rcases hc with rfl | rfl | rfl | rfl | rfl | rfl <;> decide

set_option maxRecDepth 8000 in
/-- No run of the lowercase table lands on a fixed character. -/
theorem lowerRuns_miss_fixed :
    ∀ r ∈ lowerRuns.toList, ∀ n ∈ ([0x22, 0x5C, 0x3A, 0x20, 0x09, 0x130] : List Nat),
      ¬ (r.delta ≤ (n : Int) ∧ r.covers ((n : Int) - r.delta).toNat = true) := by
  decide

/-- A character whose one-character lowercase form is fixed is that character. -/
theorem eq_of_lowerChar_eq_fixed {c d : Char} (hc : c ∈ fixedChars) (h : lowerChar d = c) :
    d = c := by
  have hcode := toNat_fixed hc
  have hpos : c.toNat ≠ 0 := by
    simp only [List.mem_cons, List.not_mem_nil, or_false] at hcode
    omega
  unfold lowerChar at h
  dsimp only at h
  split at h
  · split at h
    · -- an ASCII capital lowercases to a small letter
      rename_i hup
      simp only [Bool.and_eq_true, decide_eq_true_eq] at hup
      simp only [List.mem_cons, List.not_mem_nil, or_false] at hcode
      rcases toNat_of_ofNat h with h' | h' <;> omega
    · exact h
  · split at h
    · -- a run adds its shift to the code point, and no run lands on a fixed one
      rename_i r hr
      have hmem := Array.mem_toList_iff.mpr (Array.mem_of_find?_eq_some hr)
      have hcov := Array.find?_some hr
      rcases toNat_of_ofNat h with h' | h'
      · refine absurd ⟨by omega, ?_⟩ (lowerRuns_miss_fixed r hmem c.toNat hcode)
        rwa [show (c.toNat - r.delta).toNat = d.toNat by omega]
      · exact absurd h' hpos
    · exact h

theorem lowerOrKeep_fixed {c : Char} (hc : c ∈ fixedChars) : lowerOrKeep c = c := by
  simp only [fixedChars, List.mem_cons, List.not_mem_nil, or_false] at hc
  rcases hc with rfl | rfl | rfl | rfl | rfl | rfl <;> decide

theorem eq_of_isDotted {c : Char} (h : IsDotted c) : c = 'İ' := by
  rw [← Char.ofNat_toNat c, show c.toNat = 0x130 from h]

/-- A fixed character is the lowercase form of itself only. -/
theorem lowerOrKeep_eq_fixed {c d : Char} (hc : c ∈ fixedChars) : lowerOrKeep d = c ↔ d = c := by
  refine ⟨fun h => ?_, fun h => by rw [h]; exact lowerOrKeep_fixed hc⟩
  by_cases hd : IsDotted d
  · -- U+0130 is kept as it is
    have hkeep : lowerOrKeep d = d := by
      rw [eq_of_isDotted hd]
      decide
    rw [← hkeep, h]
  · rw [lowerOrKeep_of_not_isDotted hd] at h
    exact eq_of_lowerChar_eq_fixed hc h

/-- The shadow holds a fixed character exactly where the text does: where the
text holds a capital sigma the shadow holds a small one, which is not fixed. -/
theorem getElem?_shadow_eq_fixed {u : List Char} {k : Nat} {c : Char} (hc : c ∈ fixedChars) :
    (shadow u)[k]? = some c ↔ u[k]? = some c := by
  cases hk : u[k]? with
  | none =>
    have hnone : (shadow u)[k]? = none := by
      rw [List.getElem?_eq_none_iff, length_shadow]
      exact List.getElem?_eq_none_iff.mp hk
    simp [hnone]
  | some d =>
    by_cases hd : d = capitalSigma
    · subst hd
      have hS : capitalSigma ≠ c := fun h => absurd (h ▸ hc) (by decide)
      have hs : 'σ' ≠ c := fun h => absurd (h ▸ hc) (by decide)
      have hf : 'ς' ≠ c := fun h => absurd (h ▸ hc) (by decide)
      rcases getElem?_shadow_of_capitalSigma hk with h | h <;> simp [h, hS, hs, hf]
    · rw [getElem?_shadow hk hd, Option.some.injEq, Option.some.injEq, lowerOrKeep_eq_fixed hc]

/-- Texts with one shadow hold the fixed characters at the same places. -/
theorem getElem?_eq_fixed_of_shadow_eq {u u' : List Char} (h : shadow u = shadow u') {k : Nat}
    {c : Char} (hc : c ∈ fixedChars) : u[k]? = some c ↔ u'[k]? = some c := by
  rw [← getElem?_shadow_eq_fixed hc, h, getElem?_shadow_eq_fixed hc]

/-- A text with one shadow as a text without U+0130 holds none either. -/
theorem not_mem_dotted_of_shadow_eq {u u' : List Char} (h : shadow u = shadow u')
    (hu : 'İ' ∉ u) : 'İ' ∉ u' := by
  intro hmem
  obtain ⟨k, hk⟩ := List.mem_iff_getElem?.mp hmem
  exact hu (List.mem_of_getElem? ((getElem?_eq_fixed_of_shadow_eq h (by decide)).mpr hk))

theorem undotted_of_not_mem {u : List Char} (h : 'İ' ∉ u) : ∀ c ∈ u, ¬ IsDotted c :=
  fun _ hc hd => h (eq_of_isDotted hd ▸ hc)

/-! ### A quote cuts the lowercase form -/

set_option maxRecDepth 8000 in
/-- A quote is neither looked through nor cased. -/
theorem quote_uncased : isCaseIgnorable '"' = false ∧ isCasedSolid '"' = false :=
  ⟨CodeRanges.contains_eq_false (by decide), CodeRanges.contains_eq_false (by decide)⟩

/-- The form of a sigma looks ahead no further than the next quote. -/
theorem sigmaIsFinal_append_quote (before r y : List Char) :
    sigmaIsFinal before (r ++ '"' :: y) = sigmaIsFinal before r := by
  unfold sigmaIsFinal
  rw [List.dropWhile_append]
  cases h : r.dropWhile isCaseIgnorable with
  | nil => simp [quote_uncased]
  | cons c l => simp

/-- The form of a sigma looks back no further than the last quote. -/
theorem sigmaIsFinal_quote_behind (p q after : List Char) :
    sigmaIsFinal (p ++ '"' :: q) after = sigmaIsFinal p after := by
  unfold sigmaIsFinal
  rw [List.dropWhile_append]
  cases h : p.dropWhile isCaseIgnorable with
  | nil => simp [quote_uncased]
  | cons _ _ => simp

/-- What was passed before a quote does not change how the rest lowercases. -/
theorem lowerAfter_quote_behind (q : List Char) :
    ∀ (y p : List Char), lowerAfter (p ++ '"' :: q) y = lowerAfter p y
  | [], _ => rfl
  | c :: y, p => by
    rw [lowerAfter, lowerAfter, sigmaIsFinal_quote_behind, ← List.cons_append,
      lowerAfter_quote_behind q y (c :: p)]

theorem lowerAfter_append_quote (y : List Char) :
    ∀ (x before : List Char), lowerAfter before (x ++ '"' :: y) = lowerAfter before x ++ '"' :: lower y
  | [], before => by
    have hq : lowerFull '"' = ['"'] := by decide
    rw [List.nil_append, lowerAfter_nil, List.nil_append, lowerAfter, if_neg (by decide), hq,
      ← List.nil_append ('"' :: before), lowerAfter_quote_behind, lower, List.singleton_append]
  | c :: x, before => by
    rw [List.cons_append, lowerAfter, lowerAfter, sigmaIsFinal_append_quote,
      lowerAfter_append_quote y x (c :: before), List.append_assoc]

/-- Lowercasing splits at a quote. -/
theorem lower_append_quote (x y : List Char) : lower (x ++ '"' :: y) = lower x ++ '"' :: lower y :=
  lowerAfter_append_quote y x []

theorem lower_maskText : lower maskText = maskText := by decide

theorem length_lower {u : List Char} (hu : ∀ c ∈ u, ¬ IsDotted c) : (lower u).length = u.length := by
  rw [lower, length_lowerAfter, List.countP_eq_zero.mpr (fun c hc => by simpa using hu c hc)]
  rfl

/-- Without U+0130 the shadow is the lowercase form. -/
theorem shadow_of_undotted {u : List Char} (hu : ∀ c ∈ u, ¬ IsDotted c) : shadow u = lower u := by
  unfold shadow
  dsimp only
  rw [if_pos (length_lower hu)]

/-! ### Masking and lowercasing commute -/

theorem mem_maskFrom {t m : List Char} {c : Char} :
    ∀ (prev : Nat) (spans : List Span), c ∈ maskFrom t.toArray m prev spans → c ∈ t ∨ c ∈ m
  | prev, [], h => by
    rw [maskFrom_toArray_nil] at h
    exact .inl (List.mem_of_mem_drop h)
  | prev, s :: rest, h => by
    rw [maskFrom_toArray_cons, List.mem_append, List.mem_append] at h
    rcases h with (h | h) | h
    · exact .inl (List.mem_of_mem_drop (List.mem_of_mem_take h))
    · exact .inr h
    · exact mem_maskFrom s.stop rest h

/-- Masking brings in no U+0130. -/
theorem undotted_mask {u : List Char} (hu : ∀ c ∈ u, ¬ IsDotted c) (spans : List Span) :
    ∀ c ∈ Span.mask u spans, ¬ IsDotted c := by
  intro c hc
  rcases mem_maskFrom 0 spans hc with h | h
  · exact hu c h
  · have hstar : c = '*' := by simpa [maskText] using h
    subst hstar
    decide

/-- A quoted interior cuts its text into what stands before its opening quote,
the interior, and what stands after its closing quote. -/
theorem Quoted.eq_parts {u : List Char} {s : Span} (h : Quoted u s) :
    ∃ x v y, u = x ++ '"' :: (v ++ '"' :: y) ∧ s = ⟨x.length + 1, x.length + 1 + v.length⟩ := by
  have hpos := h.pos
  have hle := h.le
  obtain ⟨hlt₁, hq₁⟩ := List.getElem?_eq_some_iff.mp h.opens
  obtain ⟨hlt₂, hq₂⟩ := List.getElem?_eq_some_iff.mp h.closes
  have hopen : u.drop (s.start - 1) = '"' :: u.drop s.start := by
    rw [List.drop_eq_getElem_cons hlt₁, hq₁, Nat.sub_add_cancel hpos]
  have hclose : u.drop s.stop = '"' :: u.drop (s.stop + 1) := by
    rw [List.drop_eq_getElem_cons hlt₂, hq₂]
  have hmid : (u.drop s.start).take (s.stop - s.start) ++ u.drop s.stop = u.drop s.start := by
    rw [show u.drop s.stop = (u.drop s.start).drop (s.stop - s.start) by
      rw [List.drop_drop, Nat.add_sub_cancel' hle], List.take_append_drop]
  have hx : (u.take (s.start - 1)).length = s.start - 1 := by
    rw [List.length_take]
    omega
  have hv : ((u.drop s.start).take (s.stop - s.start)).length = s.stop - s.start := by
    rw [List.length_take, List.length_drop]
    omega
  refine ⟨u.take (s.start - 1), (u.drop s.start).take (s.stop - s.start), u.drop (s.stop + 1), ?_, ?_⟩
  · rw [← hclose, hmid, ← hopen, List.take_append_drop]
  · rw [hx, hv, Nat.sub_add_cancel hpos, Nat.add_sub_cancel' hle]

theorem mask_parts (x v y : List Char) :
    Span.mask (x ++ '"' :: (v ++ '"' :: y)) [⟨x.length + 1, x.length + 1 + v.length⟩] =
      x ++ '"' :: (maskText ++ '"' :: y) := by
  have htake : (x ++ '"' :: (v ++ '"' :: y)).take (x.length + 1) = x ++ ['"'] := by
    rw [show x ++ '"' :: (v ++ '"' :: y) = (x ++ ['"']) ++ (v ++ '"' :: y) by simp,
      List.take_left' (by simp)]
  have hdrop : (x ++ '"' :: (v ++ '"' :: y)).drop (x.length + 1 + v.length) = '"' :: y := by
    rw [show x ++ '"' :: (v ++ '"' :: y) = (x ++ ['"'] ++ v) ++ '"' :: y by simp,
      List.drop_left' (by simp; omega)]
  rw [mask_single, htake, hdrop]
  simp

/-- Without U+0130, masking one quoted interior commutes with lowercasing. -/
theorem lower_mask_single {u : List Char} {s : Span} (hu : ∀ c ∈ u, ¬ IsDotted c)
    (h : Quoted u s) : lower (Span.mask u [s]) = Span.mask (lower u) [s] := by
  obtain ⟨x, v, y, rfl, rfl⟩ := h.eq_parts
  have hx : (lower x).length = x.length := length_lower fun c hc => hu c (by simp [hc])
  have hv : (lower v).length = v.length := length_lower fun c hc => hu c (by simp [hc])
  rw [mask_parts, lower_append_quote, lower_append_quote, lower_maskText, lower_append_quote,
    lower_append_quote, ← hx, ← hv, mask_parts]

/-- Without U+0130, masking quoted interiors commutes with lowercasing. The
spans are masked from the right, each leaving the text before it as it was. -/
theorem lower_mask (spans : List Span) : ∀ {u : List Char}, (∀ c ∈ u, ¬ IsDotted c) →
    (∀ s ∈ spans, Quoted u s) → spans.Pairwise (fun a b => a.stop < b.start) →
    lower (Span.mask u spans) = Span.mask (lower u) spans := by
  induction spans using List.reverseRecOn with
  | nil => intros; simp
  | append_singleton init s ih =>
    intro u hu hq hp
    have hs := hq s (by simp)
    have hlen := (List.getElem?_eq_some_iff.mp hs.closes).1
    have hsle := hs.le
    have hbefore : ∀ x ∈ init, x.start ≤ s.start ∧ x.stop ≤ s.start := by
      intro x hx
      have := (List.pairwise_append.mp hp).2.2 x hx s (by simp)
      have := (hq x (by simp [hx])).le
      omega
    -- the spans before the last are still quoted once the last is masked
    have hq' : ∀ x ∈ init, Quoted (Span.mask u [s]) x := by
      intro x hx
      have hqx := hq x (by simp [hx])
      have hxs := (List.pairwise_append.mp hp).2.2 x hx s (by simp)
      have := hqx.le
      refine ⟨hqx.pos, hqx.le, ?_, ?_⟩
      · rw [getElem?_mask_single_of_lt (by omega) (by omega)]
        exact hqx.opens
      · rw [getElem?_mask_single_of_lt hxs (by omega)]
        exact hqx.closes
    rw [mask_append_single maskText (by omega) hbefore,
      ih (undotted_mask hu [s]) hq' (List.pairwise_append.mp hp).1, lower_mask_single hu hs,
      ← mask_append_single maskText (by rw [length_lower hu]; omega) hbefore]

/-- Without U+0130, the shadow of a text with quoted interiors masked is its
shadow with them masked. -/
theorem shadow_mask {u : List Char} {spans : List Span} (hu : ∀ c ∈ u, ¬ IsDotted c)
    (hq : ∀ s ∈ spans, Quoted u s) (hp : spans.Pairwise (fun a b => a.stop < b.start)) :
    shadow (Span.mask u spans) = Span.mask (shadow u) spans := by
  rw [shadow_of_undotted (undotted_mask hu spans), shadow_of_undotted hu, lower_mask spans hu hq hp]

/-! ### The shadow lines up with the text -/

/-- `d` is a lowercase form of `c` one character long: its form out of context,
or for a capital sigma the final form that lowercasing in context may pick. -/
def LowersTo (c d : Char) : Prop := lowerFull c = [d] ∨ (c = capitalSigma ∧ d = 'ς')

/-- A character is kept in the shadow built one character at a time, or
lowercased there to one character. -/
theorem lowerOrKeep_cases (c : Char) : lowerOrKeep c = c ∨ LowersTo c (lowerOrKeep c) := by
  unfold lowerOrKeep
  split
  · rename_i d hd
    exact .inr (.inl hd)
  · exact .inl rfl

/-- At each position the shadow holds the text's character or a lowercase form
of it one character long. -/
theorem getElem?_shadow_lowersTo {u : List Char} {k : Nat} {c : Char} (hk : u[k]? = some c) :
    ∃ d, (shadow u)[k]? = some d ∧ (d = c ∨ LowersTo c d) := by
  by_cases hc : c = capitalSigma
  · -- lowercasing in context picks the medial or the final form
    subst hc
    have hmedial : lowerFull capitalSigma = ['σ'] := by
      set_option maxRecDepth 8000 in decide
    rcases getElem?_shadow_of_capitalSigma hk with h | h
    · exact ⟨'σ', h, .inr (.inl hmedial)⟩
    · exact ⟨'ς', h, .inr (.inr ⟨rfl, rfl⟩)⟩
  · exact ⟨_, getElem?_shadow hk hc, lowerOrKeep_cases c⟩

/-- **The shadow lines up with the text.** It is as long as the text; at each
position it holds the text's character or a lowercase form of it one character
long; it holds a quote, a colon, a backslash, a space or a tab exactly where
the text does. So a key read in the shadow at some position is read in the text
at the same position without regard to case. -/
theorem shadow_lines_up (u : List Char) :
    (shadow u).length = u.length ∧
    (∀ (k : Nat) c, u[k]? = some c → ∃ d, (shadow u)[k]? = some d ∧ (d = c ∨ LowersTo c d)) ∧
    (∀ k : Nat, ∀ c ∈ ['"', ':', '\\', ' ', '\t'], (shadow u)[k]? = some c ↔ u[k]? = some c) ∧
    (∀ key (p : Nat), Text.occursAt key (shadow u).toArray p = true →
      ∀ j (hj : j < key.length), ∃ c, u[p + j]? = some c ∧ (key[j] = c ∨ LowersTo c key[j])) := by
  have hfixed : ∀ c ∈ ['"', ':', '\\', ' ', '\t'], c ∈ fixedChars := by
    intro c hc
    simp only [List.mem_cons, List.not_mem_nil, or_false] at hc
    rcases hc with rfl | rfl | rfl | rfl | rfl <;> decide
  refine ⟨length_shadow u, fun k c hk => getElem?_shadow_lowersTo hk,
    fun k c hc => getElem?_shadow_eq_fixed (u := u) (k := k) (hfixed c hc), ?_⟩
  intro key p hocc j hj
  have hkey : (shadow u)[p + j]? = some key[j] := by
    simpa using occursAt_eq_true_iff.mp hocc j hj
  have hp : p + j < u.length := by
    rw [← length_shadow u]
    exact (List.getElem?_eq_some_iff.mp hkey).1
  obtain ⟨d, hd, hcd⟩ := getElem?_shadow_lowersTo (List.getElem?_eq_getElem hp)
  rw [Option.some.inj (hkey.symm.trans hd)]
  exact ⟨_, List.getElem?_eq_getElem hp, hcd⟩

end MaskedLog.Redact

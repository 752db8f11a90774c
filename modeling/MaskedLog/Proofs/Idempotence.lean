import MaskedLog.Proofs.Batching
/-!
# Redaction leaves only masks

After redaction a pass for any field finds nothing but masks: each key of the
field in the redacted text is followed by no string value or by `"***"`, so
redacting again changes nothing. This holds for names that a mask can neither
make, nor hide from a key before it, nor tell apart from an overlapping key:
plain names with no colon. With a colon in the name, two keys may overlap in
`"a:b"a:b"` and read different values; the pass finds only the first, and once
another field's mask takes the first away, the second is found.

The proof runs through sequential redaction. One invariant carries it: a key
is *settled* when the value after it, if any, is the mask. Masking any value
keeps the keys of a plain name settled (`allSettled_mask`), sequential
redaction for a name settles all of its keys (`allSettled_seqFrom`), and where
all keys are settled sequential redaction changes nothing
(`seqFrom_of_allSettled`).

## Main definitions

* `SimpleName` — a plain name in lowercase with no colon.
* `Settled`, `SettledBefore`, `AllSettled` — values after keys that are masks.

## Main results

* `allSettled_mask` — masking a value keeps every key of a plain name settled.
* `allSettled_seqRedactNames` — after sequential redaction every key of every
  field is settled.
* `redact_leaves_only_masks` — after redaction by simple names, a pass for any
  field finds only masks, and redacting again changes nothing.

## References

`bodylog/redact/scanner.py` (`RedactionScanner.redact`).
-/

namespace MaskedLog.Redact

open MaskedLog.Text MaskedLog.Unicode

/-- A name no mask can make or hide: a plain name with no colon, in the
lowercase form a scanner holds. -/
structure SimpleName (name : List Char) : Prop extends PlainName name where
  no_colon : ':' ∉ name
  lower_eq : lower name = name

instance : DecidablePred SimpleName := fun name =>
  decidable_of_iff (PlainName name ∧ ':' ∉ name ∧ lower name = name)
    ⟨fun ⟨a, b, c⟩ => ⟨a, b, c⟩, fun ⟨a, b, c⟩ => ⟨a, b, c⟩⟩

/-- The string value after position `i` of `u`, if there is one, is the mask. -/
def Settled (u : List Char) (i : Nat) : Prop :=
  ∀ s, valueAfter u.toArray i = some s →
    s.stop = s.start + 3 ∧ ∀ j, j < 3 → u[s.start + j]? = some '*'

/-- Every key of `name` in `u` that starts before position `i` is settled. -/
def SettledBefore (name u : List Char) (i : Nat) : Prop :=
  ∀ p, p < i → occursAt (quoted name) (localShadow u).toArray p = true →
    Settled u (p + (quoted name).length)

/-- Every key of `name` in `u` is settled. -/
def AllSettled (name u : List Char) : Prop :=
  ∀ p, occursAt (quoted name) (localShadow u).toArray p = true →
    Settled u (p + (quoted name).length)

/-! ### Masks -/

theorem take_drop_eq_maskText {u : List Char} {s : Span} (hstop : s.stop = s.start + 3)
    (hstars : ∀ j, j < 3 → u[s.start + j]? = some '*') :
    (u.drop s.start).take (s.stop - s.start) = maskText := by
  rw [hstop, Nat.add_sub_cancel_left]
  apply List.ext_getElem?
  intro j
  rw [List.getElem?_take, List.getElem?_drop]
  by_cases hj : j < 3
  · rw [if_pos hj, hstars j hj]
    match j, hj with
    | 0, _ | 1, _ | 2, _ => rfl
  · rw [if_neg hj, List.getElem?_eq_none (by rw [length_maskText]; omega)]

/-- Masking a value that already is the mask changes nothing. -/
theorem mask_of_stars {u : List Char} {s : Span} (hstop : s.stop = s.start + 3)
    (hstars : ∀ j, j < 3 → u[s.start + j]? = some '*') : Span.mask u [s] = u := by
  have hmask := take_drop_eq_maskText hstop hstars
  rw [hstop, Nat.add_sub_cancel_left] at hmask
  rw [mask_single, hstop, ← hmask, ← List.drop_drop, List.append_assoc, List.take_append_drop,
    List.take_append_drop]

theorem settled_of_none {u : List Char} {i : Nat} (h : valueAfter u.toArray i = none) :
    Settled u i := by
  intro s hs
  rw [h] at hs
  cases hs

theorem settled_congr {u : List Char} {i j : Nat}
    (h : valueAfter u.toArray i = valueAfter u.toArray j) : Settled u i ↔ Settled u j := by
  unfold Settled
  rw [h]

/-! ### Keys and the text around them -/

theorem occursAt_quoted_bound {name : List Char} {s : Array Char} {p : Nat}
    (h : occursAt (quoted name) s p = true) : p + (quoted name).length ≤ s.size := by
  have hend := occursAt_quoted_char h (j := name.length + 1) (by omega)
  rw [getElem?_quoted_last] at hend
  have := (Array.getElem?_eq_some_iff.mp hend).1
  rw [length_quoted]
  omega

/-- A search from a position finds a first occurrence no later than a known one. -/
theorem indexIn_le_of_occursAt {key : List Char} {s : Array Char} {i k : Nat}
    (hk : occursAt key s k = true) (hb : k + key.length ≤ s.size) (hi : i ≤ k) :
    ∃ k', indexIn key s i = some k' ∧ k' ≤ k := by
  cases h : indexIn key s i with
  | none =>
    have := occursAt_of_indexIn_none h k hi hb
    rw [hk] at this
    cases this
  | some k' =>
    refine ⟨k', rfl, Nat.le_of_not_lt fun hlt => ?_⟩
    have := (indexIn_spec h).2 k hi hlt
    rw [hk] at this
    cases this

theorem getElem?_localShadow_of_agree {u v : List Char} {j : Nat} (h : v[j]? = u[j]?) :
    (localShadow v)[j]? = (localShadow u)[j]? := by
  simp only [localShadow, List.getElem?_map, h]

/-- A key reads a text only through its own characters. -/
theorem occursAt_localShadow_of_agree {name u v : List Char} {p : Nat}
    (h : ∀ j, p ≤ j → j < p + (quoted name).length → v[j]? = u[j]?) :
    occursAt (quoted name) (localShadow v).toArray p =
      occursAt (quoted name) (localShadow u).toArray p :=
  occursAt_of_agree fun j h₁ h₂ => by
    simp only [List.getElem?_toArray]
    exact getElem?_localShadow_of_agree (h j h₁ h₂)

/-- The value after a key of a name with no colon is found alike from anywhere
inside the key: the colon search passes over the rest of the key. -/
theorem valueAfter_in_key {name w : List Char} (hname : ':' ∉ name) {p j : Nat}
    (hocc : occursAt (quoted name) (localShadow w).toArray p = true) (hj : p ≤ j)
    (hj' : j ≤ p + (quoted name).length) :
    valueAfter w.toArray j = valueAfter w.toArray (p + (quoted name).length) := by
  cases hc : indexIn [':'] w.toArray j with
  | none => simp only [valueAfter, hc, indexIn_none_of_le hc hj']
  | some k =>
    obtain ⟨hjk, hcolon, -⟩ := indexIn_colon hc
    simp only [List.getElem?_toArray] at hcolon
    have hk : p + (quoted name).length ≤ k := by
      by_contra hlt
      -- the colon would be a character of the key
      have hch := occursAt_quoted_char hocc (j := k - p) (by rw [length_quoted] at hlt; omega)
      rw [show p + (k - p) = k by omega,
        getElem?_localShadow_of_ascii hcolon (by decide) (by decide)] at hch
      exact not_mem_quoted hname (by decide) (List.mem_of_getElem? hch.symm)
    exact (valueAfter_of_le hc hj' hk).symm

/-! ### A masked value seen from before it -/

section Mask

variable {u : List Char} {n₀ k : Nat} {s : Span}

theorem getElem?_mask_of_lt (hv : valueAfter u.toArray n₀ = some s) {j : Nat} (hj : j < s.start) :
    (Span.mask u [s])[j]? = u[j]? := by
  have hsc := valueAfter_scanned hv
  have := hsc.stop_lt_length
  have := hsc.start_le_stop
  exact getElem?_mask_single_of_lt hj (by omega)

theorem getElem?_mask_toArray_of_lt (hv : valueAfter u.toArray n₀ = some s) {j : Nat}
    (hj : j < s.start) : (Span.mask u [s]).toArray[j]? = u.toArray[j]? := by
  simp only [List.getElem?_toArray]
  exact getElem?_mask_of_lt hv hj

/-- The colon before a value is where it was once the value is masked. -/
theorem indexIn_colon_mask (hv : valueAfter u.toArray n₀ = some s)
    (hk : indexIn [':'] u.toArray n₀ = some k) :
    indexIn [':'] (Span.mask u [s]).toArray n₀ = some k := by
  obtain ⟨k', hk', hstart, -, -⟩ := valueAfter_eq_some hv
  rw [hk] at hk'
  cases hk'
  have hkb := (skipBlanks_spec u.toArray (k + 1)).1
  exact indexIn_of_agree (by simp) hk fun j hj => getElem?_mask_toArray_of_lt hv (by simp at hj; omega)

/-- The value a search finds is the mask once it is masked. -/
theorem valueAfter_mask_self (hv : valueAfter u.toArray n₀ = some s) :
    valueAfter (Span.mask u [s]).toArray n₀ = some ⟨s.start, s.start + 3⟩ := by
  have hsc := valueAfter_scanned hv
  have hq : u[s.stop]? = some '"' := by simpa using hsc.closes_quote
  exact valueAfter_of_agree hv (fun j hj => getElem?_mask_toArray_of_lt hv hj)
    (closingQuote_mask_single hsc.start_le_stop hsc.stop_lt_length hq)

/-- What a search from before the colon of a masked value finds: the mask, or a
value that closes before the mask and was there before. The search cannot run
past the mask's opening quote, which follows a colon or a blank and so is no
escaped quote. -/
theorem valueAfter_mask_of_le (hv : valueAfter u.toArray n₀ = some s)
    (hk : indexIn [':'] u.toArray n₀ = some k) {i : Nat} (hi : i ≤ k) {s' : Span}
    (h : valueAfter (Span.mask u [s]).toArray i = some s') :
    s' = ⟨s.start, s.start + 3⟩ ∨ (valueAfter u.toArray i = some s' ∧ s'.stop < s.start) := by
  have hsc := valueAfter_scanned hv
  obtain ⟨k₀, hk₀, hstart, hopen, -⟩ := valueAfter_eq_some hv
  rw [hk] at hk₀
  cases hk₀
  have hkb := (skipBlanks_spec u.toArray (k + 1)).1
  have hagree := fun j (hj : j < s.start) => getElem?_mask_toArray_of_lt hv hj
  -- the first colon from `i` is no later than the value's colon, and the same in both texts
  have hcolon := (indexIn_colon hk).2.1
  obtain ⟨k₁, hk₁, hk₁k⟩ := indexIn_le_of_occursAt (occursAt_singleton.mpr hcolon)
    (by
      have := (Array.getElem?_eq_some_iff.mp hcolon).1
      simp only [List.size_toArray, List.length_singleton] at this ⊢
      omega) hi
  have hk₁' : indexIn [':'] (Span.mask u [s]).toArray i = some k₁ :=
    indexIn_of_agree (by simp) hk₁ fun j hj => hagree j (by simp at hj; omega)
  obtain ⟨k', hk', hstart', hopen', hclose'⟩ := valueAfter_eq_some h
  rw [hk₁'] at hk'
  cases hk'
  -- the blanks after it end at the value's opening quote at the latest
  obtain ⟨hmb, hblank⟩ := skipBlanks_spec u.toArray (k₁ + 1)
  have hm : skipBlanks u.toArray (k₁ + 1) ≤ s.start - 1 := by
    by_contra hlt
    rcases hblank (s.start - 1) (by omega) (by omega) with hb | hb <;>
      · rw [show s.start - 1 = skipBlanks u.toArray (k + 1) by omega, hopen] at hb
        cases hb
  have hskip : skipBlanks (Span.mask u [s]).toArray (k₁ + 1) = skipBlanks u.toArray (k₁ + 1) :=
    skipBlanks_of_agree _ fun j _ hj => hagree j (by omega)
  rw [hskip] at hstart' hopen'
  rcases Nat.eq_or_lt_of_le hm with heq | hlt
  · -- the search reaches the mask's opening quote
    left
    have hq : u[s.stop]? = some '"' := by simpa using hsc.closes_quote
    rw [hstart', heq, show s.start - 1 + 1 = s.start by omega,
      closingQuote_mask_single hsc.start_le_stop hsc.stop_lt_length hq] at hclose'
    cases s'
    simp only at hstart' hclose'
    rw [hstart', heq, show s.start - 1 + 1 = s.start by omega, Option.some.inj hclose']
  · -- the search finds a string that closes before the mask's opening quote
    right
    set m := skipBlanks u.toArray (k₁ + 1)
    have hq : u.toArray[m]? = some '"' := (hagree m (by omega)) ▸ hopen'
    obtain ⟨c, hc, hlead⟩ := hsc.lead
    obtain ⟨e, he, hce⟩ := closingQuote_le_of_quote (j := s.start - 1) (i := m + 1)
      (by rw [show s.start - 1 = skipBlanks u.toArray (k + 1) by omega]; exact hopen)
      (fun _ hb => by
        rw [show s.start - 1 - 1 = s.start - 2 by omega, hc] at hb
        exact LeadsValue.ne_backslash hlead (Option.some.inj hb)) (by omega)
    have hce' : closingQuote (Span.mask u [s]).toArray (m + 1) = some e :=
      closingQuote_of_agree (fun j hj => hagree j (by omega)) hce
    rw [hstart', hce'] at hclose'
    have hs' : s' = ⟨m + 1, e⟩ := by
      cases s'
      simp only at hstart' hclose'
      rw [hstart', Option.some.inj hclose']
    subst hs'
    refine ⟨?_, by simp only; omega⟩
    rw [valueAfter_of_colon hk₁ hq, hce]
    rfl

/-- A key before the colon of a value stays settled when the value is masked,
and so does a key whose value it is. -/
theorem settled_mask_of_le (hv : valueAfter u.toArray n₀ = some s)
    (hk : indexIn [':'] u.toArray n₀ = some k) {i : Nat} (hi : i ≤ k)
    (h : Settled u i ∨ valueAfter u.toArray i = some s) : Settled (Span.mask u [s]) i := by
  have hsc := valueAfter_scanned hv
  intro s' hs'
  rcases valueAfter_mask_of_le hv hk hi hs' with rfl | ⟨hu, hlt⟩
  · exact ⟨rfl, (getElem?_mask_at hsc.start_le_stop hsc.stop_lt_length).1⟩
  · rcases h with h | h
    · obtain ⟨hstop, hstars⟩ := h s' hu
      exact ⟨hstop, fun j hj => by rw [getElem?_mask_of_lt hv (by omega)]; exact hstars j hj⟩
    · rw [h] at hu
      cases hu
      have := hsc.start_le_stop
      omega

/-- A key before a masked value ends before its colon and is a key of the text
before the mask. -/
theorem key_before_mask {name : List Char} (hname : PlainName name)
    (hv : valueAfter u.toArray n₀ = some s) (hk : indexIn [':'] u.toArray n₀ = some k) {p : Nat}
    (hocc : occursAt (quoted name) (localShadow (Span.mask u [s])).toArray p = true)
    (hp : p + 1 < s.start) :
    p + (quoted name).length ≤ k ∧ occursAt (quoted name) (localShadow u).toArray p = true := by
  have hend := key_end_le_colon hname (valueAfter_mask_self hv) (indexIn_colon_mask hv hk) hocc hp
  obtain ⟨k', hk', hstart, -, -⟩ := valueAfter_eq_some hv
  rw [hk] at hk'
  cases hk'
  have hkb := (skipBlanks_spec u.toArray (k + 1)).1
  refine ⟨hend, ?_⟩
  rw [← occursAt_localShadow_of_agree fun j _ hj => getElem?_mask_of_lt hv (by omega)]
  exact hocc

end Mask

/-! ### Keys past a mask -/

theorem settled_append (x y : List Char) (j : Nat) :
    Settled (x ++ y) (x.length + j) ↔ Settled y j := by
  unfold Settled
  rw [valueAfter_append]
  constructor
  · intro h s hs
    obtain ⟨hstop, hstars⟩ := h _ (by rw [hs]; rfl)
    simp only [Span.offset_start, Span.offset_stop] at hstop hstars
    refine ⟨by omega, fun i hi => ?_⟩
    have := hstars i hi
    rwa [Nat.add_assoc, getElem?_append_length] at this
  · intro h s' hs'
    obtain ⟨s, hs, rfl⟩ := Option.map_eq_some_iff.mp hs'
    obtain ⟨hstop, hstars⟩ := h s hs
    simp only [Span.offset_start, Span.offset_stop]
    exact ⟨by omega, fun i hi => by rw [Nat.add_assoc, getElem?_append_length]; exact hstars i hi⟩

/-- A key in the tail of a text is settled there as in the tail alone. -/
theorem keySettled_append {name : List Char} (x y : List Char) (j : Nat) :
    (occursAt (quoted name) (localShadow (x ++ y)).toArray (x.length + j) = true →
        Settled (x ++ y) (x.length + j + (quoted name).length)) ↔
      (occursAt (quoted name) (localShadow y).toArray j = true →
        Settled y (j + (quoted name).length)) := by
  have hocc := occursAt_append (localShadow x) (y := localShadow y) (quoted name) j
  rw [length_localShadow] at hocc
  rw [localShadow_append, hocc, Nat.add_assoc, settled_append]

/-- Masking a value keeps every key of a plain name settled: a key before the
value ends before its colon and reads what it read, a key past the value reads
the same rest of the text, and no key starts at the mask. -/
theorem allSettled_mask {name u : List Char} (hname : PlainName name) {n₀ : Nat} {s : Span}
    (hv : valueAfter u.toArray n₀ = some s) (h : AllSettled name u) :
    AllSettled name (Span.mask u [s]) := by
  have hsc := valueAfter_scanned hv
  have hss := hsc.start_le_stop
  have hlen := hsc.stop_lt_length
  have hq : u[s.stop]? = some '"' := by simpa using hsc.closes_quote
  obtain ⟨k, hk, -, -, -⟩ := valueAfter_eq_some hv
  intro p hocc
  by_cases hbefore : p + 1 < s.start
  · obtain ⟨hend, hocc'⟩ := key_before_mask hname hv hk hocc hbefore
    exact settled_mask_of_le hv hk hend (.inl (h p hocc'))
  · by_cases hafter : s.start + 3 ≤ p
    · have hx : (u.take s.start ++ maskText).length = s.start + 3 := by
        simp [length_maskText]
        omega
      have hx' : (u.take s.stop).length = s.stop := by simp; omega
      have hrest : occursAt (quoted name) (localShadow (u.drop s.stop)).toArray (p - (s.start + 3)) =
          true → Settled (u.drop s.stop) (p - (s.start + 3) + (quoted name).length) := by
        have hu : AllSettled name (u.take s.stop ++ u.drop s.stop) := by
          rwa [List.take_append_drop]
        exact (keySettled_append _ _ _).mp (hu _)
      have hmask := (@keySettled_append name (u.take s.start ++ maskText) (u.drop s.stop)
        (p - (s.start + 3))).mpr hrest
      rw [hx, show s.start + 3 + (p - (s.start + 3)) = p by omega, ← mask_single] at hmask
      exact hmask hocc
    · exact (key_not_at_mask hname hss hlen hq hocc (by omega) (by omega)).elim

/-! ### Sequential redaction settles its keys -/

section Simple

variable {name : List Char}

/-- A step of sequential redaction settles the key it finds and the keys before
it, which the mask leaves settled; a key overlapping the one found reads the
same value, the name having no colon. -/
theorem settledBefore_seqStep (hname : SimpleName name) {u u' : List Char} {i i' : Nat}
    (h : SettledBefore name u i) (hstep : seqStep name u i = some (u', i')) :
    SettledBefore name u' i' := by
  obtain ⟨hσ, hς⟩ := hname.sigma_quoted
  obtain ⟨p₀, hp₀, rfl, hval⟩ := seqStep_eq_some hstep
  rw [indexIn_shadow hσ hς] at hp₀
  obtain ⟨-, hfirst⟩ := indexIn_spec hp₀
  have hip₀ := (indexIn_bounds _ _ _ _ hp₀).1
  -- a key at or after `i` that starts before the end of the key found starts at it or inside it
  have hfrom : ∀ p, i ≤ p → occursAt (quoted name) (localShadow u).toArray p = true → p₀ ≤ p :=
    fun p hp hocc => Nat.le_of_not_lt fun hlt => by
      rw [hfirst p hp hlt] at hocc
      cases hocc
  intro p hp hocc
  rcases hval with ⟨hnone, rfl⟩ | ⟨s, hs, rfl⟩
  · rcases Nat.lt_or_ge p i with hpi | hpi
    · exact h p hpi hocc
    · have hp₀p := hfrom p hpi hocc
      rw [← settled_congr (valueAfter_in_key hname.no_colon hocc (j := p₀ + (quoted name).length)
        (by omega) (by omega))]
      exact settled_of_none hnone
  · obtain ⟨k, hk, hstart, -, -⟩ := valueAfter_eq_some hs
    have hkn := (indexIn_colon hk).1
    have hkb := (skipBlanks_spec u.toArray (k + 1)).1
    obtain ⟨hend, hocc'⟩ := key_before_mask hname.toPlainName hs hk hocc (by omega)
    rcases Nat.lt_or_ge p i with hpi | hpi
    · exact settled_mask_of_le hs hk hend (.inl (h p hpi hocc'))
    · have hp₀p := hfrom p hpi hocc'
      rw [← settled_congr (valueAfter_in_key hname.no_colon hocc (j := p₀ + (quoted name).length)
        (by omega) (by omega))]
      exact settled_mask_of_le hs hk hkn (.inr hs)

/-- Sequential redaction for a simple name settles all of its keys. -/
theorem allSettled_seqFrom (hname : SimpleName name) :
    ∀ u i, SettledBefore name u i → AllSettled name (seqFrom name u i) := by
  obtain ⟨hσ, hς⟩ := hname.sigma_quoted
  intro u i
  induction u, i using seqFrom.induct name with
  | case1 u i hnone =>
    intro h p hocc
    rw [seqFrom_of_none hnone] at hocc ⊢
    -- no key is left from `i` on
    have hL : indexIn (quoted name) (localShadow u).toArray i = none := by
      rw [← indexIn_shadow hσ hς]
      exact seqStep_eq_none.mp hnone
    refine h p (Nat.lt_of_not_le fun hip => ?_) hocc
    rw [occursAt_of_indexIn_none hL p hip (occursAt_quoted_bound hocc)] at hocc
    cases hocc
  | case2 u i u' i' hstep ih =>
    intro h
    rw [seqFrom_of_some hstep]
    exact ih (settledBefore_seqStep hname h hstep)

end Simple

/-- Sequential redaction for any name keeps the keys of a plain name settled:
each of its steps masks a value or nothing. -/
theorem allSettled_seqFrom_of_plain {name : List Char} (hname : PlainName name) (g : List Char) :
    ∀ u i, AllSettled name u → AllSettled name (seqFrom g u i) := by
  intro u i
  induction u, i using seqFrom.induct g with
  | case1 u i hnone =>
    intro h
    rw [seqFrom_of_none hnone]
    exact h
  | case2 u i u' i' hstep ih =>
    intro h
    obtain ⟨p, -, rfl, hval⟩ := seqStep_eq_some hstep
    rw [seqFrom_of_some hstep]
    apply ih
    rcases hval with ⟨-, rfl⟩ | ⟨s, hs, rfl⟩
    · exact h
    · exact allSettled_mask hname hs h

/-- Where every key of a plain name is settled, sequential redaction for it
masks only masks. -/
theorem seqFrom_of_allSettled {name : List Char} (hname : PlainName name) :
    ∀ u i, AllSettled name u → seqFrom name u i = u := by
  obtain ⟨hσ, hς⟩ := hname.sigma_quoted
  intro u i
  induction u, i using seqFrom.induct name with
  | case1 u i hnone =>
    intro _
    exact seqFrom_of_none hnone
  | case2 u i u' i' hstep ih =>
    intro h
    obtain ⟨p, hp, rfl, hval⟩ := seqStep_eq_some hstep
    rw [indexIn_shadow hσ hς] at hp
    rw [seqFrom_of_some hstep]
    rcases hval with ⟨-, rfl⟩ | ⟨s, hs, rfl⟩
    · exact ih h
    · obtain ⟨hstop, hstars⟩ := h p (indexIn_spec hp).1 s hs
      rw [mask_of_stars hstop hstars] at ih ⊢
      exact ih h

/-! ### All the names -/

theorem allSettled_seqRedactNames_of_plain {name : List Char} (hname : PlainName name) :
    ∀ (names : List (List Char)) (u : List Char), AllSettled name u →
      AllSettled name (seqRedactNames names u)
  | [], _, h => h
  | g :: rest, u, h =>
    allSettled_seqRedactNames_of_plain hname rest _ (allSettled_seqFrom_of_plain hname g u 0 h)

/-- After sequential redaction by simple names every key of every name is
settled: a name's own pass settles its keys, and the later passes keep them so. -/
theorem allSettled_seqRedactNames :
    ∀ (names : List (List Char)), (∀ n ∈ names, SimpleName n) →
      ∀ t, ∀ f ∈ names, AllSettled f (seqRedactNames names t)
  | [], _, _, f, hf => absurd hf List.not_mem_nil
  | g :: rest, h, t, f, hf => by
    have hrest : ∀ n ∈ rest, SimpleName n := fun n hn => h n (List.mem_cons_of_mem _ hn)
    rcases List.mem_cons.mp hf with rfl | hf'
    · have hown := allSettled_seqFrom (h f List.mem_cons_self) t 0 fun p hp => absurd hp (by omega)
      exact allSettled_seqRedactNames_of_plain (h f List.mem_cons_self).toPlainName rest _ hown
    · exact allSettled_seqRedactNames rest hrest _ f hf'

theorem seqRedactNames_of_allSettled :
    ∀ (names : List (List Char)), (∀ n ∈ names, PlainName n) →
      ∀ u, (∀ n ∈ names, AllSettled n u) → seqRedactNames names u = u
  | [], _, _, _ => rfl
  | g :: rest, h, u, hu => by
    have hg : seqFrom g u 0 = u := seqFrom_of_allSettled (h g List.mem_cons_self) u 0
      (hu g List.mem_cons_self)
    show seqRedactNames rest (seqFrom g u 0) = u
    rw [hg]
    exact seqRedactNames_of_allSettled rest (fun n hn => h n (List.mem_cons_of_mem _ hn)) u
      (fun n hn => hu n (List.mem_cons_of_mem _ hn))

/-! ### What a pass finds -/

theorem mem_record {found : List Span} {v : Option Span} {s : Span} (h : s ∈ record found v) :
    s ∈ found ∨ v = some s := by
  cases v with
  | none => exact .inl h
  | some v =>
    simp only [record] at h
    split_ifs at h
    · exact .inl h
    · rcases List.mem_cons.mp h with rfl | h
      · exact .inr rfl
      · exact .inl h

/-- Every span a pass finds is the value after a key. -/
theorem passFrom_keyed {t sh : Array Char} {name : List Char} :
    ∀ from_ found, (∀ s ∈ found, ∃ p, occursAt (quoted name) sh p = true ∧
        valueAfter t (p + (quoted name).length) = some s) →
      ∀ s ∈ passFrom t sh name from_ found, ∃ p, occursAt (quoted name) sh p = true ∧
        valueAfter t (p + (quoted name).length) = some s := by
  intro from_ found
  induction from_, found using passFrom.induct t sh name with
  | case1 from_ found hnone =>
    intro h s hs
    rw [passFrom_of_none hnone, List.mem_reverse] at hs
    exact h s hs
  | case2 from_ found pos hpos stop hr ih =>
    rw [passFrom_of_resume hpos hr]
    exact ih
  | case3 from_ found pos hpos hr _ ih =>
    intro h
    rw [passFrom_of_key hpos hr]
    refine ih fun s hs => ?_
    rcases mem_record hs with hs | hs
    · exact h s hs
    · exact ⟨pos, (indexIn_spec hpos).1, hs⟩

/-- After redaction by simple names, a pass for any of them finds only masks,
and redacting again changes nothing. -/
theorem redact_leaves_only_masks (sc : Scanner) (hsc : ∀ f ∈ sc.fields, SimpleName f.toList)
    (t : String) :
    (∀ f ∈ sc.fields, ∀ s ∈ findSpans (sc.redact t) f,
        ((sc.redact t).toList.drop s.start).take (s.stop - s.start) = maskText) ∧
      sc.redact (sc.redact t) = sc.redact t := by
  have hnames : ∀ n ∈ sc.fields.map String.toList, SimpleName n := by
    intro n hn
    obtain ⟨f, hf, rfl⟩ := List.mem_map.mp hn
    exact hsc f hf
  have hplain : ∀ n ∈ sc.fields.map String.toList, PlainName n := fun n hn => (hnames n hn).toPlainName
  have hR : (sc.redact t).toList = seqRedactNames (sc.fields.map String.toList) t.toList := by
    rw [Scanner.redact, String.toList_ofList, Scanner.redactChars,
      redactNames_eq_seqRedactNames _ hplain]
  have hsettled := allSettled_seqRedactNames _ hnames t.toList
  refine ⟨fun f hf s hs => ?_, ?_⟩
  · obtain ⟨hσ, hς⟩ := (hsc f hf).sigma_quoted
    rw [findSpans, hR, (hsc f hf).lower_eq] at hs
    obtain ⟨p, hocc, hv⟩ := passFrom_keyed 0 [] (by simp) s hs
    rw [occursAt_shadow hσ hς] at hocc
    obtain ⟨hstop, hstars⟩ := hsettled _ (List.mem_map_of_mem hf) p hocc s hv
    rw [hR]
    exact take_drop_eq_maskText hstop hstars
  · conv_lhs => rw [Scanner.redact, Scanner.redactChars, hR, redactNames_eq_seqRedactNames _ hplain,
      seqRedactNames_of_allSettled _ hplain _ hsettled]
    rw [← hR, String.ofList_toList]

/-- Every default field is a simple name. -/
theorem simpleName_defaultFields : ∀ f ∈ defaultFields, SimpleName f.toList := by
  decide

theorem redact_leaves_only_masks_default :
    (∀ f ∈ Scanner.default.fields, SimpleName f.toList) ∧
      (∀ f ∈ Scanner.default.fields,
          ∀ s ∈ findSpans (Scanner.default.redact "\x7b\"Token\": \"a\\\"b\", \"pwd\":\"c\"\x7d") f,
            ((Scanner.default.redact "\x7b\"Token\": \"a\\\"b\", \"pwd\":\"c\"\x7d").toList.drop
                s.start).take (s.stop - s.start) = maskText) ∧
        Scanner.default.redact (Scanner.default.redact "\x7b\"Token\": \"a\\\"b\", \"pwd\":\"c\"\x7d") =
          Scanner.default.redact "\x7b\"Token\": \"a\\\"b\", \"pwd\":\"c\"\x7d" :=
  ⟨simpleName_defaultFields, redact_leaves_only_masks _ simpleName_defaultFields _⟩

end MaskedLog.Redact

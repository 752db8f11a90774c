import MaskedLog.Proofs.Sequential
/-!
# Masking a pass at once is masking one value at a time

A pass finds its keys in the shadow of the text before the pass and masks all
the values it found at once. Sequential redaction masks each value before it
looks for the next key, in a shadow recomputed each time. The two agree for a
plain name: one without a quote, whose last character leads no value (a colon,
a space or a tab), that is not the mask itself, and without a small sigma, so
that a key is found in the shadow where it is found character by character.

The proof cuts the text at the first key. When no value follows it, both go on
right after the key. When a value follows, sequential redaction masks it at
once, and the batched pass may meet more keys before it is past the value: a
key before the value's opening quote finds the same value again (it cannot end
inside the colon, the blanks or the quote), and a key at the opening quote or
inside the value is skipped, where sequential redaction sees only the mask. So
both come out right after the value, and the rest of the text is a text of its
own, shorter than the first.

## Main definitions

* `PlainName` — the names for which the two readings agree.

## Main results

* `key_end_le_colon`, `valueAfter_of_key_before` — a key that starts before a
  value ends before that value's colon and finds that value.
* `passFrom_pending`, `seqFrom_pending` — both move past a value just found.
* `seqFrom_eq_mask_pass` — for one plain name, sequential redaction masks the
  spans of a pass.
* `redact_eq_seqRedact` — **redaction is sequential redaction** when every field
  is a plain name.
* `redact_ne_seqRedact_colon_key` — a field that ends in a colon parts them.

## References

`bodylog/redact/scanner.py` (`RedactionScanner.redact`, `apply_edits`).
-/

namespace MaskedLog.Redact

open MaskedLog.Text

instance : DecidablePred LeadsValue := fun c =>
  inferInstanceAs (Decidable (c = ':' ∨ c = ' ' ∨ c = '\t'))

/-- A name for which batched and sequential redaction agree: no quote, no small
sigma, a last character that leads no value, and not the mask. -/
structure PlainName (name : List Char) : Prop where
  no_quote : '"' ∉ name
  no_sigma : 'σ' ∉ name
  no_final_sigma : 'ς' ∉ name
  last_leads_no_value : ∀ c ∈ name.getLast?, ¬ LeadsValue c
  ne_mask : name ≠ maskText

instance : DecidablePred PlainName := fun name =>
  -- over the last character only, never over every character
  have : Decidable (∀ c ∈ name.getLast?, ¬ LeadsValue c) := Option.decidableForallMem _
  decidable_of_iff ('"' ∉ name ∧ 'σ' ∉ name ∧ 'ς' ∉ name ∧
      (∀ c ∈ name.getLast?, ¬ LeadsValue c) ∧ name ≠ maskText)
    ⟨fun ⟨a, b, c, d, e⟩ => ⟨a, b, c, d, e⟩, fun ⟨a, b, c, d, e⟩ => ⟨a, b, c, d, e⟩⟩

/-! ### Reading a key -/

theorem getElem?_quoted_zero (name : List Char) : (quoted name)[0]? = some '"' := rfl

theorem getElem?_quoted_succ (name : List Char) {j : Nat} (hj : j < name.length) :
    (quoted name)[j + 1]? = name[j]? := by
  simp [quoted, List.getElem?_append_left hj]

theorem getElem?_quoted_last (name : List Char) : (quoted name)[name.length + 1]? = some '"' := by
  simp [quoted]

theorem not_mem_quoted {name : List Char} {c : Char} (hc : c ∉ name) (hq : c ≠ '"') :
    c ∉ quoted name := by
  simp [quoted, hc, hq]

/-- A small sigma is no character of the quoted form of a plain name. -/
theorem PlainName.sigma_quoted {name : List Char} (h : PlainName name) :
    'σ' ∉ quoted name ∧ 'ς' ∉ quoted name :=
  ⟨not_mem_quoted h.no_sigma (by decide), not_mem_quoted h.no_final_sigma (by decide)⟩

theorem occursAt_quoted_char {name : List Char} {s : Array Char} {p j : Nat}
    (h : occursAt (quoted name) s p = true) (hj : j < name.length + 2) :
    s[p + j]? = (quoted name)[j]? := by
  have hj' : j < (quoted name).length := by rw [length_quoted]; exact hj
  rw [occursAt_eq_true_iff.mp h j hj', List.getElem?_eq_getElem hj']

theorem getElem?_localShadow_of_ascii {u : List Char} {i : Nat} {c : Char} (h : u[i]? = some c)
    (hc : c.toNat < 128) (hup : ¬ (65 ≤ c.toNat ∧ c.toNat ≤ 90)) :
    (localShadow u).toArray[i]? = some c := by
  rw [List.getElem?_toArray, getElem?_localShadow h, lowerOrKeep_of_ascii hc hup]

theorem LeadsValue.ascii {c : Char} (h : LeadsValue c) :
    c.toNat < 128 ∧ ¬ (65 ≤ c.toNat ∧ c.toNat ≤ 90) := by
  rcases h with rfl | rfl | rfl <;> decide

/-! ### A key before a value -/

section Plain

variable {name : List Char}

/-- A key that starts before the opening quote of a value ends before the colon
of that value: its closing quote can be neither the colon, nor a blank, nor the
opening quote (a plain name does not end in what leads a value), and the opening
quote cannot lie inside it. -/
theorem key_end_le_colon (hname : PlainName name) {w : List Char} {n₀ pos k : Nat} {s : Span}
    (hv : valueAfter w.toArray n₀ = some s) (hk : indexIn [':'] w.toArray n₀ = some k)
    (hocc : occursAt (quoted name) (localShadow w).toArray pos = true) (hpos : pos + 1 < s.start) :
    pos + (quoted name).length ≤ k := by
  obtain ⟨k', hk', hstart, hq, -⟩ := valueAfter_eq_some hv
  rw [hk] at hk'
  cases hk'
  obtain ⟨hkb, hblank⟩ := skipBlanks_spec w.toArray (k + 1)
  have hcolon := (indexIn_colon hk).2.1
  obtain ⟨c, hc, hlead⟩ := (valueAfter_scanned hv).lead
  simp only [List.getElem?_toArray] at hq hcolon hc hblank
  rw [length_quoted]
  by_contra hlt
  -- the key's closing quote sits at `e`, at or after the colon
  have hclose := occursAt_quoted_char hocc (j := name.length + 1) (by omega)
  rw [getElem?_quoted_last] at hclose
  rcases Nat.lt_trichotomy (pos + (name.length + 1)) (skipBlanks w.toArray (k + 1)) with he | he | he
  · -- between the colon and the opening quote stand the colon and blanks
    have hw : ∃ d, w[pos + (name.length + 1)]? = some d ∧ (d = ':' ∨ d = ' ' ∨ d = '\t') := by
      rcases Nat.eq_or_lt_of_le (show k ≤ pos + (name.length + 1) by omega) with heq | hgt
      · exact ⟨':', heq ▸ hcolon, .inl rfl⟩
      · rcases hblank _ (by omega) he with h | h
        · exact ⟨' ', h, .inr (.inl rfl)⟩
        · exact ⟨'\t', h, .inr (.inr rfl)⟩
    obtain ⟨d, hd, hdl⟩ := hw
    obtain ⟨hasc, hup⟩ := LeadsValue.ascii hdl
    rw [getElem?_localShadow_of_ascii hd hasc hup] at hclose
    exact LeadsValue.ne_quote hdl (Option.some.inj hclose)
  · -- the key would end at the opening quote, after a character that leads a value
    obtain ⟨hasc, hup⟩ := LeadsValue.ascii hlead
    have hlast : (localShadow w).toArray[s.start - 2]? = some c :=
      getElem?_localShadow_of_ascii hc hasc hup
    by_cases hn0 : name.length = 0
    · have hopen := occursAt_quoted_char hocc (j := 0) (by omega)
      rw [getElem?_quoted_zero, show pos + 0 = s.start - 2 by omega, hlast] at hopen
      exact LeadsValue.ne_quote hlead (Option.some.inj hopen)
    · have hd := occursAt_quoted_char hocc (j := name.length - 1 + 1) (by omega)
      rw [getElem?_quoted_succ _ (by omega),
        show pos + (name.length - 1 + 1) = s.start - 2 by omega, hlast] at hd
      have hl : name.getLast? = some c := by
        rw [List.getLast?_eq_getElem?]
        exact hd.symm
      exact hname.last_leads_no_value c hl hlead
  · -- the opening quote would lie inside the key, a quote in the name
    have hin := occursAt_quoted_char hocc (j := skipBlanks w.toArray (k + 1) - pos) (by omega)
    rw [show skipBlanks w.toArray (k + 1) - pos = (skipBlanks w.toArray (k + 1) - pos - 1) + 1 by
        omega, getElem?_quoted_succ _ (by omega), show pos + ((skipBlanks w.toArray (k + 1) - pos - 1)
        + 1) = skipBlanks w.toArray (k + 1) by omega,
      getElem?_localShadow_of_ascii hq (by decide) (by decide)] at hin
    exact hname.no_quote (List.mem_of_getElem? hin.symm)

/-- A key that starts before the opening quote of a value found from no later
than the key finds that value again. -/
theorem valueAfter_of_key_before (hname : PlainName name) {w : List Char} {n₀ pos : Nat}
    {s : Span} (hv : valueAfter w.toArray n₀ = some s)
    (hocc : occursAt (quoted name) (localShadow w).toArray pos = true) (hn : n₀ ≤ pos)
    (hpos : pos + 1 < s.start) :
    valueAfter w.toArray (pos + (quoted name).length) = some s ∧
      pos + (quoted name).length < s.start := by
  obtain ⟨k, hk, hstart, -, -⟩ := valueAfter_eq_some hv
  have hkb := (skipBlanks_spec w.toArray (k + 1)).1
  have hend := key_end_le_colon hname hv hk hocc hpos
  exact ⟨(valueAfter_of_le hk (by omega) hend).trans hv, by omega⟩

/-! ### The batched pass past a value -/

theorem resumeAfter_single (s : Span) (pos : Nat) :
    resumeAfter [s] pos = if s.start ≤ pos + 1 ∧ pos < s.stop then some s.stop else none := by
  simp [resumeAfter]

/-- While the last span found lies ahead, the batched pass either finds that same
value again from a key before it or skips a key at or inside it: either way it
goes on as from the span's stop. -/
theorem passFrom_pending (hname : PlainName name) {w : List Char} {n₀ : Nat} {s : Span}
    (hv : valueAfter w.toArray n₀ = some s) :
    ∀ from_ found, found = [s] → n₀ ≤ from_ → from_ < s.start →
      passFrom w.toArray (localShadow w).toArray name from_ found =
        passFrom w.toArray (localShadow w).toArray name s.stop [s] := by
  intro from_ found
  induction from_, found using passFrom.induct w.toArray (localShadow w).toArray name with
  | case1 from_ found hnone =>
    rintro rfl - hlt
    rw [passFrom_of_none hnone, passFrom_of_none (indexIn_none_of_le hnone (by
      have := (valueAfter_scanned hv).start_le_stop; omega))]
  | case2 from_ found pos hpos stop hr ih =>
    rintro rfl - -
    rw [resumeAfter_single] at hr
    split at hr
    · cases hr
      exact passFrom_of_resume hpos (by rw [resumeAfter_single]; split <;> simp_all)
    · cases hr
  | case3 from_ found pos hpos hr _ ih =>
    rintro rfl h₀ hlt
    have hfrom := (indexIn_bounds _ _ _ _ hpos).1
    rw [resumeAfter_single] at hr
    have hout : ¬ (s.start ≤ pos + 1 ∧ pos < s.stop) := by
      intro h
      rw [if_pos h] at hr
      cases hr
    rw [passFrom_of_key hpos (by rw [resumeAfter_single]; exact hr)]
    by_cases hbefore : pos + 1 < s.start
    · -- a key before the value finds it again, and the record keeps one copy
      obtain ⟨hval, hnext⟩ :=
        valueAfter_of_key_before hname hv (indexIn_spec hpos).1 (by omega) hbefore
      have hrec : record [s] (valueAfter w.toArray (pos + (quoted name).length)) = [s] := by
        rw [hval]
        simp [record]
      exact ih hrec (by omega) hnext
    · -- the key lies past the value, where the search from its stop finds it too
      have hafter : s.stop ≤ pos := by omega
      have hss := (valueAfter_scanned hv).start_le_stop
      rw [passFrom_of_key (indexIn_of_le hpos (by omega) hafter)
        (by rw [resumeAfter_single]; exact hr)]

/-- A span found before where the pass stands plays no part in the rest of it. -/
theorem passFrom_append_settled {t sh : Array Char} {s : Span} :
    ∀ from_ found, s.stop ≤ from_ →
      passFrom t sh name from_ (found ++ [s]) = s :: passFrom t sh name from_ found := by
  intro from_ found
  induction from_, found using passFrom.induct t sh name with
  | case1 from_ found hnone =>
    intro _
    rw [passFrom_of_none hnone, passFrom_of_none hnone]
    simp
  | case2 from_ found pos hpos stop hr ih =>
    intro hs
    have hfrom := (indexIn_bounds _ _ _ _ hpos).1
    have hstop := lt_of_resumeAfter hr
    obtain ⟨last, rest, rfl⟩ : ∃ last rest, found = last :: rest := by
      cases found with
      | nil => cases hr
      | cons last rest => exact ⟨last, rest, rfl⟩
    rw [passFrom_of_resume hpos (by simpa [resumeAfter] using hr), passFrom_of_resume hpos hr]
    exact ih (by omega)
  | case3 from_ found pos hpos hr _ ih =>
    intro hs
    have hfrom := (indexIn_bounds _ _ _ _ hpos).1
    have hr' : resumeAfter (found ++ [s]) pos = none := by
      cases found with
      | nil => simp [resumeAfter]; omega
      | cons last rest => simpa [resumeAfter] using hr
    -- a value found from past the span is not the span
    have hrec : record (found ++ [s]) (valueAfter t (pos + (quoted name).length)) =
        record found (valueAfter t (pos + (quoted name).length)) ++ [s] := by
      cases hv : valueAfter t (pos + (quoted name).length) with
      | none => rfl
      | some v =>
        cases found with
        | nil =>
          obtain ⟨k, hk, hstart, -, -⟩ := valueAfter_eq_some hv
          have hkn := (indexIn_colon hk).1
          have hkb := (skipBlanks_spec t (k + 1)).1
          have hvs := (valueAfter_scanned hv).start_le_stop
          have hne : s ≠ v := by
            rintro rfl
            omega
          simp [record, hne]
        | cons last rest => simp [record]; split <;> simp
    rw [passFrom_of_key hpos hr', passFrom_of_key hpos hr, hrec]
    exact ih (by omega)

/-! ### Sequential redaction past a value -/

/-- The text with one value masked, read around the mask: three stars, then the
value's closing character. -/
theorem getElem?_mask_at {w : List Char} {s : Span} (hs : s.start ≤ s.stop)
    (hlen : s.stop < w.length) :
    (∀ j, j < 3 → (Span.mask w [s])[s.start + j]? = some '*') ∧
      (Span.mask w [s])[s.start + 3]? = w[s.stop]? := by
  have hx : (w.take s.start).length = s.start := by simp; omega
  rw [mask_single]
  refine ⟨fun j hj => ?_, ?_⟩
  · have hm : (w.take s.start ++ maskText ++ w.drop s.stop)[s.start + j]? = maskText[j]? := by
      rw [List.append_assoc, List.getElem?_append_right (by omega), hx, Nat.add_sub_cancel_left,
        List.getElem?_append_left (by rw [length_maskText]; exact hj)]
    rw [hm]
    match j, hj with
    | 0, _ | 1, _ | 2, _ => rfl
  · rw [List.getElem?_append_right (by rw [List.length_append, hx, length_maskText]),
      List.length_append, hx, length_maskText, Nat.sub_self, List.getElem?_drop, Nat.add_zero]

/-- The scan of a masked value runs over the three stars to the value's closing
quote. -/
theorem closingQuote_mask_single {w : List Char} {s : Span} (hs : s.start ≤ s.stop)
    (hlen : s.stop < w.length) (hq : w[s.stop]? = some '"') :
    closingQuote (Span.mask w [s]).toArray s.start = some (s.start + 3) := by
  have hx : (w.take s.start).length = s.start := by simp; omega
  have hu : ∀ k, (w.take s.start ++ (maskText ++ w.drop s.stop)).toArray[k + (w.take s.start).length]? =
      (maskText ++ w.drop s.stop).toArray[k]? := fun k => by
    simp only [List.getElem?_toArray, Nat.add_comm k, getElem?_append_length]
  have hshift := closingQuote_shift hu 0
  rw [Nat.zero_add, closingQuote_maskText (by rw [List.head?_drop, hq]), hx] at hshift
  rw [mask_single, List.append_assoc, hshift]
  simp [Nat.add_comm]

/-- Masking the mask again changes nothing. -/
theorem mask_mask_single {w : List Char} {s : Span} (hs : s.start ≤ w.length) :
    Span.mask (Span.mask w [s]) [⟨s.start, s.start + 3⟩] = Span.mask w [s] := by
  have hx : (w.take s.start).length = s.start := by simp; omega
  rw [mask_single maskText w s, mask_single]
  rw [List.drop_left' (by simp [hx, length_maskText]), List.append_assoc (w.take s.start),
    List.take_left' hx, List.append_assoc]

theorem seqStep_eq_none {name u : List Char} {i : Nat} :
    seqStep name u i = none ↔ indexIn (quoted name) (shadow u).toArray i = none := by
  simp [seqStep]

theorem seqStep_congr {name u : List Char} {i i' : Nat}
    (h : indexIn (quoted name) (shadow u).toArray i = indexIn (quoted name) (shadow u).toArray i') :
    seqStep name u i = seqStep name u i' := by
  unfold seqStep
  rw [h]

/-- A key of a plain name cannot start at a mask's opening quote or inside it. -/
theorem key_not_at_mask (hname : PlainName name) {w : List Char} {s : Span}
    (hs : s.start ≤ s.stop) (hlen : s.stop < w.length) (hq : w[s.stop]? = some '"') {p : Nat}
    (hocc : occursAt (quoted name) (localShadow (Span.mask w [s])).toArray p = true)
    (hp : s.start ≤ p + 1) (hp3 : p < s.start + 3) : False := by
  obtain ⟨hstars, hclose⟩ := getElem?_mask_at hs hlen
  rw [hq] at hclose
  have hstar : ∀ j, j < 3 →
      (localShadow (Span.mask w [s])).toArray[s.start + j]? = some '*' :=
    fun j hj => getElem?_localShadow_of_ascii (hstars j hj) (by decide) (by decide)
  have hquote : (localShadow (Span.mask w [s])).toArray[s.start + 3]? = some '"' :=
    getElem?_localShadow_of_ascii hclose (by decide) (by decide)
  have hopen := occursAt_quoted_char hocc (j := 0) (by omega)
  rw [getElem?_quoted_zero, Nat.add_zero] at hopen
  by_cases hin : s.start ≤ p
  · -- a key starts with a quote, and the mask holds stars
    rw [show p = s.start + (p - s.start) by omega, hstar _ (by omega)] at hopen
    cases hopen
  · -- at the opening quote the name would be read over the stars
    obtain rfl : p = s.start - 1 := by omega
    have hname_at : ∀ j, j < name.length →
        (localShadow (Span.mask w [s])).toArray[s.start + j]? = name[j]? := fun j hj => by
      have := occursAt_quoted_char hocc (j := j + 1) (by omega)
      rwa [getElem?_quoted_succ _ hj, show s.start - 1 + (j + 1) = s.start + j by omega] at this
    rcases Nat.lt_trichotomy name.length 3 with hn | hn | hn
    · have hend := occursAt_quoted_char hocc (j := name.length + 1) (by omega)
      rw [getElem?_quoted_last, show s.start - 1 + (name.length + 1) = s.start + name.length by
        omega, hstar _ hn] at hend
      cases hend
    · apply hname.ne_mask
      apply List.ext_getElem? 
      intro j
      by_cases hj : j < 3
      · rw [← hname_at j (by omega), hstar j hj]
        match j, hj with
        | 0, _ | 1, _ | 2, _ => rfl
      · rw [List.getElem?_eq_none (by omega), List.getElem?_eq_none (by simp [length_maskText]; omega)]
    · have h3 := hname_at 3 hn
      rw [hquote] at h3
      exact hname.no_quote (List.mem_of_getElem? h3.symm)

/-- While a value just masked lies ahead, sequential redaction meets keys before
it, which find the mask and leave it as it is, and no key at or inside it: it
goes on as from the mask's closing quote. -/
theorem seqFrom_pending (hname : PlainName name) {w : List Char} {n₀ : Nat} {s : Span}
    (hv : valueAfter w.toArray n₀ = some s) :
    ∀ u i, u = Span.mask w [s] → n₀ ≤ i → i < s.start →
      seqFrom name u i = seqFrom name (Span.mask w [s]) (s.start + 3) := by
  have hsc := valueAfter_scanned hv
  have hss := hsc.start_le_stop
  have hlen := hsc.stop_lt_length
  have hq : w[s.stop]? = some '"' := by simpa using hsc.closes_quote
  have hagree : ∀ i, i < s.start → (Span.mask w [s]).toArray[i]? = w.toArray[i]? := by
    intro i hi
    simp only [List.getElem?_toArray]
    exact getElem?_mask_single_of_lt hi (by omega)
  have hv' : valueAfter (Span.mask w [s]).toArray n₀ = some ⟨s.start, s.start + 3⟩ :=
    valueAfter_of_agree hv hagree (closingQuote_mask_single hss hlen hq)
  obtain ⟨hσ, hς⟩ := hname.sigma_quoted
  intro u i
  induction u, i using seqFrom.induct name with
  | case1 u i hnone =>
    rintro rfl - hlt
    have hL : indexIn (quoted name) (localShadow (Span.mask w [s])).toArray i = none := by
      rw [← indexIn_shadow hσ hς]
      exact seqStep_eq_none.mp hnone
    rw [seqFrom_of_none hnone, seqFrom_of_none (seqStep_eq_none.mpr
      (by rw [indexIn_shadow hσ hς]; exact indexIn_none_of_le hL (by omega)))]
  | case2 u i u' i' hstep ih =>
    rintro rfl h₀ hlt
    obtain ⟨p, hp, rfl, hval⟩ := seqStep_eq_some hstep
    rw [indexIn_shadow hσ hς] at hp
    have hpi := (indexIn_bounds _ _ _ _ hp).1
    have hocc := (indexIn_spec hp).1
    by_cases hfar : s.start + 3 ≤ p
    · -- the key lies past the mask, where the search from the closing quote finds it too
      exact seqFrom_congr (seqStep_congr (by
        rw [indexIn_shadow hσ hς, indexIn_shadow hσ hς, hp, indexIn_of_le hp (by omega) hfar]))
    · -- the key starts before the opening quote and finds the mask, which stays
      have hbefore : p + 1 < s.start := by
        by_contra hge
        exact key_not_at_mask hname hss hlen hq hocc (by omega) (by omega)
      obtain ⟨hval', hnext⟩ := valueAfter_of_key_before hname hv' hocc (by omega) hbefore
      have hu' : u' = Span.mask w [s] := by
        rcases hval with ⟨-, rfl⟩ | ⟨v, hv'', rfl⟩
        · rfl
        · rw [hval'] at hv''
          cases hv''
          exact mask_mask_single (by omega)
      rw [seqFrom_of_some hstep]
      exact ih hu' (by omega) hnext

/-! ### One name -/

/-- A pass from a position of a text is the pass over the rest of the text, moved. -/
theorem passFrom_drop (w : List Char) {n : Nat} (hn : n ≤ w.length) :
    passFrom w.toArray (localShadow w).toArray name n [] =
      (passFrom (w.drop n).toArray (localShadow (w.drop n)).toArray name 0 []).map
        (Span.offset n) := by
  have hx : (w.take n).length = n := by simp; omega
  have h := @passFrom_append (w.take n) (w.drop n) (localShadow (w.take n))
    (localShadow (w.drop n)) (length_localShadow _) name 0 []
  rw [← localShadow_append, List.take_append_drop, hx, Nat.add_zero, List.map_nil] at h
  exact h

theorem mask_offset_drop (w : List Char) {n : Nat} (hn : n ≤ w.length) (spans : List Span) :
    Span.mask w (spans.map (Span.offset n)) = w.take n ++ Span.mask (w.drop n) spans := by
  have hx : (w.take n).length = n := by simp; omega
  have h := mask_append_offset (w.take n) (y := w.drop n) spans maskText
  rwa [List.take_append_drop, hx] at h

theorem seqFrom_drop (hσ : 'σ' ∉ quoted name) (hς : 'ς' ∉ quoted name) (w : List Char) {n : Nat}
    (hn : n ≤ w.length) : seqFrom name w n = w.take n ++ seqFrom name (w.drop n) 0 := by
  have hx : (w.take n).length = n := by simp; omega
  have h := seqFrom_append hσ hς (w.take n) (w.drop n) 0
  rwa [List.take_append_drop, hx, Nat.add_zero] at h

/-- Masking a span and then spans after its stop. -/
theorem mask_cons_offset (w : List Char) {s : Span} (hlen : s.stop ≤ w.length) (spans : List Span) :
    Span.mask w (s :: spans.map (Span.offset s.stop)) =
      w.take s.start ++ maskText ++ Span.mask (w.drop s.stop) spans := by
  have hx : (w.take s.stop).length = s.stop := by simp; omega
  have h := maskFrom_offset (w.take s.stop) (y := w.drop s.stop) maskText spans 0
  rw [List.take_append_drop, hx, Nat.add_zero] at h
  unfold Span.mask
  rw [maskFrom_toArray_cons, h, List.drop_zero, Nat.sub_zero]

/-- For a plain name, sequential redaction of a text masks exactly the spans of
one pass over it. The induction is on the length of the text: both readings go
on after the first key, or after its value, as over the rest of the text. -/
theorem seqFrom_eq_mask_pass (hname : PlainName name) (w : List Char) :
    seqFrom name w 0 = Span.mask w (passFrom w.toArray (localShadow w).toArray name 0 []) := by
  obtain ⟨hσ, hς⟩ := hname.sigma_quoted
  induction hw : w.length using Nat.strong_induction_on generalizing w with
  | _ len ih =>
  cases hkey : indexIn (quoted name) (localShadow w).toArray 0 with
  | none =>
    rw [seqFrom_of_none (seqStep_eq_none.mpr (by rw [indexIn_shadow hσ hς]; exact hkey)),
      passFrom_of_none hkey]
    simp
  | some pos =>
    have hb := indexIn_bounds _ _ _ _ hkey
    simp only [List.size_toArray, length_localShadow] at hb
    have hm : 2 ≤ (quoted name).length := by simp [length_quoted]
    rw [passFrom_of_key hkey rfl]
    cases hval : valueAfter w.toArray (pos + (quoted name).length) with
    | none =>
      -- no value after the key: both go on right after it
      have hstep : seqStep name w 0 = some (w, pos + (quoted name).length) := by
        simp [seqStep, indexIn_shadow hσ hς, hkey, hval]
      rw [seqFrom_of_some hstep, record, seqFrom_drop hσ hς w hb.2, passFrom_drop w hb.2,
        mask_offset_drop w hb.2, ih _ (by simp; omega) _ rfl]
    | some s =>
      -- a value after the key: both go on right after the value
      obtain ⟨k, hk, hstart, -, -⟩ := valueAfter_eq_some hval
      have hkn := (indexIn_colon hk).1
      have hkb := (skipBlanks_spec w.toArray (k + 1)).1
      have hsc := valueAfter_scanned hval
      have hss := hsc.start_le_stop
      have hlen := hsc.stop_lt_length
      have hx : (w.take s.start ++ maskText).length = s.start + 3 := by
        simp [length_maskText]
        omega
      have hseq : seqFrom name w 0 =
          (w.take s.start ++ maskText) ++ seqFrom name (w.drop s.stop) 0 := by
        have hstep : seqStep name w 0 = some (Span.mask w [s], pos + (quoted name).length) := by
          simp [seqStep, indexIn_shadow hσ hς, hkey, hval]
        rw [seqFrom_of_some hstep, seqFrom_pending hname hval _ _ rfl le_rfl (by omega)]
        have := seqFrom_append hσ hς (w.take s.start ++ maskText) (w.drop s.stop) 0
        rwa [hx, Nat.add_zero, ← mask_single maskText w s] at this
      have hbatch : passFrom w.toArray (localShadow w).toArray name
          (pos + (quoted name).length) (record [] (some s)) =
          s :: (passFrom (w.drop s.stop).toArray (localShadow (w.drop s.stop)).toArray name 0
            []).map (Span.offset s.stop) := by
        rw [show record [] (some s) = [s] from rfl,
          passFrom_pending hname hval _ _ rfl le_rfl (by omega),
          show ([s] : List Span) = [] ++ [s] from rfl, passFrom_append_settled _ _ le_rfl,
          passFrom_drop w (by omega)]
      rw [hseq, hbatch, mask_cons_offset w (by omega), ih _ (by simp; omega) _ rfl]

/-- A pass reads the shadow only through the key search, so for a plain name it
may read the local shadow instead. -/
theorem passFrom_congr_shadow {t sh sh' : Array Char}
    (h : ∀ i, indexIn (quoted name) sh i = indexIn (quoted name) sh' i) :
    ∀ from_ found, passFrom t sh name from_ found = passFrom t sh' name from_ found := by
  intro from_ found
  induction from_, found using passFrom.induct t sh name with
  | case1 from_ found hnone =>
    rw [passFrom_of_none hnone, passFrom_of_none ((h from_).symm.trans hnone)]
  | case2 from_ found pos hpos stop hr ih =>
    rw [passFrom_of_resume hpos hr, passFrom_of_resume ((h from_).symm.trans hpos) hr, ih]
  | case3 from_ found pos hpos hr _ ih =>
    rw [passFrom_of_key hpos hr, passFrom_of_key ((h from_).symm.trans hpos) hr, ih]

/-- For a plain name, one pass masks what sequential redaction masks. -/
theorem mask_pass_eq_seqFrom (hname : PlainName name) (u : List Char) :
    Span.mask u (pass u (shadow u) name) = seqFrom name u 0 := by
  obtain ⟨hσ, hς⟩ := hname.sigma_quoted
  rw [pass, passFrom_congr_shadow (fun i => indexIn_shadow hσ hς u i), seqFrom_eq_mask_pass hname]

end Plain

/-! ### All the names -/

/-- A pass masks the spans it finds; the shadow that goes on is that of the
result, also when the pass finds nothing. -/
theorem maskPass_shadow (t name : List Char) :
    maskPass (t, shadow t) name =
      (Span.mask t (pass t (shadow t) name), shadow (Span.mask t (pass t (shadow t) name))) := by
  unfold maskPass
  dsimp only
  split
  · rename_i h
    rw [List.isEmpty_iff.mp h, Span.mask_nil]
  · rfl

theorem redactNames_eq_foldl (names : List (List Char)) (t : List Char) :
    redactNames names t = names.foldl (fun u name => Span.mask u (pass u (shadow u) name)) t := by
  unfold redactNames
  induction names generalizing t with
  | nil => rfl
  | cons name rest ih => rw [List.foldl_cons, maskPass_shadow, ih, List.foldl_cons]

theorem redactNames_eq_seqRedactNames (names : List (List Char))
    (h : ∀ name ∈ names, PlainName name) (t : List Char) :
    redactNames names t = seqRedactNames names t := by
  rw [redactNames_eq_foldl, seqRedactNames]
  induction names generalizing t with
  | nil => rfl
  | cons name rest ih =>
    rw [List.foldl_cons, List.foldl_cons, mask_pass_eq_seqFrom (h name List.mem_cons_self)]
    exact ih (fun n hn => h n (List.mem_cons_of_mem _ hn)) _

/-- Redaction is sequential redaction when every field is a plain name: masking
the values a pass finds all at once gives the text that masking them one at a
time, each in the text the last one left, gives. -/
theorem redact_eq_seqRedact (sc : Scanner) (hsc : ∀ f ∈ sc.fields, PlainName f.toList)
    (t : String) : sc.redact t = sc.seqRedact t := by
  rw [Scanner.redact, Scanner.seqRedact, Scanner.redactChars, redactNames_eq_seqRedactNames]
  intro name hname
  obtain ⟨f, hf, rfl⟩ := List.mem_map.mp hname
  exact hsc f hf

/-- Every default field is a plain name. -/
theorem plainName_defaultFields : ∀ f ∈ defaultFields, PlainName f.toList := by
  decide

theorem redact_eq_seqRedact_default :
    (∀ f ∈ Scanner.default.fields, PlainName f.toList) ∧
      Scanner.default.redact "\x7b\"Password\": \"a\\\"b\", \"token\":\"c\"\x7d" =
        Scanner.default.seqRedact "\x7b\"Password\": \"a\\\"b\", \"token\":\"c\"\x7d" :=
  ⟨plainName_defaultFields, redact_eq_seqRedact _ plainName_defaultFields _⟩

/-- A key that ends in a colon parts the two readings. Batched, the second key
`"a:"` reads the colon inside the first key's value and masks the next value as
well; one at a time, that colon is gone under the mask when the second key is
read. -/
theorem redact_ne_seqRedact_colon_key :
    (Scanner.mk ["a:"]).redact "\"a:\"\"a:\"x:\"y\"" = "\"a:\"\"a:\"***\"***\"" ∧
      (Scanner.mk ["a:"]).seqRedact "\"a:\"\"a:\"x:\"y\"" = "\"a:\"\"a:\"***\"y\"" := by
  decide +kernel

end MaskedLog.Redact

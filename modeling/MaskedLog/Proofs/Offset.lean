import MaskedLog.Proofs.Shadow
import MaskedLog.Proofs.Layout
/-!
# Reading a text from a position on

Every search of a pass reads forward: the key search, the colon search, the
blanks, the value scan. So a text `x ++ y` read from a position in `y` is `y`
read on its own, every position moved by the length of `x`. The same holds of a
whole pass started in `y`, and masking spans of `y` inside `x ++ y` keeps `x`.
These are the lemmas that let a proof about redaction cut off the part of a text
it is done with.

The search for a key is also the one place where a pass reads the shadow, and
for a key without a small sigma it reads it as the local shadow, which
lowercases each character alone: the local shadow of `x ++ y` is that of `x`
followed by that of `y`.

## Main definitions

* `Span.offset` — a span moved right.

## Main results

* `indexIn_congr`, `indexIn_shadow` — a key without a small sigma is found in the
  shadow where it is found in the local shadow.
* `indexIn_append`, `skipBlanks_append`, `valueAfter_append`, `passFrom_append` —
  reading the tail of a text is reading it on its own.
* `mask_append_offset` — masking spans of the tail keeps the head.
* `indexIn_of_agree`, `valueAfter_of_agree` — a search reads a text only up to
  what it finds.

## References

`bodylog/redact/scanner.py` (`_FieldScan`).
-/

namespace MaskedLog.Redact

open MaskedLog.Text

/-! ### The key search -/

section Search

variable {key : List Char} {s : Array Char} {i : Nat}

theorem indexIn_of_occursAt (hb : i + key.length ≤ s.size) (ho : occursAt key s i = true) :
    indexIn key s i = some i := by
  rw [indexIn, if_pos hb, if_pos ho]

theorem indexIn_of_not_occursAt (hb : i + key.length ≤ s.size) (ho : occursAt key s i = false) :
    indexIn key s i = indexIn key s (i + 1) := by
  rw [indexIn, if_pos hb, if_neg (by simp [ho])]

theorem indexIn_of_size_lt (hb : ¬ i + key.length ≤ s.size) : indexIn key s i = none := by
  rw [indexIn, if_neg hb]

end Search

/-- A search reads a text only through where the key occurs. -/
theorem indexIn_congr {key : List Char} {s s' : Array Char} (hsize : s.size = s'.size)
    (hocc : ∀ p, occursAt key s p = occursAt key s' p) (i : Nat) :
    indexIn key s i = indexIn key s' i := by
  induction i using indexIn.induct key s with
  | case1 i hb ho =>
    have hb' : i + key.length ≤ s'.size := hsize ▸ hb
    rw [indexIn_of_occursAt hb ho, indexIn_of_occursAt hb' ((hocc i).symm.trans ho)]
  | case2 i hb ho ih =>
    have hb' : i + key.length ≤ s'.size := hsize ▸ hb
    have ho' : occursAt key s i = false := by simpa using ho
    rw [indexIn_of_not_occursAt hb ho', ih,
      indexIn_of_not_occursAt hb' ((hocc i).symm.trans ho')]
  | case3 i hb =>
    have hb' : ¬ i + key.length ≤ s'.size := hsize ▸ hb
    rw [indexIn_of_size_lt hb, indexIn_of_size_lt hb']

/-- A key with no small sigma is found in the shadow where it is found in the
local shadow. -/
theorem indexIn_shadow {key : List Char} (hσ : 'σ' ∉ key) (hς : 'ς' ∉ key) (u : List Char)
    (i : Nat) : indexIn key (shadow u).toArray i = indexIn key (localShadow u).toArray i :=
  indexIn_congr (by simp [length_shadow]) (occursAt_shadow hσ hς u) i

/-! ### Steps of the blank skip -/

section Blanks

variable {t : Array Char} {i : Nat} {c : Char}

theorem skipBlanks_of_blank (h : t[i]? = some c) (hc : c = ' ' ∨ c = '\t') :
    skipBlanks t i = skipBlanks t (i + 1) := by
  obtain ⟨hi, rfl⟩ := Array.getElem?_eq_some_iff.mp h
  rw [skipBlanks, dif_pos hi, if_pos (by simpa using hc)]

theorem skipBlanks_of_not_blank (h : t[i]? = some c) (hc : ¬ (c = ' ' ∨ c = '\t')) :
    skipBlanks t i = i := by
  obtain ⟨hi, rfl⟩ := Array.getElem?_eq_some_iff.mp h
  rw [skipBlanks, dif_pos hi, if_neg (by simpa using hc)]

theorem skipBlanks_of_size_le (h : t.size ≤ i) : skipBlanks t i = i := by
  rw [skipBlanks, dif_neg (by omega)]

end Blanks

/-! ### What a search reads -/

theorem occursAt_eq_true_iff {key : List Char} {s : Array Char} {p : Nat} :
    occursAt key s p = true ↔ ∀ j (h : j < key.length), s[p + j]? = some key[j] := by
  induction key generalizing p with
  | nil => simp [occursAt]
  | cons c rest ih =>
    simp only [occursAt, Bool.and_eq_true, beq_iff_eq, ih, List.length_cons]
    constructor
    · rintro ⟨h0, hrest⟩ j hj
      cases j with
      | zero => simpa using h0
      | succ j =>
        rw [show p + (j + 1) = p + 1 + j by omega]
        exact hrest j (by omega)
    · intro h
      refine ⟨by simpa using h 0 (by omega), fun j hj => ?_⟩
      rw [show p + 1 + j = p + (j + 1) by omega]
      exact h (j + 1) (by omega)

/-- A key is read only over its own length. -/
theorem occursAt_of_agree {key : List Char} {s s' : Array Char} {p : Nat}
    (h : ∀ i, p ≤ i → i < p + key.length → s'[i]? = s[i]?) : occursAt key s' p = occursAt key s p := by
  induction key generalizing p with
  | nil => rfl
  | cons c rest ih =>
    simp only [List.length_cons] at h
    have hrest := ih (p := p + 1) (fun i h1 h2 => h i (by omega) (by omega))
    simp only [occursAt, h p le_rfl (by omega), hrest]

/-- The search from `n` finds the first occurrence at or after `n`. -/
theorem indexIn_of_first {key : List Char} {s : Array Char} {n k : Nat}
    (hb : k + key.length ≤ s.size) (hk : occursAt key s k = true) (hn : n ≤ k)
    (hnone : ∀ j, n ≤ j → j < k → occursAt key s j = false) : indexIn key s n = some k := by
  induction hd : k - n generalizing n with
  | zero =>
    obtain rfl : n = k := by omega
    exact indexIn_of_occursAt hb hk
  | succ d ih =>
    rw [indexIn_of_not_occursAt (by omega) (hnone n le_rfl (by omega))]
    exact ih (by omega) (fun j h1 h2 => hnone j (by omega) h2) (by omega)

/-- A search that found its key at `k` finds it there again from any start
between. -/
theorem indexIn_of_le {key : List Char} {s : Array Char} {n₀ n k : Nat}
    (h : indexIn key s n₀ = some k) (h₀ : n₀ ≤ n) (hk : n ≤ k) : indexIn key s n = some k := by
  obtain ⟨hocc, hfirst⟩ := indexIn_spec h
  exact indexIn_of_first (indexIn_bounds _ _ _ _ h).2 hocc hk
    (fun j h1 h2 => hfirst j (by omega) h2)

theorem occursAt_of_indexIn_none {key : List Char} {s : Array Char} {n : Nat}
    (h : indexIn key s n = none) :
    ∀ p, n ≤ p → p + key.length ≤ s.size → occursAt key s p = false := by
  induction n using indexIn.induct key s with
  | case1 n hb ho =>
    rw [indexIn_of_occursAt hb ho] at h
    cases h
  | case2 n hb ho ih =>
    rw [indexIn_of_not_occursAt hb (by simpa using ho)] at h
    intro p hp hpb
    rcases Nat.eq_or_lt_of_le hp with rfl | hlt
    · simpa using ho
    · exact ih h p hlt hpb
  | case3 n hb =>
    intro p hp hpb
    omega

/-- A search that finds nothing finds nothing from a later start either. -/
theorem indexIn_none_of_le {key : List Char} {s : Array Char} {n n' : Nat}
    (h : indexIn key s n = none) (hle : n ≤ n') : indexIn key s n' = none := by
  cases h' : indexIn key s n' with
  | none => rfl
  | some p =>
    have hb := indexIn_bounds _ _ _ _ h'
    have := occursAt_of_indexIn_none h p (by omega) hb.2
    rw [(indexIn_spec h').1] at this
    cases this

/-- A search reads the text only up to the end of the occurrence it finds. -/
theorem indexIn_of_agree {key : List Char} {s s' : Array Char} {n k : Nat} (hkey : key ≠ [])
    (h : indexIn key s n = some k) (hagree : ∀ i, i < k + key.length → s'[i]? = s[i]?) :
    indexIn key s' n = some k := by
  obtain ⟨hocc, hfirst⟩ := indexIn_spec h
  have hb := indexIn_bounds _ _ _ _ h
  have hlen : 0 < key.length := List.length_pos_iff.mpr hkey
  have hb' : k + key.length ≤ s'.size := by
    have hlast := hagree (k + key.length - 1) (by omega)
    rw [Array.getElem?_eq_getElem (by omega : k + key.length - 1 < s.size)] at hlast
    have := (Array.getElem?_eq_some_iff.mp hlast).1
    omega
  refine indexIn_of_first hb' ?_ hb.1 (fun j h1 h2 => ?_)
  · rw [occursAt_of_agree (fun i _ h2 => hagree i h2)]
    exact hocc
  · rw [occursAt_of_agree (fun i _ h3 => hagree i (by omega))]
    exact hfirst j h1 h2

/-- The blanks skipped are read up to the first character that is not one. -/
theorem skipBlanks_of_agree {t t' : Array Char} (i : Nat)
    (hagree : ∀ j, i ≤ j → j ≤ skipBlanks t i → t'[j]? = t[j]?) :
    skipBlanks t' i = skipBlanks t i := by
  induction i using skipBlanks.induct t with
  | case1 i hi hb ih =>
    have hget : t[i]? = some t[i] := Array.getElem?_eq_getElem hi
    have hblank : t[i] = ' ' ∨ t[i] = '\t' := by simpa using hb
    have hstep := skipBlanks_of_blank hget hblank
    have hle := (skipBlanks_spec t (i + 1)).1
    rw [hstep] at hagree ⊢
    rw [skipBlanks_of_blank (by rw [hagree i le_rfl (by omega), hget]) hblank]
    exact ih (fun j h1 h2 => hagree j (by omega) h2)
  | case2 i hi hb =>
    have hget : t[i]? = some t[i] := Array.getElem?_eq_getElem hi
    have hblank : ¬ (t[i] = ' ' ∨ t[i] = '\t') := by simpa using hb
    have hstep := skipBlanks_of_not_blank hget hblank
    rw [hstep] at hagree ⊢
    exact skipBlanks_of_not_blank (by rw [hagree i le_rfl le_rfl, hget]) hblank
  | case3 i hi =>
    have hstep := skipBlanks_of_size_le (t := t) (by omega : t.size ≤ i)
    rw [hstep] at hagree ⊢
    have hnone := hagree i le_rfl le_rfl
    rw [Array.getElem?_eq_none (by omega : t.size ≤ i)] at hnone
    exact skipBlanks_of_size_le (Array.getElem?_eq_none_iff.mp hnone)

/-- The value after a colon, when a quote follows the blanks after it. -/
theorem valueAfter_of_colon {t : Array Char} {n k : Nat} (hk : indexIn [':'] t n = some k)
    (hq : t[skipBlanks t (k + 1)]? = some '"') :
    valueAfter t n =
      (closingQuote t (skipBlanks t (k + 1) + 1)).map (⟨skipBlanks t (k + 1) + 1, ·⟩) := by
  unfold valueAfter
  rw [hk]
  simp only [hq, if_true]

/-- Searching for a value from any start up to the colon that was found gives
the same value. -/
theorem valueAfter_of_le {t : Array Char} {n₀ n k : Nat} (hk : indexIn [':'] t n₀ = some k)
    (h₀ : n₀ ≤ n) (hn : n ≤ k) : valueAfter t n = valueAfter t n₀ := by
  unfold valueAfter
  rw [indexIn_of_le hk h₀ hn, hk]

/-- The search for a value reads the text only before the value, and then the
scan from its start. -/
theorem valueAfter_of_agree {t t' : Array Char} {n e : Nat} {s : Span}
    (h : valueAfter t n = some s) (hagree : ∀ i, i < s.start → t'[i]? = t[i]?)
    (he : closingQuote t' s.start = some e) : valueAfter t' n = some ⟨s.start, e⟩ := by
  obtain ⟨k, hk, hstart, hq, -⟩ := valueAfter_eq_some h
  have hkb := (skipBlanks_spec t (k + 1)).1
  have hk' : indexIn [':'] t' n = some k :=
    indexIn_of_agree (by simp) hk (fun i hi => hagree i (by simp at hi; omega))
  have hsb : skipBlanks t' (k + 1) = skipBlanks t (k + 1) :=
    skipBlanks_of_agree (k + 1) (fun j _ h2 => hagree j (by omega))
  have hq' : t'[skipBlanks t' (k + 1)]? = some '"' := by
    rw [hsb, hagree _ (by omega), hq]
  rw [valueAfter_of_colon hk' hq', hsb, ← hstart, he]
  rfl

/-! ### Reading the tail of a text -/

/-- A span moved right by `d` positions. -/
def Span.offset (d : Nat) (s : Span) : Span := ⟨d + s.start, d + s.stop⟩

@[simp] theorem Span.offset_start (d : Nat) (s : Span) : (s.offset d).start = d + s.start := rfl

@[simp] theorem Span.offset_stop (d : Nat) (s : Span) : (s.offset d).stop = d + s.stop := rfl

theorem Span.offset_injective (d : Nat) : Function.Injective (Span.offset d) := by
  intro a b h
  have h1 := congrArg Span.start h
  have h2 := congrArg Span.stop h
  simp only [Span.offset_start, Span.offset_stop, Nat.add_left_cancel_iff] at h1 h2
  cases a
  cases b
  simp_all

section Tail

variable (x : List Char) {y : List Char}

theorem getElem?_append_length {α : Type} (x y : List α) (i : Nat) :
    (x ++ y)[x.length + i]? = y[i]? := by
  rw [List.getElem?_append_right (by omega), Nat.add_sub_cancel_left]

theorem occursAt_append (key : List Char) :
    ∀ i, occursAt key (x ++ y).toArray (x.length + i) = occursAt key y.toArray i := by
  induction key with
  | nil => intro i; rfl
  | cons c rest ih =>
    intro i
    simp only [occursAt, List.getElem?_toArray, getElem?_append_length, Nat.add_assoc, ih]

theorem indexIn_append (key : List Char) (i : Nat) :
    indexIn key (x ++ y).toArray (x.length + i) = (indexIn key y.toArray i).map (x.length + ·) := by
  induction i using indexIn.induct key y.toArray with
  | case1 i hb ho =>
    rw [indexIn_of_occursAt hb ho,
      indexIn_of_occursAt (by simp only [List.size_toArray, List.length_append] at hb ⊢; omega)
        (by rw [occursAt_append]; exact ho)]
    rfl
  | case2 i hb ho ih =>
    have ho' : occursAt key y.toArray i = false := by simpa using ho
    rw [indexIn_of_not_occursAt hb ho',
      indexIn_of_not_occursAt (by simp only [List.size_toArray, List.length_append] at hb ⊢; omega)
        (by rw [occursAt_append]; exact ho'), Nat.add_assoc, ih]
  | case3 i hb =>
    rw [indexIn_of_size_lt hb,
      indexIn_of_size_lt (by simp only [List.size_toArray, List.length_append] at hb ⊢; omega)]
    rfl

theorem skipBlanks_append (i : Nat) :
    skipBlanks (x ++ y).toArray (x.length + i) = x.length + skipBlanks y.toArray i := by
  induction i using skipBlanks.induct y.toArray with
  | case1 i hi hb ih =>
    have hget : y.toArray[i]? = some y.toArray[i] := Array.getElem?_eq_getElem hi
    have hblank : y.toArray[i] = ' ' ∨ y.toArray[i] = '\t' := by simpa using hb
    rw [skipBlanks_of_blank hget hblank,
      skipBlanks_of_blank (by simp [getElem?_append_length]) hblank,
      Nat.add_assoc, ih]
  | case2 i hi hb =>
    have hget : y.toArray[i]? = some y.toArray[i] := Array.getElem?_eq_getElem hi
    have hblank : ¬ (y.toArray[i] = ' ' ∨ y.toArray[i] = '\t') := by simpa using hb
    rw [skipBlanks_of_not_blank hget hblank,
      skipBlanks_of_not_blank (by simp [getElem?_append_length]) hblank]
  | case3 i hi =>
    have hy : y.toArray.size ≤ i := by omega
    have hxy : (x ++ y).toArray.size ≤ x.length + i := by
      simp only [List.size_toArray, List.length_append] at hy ⊢
      omega
    rw [skipBlanks_of_size_le hy, skipBlanks_of_size_le hxy]

theorem valueAfter_append (n : Nat) :
    valueAfter (x ++ y).toArray (x.length + n) = (valueAfter y.toArray n).map (Span.offset x.length) := by
  have hu : ∀ k, (x ++ y).toArray[k + x.length]? = y.toArray[k]? := fun k => by
    simp only [List.getElem?_toArray, Nat.add_comm k, getElem?_append_length]
  unfold valueAfter
  rw [indexIn_append]
  cases indexIn [':'] y.toArray n with
  | none => rfl
  | some k =>
    simp only [Option.map_some]
    rw [show x.length + k + 1 = x.length + (k + 1) by omega, skipBlanks_append,
      show x.length + skipBlanks y.toArray (k + 1) = skipBlanks y.toArray (k + 1) + x.length by omega,
      hu, show skipBlanks y.toArray (k + 1) + x.length + 1 = skipBlanks y.toArray (k + 1) + 1 + x.length
        by omega, closingQuote_shift hu]
    split
    · simp only [Option.map_map]
      congr 1
      funext e
      simp only [Function.comp, Span.offset]
      congr 1 <;> omega
    · rfl

theorem resumeAfter_offset (found : List Span) (pos : Nat) :
    resumeAfter (found.map (Span.offset x.length)) (x.length + pos) =
      (resumeAfter found pos).map (x.length + ·) := by
  cases found with
  | nil => rfl
  | cons last rest =>
    simp only [List.map_cons, resumeAfter, Bool.and_eq_true, decide_eq_true_eq]
    by_cases h : last.start ≤ pos + 1 ∧ pos < last.stop
    · have h' : (last.offset x.length).start ≤ x.length + pos + 1 ∧
          x.length + pos < (last.offset x.length).stop := by
        simp only [Span.offset_start, Span.offset_stop]
        omega
      rw [if_pos h', if_pos h]
      rfl
    · have h' : ¬ ((last.offset x.length).start ≤ x.length + pos + 1 ∧
          x.length + pos < (last.offset x.length).stop) := by
        simp only [Span.offset_start, Span.offset_stop]
        omega
      rw [if_neg h', if_neg h]
      rfl

theorem record_offset (found : List Span) (v : Option Span) :
    record (found.map (Span.offset x.length)) (v.map (Span.offset x.length)) =
      (record found v).map (Span.offset x.length) := by
  cases v with
  | none => rfl
  | some s =>
    simp only [Option.map_some, record]
    have hhead : (found.map (Span.offset x.length)).head? = some (s.offset x.length) ↔
        found.head? = some s := by
      rw [List.head?_map, Option.map_eq_some_iff]
      constructor
      · rintro ⟨a, ha, he⟩
        rwa [← Span.offset_injective _ he]
      · intro h
        exact ⟨s, h, rfl⟩
    by_cases h : found.head? = some s
    · rw [if_pos (hhead.mpr h), if_pos h]
    · rw [if_neg (mt hhead.mp h), if_neg h]
      rfl

/-- A pass started in the tail of a text, with a shadow whose head is as long as
the text's, is the pass over the tail, moved. -/
theorem passFrom_append {shx shy : List Char} (hsh : shx.length = x.length) (name : List Char) :
    ∀ (from_ : Nat) (found : List Span),
      passFrom (x ++ y).toArray (shx ++ shy).toArray name (x.length + from_)
          (found.map (Span.offset x.length)) =
        (passFrom y.toArray shy.toArray name from_ found).map (Span.offset x.length) := by
  intro from_ found
  induction from_, found using passFrom.induct y.toArray shy.toArray name with
  | case1 from_ found hnone =>
    rw [passFrom_of_none hnone, passFrom_of_none (by rw [← hsh, indexIn_append, hnone]; rfl),
      List.map_reverse]
  | case2 from_ found pos hpos stop hr ih =>
    rw [passFrom_of_resume hpos hr, passFrom_of_resume (by rw [← hsh, indexIn_append, hpos]; rfl)
      (by rw [hsh, resumeAfter_offset, hr]; rfl), ih]
  | case3 from_ found pos hpos hr _ ih =>
    rw [passFrom_of_key hpos hr, passFrom_of_key (by rw [← hsh, indexIn_append, hpos]; rfl)
      (by rw [hsh, resumeAfter_offset, hr]; rfl), hsh, Nat.add_assoc, valueAfter_append,
      record_offset, ih]

/-- Masking spans of the tail keeps the text before it. -/
theorem maskFrom_offset (m : List Char) :
    ∀ (spans : List Span) (prev : Nat),
      maskFrom (x ++ y).toArray m (x.length + prev) (spans.map (Span.offset x.length)) =
        maskFrom y.toArray m prev spans
  | [], prev => by
    rw [List.map_nil, maskFrom_toArray_nil, maskFrom_toArray_nil, List.drop_append,
      List.drop_eq_nil_of_le (by omega), List.nil_append, Nat.add_sub_cancel_left]
  | s :: rest, prev => by
    rw [List.map_cons, maskFrom_toArray_cons, maskFrom_toArray_cons, Span.offset_start,
      Span.offset_stop, maskFrom_offset m rest s.stop, List.drop_append,
      List.drop_eq_nil_of_le (by omega), List.nil_append, Nat.add_sub_cancel_left,
      Nat.add_sub_add_left]

theorem mask_append_offset (spans : List Span) (m : List Char) :
    Span.mask (x ++ y) (spans.map (Span.offset x.length)) m = x ++ Span.mask y spans m := by
  cases spans with
  | nil => simp
  | cons s rest =>
    unfold Span.mask
    rw [List.map_cons, maskFrom_toArray_cons, maskFrom_toArray_cons, Span.offset_start,
      Span.offset_stop, maskFrom_offset, List.drop_zero, List.drop_zero, Nat.sub_zero,
      Nat.sub_zero, List.take_append, List.take_of_length_le (by omega), Nat.add_sub_cancel_left]
    simp only [List.append_assoc]

end Tail

end MaskedLog.Redact

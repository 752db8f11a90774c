import MaskedLog.Proofs.Offset
/-!
# Redacting one value at a time

A pass of the scanner masks all the values it finds at once, in the positions of
the text before the pass. The plain reading of redaction does one value at a
time instead: find the next key `"name"` in the shadow of the current text, mask
the string value after it, recompute the shadow, and go on right after the key
just found. This module defines that sequential redaction and shows that it
terminates: each step passes a character of the key that is no star, and masking
only turns characters into stars.

## Main definitions

* `unmasked` — the characters that are not stars from a position on.
* `seqStep` — one key of sequential redaction and its value.
* `seqFrom`, `seqRedactNames`, `Scanner.seqRedact` — sequential redaction.

## Main results

* `seqStep_lt` — a step lowers the number of characters left that are not stars.
* `seqFrom_append` — sequential redaction from a position in the tail of a text
  keeps the head, for a name without a small sigma.

## References

`bodylog/redact/scanner.py` (`RedactionScanner.redact`).
-/

namespace MaskedLog.Redact

open MaskedLog.Text

/-- The characters at or after position `i` of `u` that are not stars. -/
def unmasked (u : List Char) (i : Nat) : Nat := (u.drop i).countP (· ≠ '*')

/-- One step of sequential redaction for `name` from position `i` of `u`: the next
key in the shadow of `u`, then the text with the string value after that key
masked (or unchanged when it has none) and the position right after the key. -/
def seqStep (name u : List Char) (i : Nat) : Option (List Char × Nat) :=
  (indexIn (quoted name) (shadow u).toArray i).map fun p =>
    let next := p + (quoted name).length
    match valueAfter u.toArray next with
    | some s => (Span.mask u [s], next)
    | none => (u, next)

/-! ### What a step does -/

theorem seqStep_eq_some {name u u' : List Char} {i i' : Nat}
    (h : seqStep name u i = some (u', i')) :
    ∃ p, indexIn (quoted name) (shadow u).toArray i = some p ∧
      i' = p + (quoted name).length ∧
      (valueAfter u.toArray i' = none ∧ u' = u ∨
        ∃ s, valueAfter u.toArray i' = some s ∧ u' = Span.mask u [s]) := by
  obtain ⟨p, hp, he⟩ := Option.map_eq_some_iff.mp h
  refine ⟨p, hp, ?_⟩
  dsimp only at he
  split at he
  · rename_i s hs
    cases he
    exact ⟨rfl, .inr ⟨s, hs, rfl⟩⟩
  · rename_i hs
    cases he
    exact ⟨rfl, .inl ⟨hs, rfl⟩⟩

theorem occursAt_quoted {name : List Char} {s : Array Char} {p : Nat}
    (h : occursAt (quoted name) s p = true) : s[p]? = some '"' := by
  simp only [quoted, List.cons_append, occursAt, Bool.and_eq_true, beq_iff_eq] at h
  exact h.1

/-! ### Counting what is left unmasked -/

theorem unmasked_le_of_le (u : List Char) {i j : Nat} (h : i ≤ j) : unmasked u j ≤ unmasked u i := by
  have hs : (u.drop j).Sublist (u.drop i) := by
    rw [show j = i + (j - i) by omega, ← List.drop_drop]
    exact List.drop_sublist _ _
  exact hs.countP_le

theorem unmasked_lt {u : List Char} {i p : Nat} {c : Char} (hp : u[p]? = some c) (hc : c ≠ '*')
    (hi : i ≤ p) : unmasked u (p + 1) < unmasked u i := by
  have hlt : p < u.length := (List.getElem?_eq_some_iff.mp hp).1
  have hcons : u.drop p = c :: u.drop (p + 1) := by
    rw [List.drop_eq_getElem_cons hlt, (List.getElem?_eq_some_iff.mp hp).2]
  have hstep : unmasked u (p + 1) < unmasked u p := by
    simp [unmasked, hcons, hc]
  exact Nat.lt_of_lt_of_le hstep (unmasked_le_of_le u hi)

/-- Masking a span past a position leaves no more unmasked characters after it. -/
theorem unmasked_mask_le {u : List Char} {s : Span} {n : Nat} (hn : n ≤ s.start)
    (hs : s.start ≤ s.stop) (hlen : s.stop ≤ u.length) :
    unmasked (Span.mask u [s]) n ≤ unmasked u n := by
  have hsplit : u.drop n = (u.take s.start).drop n ++ u.drop s.start := by
    rw [← List.drop_append_of_le_length (by simp; omega), List.take_append_drop]
  have hrest : (u.drop s.stop).countP (· ≠ '*') ≤ (u.drop s.start).countP (· ≠ '*') :=
    unmasked_le_of_le u hs
  have hstars : maskText.countP (· ≠ '*') = 0 := by decide
  rw [unmasked, unmasked, mask_single, List.append_assoc,
    List.drop_append_of_le_length (by simp; omega), hsplit]
  simp only [List.countP_append, hstars]
  omega

/-- Each step of sequential redaction passes a quote of the key it finds, which
is no star, and masks only after the key. -/
theorem seqStep_lt {name u u' : List Char} {i i' : Nat} (h : seqStep name u i = some (u', i')) :
    unmasked u' i' < unmasked u i := by
  obtain ⟨p, hp, rfl, hv⟩ := seqStep_eq_some h
  have hb := indexIn_bounds _ _ _ _ hp
  have hq := occursAt_quoted (indexIn_spec hp).1
  simp only [List.size_toArray, length_shadow, length_quoted] at hb
  simp only [List.getElem?_toArray] at hq
  obtain ⟨c, hc⟩ : ∃ c, u[p]? = some c := ⟨u[p], List.getElem?_eq_getElem (by omega)⟩
  -- a star stands for itself in the shadow, so the quote found there is no star
  have hstar : c ≠ '*' := by
    rintro rfl
    rw [getElem?_shadow_of_ascii hc (by decide) (by decide)] at hq
    cases hq
  have hpass : unmasked u (p + (quoted name).length) < unmasked u i :=
    Nat.lt_of_le_of_lt (unmasked_le_of_le u (by simp [length_quoted]))
      (unmasked_lt hc hstar hb.1)
  rcases hv with ⟨-, rfl⟩ | ⟨s, hs, rfl⟩
  · exact hpass
  · obtain ⟨k, hk, hstart, -, -⟩ := valueAfter_eq_some hs
    have hk' := (indexIn_colon hk).1
    have hskip := (skipBlanks_spec u.toArray (k + 1)).1
    have hsc := valueAfter_scanned hs
    have hstop := hsc.stop_lt_length
    exact Nat.lt_of_le_of_lt
      (unmasked_mask_le (by omega) hsc.start_le_stop (by omega)) hpass

/-! ### Sequential redaction -/

set_option linter.unusedVariables false in
/-- Sequential redaction for `name` from position `i` of `u`, one key and its
value after another. -/
def seqFrom (name u : List Char) (i : Nat) : List Char :=
  match h : seqStep name u i with
  | none => u
  | some (u', i') => seqFrom name u' i'
termination_by unmasked u i
decreasing_by exact seqStep_lt h

theorem seqFrom_of_none {name u : List Char} {i : Nat} (h : seqStep name u i = none) :
    seqFrom name u i = u := by
  rw [seqFrom]
  split
  · rfl
  · rename_i heq
    rw [h] at heq
    cases heq

theorem seqFrom_of_some {name u u' : List Char} {i i' : Nat}
    (h : seqStep name u i = some (u', i')) : seqFrom name u i = seqFrom name u' i' := by
  rw [seqFrom]
  split
  · rename_i heq
    rw [h] at heq
    cases heq
  · rename_i heq
    rw [h] at heq
    cases heq
    rfl

/-- Two positions with the same next step give the same redaction. -/
theorem seqFrom_congr {name u : List Char} {i i' : Nat} (h : seqStep name u i = seqStep name u i') :
    seqFrom name u i = seqFrom name u i' := by
  cases hs : seqStep name u i with
  | none => rw [seqFrom_of_none hs, seqFrom_of_none (h ▸ hs)]
  | some r =>
    obtain ⟨u', j⟩ := r
    have hs' : seqStep name u i' = some (u', j) := h ▸ hs
    rw [seqFrom_of_some hs, seqFrom_of_some hs']

/-! ### Redacting the tail of a text -/

section Tail

variable {name : List Char} (hσ : 'σ' ∉ quoted name) (hς : 'ς' ∉ quoted name)
include hσ hς

/-- A step from a position in the tail of a text is a step in the tail alone: the
key is found in the local shadow, which reads each part on its own. -/
theorem seqStep_append (x y : List Char) (j : Nat) :
    seqStep name (x ++ y) (x.length + j) =
      (seqStep name y j).map fun r => (x ++ r.1, x.length + r.2) := by
  have hkey := indexIn_append (localShadow x) (y := localShadow y) (quoted name) j
  rw [length_localShadow] at hkey
  unfold seqStep
  rw [indexIn_shadow hσ hς, indexIn_shadow hσ hς, localShadow_append, hkey]
  cases indexIn (quoted name) (localShadow y).toArray j with
  | none => rfl
  | some p =>
    simp only [Option.map_some, Nat.add_assoc, valueAfter_append]
    cases valueAfter y.toArray (p + (quoted name).length) with
    | none => rfl
    | some s =>
      have hmask := mask_append_offset x (y := y) [s] maskText
      simp only [List.map_cons, List.map_nil] at hmask
      simp only [Option.map_some, hmask]

/-- Sequential redaction from a position in the tail of a text keeps the head. -/
theorem seqFrom_append (x : List Char) :
    ∀ (y : List Char) (j : Nat), seqFrom name (x ++ y) (x.length + j) = x ++ seqFrom name y j := by
  intro y j
  induction y, j using seqFrom.induct name with
  | case1 y j hnone =>
    rw [seqFrom_of_none hnone, seqFrom_of_none (by rw [seqStep_append hσ hς, hnone]; rfl)]
  | case2 y j y' j' hstep ih =>
    rw [seqFrom_of_some hstep, seqFrom_of_some (by rw [seqStep_append hσ hς, hstep]; rfl), ih]

end Tail

/-- Sequential redaction by names, one after another, each from the start of the
text. -/
def seqRedactNames (names : List (List Char)) (t : List Char) : List Char :=
  names.foldl (fun u name => seqFrom name u 0) t

/-- The sequential redaction of a string by a scanner's fields. -/
def Scanner.seqRedact (sc : Scanner) (t : String) : String :=
  String.ofList (seqRedactNames (sc.fields.map String.toList) t.toList)


end MaskedLog.Redact

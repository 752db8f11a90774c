import MaskedLog.Redact.Shadow
import MaskedLog.Text.Find
/-!
# The shadow, character by character

The shadow of a text is its lowercase form when lowercasing keeps the length,
and the characters lowercased one by one otherwise. Lowercasing keeps the
length exactly when no U+0130 occurs, and then every character other than the
capital sigma is lowercased on its own. Either way, every position that does not
hold a capital sigma holds `lowerOrKeep` of the character there: the shadow is
local everywhere except at sigmas, which is what lets a search in the shadow be
compared across texts that differ elsewhere.

## Main results

* `length_lowerAfter` — lowercasing lengthens a text by its number of U+0130.
* `getElem?_shadow` — away from capital sigmas, the shadow is `lowerOrKeep`
  applied position by position.
* `getElem?_shadow_of_ascii` — an ASCII character other than a capital letter
  stands for itself in the shadow.
* `occursAt_shadow` — a key without a small sigma is read in the shadow exactly
  where it is read in the `localShadow`, which lowercases each character alone.

## References

`bodylog/redact/scanner.py` (`shadow_copy`).
-/

namespace MaskedLog.Redact

open MaskedLog.Unicode MaskedLog.Text

/-- The one character that lowercases to two. -/
def IsDotted (c : Char) : Prop := c.toNat = 0x130

instance : DecidablePred IsDotted := fun c => inferInstanceAs (Decidable (c.toNat = 0x130))

theorem not_isDotted_capitalSigma : ¬ IsDotted capitalSigma := by decide

theorem lowerOrKeep_of_not_isDotted {c : Char} (h : ¬ IsDotted c) : lowerOrKeep c = lowerChar c := by
  have h' : ¬ c.toNat = 0x130 := h
  simp only [lowerOrKeep, lowerFull, if_neg h']

/-- The lowercase form of one character, as `lowerAfter` writes it. -/
theorem length_lowerPiece (before rest : List Char) (c : Char) :
    ((if c = capitalSigma then [if sigmaIsFinal before rest then 'ς' else 'σ']
      else lowerFull c)).length = if IsDotted c then 2 else 1 := by
  by_cases hs : c = capitalSigma
  · subst hs
    simp [not_isDotted_capitalSigma]
  · by_cases hd : IsDotted c
    · simp [hs, hd, lowerFull, show c.toNat = 0x130 from hd]
    · simp [hs, hd, lowerFull, show ¬ c.toNat = 0x130 from hd]

theorem length_lowerAfter (before u : List Char) :
    (lowerAfter before u).length = u.length + u.countP (fun c => decide (IsDotted c)) := by
  induction u generalizing before with
  | nil => rfl
  | cons c rest ih =>
    rw [lowerAfter, List.length_append, length_lowerPiece, ih, List.countP_cons]
    split <;> simp_all <;> omega

/-- A text whose lowercase form is as long as itself holds no U+0130. -/
theorem not_isDotted_of_length_lower {u : List Char} (h : (lower u).length = u.length) :
    ∀ c ∈ u, ¬ IsDotted c := by
  rw [lower, length_lowerAfter] at h
  have h0 : u.countP (fun c => decide (IsDotted c)) = 0 := by omega
  intro c hc hd
  exact (List.countP_eq_zero.mp h0 c hc) (by simpa using hd)

/-- Without U+0130, lowercasing a text lowercases each character other than the
capital sigma on its own. -/
theorem getElem?_lowerAfter {u : List Char} (hu : ∀ c ∈ u, ¬ IsDotted c) :
    ∀ (before : List Char) {k : Nat} {c : Char}, u[k]? = some c → c ≠ capitalSigma →
      (lowerAfter before u)[k]? = some (lowerChar c) := by
  induction u with
  | nil => intro _ _ _ h; cases h
  | cons d rest ih =>
    intro before k c hk hc
    have hd := hu d (List.mem_cons_self ..)
    have hpiece := length_lowerPiece before rest d
    rw [if_neg hd] at hpiece
    rw [lowerAfter]
    cases k with
    | zero =>
      cases hk
      rw [List.getElem?_append_left (by omega), if_neg hc, lowerFull,
        if_neg (show ¬ d.toNat = 0x130 from hd)]
      rfl
    | succ k =>
      rw [List.getElem?_append_right (by omega), hpiece, Nat.add_sub_cancel]
      exact ih (fun c hc => hu c (List.mem_cons_of_mem d hc)) (d :: before) hk hc

/-- Away from capital sigmas the shadow holds `lowerOrKeep` of each character,
whichever way it was built. -/
theorem getElem?_shadow {u : List Char} {k : Nat} {c : Char} (hk : u[k]? = some c)
    (hc : c ≠ capitalSigma) : (shadow u)[k]? = some (lowerOrKeep c) := by
  unfold shadow
  dsimp only
  split
  · rename_i hlen
    have hu := not_isDotted_of_length_lower hlen
    rw [lowerOrKeep_of_not_isDotted (hu c (List.mem_of_getElem? hk))]
    exact getElem?_lowerAfter hu [] hk hc
  · simp [hk]

/-- An ASCII character other than a capital letter is its own lowercase form. -/
theorem lowerOrKeep_of_ascii {c : Char} (hc : c.toNat < 128) (hup : ¬ (65 ≤ c.toNat ∧ c.toNat ≤ 90)) :
    lowerOrKeep c = c := by
  rw [lowerOrKeep_of_not_isDotted (fun h => by simp only [IsDotted] at h; omega)]
  simp only [lowerChar, if_pos hc]
  rw [if_neg (by simpa using hup)]

/-- An ASCII character other than a capital letter stands for itself in the
shadow: quotes, colons, blanks, backslashes and stars are where they were. -/
theorem getElem?_shadow_of_ascii {u : List Char} {k : Nat} {c : Char} (hk : u[k]? = some c)
    (hc : c.toNat < 128) (hup : ¬ (65 ≤ c.toNat ∧ c.toNat ≤ 90)) : (shadow u)[k]? = some c := by
  have hs : c ≠ capitalSigma := by
    intro h
    subst h
    exact absurd hc (by decide)
  rw [getElem?_shadow hk hs, lowerOrKeep_of_ascii hc hup]

/-! ### The shadow without context -/

/-- The shadow each character has on its own: `lowerOrKeep` at every position. -/
def localShadow (u : List Char) : List Char := u.map lowerOrKeep

@[simp] theorem length_localShadow (u : List Char) : (localShadow u).length = u.length :=
  List.length_map _

@[simp] theorem localShadow_append (x y : List Char) :
    localShadow (x ++ y) = localShadow x ++ localShadow y :=
  List.map_append

theorem getElem?_localShadow {u : List Char} {i : Nat} {c : Char} (h : u[i]? = some c) :
    (localShadow u)[i]? = some (lowerOrKeep c) := by
  simp [localShadow, h]

set_option maxRecDepth 8000 in
theorem lowerOrKeep_capitalSigma : lowerOrKeep capitalSigma = 'σ' := by decide

/-- Without U+0130, a capital sigma lowercases to a small sigma, medial or final. -/
theorem getElem?_lowerAfter_of_capitalSigma {u : List Char} (hu : ∀ c ∈ u, ¬ IsDotted c) :
    ∀ (before : List Char) {k : Nat}, u[k]? = some capitalSigma →
      (lowerAfter before u)[k]? = some 'σ' ∨ (lowerAfter before u)[k]? = some 'ς' := by
  induction u with
  | nil => intro _ _ h; cases h
  | cons d rest ih =>
    intro before k hk
    have hd := hu d (List.mem_cons_self ..)
    have hpiece := length_lowerPiece before rest d
    rw [if_neg hd] at hpiece
    rw [lowerAfter]
    cases k with
    | zero =>
      cases hk
      rw [List.getElem?_append_left (by omega), if_pos rfl]
      split <;> simp
    | succ k =>
      rw [List.getElem?_append_right (by omega), hpiece, Nat.add_sub_cancel]
      exact ih (fun c hc => hu c (List.mem_cons_of_mem d hc)) (d :: before) hk

/-- Where a capital sigma stands, the shadow holds a small sigma, medial or final. -/
theorem getElem?_shadow_of_capitalSigma {u : List Char} {k : Nat}
    (hk : u[k]? = some capitalSigma) :
    (shadow u)[k]? = some 'σ' ∨ (shadow u)[k]? = some 'ς' := by
  unfold shadow
  dsimp only
  split
  · rename_i hlen
    exact getElem?_lowerAfter_of_capitalSigma (not_isDotted_of_length_lower hlen) [] hk
  · left
    simp [hk, lowerOrKeep_capitalSigma]

/-- A key with no small sigma is read in the shadow where it is read in the local
shadow: the two differ only where a capital sigma stands, and there neither
matches such a key. -/
theorem occursAt_shadow {key : List Char} (hσ : 'σ' ∉ key) (hς : 'ς' ∉ key) (u : List Char) :
    ∀ p, occursAt key (shadow u).toArray p = occursAt key (localShadow u).toArray p := by
  induction key with
  | nil => intro p; rfl
  | cons c rest ih =>
    intro p
    have hcσ : c ≠ 'σ' := fun h => hσ (h ▸ List.mem_cons_self ..)
    have hcς : c ≠ 'ς' := fun h => hς (h ▸ List.mem_cons_self ..)
    have hhead : ((shadow u).toArray[p]? == some c) = ((localShadow u).toArray[p]? == some c) := by
      simp only [List.getElem?_toArray, localShadow, List.getElem?_map]
      cases hu : u[p]? with
      | none =>
        have hlen : u.length ≤ p := List.getElem?_eq_none_iff.mp hu
        rw [List.getElem?_eq_none (by rw [length_shadow]; exact hlen)]
        rfl
      | some d =>
        by_cases hd : d = capitalSigma
        · subst hd
          have hfσ : ('σ' == c) = false := beq_eq_false_iff_ne.mpr (Ne.symm hcσ)
          have hfς : ('ς' == c) = false := beq_eq_false_iff_ne.mpr (Ne.symm hcς)
          rcases getElem?_shadow_of_capitalSigma hu with h | h <;>
            simp [h, lowerOrKeep_capitalSigma, hfσ, hfς]
        · simp [getElem?_shadow hu hd]
    simp only [occursAt, hhead,
      ih (fun h => hσ (List.mem_cons_of_mem c h)) (fun h => hς (List.mem_cons_of_mem c h))]

end MaskedLog.Redact

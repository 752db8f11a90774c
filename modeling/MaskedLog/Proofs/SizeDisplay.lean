import Mathlib.Tactic.Ring
import MaskedLog.Proofs.BinaryShare
/-!
# Sizes shown to the nearest tenth

A byte count is shown in the largest unit it reaches, `GB`, `MB`, `KB` or `B`,
as a decimal with at most one digit after the point and no trailing zero: the
count over the unit, rounded to the nearest tenth, a tie going to the even
tenth. The count is divided as a double and the double written with one place,
then trailing zeros and a trailing point are dropped. Below `2^53` bytes none of
that gets in the way: a count below `2^53` over a power of two is a double
exactly, writing with one place rounds the exact binary value half to even,
and the trimming never eats a digit of the whole part (`1023.96` is written
`1024.0` and shown as `1024`).

## Main definitions

* `NearestEven` — an integer nearest a quotient, the even one at a tie.
* `tenths` — a number of tenths in decimal, without trailing zeros.

## Main results

* `roundHalfEven_nearestEven`, `NearestEven.unique` — rounding half to even
  gives the nearest integer, and there is only one.
* `trimFraction_pointed` — tenths written with one place and trimmed are `tenths`.
* `ofQuotient_two_pow_exact` — a count below `2^53` over a power of two up to
  `2^30` is a double exactly.
* `inUnit_two_pow` — such a count is shown as its nearest tenth of the unit.
* `text_shows_nearest_tenth` — **a size is shown as its nearest tenth in the
  largest unit it reaches**.

## References

`bodylog/size.py` (`size_str`).
-/

namespace MaskedLog.Size

open MaskedLog.Binary64

/-! ### Rounding to the nearest integer -/

/-- `r` is an integer nearest to `a / b`, and at a tie between two it is the
even one. Distances are compared scaled by `b`. -/
structure NearestEven (a b r : Nat) : Prop where
  nearest : ∀ y : Nat, ((a : Int) - r * b).natAbs ≤ ((a : Int) - y * b).natAbs
  even_of_tie : ∀ y : Nat, y ≠ r →
    ((a : Int) - r * b).natAbs = ((a : Int) - y * b).natAbs → r % 2 = 0

/-- Integers `r` and `y` lie `|r - y|` units apart, so their distances to
`a / b` add up to that many units at least. -/
theorem natAbs_sub_mul_le_dist_add (a b r y : Nat) :
    ((r : Int) - y).natAbs * b ≤ ((a : Int) - r * b).natAbs + ((a : Int) - y * b).natAbs := by
  have htri := Int.natAbs_sub_le ((a : Int) - y * b) ((a : Int) - r * b)
  have hdiff : ((a : Int) - y * b) - ((a : Int) - r * b) = ((r : Int) - y) * b := by ring
  rw [hdiff, Int.natAbs_mul, Int.natAbs_natCast] at htri
  omega

/-- An integer within half a unit of `a / b` is the nearest one, and at exactly
half a unit it is the nearest one if it is even. -/
theorem nearestEven_of_half {a b r : Nat}
    (h : 2 * ((a : Int) - r * b).natAbs < b ∨ (2 * ((a : Int) - r * b).natAbs = b ∧ r % 2 = 0)) :
    NearestEven a b r := by
  -- another integer lies a whole unit away from `r`
  have hfar : ∀ y : Nat, y ≠ r → b ≤ ((a : Int) - r * b).natAbs + ((a : Int) - y * b).natAbs := by
    intro y hy
    have hone : 1 ≤ ((r : Int) - y).natAbs := by omega
    calc b = 1 * b := (Nat.one_mul b).symm
      _ ≤ ((r : Int) - y).natAbs * b := Nat.mul_le_mul_right b hone
      _ ≤ _ := natAbs_sub_mul_le_dist_add a b r y
  refine ⟨fun y => ?_, fun y hy htie => ?_⟩
  · by_cases hy : y = r
    · rw [hy]
    · have := hfar y hy
      omega
  · have := hfar y hy
    omega

/-- Rounding down leaves the remainder, less than a unit. -/
theorem natAbs_sub_div_mul (a b : Nat) : ((a : Int) - (a / b : Nat) * b).natAbs = a % b := by
  have h : (a : Int) = b * (a / b : Nat) + (a % b : Nat) := by
    exact_mod_cast (Nat.div_add_mod a b).symm
  rw [h, show (b : Int) * (a / b : Nat) + (a % b : Nat) - (a / b : Nat) * b = (a % b : Nat) by ring,
    Int.natAbs_natCast]

/-- There is one nearest integer, the even one at a tie: two distinct even
integers lie two units apart, so they cannot both be nearest when rounding
down is less than a unit away. -/
theorem NearestEven.unique {a b r s : Nat} (hb : 0 < b) (hr : NearestEven a b r)
    (hs : NearestEven a b s) : r = s := by
  by_contra hne
  have hd := Nat.le_antisymm (hr.nearest s) (hs.nearest r)
  have her := hr.even_of_tie s (Ne.symm hne) hd
  have hes := hs.even_of_tie r hne hd.symm
  have htwo : 2 * b ≤ ((r : Int) - s).natAbs * b := Nat.mul_le_mul_right b (by omega)
  have hsum := natAbs_sub_mul_le_dist_add a b r s
  have hdown := hr.nearest (a / b)
  rw [natAbs_sub_div_mul] at hdown
  have hmod := Nat.mod_lt a hb
  omega

/-- **Rounding half to even gives the nearest integer.** -/
theorem roundHalfEven_nearestEven {a b : Nat} (hb : 0 < b) : NearestEven a b (roundHalfEven a b) := by
  apply nearestEven_of_half
  have ha := Nat.div_add_mod a b
  have hm := Nat.mod_lt a hb
  unfold roundHalfEven
  -- with `a = b·q + m`, rounding down leaves `m` and rounding up leaves `b - m`
  generalize a / b = q at ha ⊢
  generalize a % b = m at ha hm ⊢
  subst ha
  dsimp only
  split
  · rename_i hup
    have hd : ((b * q + m : Nat) : Int) - ((q + 1 : Nat) : Int) * b = (m : Int) - b := by
      push_cast
      ring
    simp only [Bool.or_eq_true, decide_eq_true_eq, Bool.and_eq_true, beq_iff_eq] at hup
    rw [hd]
    omega
  · rename_i hdown
    have hd : ((b * q + m : Nat) : Int) - (q : Int) * b = m := by
      push_cast
      ring
    simp only [Bool.or_eq_true, decide_eq_true_eq, Bool.and_eq_true, beq_iff_eq, not_or,
      not_and] at hdown
    rw [hd]
    omega

/-- Rounding reads only the quotient: scaling both sides changes nothing. -/
theorem roundHalfEven_mul_right (x y : Nat) {c : Nat} (hc : 0 < c) :
    roundHalfEven (x * c) (y * c) = roundHalfEven x y := by
  unfold roundHalfEven
  rw [Nat.mul_div_mul_right _ _ hc, Nat.mul_mod_mul_right]
  have hgt : y * c < 2 * (x % y * c) ↔ y < 2 * (x % y) := by
    rw [← Nat.mul_assoc]
    exact Nat.mul_lt_mul_right hc
  have heq : (2 * (x % y * c) == y * c) = (2 * (x % y) == y) := by
    rw [Bool.eq_iff_iff, beq_iff_eq, beq_iff_eq, ← Nat.mul_assoc]
    exact Nat.mul_left_inj (Nat.pos_iff_ne_zero.mp hc)
  simp only [gt_iff_lt, hgt, heq]

theorem le_roundHalfEven {a b k : Nat} (hb : 0 < b) (h : b * k ≤ a) : k ≤ roundHalfEven a b := by
  have hq : k ≤ a / b := (Nat.le_div_iff_mul_le hb).mpr (by rw [Nat.mul_comm]; exact h)
  unfold roundHalfEven
  dsimp only
  split <;> omega

/-! ### Tenths in decimal -/

/-- `r / 10` in decimal, with no trailing zero after the point and no point
without a digit after it: `12` for `120`, `1.5` for `15`, `0.5` for `5`. -/
def tenths (r : Nat) : String :=
  toString (r / 10) ++ (if r % 10 = 0 then "" else "." ++ toString (r % 10))

theorem tenths_ten_mul (m : Nat) : tenths (10 * m) = toString m := by
  simp [tenths, Nat.mul_div_cancel_left m (by decide : 0 < 10)]

/-- The digits of `r` padded to two, split before the last: the whole part and
the tenths digit. -/
theorem pad_toDigits (r : Nat) :
    List.replicate (1 + 1 - (Nat.toDigits 10 r).length) '0' ++ Nat.toDigits 10 r =
      Nat.toDigits 10 (r / 10) ++ [Nat.digitChar (r % 10)] := by
  by_cases hr : r < 10
  · rw [Nat.toDigits_of_lt_base hr, Nat.div_eq_of_lt hr, Nat.mod_eq_of_lt hr, Nat.toDigits_zero]
    rfl
  · rw [Nat.toDigits_of_base_le (by decide) (by omega)]
    have hlen : 1 + 1 - (Nat.toDigits 10 (r / 10) ++ [Nat.digitChar (r % 10)]).length = 0 := by
      have := Nat.length_toDigits_pos (b := 10) (n := r / 10)
      simp only [List.length_append, List.length_singleton]
      omega
    rw [hlen]
    rfl

theorem toList_pointed_one (r : Nat) :
    (pointed 1 r).toList = Nat.toDigits 10 (r / 10) ++ ['.', Nat.digitChar (r % 10)] := by
  unfold pointed
  dsimp only
  rw [pad_toDigits]
  simp

/-- **Tenths written with one place and trimmed.** Dropping trailing zeros stops
at the point, so a zero tenth goes with the point and the whole part stays. -/
theorem trimFraction_pointed (r : Nat) : trimFraction (pointed 1 r) = tenths r := by
  have hdigit : toString (r % 10) = String.ofList [Nat.digitChar (r % 10)] := by
    rw [Nat.toString_eq_ofList_toDigits, Nat.toDigits_of_lt_base (Nat.mod_lt r (by decide))]
  unfold trimFraction tenths
  rw [toList_pointed_one, Nat.toString_eq_ofList_toDigits (n := r / 10)]
  simp only [List.reverse_append, List.reverse_cons, List.reverse_nil, List.nil_append,
    List.cons_append]
  by_cases h0 : r % 10 = 0
  · -- the zero goes, then the point
    have hz : Nat.digitChar (r % 10) = '0' := by rw [h0]; rfl
    rw [if_pos h0, hz]
    simp
  · have hnz : ¬ Nat.digitChar (r % 10) = '0' := by
      rw [Nat.digitChar_eq_zero]
      exact h0
    rw [if_neg h0, hdigit, List.dropWhile_cons_of_neg (by simpa using hnz)]
    have hpt : ¬ Nat.digitChar (r % 10) = '.' := by
      intro h
      have := Nat.isDigit_digitChar (n := r % 10)
      rw [h] at this
      simp at this
      omega
    split
    · rename_i heq
      exact absurd (List.cons.inj heq).1 hpt
    · simp

/-! ### A count over a power of two is a double -/

/-- Scaling `n · 2^j` by `2^(-k-j)` gives the quotient `n / 2^k`, both sides
scaled by `2^j`. -/
theorem scale_two_pow (n k j : Nat) :
    scale (n * Nat.pow 2 j) 1 (-(k : Int) - j) = (n * Nat.pow 2 j, Nat.pow 2 k * Nat.pow 2 j) := by
  have hp : ∀ i, Nat.pow 2 i = 2 ^ i := fun _ => rfl
  unfold scale
  split_ifs with h
  · -- no fraction at all: both exponents are zero
    obtain ⟨rfl, rfl⟩ : k = 0 ∧ j = 0 := ⟨by omega, by omega⟩
    simp
  · rw [Nat.one_mul, show (-(k : Int) - j).natAbs = k + j by omega, hp, hp, hp, Nat.pow_add]

/-- A count below `2^53` over a power of two up to `2^30` is a double exactly:
`n · 2^j` over `2^(k + j)`, for some `j`. -/
theorem ofQuotient_two_pow_exact {n k : Nat} (hn0 : n ≠ 0) (hn : n < Nat.pow 2 53) (hk : k ≤ 30) :
    ∃ j : Nat, (ofQuotient n (Nat.pow 2 k)).decode = .finite false (n * Nat.pow 2 j) (-(k : Int) - j) := by
  have hE : minExponent ≤ ((0 : Nat) : Int) - k := by
    show (-1074 : Int) ≤ _
    omega
  have hlog := (Nat.log2_lt hn0).mpr hn
  have hshape := (nearest_exact_shape (M := n) (p := 0) (q := k) hn0 hn hE).1 (by omega)
  rw [show n * Nat.pow 2 0 = n from Nat.mul_one n] at hshape
  obtain ⟨e, he, hdec⟩ := hshape
  refine ⟨(-(k : Int) - e).toNat, ?_⟩
  have h1 : (((0 : Nat) : Int) - k - e).toNat = (-(k : Int) - e).toNat := by omega
  have h2 : e = -(k : Int) - ((-(k : Int) - e).toNat : Nat) := by omega
  rw [Body.ofQuotient_natCast, hdec, h1, ← h2]

theorem isIntegral_of_toRat {x : Binary64} {a b : Nat} (h : x.toRat? = some ((a : Int), b)) :
    x.isIntegral = decide (a % b = 0) := by
  simp only [isIntegral, h]
  rw [Bool.eq_iff_iff, beq_iff_eq, decide_eq_true_eq]
  norm_cast

theorem truncate_of_toRat {x : Binary64} {a b : Nat} (h : x.toRat? = some ((a : Int), b)) :
    x.truncate = some ((a / b : Nat) : Int) := by
  simp only [truncate, h, Int.ofNat_tdiv]

theorem fixed_of_decode {x : Binary64} {m : Nat} {e : Int} (h : x.decode = .finite false m e) (p : Nat) :
    x.fixed p = pointed p (roundHalfEven ((scale m 1 e).1 * Nat.pow 10 p) (scale m 1 e).2) := by
  unfold fixed
  rw [h]
  simp

/-- **A count below `2^53` is shown as its nearest tenth of a unit up to
`2^30`.** A whole number of units is written as it is; any other count is
rounded to one place and trimmed, which gives the same text. -/
theorem inUnit_two_pow {n k : Nat} (hn0 : n ≠ 0) (hn : n < Nat.pow 2 53) (hk : k ≤ 30)
    (name : String) :
    inUnit n (Nat.pow 2 k) name = .ok (tenths (roundHalfEven (10 * n) (Nat.pow 2 k)) ++ name) := by
  obtain ⟨j, hdec⟩ := ofQuotient_two_pow_exact hn0 hn hk
  have hrat := Body.toRat?_of_decode hdec
  rw [scale_two_pow] at hrat
  dsimp only at hrat
  have hj : 0 < Nat.pow 2 j := Nat.two_pow_pos j
  have hu : 0 < Nat.pow 2 k := Nat.two_pow_pos k
  unfold inUnit
  dsimp only
  rw [if_neg (by rw [isInfinite_of_decode hdec]; decide), isIntegral_of_toRat hrat,
    Nat.mul_mod_mul_right]
  by_cases hdiv : n % Nat.pow 2 k = 0
  · -- a whole number of units: its tenths end in a zero
    rw [if_pos (by rw [hdiv, Nat.zero_mul]; rfl), truncate_of_toRat hrat, Nat.mul_div_mul_right _ _ hj]
    have hten : 10 * n = Nat.pow 2 k * (10 * (n / Nat.pow 2 k)) := by
      have := Nat.div_add_mod n (Nat.pow 2 k)
      rw [hdiv, Nat.add_zero] at this
      calc 10 * n = 10 * (Nat.pow 2 k * (n / Nat.pow 2 k)) := by rw [this]
        _ = Nat.pow 2 k * (10 * (n / Nat.pow 2 k)) := by ring
    rw [hten, roundHalfEven_mul hu, tenths_ten_mul]
    rfl
  · have hrem : n % Nat.pow 2 k * Nat.pow 2 j ≠ 0 := Nat.mul_ne_zero hdiv (Nat.pos_iff_ne_zero.mp hj)
    rw [if_neg (by rw [decide_eq_true_eq]; exact hrem), fixed_of_decode hdec, scale_two_pow,
      show n * Nat.pow 2 j * Nat.pow 10 1 = 10 * n * Nat.pow 2 j by
        rw [show Nat.pow 10 1 = 10 from rfl]
        ring,
      roundHalfEven_mul_right _ _ hj, trimFraction_pointed]

/-! ### The unit -/

/-- The unit a count is shown in, a power of two up to `2^30`: the largest of
`GB`, `MB`, `KB` and `B` that the count reaches. Below a `GB` the count is less
than `1024` of its unit. -/
theorem find?_displayUnits {n : Nat} (hn : 0 < n) :
    ∃ k U, displayUnits.find? (fun u => decide (u.1 ≤ n)) = some (Nat.pow 2 k, U) ∧ k ≤ 30 ∧
      (Nat.pow 2 k, U) ∈ displayUnits ∧ Nat.pow 2 k ≤ n ∧
      (∀ v ∈ displayUnits, v.1 ≤ n → v.1 ≤ Nat.pow 2 k) ∧ (U ≠ "GB" → n < 1024 * Nat.pow 2 k) := by
  have hlist : displayUnits = [(1073741824, "GB"), (1048576, "MB"), (1024, "KB"), (1, "B")] := rfl
  rw [hlist]
  rcases (show 1073741824 ≤ n ∨ (1048576 ≤ n ∧ n < 1073741824) ∨ (1024 ≤ n ∧ n < 1048576) ∨ n < 1024
    by omega) with hG | ⟨hM, hM'⟩ | ⟨hK, hK'⟩ | hB
  · refine ⟨30, "GB", ?_, by omega, ?_, ?_, ?_, fun h => absurd rfl h⟩ <;>
      simp [hG]
  · refine ⟨20, "MB", ?_, by omega, ?_, ?_, ?_, fun _ => ?_⟩ <;>
      simp [hM, hM', Nat.not_le.mpr hM']
  · refine ⟨10, "KB", ?_, by omega, ?_, ?_, ?_, fun _ => ?_⟩ <;>
      simp [hK, hK', Nat.not_le.mpr hK', Nat.not_le.mpr (Nat.lt_trans hK' (by decide : 1048576 < 1073741824))]
  · refine ⟨0, "B", ?_, by omega, ?_, ?_, ?_, fun _ => ?_⟩ <;>
      simp [hB, Nat.one_le_iff_ne_zero.mpr (Nat.pos_iff_ne_zero.mp hn),
        Nat.not_le.mpr hB, Nat.not_le.mpr (Nat.lt_trans hB (by decide : 1024 < 1048576)),
        Nat.not_le.mpr (Nat.lt_trans hB (by decide : 1024 < 1073741824))]

/-- **A size is shown as its nearest tenth in the largest unit it reaches.** For
every count of bytes `n` below `2^53`, the text of the size `n` is `0B` for
zero, and otherwise the count of tenths `r` nearest to `n` over the unit `u`,
the even one at a tie, written as a decimal without trailing zeros, followed
by the unit's name; the unit is the largest of `GB`, `MB`, `KB` and `B` not
above `n`. In `B`, `KB` and `MB` the number shown lies between `1` and `1024`. -/
theorem text_shows_nearest_tenth (n : Nat) (h : n < Nat.pow 2 53) :
    (n = 0 → text (.int n) = .ok "0B") ∧
    (0 < n → ∃ u U r, (u, U) ∈ displayUnits ∧ u ≤ n ∧ (∀ v ∈ displayUnits, v.1 ≤ n → v.1 ≤ u) ∧
      NearestEven (10 * n) u r ∧ text (.int n) = .ok (tenths r ++ U) ∧
      (U ≠ "GB" → 10 ≤ r ∧ r ≤ 10240)) := by
  have htext : text (.int n) = «show» n := by
    simp only [text, ge_iff_le, Int.natCast_nonneg, if_true, Int.toNat_natCast]
  refine ⟨fun h0 => by rw [htext, h0]; rfl, fun hn => ?_⟩
  obtain ⟨k, U, hfind, hk, hmem, hle, hlargest, hbelow⟩ := find?_displayUnits hn
  have hu : 0 < Nat.pow 2 k := Nat.two_pow_pos k
  refine ⟨Nat.pow 2 k, U, roundHalfEven (10 * n) (Nat.pow 2 k), hmem, hle, hlargest,
    roundHalfEven_nearestEven hu, ?_, fun hU => ⟨?_, ?_⟩⟩
  · rw [htext, «show», if_neg (Nat.pos_iff_ne_zero.mp hn), hfind]
    exact inUnit_two_pow (Nat.pos_iff_ne_zero.mp hn) h hk U
  · -- at least one unit, so at least ten tenths
    exact le_roundHalfEven hu (by have := hbelow hU; omega)
  · -- less than `1024` units, so at most `10240` tenths
    exact roundHalfEven_le_of_le hu (by have := hbelow hU; omega)

/-- `1280` bytes are `1.25KB`, a tie between the tenths `12` and `13`. -/
theorem text_shows_nearest_tenth_kib :
    (1280 : Nat) < Nat.pow 2 53 ∧ ∃ u U r, (u, U) ∈ displayUnits ∧ u ≤ 1280 ∧
      NearestEven (10 * 1280) u r ∧ text (.int (1280 : Nat)) = .ok (tenths r ++ U) := by
  obtain ⟨u, U, r, hmem, hle, -, hnear, htext, -⟩ :=
    (text_shows_nearest_tenth 1280 (by decide)).2 (by decide)
  exact ⟨by decide, u, U, r, hmem, hle, hnear, htext⟩

end MaskedLog.Size

import MaskedLog.Proofs.Measure
/-!
# Rounding to a double, exactly

Rounding `n / d` to the nearest double picks an exponent from the binary
lengths of `n` and `d`, scales the quotient to a significand below `2^53`, and
rounds that half to even. This module reads the result back: the fields a word
is built from decode to the significand and exponent put in, a value that is a
double already rounds to itself (or to infinity past the largest double), and
a quotient of at most a half rounds to a double of at most a half.

## Main definitions

* `place` — the last step of rounding: the word for a rounded significand.
* `nearestExponent` — the exponent a quotient is scaled to before rounding.

## Main results

* `decode_ofFields_subnormal`, `decode_ofFields_normal` — the fields of a
  positive word decode to its significand and exponent.
* `nearest_eq_place` — rounding is scaling, rounding half to even, and placing.
* `decode_place_subnormal`, `decode_place_normal`, `decode_place_carry`,
  `place_overflow` — what a placed significand decodes to.
* `nearest_exact_shape`, `nearest_exact` — a value `M · 2^p / 2^q` with a
  significand `M < 2^53` is its own nearest double below `2^1024`, and rounds to
  infinity from there on.
* `nearest_half_bound` — the nearest double to at most a half is at most a half.

## References

The rounding of Python's `float`, as `size_to_bytes` of `bodylog/size.py` and
`_convert_value` of `bodylog/config.py` use it.
-/

namespace MaskedLog.Binary64

/-! ### The fields of a word -/

theorem bits_ofFields_false {field frac : Nat} (h : field * Nat.pow 2 52 + frac < Nat.pow 2 63) :
    (ofFields false field frac).bits.toNat = field * Nat.pow 2 52 + frac := by
  have h52 : Nat.pow 2 52 = 4503599627370496 := rfl
  have h63 : Nat.pow 2 63 = 9223372036854775808 := rfl
  rw [h52, h63] at h
  rw [h52]
  simp only [ofFields, h52]
  simp
  omega

theorem decode_ofFields_subnormal {m : Nat} (h : m < Nat.pow 2 52) :
    (ofFields false 0 m).decode = .finite false m minExponent := by
  have h52 : Nat.pow 2 52 = 4503599627370496 := rfl
  have h63 : Nat.pow 2 63 = 9223372036854775808 := rfl
  have h11 : Nat.pow 2 11 = 2048 := rfl
  have hb := @bits_ofFields_false 0 m (by rw [h52] at h; rw [h52, h63]; omega)
  unfold decode
  rw [hb, h52, h63, h11]
  rw [h52] at h
  simp only [Nat.zero_mul, Nat.zero_add]
  have h1 : m / 9223372036854775808 = 0 := by omega
  have h2 : m / 4503599627370496 % 2048 = 0 := by omega
  have h3 : m % 4503599627370496 = m := by omega
  simp [h1, h2, h3]

theorem decode_ofFields_normal {field frac : Nat} (h1 : 0 < field) (h2 : field < 2047)
    (h3 : frac < Nat.pow 2 52) :
    (ofFields false field frac).decode = .finite false (frac + Nat.pow 2 52) ((field : Int) - 1075) := by
  have h52 : Nat.pow 2 52 = 4503599627370496 := rfl
  have h63 : Nat.pow 2 63 = 9223372036854775808 := rfl
  have h11 : Nat.pow 2 11 = 2048 := rfl
  rw [h52] at h3
  have hb := @bits_ofFields_false field frac (by rw [h52, h63]; omega)
  unfold decode
  rw [hb, h52, h63, h11]
  have e1 : (field * 4503599627370496 + frac) / 9223372036854775808 = 0 := by omega
  have e2 : (field * 4503599627370496 + frac) / 4503599627370496 % 2048 = field := by omega
  have e3 : (field * 4503599627370496 + frac) % 4503599627370496 = frac := by omega
  simp only [e1, e2, e3]
  rw [if_neg (by omega), if_neg (by omega)]
  rfl

theorem infinity_isInfinite : (infinity false).isInfinite = true := by decide

theorem isInfinite_of_decode {x : Binary64} {m : Nat} {e : Int} (h : x.decode = .finite false m e) :
    x.isInfinite = false := by
  simp [isInfinite, h]

theorem truncate_of_decode {x : Binary64} {m : Nat} {e : Int} (h : x.decode = .finite false m e) :
    x.truncate = some (((scale m 1 e).1 / (scale m 1 e).2 : Nat) : Int) := by
  simp [truncate, toRat?, h]

/-! ### Placing a rounded significand -/

/-- The word for a significand `m ≤ 2^53` rounded at exponent `e`: a carry to
`2^53` moves one binade up, a significand below `2^52` is written as a
subnormal, and an exponent past the largest gives an infinity. -/
def place (neg : Bool) (m : Nat) (e : Int) : Binary64 :=
  let (m, e) := if m = Nat.pow 2 53 then (Nat.pow 2 52, e + 1) else (m, e)
  if m < Nat.pow 2 52 then ofFields neg 0 m
  else if e + 1075 ≥ 2047 then infinity neg
  else ofFields neg (e + 1075).toNat (m - Nat.pow 2 52)

/-- The exponent `nearest` scales a quotient `n / d` to: one binade below the
binary lengths' difference when that leaves the quotient below `2^52`, and no
less than the least exponent. -/
def nearestExponent (n d : Nat) : Int :=
  let e1 : Int := (log2 n : Int) - (log2 d : Int) - 52
  let e2 := if below n d e1 then e1 - 1 else e1
  max e2 minExponent

/-- Rounding a nonzero quotient scales it to `nearestExponent`, rounds half to
even and places the significand. -/
theorem nearest_eq_place (neg : Bool) {n : Nat} (d : Nat) (hn : n ≠ 0) :
    nearest neg n d = place neg (roundHalfEven (scale n d (-nearestExponent n d)).1
      (scale n d (-nearestExponent n d)).2) (nearestExponent n d) := by
  unfold nearest
  rw [if_neg hn]
  extract_lets e1 e2 e
  have he : e = nearestExponent n d := rfl
  clear_value e e2 e1
  subst he
  generalize scale n d (-nearestExponent n d) = ab
  rcases ab with ⟨a, b⟩
  rfl

theorem place_of_ne {neg : Bool} {m : Nat} (e : Int) (hm : m ≠ Nat.pow 2 53) :
    place neg m e = if m < Nat.pow 2 52 then ofFields neg 0 m
      else if e + 1075 ≥ 2047 then infinity neg
      else ofFields neg (e + 1075).toNat (m - Nat.pow 2 52) := by
  unfold place
  rw [if_neg hm]

/-- A significand below `2^52` is written as a subnormal. -/
theorem decode_place_subnormal {m : Nat} (e : Int) (hm : m < Nat.pow 2 52) :
    (place false m e).decode = .finite false m minExponent := by
  have h53 : m ≠ Nat.pow 2 53 := by
    have : Nat.pow 2 52 < Nat.pow 2 53 := by decide
    omega
  rw [place_of_ne e h53, if_pos hm, decode_ofFields_subnormal hm]

/-- A significand of 53 bits at an exponent in range is written as it is. -/
theorem decode_place_normal {m : Nat} {e : Int} (hm1 : Nat.pow 2 52 ≤ m) (hm2 : m < Nat.pow 2 53)
    (he1 : minExponent ≤ e) (he2 : e + 1075 < 2047) :
    (place false m e).decode = .finite false m e := by
  have hmin : minExponent = -1074 := rfl
  have h52 : Nat.pow 2 52 = 4503599627370496 := rfl
  have hfrac : m - Nat.pow 2 52 < Nat.pow 2 52 := by
    have : Nat.pow 2 53 = 2 * Nat.pow 2 52 := rfl
    omega
  have hfield : (((e + 1075).toNat : Nat) : Int) - 1075 = e := by omega
  rw [place_of_ne e (Nat.ne_of_lt hm2), if_neg (Nat.not_lt.mpr hm1), if_neg (by omega),
    decode_ofFields_normal (by omega) (by omega) hfrac, Nat.sub_add_cancel hm1, hfield]

/-- A significand rounded up to `2^53` is `2^52` one binade up. -/
theorem decode_place_carry {e : Int} (he1 : minExponent ≤ e) (he2 : e + 1 + 1075 < 2047) :
    (place false (Nat.pow 2 53) e).decode = .finite false (Nat.pow 2 52) (e + 1) := by
  have hmin : minExponent = -1074 := rfl
  have hfield : (((e + 1 + 1075).toNat : Nat) : Int) - 1075 = e + 1 := by omega
  unfold place
  rw [if_pos rfl]
  dsimp only
  rw [if_neg (Nat.lt_irrefl _), if_neg (by omega), Nat.sub_self,
    decode_ofFields_normal (by omega) (by omega) (by decide), Nat.zero_add, hfield]

/-- A significand of 53 bits past the largest exponent is an infinity. -/
theorem place_overflow {m : Nat} {e : Int} (hm1 : Nat.pow 2 52 ≤ m) (hm2 : m < Nat.pow 2 53)
    (he : 2047 ≤ e + 1075) : place false m e = infinity false := by
  rw [place_of_ne e (Nat.ne_of_lt hm2), if_neg (Nat.not_lt.mpr hm1), if_pos he]

/-! ### Finite doubles as rationals -/

theorem nearest_zero (neg : Bool) (d : Nat) : nearest neg 0 d = zero neg := by
  unfold nearest
  rw [if_pos rfl]

theorem scale_zero_fst (d : Nat) (k : Int) : (scale 0 d k).1 = 0 := by
  unfold scale
  split <;> simp

/-- A finite double has a significand below `2^53` and an exponent no less than
the least. -/
theorem decode_finite_bounds {x : Binary64} {neg : Bool} {m : Nat} {e : Int}
    (h : x.decode = .finite neg m e) : m < Nat.pow 2 53 ∧ minExponent ≤ e := by
  have h52 : Nat.pow 2 52 = 4503599627370496 := rfl
  have h53 : Nat.pow 2 53 = 9007199254740992 := rfl
  have hmin : minExponent = -1074 := rfl
  unfold decode at h
  dsimp only at h
  -- an infinity or a NaN is no finite shape; split_ifs discards those branches
  split_ifs at h with hinf hsub
  · cases h
    exact ⟨by rw [h53, h52]; omega, Int.le_refl _⟩
  · cases h
    exact ⟨by rw [h53, h52]; omega, by rw [hmin]; omega⟩

/-- The rational of a finite double: a power of two times a significand below
`2^53`, over a power of two, with the exponent no less than the least. The
numerator of a negative double counts as zero. -/
theorem toRat?_eq_some {x : Binary64} {a : Int} {b : Nat} (h : x.toRat? = some (a, b)) :
    ∃ M p q, a.toNat = M * Nat.pow 2 p ∧ b = Nat.pow 2 q ∧ M < Nat.pow 2 53 ∧
      minExponent ≤ (p : Int) - q := by
  unfold toRat? at h
  split at h
  · rename_i neg m e hdec
    obtain ⟨hm, he⟩ := decode_finite_bounds hdec
    have hM : (if neg then 0 else m) < Nat.pow 2 53 := by split <;> omega
    unfold scale at h
    by_cases he0 : e ≥ 0
    · -- a whole value `m · 2^e` over one
      rw [if_pos he0] at h
      obtain ⟨rfl, rfl⟩ := Prod.mk.inj (Option.some.inj h)
      refine ⟨if neg then 0 else m, e.toNat, 0, ?_, rfl, hM, by omega⟩
      cases neg <;> simp only [Bool.false_eq_true, if_false, if_true] <;> omega
    · -- a fraction `m / 2^(-e)`
      rw [if_neg he0] at h
      obtain ⟨rfl, rfl⟩ := Prod.mk.inj (Option.some.inj h)
      refine ⟨if neg then 0 else m, 0, e.natAbs, ?_, Nat.one_mul _, hM, by omega⟩
      have h0 : Nat.pow 2 0 = 1 := rfl
      cases neg <;> simp only [Bool.false_eq_true, if_false, if_true, h0] <;> omega
  · cases h

/-! ### Scaling by powers of two -/

theorem log2_mul_two_pow {M : Nat} (hM : M ≠ 0) (p : Nat) : (M * Nat.pow 2 p).log2 = M.log2 + p := by
  have hp : ∀ j, Nat.pow 2 j = 2 ^ j := fun _ => rfl
  have hlo := Nat.log2_self_le hM
  have hhi := Nat.lt_log2_self (n := M)
  rw [hp, Nat.log2_eq_iff (Nat.mul_ne_zero hM (Nat.two_pow_pos p).ne')]
  constructor
  · rw [Nat.pow_add]
    exact Nat.mul_le_mul_right _ hlo
  · rw [show M.log2 + p + 1 = (M.log2 + 1) + p by omega, Nat.pow_add]
    exact Nat.mul_lt_mul_of_pos_right hhi (Nat.two_pow_pos p)

/-- Scaling `M · 2^p / 2^q` by `2^k` leaves a whole quotient when the exponent
`p - q + k` is not negative. -/
theorem scale_exact (M p q : Nat) {k : Int} (hk : 0 ≤ (p : Int) - q + k) :
    (scale (M * Nat.pow 2 p) (Nat.pow 2 q) k).1 =
        (scale (M * Nat.pow 2 p) (Nat.pow 2 q) k).2 * (M * Nat.pow 2 ((p : Int) - q + k).toNat) ∧
      0 < (scale (M * Nat.pow 2 p) (Nat.pow 2 q) k).2 := by
  have hp : ∀ j, Nat.pow 2 j = 2 ^ j := fun _ => rfl
  unfold scale
  split_ifs with hk0
  · refine ⟨?_, Nat.two_pow_pos q⟩
    simp only [hp]
    rw [Nat.mul_assoc, ← Nat.pow_add, Nat.mul_left_comm, ← Nat.pow_add]
    congr 2
    omega
  · refine ⟨?_, Nat.mul_pos (Nat.two_pow_pos q) (Nat.two_pow_pos _)⟩
    simp only [hp]
    rw [← Nat.pow_add, Nat.mul_left_comm, ← Nat.pow_add]
    congr 2
    omega

theorem roundHalfEven_mul {b : Nat} (hb : 0 < b) (x : Nat) : roundHalfEven (b * x) b = x := by
  unfold roundHalfEven
  simp [Nat.mul_div_cancel_left x hb, Nat.mul_mod_right]
  omega

/-- Two quotients by powers of two agree when their exponents differ alike. -/
theorem mul_two_pow_div_eq {M s t u v : Nat} (h : (s : Int) - t = u - v) :
    M * Nat.pow 2 s / Nat.pow 2 t = M * Nat.pow 2 u / Nat.pow 2 v := by
  have hp : ∀ j, Nat.pow 2 j = 2 ^ j := fun _ => rfl
  simp only [hp]
  rw [← Nat.mul_div_mul_right _ _ (Nat.two_pow_pos v),
    ← Nat.mul_div_mul_right (M * 2 ^ u) _ (Nat.two_pow_pos t),
    Nat.mul_assoc, ← Nat.pow_add, ← Nat.pow_add, Nat.mul_assoc, ← Nat.pow_add, ← Nat.pow_add,
    show s + v = u + t by omega, Nat.add_comm t v]

/-- The quotient of a significand scaled to its exponent. -/
theorem scale_div_eq {X : Nat} {e : Int} (M p q : Nat) (hX : X = M * Nat.pow 2 ((p : Int) - q - e).toNat)
    (he : e ≤ (p : Int) - q) :
    (scale X 1 e).1 / (scale X 1 e).2 = M * Nat.pow 2 p / Nat.pow 2 q := by
  have hp : ∀ j, Nat.pow 2 j = 2 ^ j := fun _ => rfl
  unfold scale
  subst hX
  split_ifs with he0
  · -- a whole value: the significand times a power of two, over one
    dsimp only
    rw [Nat.mul_assoc, hp, hp, ← Nat.pow_add, ← hp, show (1 : Nat) = Nat.pow 2 0 from rfl]
    exact mul_two_pow_div_eq (by omega)
  · dsimp only
    rw [Nat.one_mul]
    exact mul_two_pow_div_eq (by omega)

/-! ### Values that are doubles already -/

/-- For a value `M · 2^p / 2^q` with a significand `M < 2^53`, the first guess of
the exponent already puts the value in `[2^52, 2^53)`, so `nearest` takes the
exponent of its leading digit, or the least one. -/
theorem nearestExponent_exact {M p q : Nat} (hM0 : M ≠ 0) (hM : M < Nat.pow 2 53) :
    nearestExponent (M * Nat.pow 2 p) (Nat.pow 2 q) =
      max ((M.log2 : Int) + p - q - 52) minExponent := by
  have hp : ∀ j, Nat.pow 2 j = 2 ^ j := fun _ => rfl
  have hLlo : 2 ^ M.log2 ≤ M := Nat.log2_self_le hM0
  have hL53 : M.log2 < 53 := (Nat.log2_lt hM0).mpr hM
  unfold nearestExponent
  extract_lets e1 e2
  have he1 : e1 = (M.log2 : Int) + p - q - 52 := by
    simp only [e1, log2]
    rw [log2_mul_two_pow hM0, hp q, Nat.log2_two_pow]
    omega
  have he2 : e2 = if below (M * Nat.pow 2 p) (Nat.pow 2 q) e1 then e1 - 1 else e1 := rfl
  clear_value e2 e1
  subst he1 he2
  -- at the first guess the scaled value is `M · 2^(52 - log₂ M)`, at least `2^52`
  have hbelow : below (M * Nat.pow 2 p) (Nat.pow 2 q) ((M.log2 : Int) + p - q - 52) = false := by
    obtain ⟨ha, -⟩ := scale_exact M p q (k := -((M.log2 : Int) + p - q - 52)) (by omega)
    have hexp : ((p : Int) - q + -((M.log2 : Int) + p - q - 52)).toNat = 52 - M.log2 := by omega
    rw [hexp] at ha
    have hlead : Nat.pow 2 52 ≤ M * Nat.pow 2 (52 - M.log2) := by
      rw [hp, hp]
      calc 2 ^ 52 = 2 ^ M.log2 * 2 ^ (52 - M.log2) := by rw [← Nat.pow_add]; congr 1; omega
        _ ≤ M * 2 ^ (52 - M.log2) := Nat.mul_le_mul_right _ hLlo
    unfold below
    rcases hs : scale (M * Nat.pow 2 p) (Nat.pow 2 q) (-((M.log2 : Int) + p - q - 52)) with ⟨a, b⟩
    rw [hs] at ha
    dsimp only at ha ⊢
    simp only [decide_eq_false_iff_not, Nat.not_lt]
    rw [ha]
    exact Nat.mul_le_mul_left b hlead
  rw [hbelow, if_neg Bool.false_ne_true]

/-- The word a value that is a double already rounds to. The value
`M · 2^p / 2^q`, with `M < 2^53` and the exponent `p - q` within the range of
doubles, decodes back to itself, written with some exponent `e ≤ p - q`, while
its leading binary digit is below `2^1024`; from there on it rounds to infinity. -/
theorem nearest_exact_shape {M p q : Nat} (hM0 : M ≠ 0) (hM : M < Nat.pow 2 53)
    (hE : minExponent ≤ (p : Int) - q) :
    (M.log2 + p < 1024 + q → ∃ e : Int, e ≤ (p : Int) - q ∧
      (nearest false (M * Nat.pow 2 p) (Nat.pow 2 q)).decode =
        .finite false (M * Nat.pow 2 ((p : Int) - q - e).toNat) e) ∧
    (1024 + q ≤ M.log2 + p → nearest false (M * Nat.pow 2 p) (Nat.pow 2 q) = infinity false) := by
  have hp : ∀ j, Nat.pow 2 j = 2 ^ j := fun _ => rfl
  have hmin : minExponent = -1074 := rfl
  -- `M` has `M.log2 + 1` binary digits
  have hLlo : 2 ^ M.log2 ≤ M := Nat.log2_self_le hM0
  have hLhi : M < 2 ^ (M.log2 + 1) := Nat.lt_log2_self
  have hL53 : M.log2 < 53 := (Nat.log2_lt hM0).mpr hM
  have hX0 : M * Nat.pow 2 p ≠ 0 := Nat.mul_ne_zero hM0 (by rw [hp]; exact (Nat.two_pow_pos p).ne')
  rw [nearest_eq_place false _ hX0, nearestExponent_exact hM0 hM]
  generalize he : max ((M.log2 : Int) + p - q - 52) minExponent = e
  rw [hmin] at hE he
  -- at the chosen exponent the quotient is whole: the significand, exactly
  obtain ⟨ha, hb⟩ := scale_exact M p q (k := -e) (by omega)
  rw [ha, roundHalfEven_mul hb, show ((p : Int) - q + -e) = (p : Int) - q - e by omega]
  by_cases hnorm : -1074 ≤ (M.log2 : Int) + p - q - 52
  · -- a normal double: the significand has 53 binary digits
    have hXexp : ((p : Int) - q - e).toNat = 52 - M.log2 := by omega
    have hX52 : Nat.pow 2 52 ≤ M * Nat.pow 2 ((p : Int) - q - e).toNat := by
      rw [hXexp, hp, hp]
      calc 2 ^ 52 = 2 ^ M.log2 * 2 ^ (52 - M.log2) := by rw [← Nat.pow_add]; congr 1; omega
        _ ≤ M * 2 ^ (52 - M.log2) := Nat.mul_le_mul_right _ hLlo
    have hX53 : M * Nat.pow 2 ((p : Int) - q - e).toNat < Nat.pow 2 53 := by
      rw [hXexp, hp, hp]
      calc M * 2 ^ (52 - M.log2) < 2 ^ (M.log2 + 1) * 2 ^ (52 - M.log2) :=
            Nat.mul_lt_mul_of_pos_right hLhi (Nat.two_pow_pos _)
        _ = 2 ^ 53 := by rw [← Nat.pow_add]; congr 1; omega
    exact ⟨fun hsmall => ⟨e, by omega, decode_place_normal hX52 hX53 (by rw [hmin]; omega)
      (by omega)⟩, fun hlarge => place_overflow hX52 hX53 (by omega)⟩
  · -- a subnormal double at the least exponent
    have hee : e = -1074 := by omega
    have hXsmall : M * Nat.pow 2 ((p : Int) - q - e).toNat < Nat.pow 2 52 := by
      rw [hp, hp]
      calc M * 2 ^ ((p : Int) - q - e).toNat < 2 ^ (M.log2 + 1) * 2 ^ ((p : Int) - q - e).toNat :=
            Nat.mul_lt_mul_of_pos_right hLhi (Nat.two_pow_pos _)
        _ = 2 ^ (M.log2 + 1 + ((p : Int) - q - e).toNat) := (Nat.pow_add ..).symm
        _ ≤ 2 ^ 52 := Nat.pow_le_pow_right (by omega) (by omega)
    refine ⟨fun _ => ⟨e, by omega, ?_⟩, fun hlarge => absurd hlarge (by omega)⟩
    rw [decode_place_subnormal e hXsmall, hee, hmin]

/-- **Rounding a value that is a double already gives it back.** The value
`M · 2^p / 2^q`, with `M < 2^53` and the exponent `p - q` within the range of
doubles, rounds to itself when it is below `2^1024`, and to infinity otherwise. -/
theorem nearest_exact {M p q : Nat} (hM0 : M ≠ 0) (hM : M < Nat.pow 2 53)
    (hE : minExponent ≤ (p : Int) - q) :
    (M * Nat.pow 2 p < Nat.pow 2 1024 * Nat.pow 2 q →
      (nearest false (M * Nat.pow 2 p) (Nat.pow 2 q)).isInfinite = false ∧
      (nearest false (M * Nat.pow 2 p) (Nat.pow 2 q)).truncate =
        some ((M * Nat.pow 2 p / Nat.pow 2 q : Nat) : Int)) ∧
    (Nat.pow 2 1024 * Nat.pow 2 q ≤ M * Nat.pow 2 p →
      nearest false (M * Nat.pow 2 p) (Nat.pow 2 q) = infinity false) := by
  have hp : ∀ j, Nat.pow 2 j = 2 ^ j := fun _ => rfl
  have hLlo : 2 ^ M.log2 ≤ M := Nat.log2_self_le hM0
  have hLhi : M < 2 ^ (M.log2 + 1) := Nat.lt_log2_self
  -- the value reaches `2^1024` exactly when its leading digit does
  have hbig : Nat.pow 2 1024 * Nat.pow 2 q ≤ M * Nat.pow 2 p ↔ 1024 + q ≤ M.log2 + p := by
    generalize 1024 = K
    rw [hp, hp, hp, ← Nat.pow_add]
    constructor
    · intro h
      by_contra hlt
      have : M * 2 ^ p < 2 ^ (K + q) :=
        calc M * 2 ^ p < 2 ^ (M.log2 + 1) * 2 ^ p := Nat.mul_lt_mul_of_pos_right hLhi (Nat.two_pow_pos p)
          _ = 2 ^ (M.log2 + 1 + p) := (Nat.pow_add ..).symm
          _ ≤ 2 ^ (K + q) := Nat.pow_le_pow_right (by omega) (by omega)
      omega
    · intro h
      calc 2 ^ (K + q) ≤ 2 ^ (M.log2 + p) := Nat.pow_le_pow_right (by omega) h
        _ = 2 ^ M.log2 * 2 ^ p := Nat.pow_add ..
        _ ≤ M * 2 ^ p := Nat.mul_le_mul_right _ hLlo
  rw [hbig, ← Nat.not_le, hbig]
  obtain ⟨hsmall, hlarge⟩ := nearest_exact_shape hM0 hM hE
  refine ⟨fun h => ?_, hlarge⟩
  -- a word that decodes to `X · 2^e` is finite, and its integer part is the value's
  obtain ⟨e, he, hdec⟩ := hsmall (by omega)
  exact ⟨isInfinite_of_decode hdec, by rw [truncate_of_decode hdec, scale_div_eq M p q rfl he]⟩

/-! ### At most a half -/

theorem roundHalfEven_le_of_le {a b k : Nat} (hb : 0 < b) (h : a ≤ b * k) : roundHalfEven a b ≤ k := by
  rcases Nat.lt_or_eq_of_le h with hlt | heq
  · exact roundHalfEven_le hb hlt
  · rw [heq]
    unfold roundHalfEven
    simp only [Nat.mul_div_cancel_left k hb, Nat.mul_mod_right]
    rw [if_neg (by simp; omega)]

/-- A scaled significand of at most `2^(-e-1)` stands for at most a half. -/
theorem half_of_le {m : Nat} {e : Int} (he : e < 0) (hm : m ≤ Nat.pow 2 (-e - 1).toNat) :
    2 * (scale m 1 e).1 ≤ (scale m 1 e).2 := by
  have hp : ∀ j, Nat.pow 2 j = 2 ^ j := fun _ => rfl
  unfold scale
  rw [if_neg (by omega)]
  dsimp only
  rw [Nat.one_mul, hp] at *
  calc 2 * m ≤ 2 * 2 ^ (-e - 1).toNat := Nat.mul_le_mul_left 2 hm
    _ = 2 ^ e.natAbs := by rw [← Nat.pow_succ']; congr 1; omega

/-- `n · 2^k < d · 2^53` when `k` is at most `52` binades past `log₂ d - log₂ n`. -/
theorem mul_two_pow_lt {n d k : Nat} (hd : d ≠ 0) (hk : k + n.log2 ≤ d.log2 + 52) :
    n * Nat.pow 2 k < d * Nat.pow 2 53 := by
  have hp : ∀ j, Nat.pow 2 j = 2 ^ j := fun _ => rfl
  rw [hp, hp]
  calc n * 2 ^ k < 2 ^ (n.log2 + 1) * 2 ^ k := Nat.mul_lt_mul_of_pos_right Nat.lt_log2_self (Nat.two_pow_pos k)
    _ = 2 ^ (n.log2 + 1 + k) := (Nat.pow_add ..).symm
    _ ≤ 2 ^ (d.log2 + 53) := Nat.pow_le_pow_right (by decide) (by omega)
    _ = 2 ^ d.log2 * 2 ^ 53 := Nat.pow_add ..
    _ ≤ d * 2 ^ 53 := Nat.mul_le_mul_right _ (Nat.log2_self_le hd)

theorem below_iff {n d : Nat} {e : Int} (he : e ≤ 0) :
    below n d e = true ↔ n * Nat.pow 2 (-e).toNat < d * Nat.pow 2 52 := by
  unfold below scale
  rw [if_pos (by omega)]
  simp

/-- For a nonzero quotient of at most a half, `nearest` picks an exponent between
the least one and `-53`, at which the scaled quotient is below `2^53`. -/
theorem nearestExponent_of_half {n d : Nat} (hd : 0 < d) (hn : n ≠ 0) (h : 2 * n ≤ d) :
    nearestExponent n d ≤ -53 ∧ minExponent ≤ nearestExponent n d ∧
      n * Nat.pow 2 (-nearestExponent n d).toNat < d * Nat.pow 2 53 := by
  have hp : ∀ j, Nat.pow 2 j = 2 ^ j := fun _ => rfl
  have hmin : minExponent = -1074 := rfl
  have hlog : n.log2 + 1 ≤ d.log2 := by
    rw [Nat.le_log2 hd.ne', Nat.pow_succ]
    have := Nat.log2_self_le hn
    omega
  unfold nearestExponent
  extract_lets e1 e2
  have he1 : e1 = (n.log2 : Int) - d.log2 - 52 := rfl
  have he2 : e2 = if below n d e1 then e1 - 1 else e1 := rfl
  clear_value e2 e1
  -- one binade down from the first guess when that leaves the quotient below `2^52`
  have hsig2 : e2 ≤ e1 ∧ n * Nat.pow 2 (-e2).toNat < d * Nat.pow 2 53 := by
    rw [he2]
    split
    · next hb =>
      have hb' := (below_iff (by omega)).mp hb
      have hk : (-(e1 - 1)).toNat = (-e1).toNat + 1 := by omega
      refine ⟨by omega, ?_⟩
      rw [hp, hp] at hb'
      rw [hk, hp, hp]
      calc n * 2 ^ ((-e1).toNat + 1) = n * 2 ^ (-e1).toNat * 2 := by
            rw [Nat.pow_succ, Nat.mul_assoc]
        _ < d * 2 ^ 52 * 2 := Nat.mul_lt_mul_of_pos_right hb' (by decide)
        _ = d * 2 ^ 53 := by rw [Nat.mul_assoc, ← Nat.pow_succ]
    · exact ⟨Int.le_refl _, mul_two_pow_lt hd.ne' (by omega)⟩
  -- raising the exponent to the least one only scales the quotient down
  refine ⟨by rw [hmin]; omega, by omega, Nat.lt_of_le_of_lt ?_ hsig2.2⟩
  exact Nat.mul_le_mul_left n (Nat.pow_le_pow_right (by decide) (by omega))

/-- A significand of at most `2^(-e-1)`, at an exponent `e` between the least
one and `-53`, is placed as a double of at most a half. -/
theorem place_half {m : Nat} {e : Int} (he1 : e ≤ -53) (he2 : minExponent ≤ e)
    (hm53 : m ≤ Nat.pow 2 53) (hm : m ≤ Nat.pow 2 (-e - 1).toNat) :
    ∃ m' e', (place false m e).decode = .finite false m' e' ∧
      2 * (scale m' 1 e').1 ≤ (scale m' 1 e').2 := by
  have hp : ∀ j, Nat.pow 2 j = 2 ^ j := fun _ => rfl
  have hmin : minExponent = -1074 := rfl
  by_cases htop : m = Nat.pow 2 53
  · -- rounding up to `2^53` moves to the next binade, one exponent up
    subst htop
    refine ⟨_, _, decode_place_carry he2 (by omega), half_of_le (by omega) ?_⟩
    rw [hp, hp] at hm ⊢
    have h53le := (Nat.pow_le_pow_iff_right (by decide : 1 < 2)).mp hm
    exact Nat.pow_le_pow_right (by decide) (by omega)
  by_cases hsub : m < Nat.pow 2 52
  · -- below the normal range: a subnormal, at the least exponent
    refine ⟨_, _, decode_place_subnormal e hsub, half_of_le (by decide) ?_⟩
    calc m ≤ Nat.pow 2 (-e - 1).toNat := hm
      _ ≤ Nat.pow 2 (-minExponent - 1).toNat := by
        rw [hp, hp]
        exact Nat.pow_le_pow_right (by decide) (by rw [hmin]; omega)
  · exact ⟨_, _, decode_place_normal (Nat.le_of_not_lt hsub) (Nat.lt_of_le_of_ne hm53 htop) he2
      (by omega), half_of_le (by omega) hm⟩

/-- **Rounding at most a half gives at most a half.** -/
theorem nearest_half_bound {n d : Nat} (hd : 0 < d) (h : 2 * n ≤ d) :
    ∃ m e, (nearest false n d).decode = .finite false m e ∧ 2 * (scale m 1 e).1 ≤ (scale m 1 e).2 := by
  have hp : ∀ j, Nat.pow 2 j = 2 ^ j := fun _ => rfl
  by_cases hn : n = 0
  · -- zero is the subnormal with significand zero
    subst hn
    refine ⟨0, minExponent, ?_, by rw [scale_zero_fst]; exact Nat.zero_le _⟩
    rw [nearest_zero]
    exact decode_ofFields_subnormal (by decide)
  obtain ⟨he1, he2, hsig⟩ := nearestExponent_of_half hd hn h
  rw [nearest_eq_place false d hn]
  generalize nearestExponent n d = e at he1 he2 hsig ⊢
  -- the quotient is scaled up by `2^(-e)`, and stays below a half of that
  have hscale : scale n d (-e) = (n * Nat.pow 2 (-e).toNat, d) := by
    unfold scale
    rw [if_pos (by omega)]
  rw [hscale]
  refine place_half he1 he2 (roundHalfEven_le_of_le hd (Nat.le_of_lt hsig))
    (roundHalfEven_le_of_le hd ?_)
  rw [hp, hp]
  calc n * 2 ^ (-e).toNat = 2 * n * 2 ^ (-e - 1).toNat := by
        rw [Nat.mul_comm 2 n, Nat.mul_assoc, ← Nat.pow_succ']
        congr 2
        omega
    _ ≤ d * 2 ^ (-e - 1).toNat := Nat.mul_le_mul_right _ h

end MaskedLog.Binary64

import MaskedLog.Proofs.Frame
import MaskedLog.Body.Truncate
/-!
# Sizes the logger can show

A logged body is cut to its byte budget with a note of its full size, and an
overflowing response copy is logged as its size alone. A size is shown through
a double, `n / 1024^k`, which is infinite past about `2^1054` bytes, and then
showing it fails. This module shows that it never fails below `2^1000` bytes,
and bounds the bytes of a logged body by those of the body it comes from:
decoding UTF-8 never lengthens, redaction at most quadruples a text (each
mask costs three characters and follows a quote it keeps), and UTF-8 takes at
most four bytes a character.

## Main results

* `Binary64.nearest_not_infinite` — rounding `n / d` below `2^1000` is finite.
* `Size.show_ok`, `truncate_ok` — showing and cutting never fail below
  `2^1000` bytes.
* `Layout.length_shown_le`, `length_redactChars_le` — a redaction is at most
  four times as long as its text.
* `length_loggedBody_le` — the logged text of a body has at most sixteen times
  its bytes.

## References

`bodylog/middleware.py` (`_request_params`, `_response_body`),
`bodylog/content.py` (`truncate`) and `bodylog/size.py` (`size_str`).
-/

namespace MaskedLog

/-! ### Rounding stays finite -/

namespace Binary64

theorem isInfinite_of_field {x : Binary64}
    (h : (x.bits.toNat / Nat.pow 2 52) % Nat.pow 2 11 ≠ 2047) : x.isInfinite = false := by
  unfold isInfinite decode
  dsimp only
  rw [if_neg h]
  split_ifs <;> rfl

/-- A word whose fields stay below the top exponent is no infinity, even when
the fraction spills into the exponent field. -/
theorem ofFields_not_infinite {neg : Bool} {field frac : Nat}
    (h : field * Nat.pow 2 52 + frac < 2047 * Nat.pow 2 52) :
    (ofFields neg field frac).isInfinite = false := by
  have h52 : Nat.pow 2 52 = 4503599627370496 := rfl
  have h63 : Nat.pow 2 63 = 9223372036854775808 := rfl
  have h11 : Nat.pow 2 11 = 2048 := rfl
  apply isInfinite_of_field
  rw [h52] at h
  simp only [ofFields, h52, h63, h11]
  cases neg <;> simp <;> omega

theorem zero_not_infinite (neg : Bool) : (zero neg).isInfinite = false :=
  ofFields_not_infinite (by simp only [show Nat.pow 2 52 = 4503599627370496 from rfl]; omega)

theorem roundHalfEven_le {a b k : Nat} (hb : 0 < b) (h : a < b * k) : roundHalfEven a b ≤ k := by
  have hq : a / b < k := (Nat.div_lt_iff_lt_mul hb).mpr (by rwa [Nat.mul_comm])
  unfold roundHalfEven
  dsimp only
  split <;> omega

/-- Scaled by an exponent within one of `log₂ (n / d) - 52`, the quotient is
below `2^54`. -/
theorem scale_bound {n d : Nat} (hd : d ≠ 0) {e : Int}
    (he : (n.log2 : Int) - d.log2 - 53 ≤ e) :
    0 < (scale n d (-e)).2 ∧ (scale n d (-e)).1 < (scale n d (-e)).2 * Nat.pow 2 54 := by
  have hnl : n < 2 ^ (n.log2 + 1) := Nat.lt_log2_self
  have hdl : 2 ^ d.log2 ≤ d := Nat.log2_self_le hd
  have hp : ∀ k, Nat.pow 2 k = 2 ^ k := fun _ => rfl
  unfold scale
  split_ifs with hk
  · -- scaling up the numerator
    simp only [hp]
    refine ⟨Nat.pos_of_ne_zero hd, ?_⟩
    calc n * 2 ^ (-e).toNat < 2 ^ (n.log2 + 1) * 2 ^ (-e).toNat :=
          Nat.mul_lt_mul_of_pos_right hnl (Nat.two_pow_pos _)
      _ = 2 ^ (n.log2 + 1 + (-e).toNat) := (Nat.pow_add ..).symm
      _ ≤ 2 ^ (d.log2 + 54) := Nat.pow_le_pow_right (by omega) (by omega)
      _ = 2 ^ d.log2 * 2 ^ 54 := Nat.pow_add ..
      _ ≤ d * 2 ^ 54 := Nat.mul_le_mul_right _ hdl
  · -- scaling up the denominator
    simp only [hp]
    refine ⟨Nat.mul_pos (Nat.pos_of_ne_zero hd) (Nat.two_pow_pos _), ?_⟩
    calc n < 2 ^ (n.log2 + 1) := hnl
      _ ≤ 2 ^ (d.log2 + ((-e).natAbs + 54)) := Nat.pow_le_pow_right (by omega) (by omega)
      _ = 2 ^ d.log2 * (2 ^ (-e).natAbs * 2 ^ 54) := by rw [Nat.pow_add, Nat.pow_add]
      _ ≤ d * (2 ^ (-e).natAbs * 2 ^ 54) := Nat.mul_le_mul_right _ hdl
      _ = d * 2 ^ (-e).natAbs * 2 ^ 54 := (Nat.mul_assoc ..).symm

/-- The last step of rounding: a significand of at most `2^54` at an exponent
of at most `948` gives a finite word. -/
theorem nearest_tail_not_infinite (neg : Bool) (m : Nat) (e : Int) (hm : m ≤ Nat.pow 2 54)
    (he : e ≤ 948) :
    (let (m, e) := if m = Nat.pow 2 53 then (Nat.pow 2 52, e + 1) else (m, e)
     if m < Nat.pow 2 52 then ofFields neg 0 m
     else if e + 1075 ≥ 2047 then infinity neg
     else ofFields neg (e + 1075).toNat (m - Nat.pow 2 52)).isInfinite = false := by
  have h52 : Nat.pow 2 52 = 4503599627370496 := rfl
  have h53 : Nat.pow 2 53 = 9007199254740992 := rfl
  have h54 : Nat.pow 2 54 = 18014398509481984 := rfl
  rw [h54] at hm
  by_cases hmax : m = Nat.pow 2 53
  · -- rounding up to the next power of two moves the exponent by one
    rw [if_pos hmax]
    dsimp only
    rw [if_neg (by rw [h52]; omega), if_neg (by omega)]
    exact ofFields_not_infinite (by rw [h52]; omega)
  · rw [if_neg hmax]
    dsimp only
    split_ifs with hsub hinf
    · exact ofFields_not_infinite (by rw [h52]; omega)
    · omega
    · exact ofFields_not_infinite (by rw [h52]; omega)

theorem ite_sub_one_bounds (c : Prop) [Decidable c] (x : Int) :
    x - 1 ≤ (if c then x - 1 else x) ∧ (if c then x - 1 else x) ≤ x := by
  by_cases hc : c
  · rw [if_pos hc]
    omega
  · rw [if_neg hc]
    omega

/-- The double nearest a quotient below `2^K`, `K ≤ 1000`, is finite. -/
theorem nearest_not_infinite (neg : Bool) {n d K : Nat} (hd : d ≠ 0) (hK : K ≤ 1000)
    (h : n < Nat.pow 2 K * d) : (nearest neg n d).isInfinite = false := by
  unfold nearest
  split_ifs with hn
  · exact zero_not_infinite neg
  · have hlog : n.log2 ≤ d.log2 + K := by
      have := Nat.lt_log2_self (n := d)
      have hlt : n < 2 ^ (d.log2 + K + 1) := by
        calc n < 2 ^ K * d := h
          _ < 2 ^ K * 2 ^ (d.log2 + 1) := Nat.mul_lt_mul_of_pos_left this (Nat.two_pow_pos _)
          _ = 2 ^ (d.log2 + K + 1) := by rw [← Nat.pow_add]; congr 1; omega
      exact Nat.lt_succ_iff.mp ((Nat.log2_lt hn).mpr hlt)
    -- the exponent is chosen within one of `log₂ (n / d) - 52`, and at most `948`
    extract_lets e1 e2 e
    have hmin : minExponent ≤ 948 := by
      unfold minExponent
      omega
    have he1 : e1 = (n.log2 : Int) - d.log2 - 52 := rfl
    have he2 : e1 - 1 ≤ e2 ∧ e2 ≤ e1 := ite_sub_one_bounds _ _
    have hlo : (n.log2 : Int) - d.log2 - 53 ≤ e := Int.le_trans (by omega) (Int.le_max_left e2 _)
    have hhi : e ≤ 948 := Int.max_le.mpr ⟨by omega, hmin⟩
    obtain ⟨hpos, hlt⟩ := scale_bound hd hlo
    rcases hs : scale n d (-e) with ⟨a, b⟩
    rw [hs] at hpos hlt
    exact nearest_tail_not_infinite neg _ _ (roundHalfEven_le hpos hlt) hhi

end Binary64

/-! ### Showing and cutting -/

/-- Every size below `2^1000` bytes can be shown. -/
theorem Size.show_ok {n : Nat} (h : n < Nat.pow 2 1000) : ∃ t, Size.show n = .ok t := by
  unfold Size.show
  split_ifs
  · exact ⟨_, rfl⟩
  · split
    · rename_i u name hfind
      have hu : u ≠ 0 := by
        have hmem := List.mem_of_find?_eq_some hfind
        simp only [Size.displayUnits, List.mem_cons, List.not_mem_nil, or_false,
          Prod.mk.injEq] at hmem
        rcases hmem with ⟨rfl, -⟩ | ⟨rfl, -⟩ | ⟨rfl, -⟩ | ⟨rfl, -⟩ <;> decide
      have hfin : (Binary64.ofQuotient n u).isInfinite = false := by
        unfold Binary64.ofQuotient
        simp only [Int.natAbs_natCast]
        -- keep the bound symbolic: `2 ^ 1000` is never evaluated
        generalize hK : 1000 = K at h
        exact Binary64.nearest_not_infinite _ hu (Nat.le_of_eq hK.symm)
          (Nat.lt_of_lt_of_le h (Nat.le_mul_of_pos_right _ (Nat.pos_of_ne_zero hu)))
      unfold Size.inUnit
      rw [if_neg (by rw [hfin]; decide)]
      split_ifs
      · exact ⟨_, rfl⟩
      · exact ⟨_, rfl⟩
    · exact ⟨_, rfl⟩

open MaskedLog.Text in
/-- Cutting a text of fewer than `2^1000` bytes never fails. -/
theorem Body.truncate_ok {t : List Unicode.CodePoint} (h : (encodePassing t).length < Nat.pow 2 1000)
    (limit : Int) :
    ∃ r, Body.truncate t limit = .ok r := by
  unfold Body.truncate
  dsimp only
  split_ifs
  · exact ⟨_, rfl⟩
  · obtain ⟨s, hs⟩ := Size.show_ok h
    rw [hs]
    exact ⟨_, rfl⟩

/-! ### The bytes of a logged body -/

namespace Text

theorem length_decodeWith_le {r : List Char} (hr : r.length ≤ 1) (bs : List UInt8) :
    (decodeWith r bs).length ≤ bs.length := by
  fun_induction decodeWith r bs with
  | case1 => simp
  | case2 b rest hb ih =>
    rw [List.length_cons, List.length_cons]
    omega
  | case3 b rest hb hlead ih =>
    rw [List.length_append, List.length_cons]
    omega
  | case4 b rest hb lo hi need hlead k hk ih =>
    rw [List.length_cons, List.length_cons]
    have := List.length_drop (l := rest) (i := k)
    omega
  | case5 b rest hb lo hi need hlead k hk ih =>
    rw [List.length_append, List.length_cons]
    have := List.length_drop (l := rest) (i := k)
    omega

/-- A lone surrogate takes three bytes, any other code point the UTF-8 size of
its character. -/
theorem length_encodePoint (p : Unicode.CodePoint) :
    (encodePoint p).length = if p.isSurrogate then 3 else (Char.ofNat p.val).utf8Size := by
  unfold encodePoint
  split <;> simp [String.length_utf8EncodeChar]

theorem length_encodePoint_le (p : Unicode.CodePoint) : (encodePoint p).length ≤ 4 := by
  rw [length_encodePoint]
  split
  · omega
  · exact Char.utf8Size_le_four _

theorem length_encodePassing_le (t : List Unicode.CodePoint) :
    (encodePassing t).length ≤ 4 * t.length := by
  unfold encodePassing
  induction t with
  | nil => simp
  | cons p ps ih =>
    rw [List.flatMap_cons, List.length_append, List.length_cons]
    have := length_encodePoint_le p
    omega

end Text

namespace Redact

/-- Each mask costs three characters and follows a quote that is kept, so a
masked text is at most four times as long as its original. -/
theorem Layout.length_shown_le : ∀ ℓ : Layout, ℓ.WF → ℓ.shown.length ≤ 4 * ℓ.orig.length
  | .gap g, _ => by
    simp only [Layout.shown_gap, Layout.orig_gap]
    omega
  | .hide g v rest, hw => by
    obtain ⟨hq, -, -, hw'⟩ := Layout.wf_hide.mp hw
    have hg : 0 < g.length := List.length_pos_iff.mpr (fun h => by simp [h] at hq)
    have ih := Layout.length_shown_le rest hw'
    simp only [Layout.shown_hide, Layout.orig_hide, List.length_append, length_maskText]
    omega

theorem length_redactChars_le (sc : Scanner) (t : List Char) :
    (sc.redactChars t).length ≤ 4 * t.length := by
  obtain ⟨ℓ, hw, ho, h⟩ := redactNames_layout (sc.fields.map String.toList) t
  rw [Scanner.redactChars, h, ← ho]
  exact ℓ.length_shown_le hw

end Redact

open MaskedLog.Text MaskedLog.Redact MaskedLog.Unicode in
/-- The logged text of a body, its lossy decoding redacted, takes at most
sixteen bytes for each byte of the body. -/
theorem length_loggedBody_le (sc : Scanner) (body : List UInt8) :
    (encodePassing (codePoints (sc.redact (decodeLossy body)))).length ≤ 16 * body.length := by
  have hdec := length_decodeWith_le (r := ['�']) (by simp) body
  have hred := length_redactChars_le sc (decodeWith ['�'] body)
  calc (encodePassing (codePoints (sc.redact (decodeLossy body)))).length
      ≤ 4 * (codePoints (sc.redact (decodeLossy body))).length := length_encodePassing_le _
    _ = 4 * (sc.redactChars (decodeWith ['�'] body)).length := by
        rw [codePoints, List.length_map, Scanner.redact, String.toList_ofList, decodeLossy,
          String.toList_ofList]
    _ ≤ 16 * body.length := by omega

end MaskedLog

import MaskedLog.Proofs.Harmless
import MaskedLog.Proofs.Doubles
import MaskedLog.Proofs.Truncation
/-!
# The binary test at ratios of one half

A body looks binary when its share of code points outside ASCII, per UTF-8
byte, is above the ratio of the settings. Every code point outside ASCII takes
two bytes or more (a lone surrogate, passed through, takes three), so that
share is at most one half, and so is the double nearest to it. At a ratio of
one half or more no text looks binary, and whether a body is logged depends on
its content type and the skipped types alone.

The test divides by the number of bytes only for a text longer than the
minimum length, so it never fails when that minimum is a number at least zero.
A NaN minimum passes the constructor's check, since `NaN < 0` is false, but it
compares with nothing: the empty text then reaches the division, and the test
fails with a division by zero (`looksBinary_nan_minLength_divides_by_zero`).

## Main results

* `two_mul_nonAsciiCount_le` — at most half the bytes of a text stand for
  code points outside ASCII.
* `share_decode` — the share of a text is a finite double at most one half.
* `compareNumbers_share_ne_lt` — a number at least one half is not below it.
* `looksBinary_decides_and_half_ratio_passes` — **the binary test decides, and
  at a ratio of one half or more it passes every text**.

## References

`bodylog/content.py` (`looks_binary`, `should_log_body`); `bodylog/config.py`
(`BodyLogConfig.__post_init__`).
-/

namespace MaskedLog.Body

open MaskedLog.Unicode MaskedLog.Text MaskedLog.Binary64

/-! ### Bytes per code point -/

/-- One byte holds only the characters up to 127. -/
theorem two_le_utf8Size {c : Char} (h : 127 < c.toNat) : 2 ≤ c.utf8Size := by
  unfold Char.utf8Size
  dsimp only
  have hbig : ¬ c.val ≤ UInt32.ofNatLT 127 (by decide) := by
    rw [UInt32.le_iff_toNat_le]
    exact Nat.not_le.mpr h
  rw [if_neg hbig]
  split_ifs <;> omega

theorem one_le_length_encodePoint (p : CodePoint) : 1 ≤ (encodePoint p).length := by
  rw [length_encodePoint]
  split
  · omega
  · exact Char.utf8Size_pos _

theorem two_le_length_encodePoint {p : CodePoint} (h : 127 < p.val) :
    2 ≤ (encodePoint p).length := by
  rw [length_encodePoint]
  split_ifs with hs
  · omega
  · -- past ASCII, and no surrogate, so a character of two bytes or more
    exact two_le_utf8Size (by rw [CodePoint.toNat_ofNat_val (Bool.eq_false_iff.mpr hs)]; exact h)

/-- At most half the bytes of a text stand for code points outside ASCII: each
of them takes two bytes or more, every other code point one. -/
theorem two_mul_nonAsciiCount_le (t : List CodePoint) :
    2 * nonAsciiCount t ≤ (encodePassing t).length := by
  unfold nonAsciiCount encodePassing
  induction t with
  | nil => simp
  | cons p ps ih =>
    rw [List.flatMap_cons, List.length_append, List.filter_cons]
    by_cases hc : p.val > 127
    · have hbytes := two_le_length_encodePoint hc
      simp only [hc, decide_true, if_true, List.length_cons]
      omega
    · have hbytes := one_le_length_encodePoint p
      simp only [hc, decide_false, Bool.false_eq_true, if_false]
      omega

/-! ### The share as a double -/

theorem ofQuotient_natCast (n d : Nat) : ofQuotient n d = nearest false n d := by
  have hsign : ∀ k : Nat, decide ((k : Int) < 0) = false := fun k => decide_eq_false (by omega)
  simp [ofQuotient, hsign]

theorem toRat?_of_decode {x : Binary64} {m : Nat} {e : Int} (h : x.decode = .finite false m e) :
    x.toRat? = some (((scale m 1 e).1 : Int), (scale m 1 e).2) := by
  unfold toRat?
  rw [h]
  rfl

/-- The share of characters outside ASCII per byte of a text with bytes is a
finite double at most one half. -/
theorem share_decode {t : List CodePoint} (hbytes : (encodePassing t).length ≠ 0) :
    ∃ m e, (ofQuotient (nonAsciiCount t) (encodePassing t).length).decode = .finite false m e ∧
      2 * (scale m 1 e).1 ≤ (scale m 1 e).2 := by
  rw [ofQuotient_natCast]
  exact nearest_half_bound (Nat.pos_of_ne_zero hbytes) (two_mul_nonAsciiCount_le t)

/-! ### Comparing with one half -/

theorem half_decode : (ofQuotient 1 2).decode = .finite false 4503599627370496 (-53) := by
  decide

theorem half_toRat : (ofQuotient 1 2).toRat? = some (4503599627370496, 9007199254740992) := by
  decide

theorem compareRat_of_toRat {x : Binary64} {neg : Bool} {m : Nat} {e a num : Int} {b den : Nat}
    (hx : x.decode = .finite neg m e) (hr : x.toRat? = some (a, b)) :
    x.compareRat num den = some (compare (a * den) (num * b)) := by
  unfold compareRat
  rw [hx]
  dsimp only
  rw [hr]

theorem compareTo_of_finite {x y : Binary64} {nx ny : Bool} {mx my : Nat} {ex ey a : Int}
    {b : Nat} (hx : x.decode = .finite nx mx ex) (hy : y.decode = .finite ny my ey)
    (hr : y.toRat? = some (a, b)) : x.compareTo y = x.compareRat a b := by
  unfold compareTo
  rw [hx, hy]
  dsimp only
  rw [hr]

/-- What the comparisons of values read off an exact comparison. -/
theorem some_compare_le_iff {a b : Int} :
    (some (compare a b) == some .lt || some (compare a b) == some .eq) = true ↔ a ≤ b := by
  rcases Int.lt_trichotomy a b with hab | rfl | hab
  · simp [Int.compare_eq_lt.mpr hab, Int.le_of_lt hab]
  · simp
  · simp [Int.compare_eq_gt.mpr hab, Int.not_le.mpr hab]

theorem some_compare_lt_iff {a b : Int} : (some (compare a b) == some .lt) = true ↔ a < b := by
  rcases Int.lt_trichotomy a b with hab | rfl | hab
  · simp [Int.compare_eq_lt.mpr hab, hab]
  · simp
  · simp [Int.compare_eq_gt.mpr hab, Int.not_lt.mpr (Int.le_of_lt hab)]

/-- A number at least one half is not below a finite double at most one half. -/
theorem compareNumbers_share_ne_lt {x : Sum Int Binary64} {y : Binary64} {m : Nat} {e : Int}
    (hy : y.decode = .finite false m e) (hle : 2 * (scale m 1 e).1 ≤ (scale m 1 e).2)
    (hx : (Value.compareNumbers (.inr (ofQuotient 1 2)) x == some .lt ||
      Value.compareNumbers (.inr (ofQuotient 1 2)) x == some .eq) = true) :
    (Value.compareNumbers x (.inr y) == some .lt) = false := by
  have hyr := toRat?_of_decode hy
  -- the share is the fraction `A / B`, with `2 * A ≤ B`
  generalize (scale m 1 e).1 = A at hle hyr
  generalize (scale m 1 e).2 = B at hle hyr
  cases x with
  | inl k =>
    rw [Value.compareNumbers, compareRat_of_toRat half_decode half_toRat,
      some_compare_le_iff] at hx
    rw [Value.compareNumbers, compareRat_of_toRat hy hyr, Option.map_some, Int.compare_swap,
      Bool.eq_false_iff, ne_eq, some_compare_lt_iff]
    -- an integer at least one half is at least one, so it is at least the share
    have hk : 1 ≤ k := by omega
    have hB : (B : Int) ≤ k * B := by
      calc (B : Int) = 1 * B := (Int.one_mul _).symm
        _ ≤ k * B := Int.mul_le_mul_of_nonneg_right hk (Int.natCast_nonneg B)
    omega
  | inr x =>
    rw [Value.compareNumbers] at hx ⊢
    rcases hxd : x.decode with ⟨nx, mx, ex⟩ | neg | _
    · rcases hxr : x.toRat? with _ | ⟨a, b⟩
      · unfold toRat? at hxr
        rw [hxd] at hxr
        cases hxr
      rw [compareTo_of_finite half_decode hxd hxr, compareRat_of_toRat half_decode half_toRat,
        some_compare_le_iff] at hx
      rw [compareTo_of_finite hxd hy hyr, compareRat_of_toRat hxd hxr, Bool.eq_false_iff, ne_eq,
        some_compare_lt_iff]
      -- a fraction `a / b` at least one half is at least `A / B`, at most one half
      have ha : 0 ≤ a := by omega
      have hab : (b : Int) ≤ 2 * a := by omega
      have hcross : (A : Int) * b ≤ a * B :=
        calc (A : Int) * b ≤ A * (2 * a) :=
              Int.mul_le_mul_of_nonneg_left hab (Int.natCast_nonneg A)
          _ = 2 * A * a := by rw [Int.mul_left_comm, Int.mul_assoc]
          _ ≤ B * a := Int.mul_le_mul_of_nonneg_right (by omega) ha
          _ = a * B := Int.mul_comm _ _
      omega
    · -- an infinity at least one half is the positive one, above every double
      unfold compareTo at hx ⊢
      rw [half_decode, hxd] at hx
      rw [hxd, hy]
      cases neg
      · rfl
      · simp at hx
    · -- a NaN is at least nothing
      unfold compareTo at hx
      rw [half_decode, hxd] at hx
      simp at hx

/-- A value at least one half is not below a finite double at most one half. -/
theorem Value.lt_share_eq_false {ratio : Value} {y : Binary64} {m : Nat} {e : Int}
    (hr : Value.le (.float (ofQuotient 1 2)) ratio = .ok true)
    (hy : y.decode = .finite false m e) (hle : 2 * (scale m 1 e).1 ≤ (scale m 1 e).2) :
    Value.lt ratio (.float y) = .ok false := by
  unfold Value.le Value.compareTo at hr
  unfold Value.lt Value.compareTo
  rcases hnum : ratio.asNumber? with _ | x
  · rw [hnum] at hr
    cases hr
  · rw [hnum] at hr
    simp only [Value.asNumber?, Except.map, Except.ok.injEq] at hr ⊢
    rw [compareNumbers_share_ne_lt hy hle hr]

/-! ### The binary test -/

/-- A text not shorter than a minimum at least zero has bytes. -/
theorem length_ne_zero_of_le_false {n : Nat} {minLength : Value}
    (hm : Value.le (.int 0) minLength = .ok true)
    (hshort : Value.le (.int n) minLength = .ok false) :
    n ≠ 0 := by
  intro h0
  rw [h0, Int.natCast_zero, hm] at hshort
  cases hshort

/-- At a ratio of one half or more, with a minimum length at least zero, no
text looks binary. -/
theorem looksBinary_half_ratio (t : List CodePoint) {ratio minLength : Value}
    (hm : Value.le (.int 0) minLength = .ok true)
    (hr : Value.le (.float (ofQuotient 1 2)) ratio = .ok true) :
    looksBinary t ratio minLength = .ok false := by
  have hmin := (Value.isSome_of_le_ok hm).2
  obtain ⟨short, hshort⟩ := Value.le_ok (a := .int (encodePassing t).length) rfl hmin
  cases short
  · have hbytes := length_ne_zero_of_le_false hm hshort
    obtain ⟨m, e, hy, hle⟩ := share_decode hbytes
    simp [looksBinary, hshort, hbytes, Value.lt_share_eq_false hr hy hle]
  · simp [looksBinary, hshort]

/-- At a ratio of one half or more, whether a body is logged depends on its
content type and the skipped types alone. -/
theorem shouldLogBody_half_ratio (ct : Option String) (t : List CodePoint) (skipped : List Value)
    {ratio minLength : Value} (hm : Value.le (.int 0) minLength = .ok true)
    (hr : Value.le (.float (ofQuotient 1 2)) ratio = .ok true) :
    shouldLogBody ct t skipped ratio minLength = (!·) <$> isSkippedContentType ct skipped := by
  unfold shouldLogBody
  -- the skip test decides first; past it the binary test passes
  rcases isSkippedContentType ct skipped with f | _ | _
  · rfl
  · simp [looksBinary_half_ratio t hm hr, Functor.map, Except.map]
  · rfl

/-- The binary test decides for a numeric ratio and a minimum length at least
zero; at most half the bytes of a text stand for characters outside ASCII, so
at a ratio of one half or more the test passes every text, and whether a body
is logged depends on its content type alone. -/
theorem looksBinary_decides_and_half_ratio_passes (t : List CodePoint) {ratio minLength : Value}
    (hr : ratio.asNumber?.isSome) (hm : Value.le (.int 0) minLength = .ok true) :
    2 * nonAsciiCount t ≤ (encodePassing t).length ∧
      (∃ b, looksBinary t ratio minLength = .ok b) ∧
      (Value.le (.float (ofQuotient 1 2)) ratio = .ok true →
        looksBinary t ratio minLength = .ok false ∧
          ∀ ct skipped, shouldLogBody ct t skipped ratio minLength =
            (!·) <$> isSkippedContentType ct skipped) :=
  ⟨two_mul_nonAsciiCount_le t, looksBinary_ok t hr hm, fun hhalf =>
    ⟨looksBinary_half_ratio t hm hhalf,
      fun ct skipped => shouldLogBody_half_ratio ct t skipped hm hhalf⟩⟩

/-- Two accented letters take four bytes, a share of exactly one half: at a
ratio of one half and a minimum length of zero the text passes. -/
theorem looksBinary_half_ratio_accented :
    (Value.float (ofQuotient 1 2)).asNumber?.isSome ∧ Value.le (.int 0) (.int 0) = .ok true ∧
      looksBinary (codePoints "éé") (.float (ofQuotient 1 2)) (.int 0) = .ok false := by
  have hm : Value.le (.int 0) (.int 0) = .ok true := eq_ok_of_toOption (by decide)
  have hhalf : Value.le (.float (ofQuotient 1 2)) (.float (ofQuotient 1 2)) = .ok true :=
    eq_ok_of_toOption (by decide)
  exact ⟨rfl, hm, ((looksBinary_decides_and_half_ratio_passes (codePoints "éé") rfl hm).2.2
    hhalf).1⟩

/-- A NaN minimum length passes the constructor's check, yet the empty text
then reaches the division by its length. -/
theorem looksBinary_nan_minLength_divides_by_zero :
    Value.lt (.float nan) (.int 0) = .ok false ∧
      looksBinary [] (.float (ofQuotient 1 2)) (.float nan) = .error .zeroDivision := by
  have hnan : Value.le (.int 0) (.float nan) = .ok false := eq_ok_of_toOption (by decide)
  refine ⟨eq_ok_of_toOption (by decide), ?_⟩
  simp [looksBinary, encodePassing, hnan, throw, throwThe, MonadExceptOf.throw]

end MaskedLog.Body

import MaskedLog.Body.Truncate
/-!
# What a cut at a byte budget keeps

A logged text is cut to a number of UTF-8 bytes by cutting its bytes and reading
them back, leaving out whatever cannot be read. This module shows what that
keeps: the longest prefix of the text whose bytes fit the budget, less its lone
surrogates.

Reading bytes back goes sequence by sequence. The bytes of a character are a
lead byte that announces how many continuation bytes follow, then continuation
bytes in the ranges UTF-8 allows after that lead; they read back as the
character. A cut inside a character leaves a lead with fewer continuation bytes
than it announces, one ill-formed part, which is dropped whole. A lone surrogate
is written as the three bytes of its number, and those are no UTF-8: after the
lead `0xED` no byte above `0x9F` may follow, so all three bytes are dropped,
whether the cut keeps them whole or not.

## Main definitions

* `Trail` — continuation bytes in the ranges a lead allows.
* `Sequence` — the well-formed bytes of one code point.
* `fitPrefix`, `LongestFit` — the longest prefix within a byte budget.

## Main results

* `decodeWith_encodePoint_append` — the bytes of a character read back as the
  character, those of a lone surrogate as three ill-formed bytes.
* `decodeWith_nil_take_encodePoint` — a code point cut open reads as nothing.
* `decodeWith_nil_take_encode` — the first `k` bytes of a text read back as its
  longest prefix within `k` bytes, lone surrogates left out.
* `truncate_keeps_longest_prefix` — **what a cut keeps**.
* `truncate_drops_lone_surrogate` — a lone surrogate within the budget is not kept.

## References

`bodylog/content.py` (`truncate`).
-/

namespace MaskedLog.Unicode

/-! ### Code points -/

namespace CodePoint

theorem ext_val {p q : CodePoint} (h : p.val = q.val) : p = q := by
  cases p
  cases q
  cases h
  rfl

@[simp] theorem ofChar_val (c : Char) : (ofChar c).val = c.toNat := rfl

/-- A code point that is no surrogate is the code point of a character. -/
theorem range_of_not_surrogate {p : CodePoint} (h : p.isSurrogate = false) :
    p.val.isValidChar := by
  have hlt := p.lt
  simp only [isSurrogate, Unicode.isSurrogate, Bool.and_eq_false_iff, decide_eq_false_iff_not] at h
  unfold Nat.isValidChar
  omega

theorem range_of_surrogate {p : CodePoint} (h : p.isSurrogate = true) :
    0xD800 ≤ p.val ∧ p.val ≤ 0xDFFF := by
  simpa [isSurrogate, Unicode.isSurrogate] using h

/-- No character is a surrogate. -/
@[simp] theorem isSurrogate_ofChar (c : Char) : (ofChar c).isSurrogate = false := by
  have hvalid : c.toNat < 0xd800 ∨ (0xdfff < c.toNat ∧ c.toNat < 0x110000) := c.valid
  refine Bool.eq_false_iff.mpr fun h => ?_
  have hrange := range_of_surrogate h
  rw [ofChar_val] at hrange
  omega

theorem toNat_ofNat_val {p : CodePoint} (h : p.isSurrogate = false) :
    (Char.ofNat p.val).toNat = p.val := by
  rw [Char.ofNat, dif_pos (range_of_not_surrogate h)]
  rfl

theorem ofChar_ofNat_val {p : CodePoint} (h : p.isSurrogate = false) :
    ofChar (Char.ofNat p.val) = p :=
  ext_val (toNat_ofNat_val h)

@[simp] theorem toChar?_ofChar (c : Char) : (ofChar c).toChar? = some c := by
  simp [toChar?]

end CodePoint

theorem codePoints_append (s t : String) : codePoints (s ++ t) = codePoints s ++ codePoints t := by
  simp [codePoints]

theorem codePoints_ofList (cs : List Char) : codePoints (String.ofList cs) = cs.map CodePoint.ofChar := by
  simp [codePoints]

/-- The characters among code points, as code points again, are the code points
that are no surrogate. -/
theorem map_ofChar_filterMap_toChar (ps : List CodePoint) :
    (ps.filterMap CodePoint.toChar?).map CodePoint.ofChar = ps.filter (!·.isSurrogate) := by
  induction ps with
  | nil => rfl
  | cons p ps ih =>
    cases hs : p.isSurrogate with
    | true => simp [CodePoint.toChar?, hs, ih]
    | false => simp [CodePoint.toChar?, hs, ih, CodePoint.ofChar_ofNat_val hs]

end MaskedLog.Unicode

namespace MaskedLog.Text

open MaskedLog.Unicode

/-! ### Sequences -/

/-- The bytes after a lead that UTF-8 allows: the first within `lo … hi`, every
later one a continuation byte. -/
def Trail (lo hi : Nat) : List UInt8 → Prop
  | [] => True
  | b :: t => lo ≤ b.toNat ∧ b.toNat ≤ hi ∧ Trail 0x80 0xBF t

/-- A trail that fits is counted whole. -/
theorem fittingTrail_append : ∀ {lo hi : Nat} {t : List UInt8}, Trail lo hi t →
    ∀ rest, fittingTrail lo hi t.length (t ++ rest) = t.length
  | _, _, [], _, rest => by simp [fittingTrail]
  | lo, hi, b :: t, ⟨hlo, hhi, ht⟩, rest => by
    rw [List.length_cons, List.cons_append, fittingTrail, if_pos (by simp [hlo, hhi]),
      fittingTrail_append ht rest]
    omega

/-- A trail cut short is counted as far as it goes. -/
theorem fittingTrail_take : ∀ {lo hi : Nat} {t : List UInt8}, Trail lo hi t →
    ∀ {j : Nat}, j < t.length → fittingTrail lo hi t.length (t.take j) = j
  | _, _, [], _, _, hj => absurd hj (by simp)
  | _, _, _ :: _, _, 0, _ => by simp [fittingTrail]
  | lo, hi, b :: t, ⟨hlo, hhi, ht⟩, j + 1, hj => by
    rw [List.length_cons, List.take_succ_cons, fittingTrail, if_pos (by simp [hlo, hhi]),
      fittingTrail_take ht (by simp at hj; omega)]
    omega

@[simp] theorem decodeWith_nil (r : List Char) : decodeWith r [] = [] := by
  rw [decodeWith]

theorem decodeWith_ascii (r : List Char) {b : UInt8} (hb : b.toNat < 0x80) (rest : List UInt8) :
    decodeWith r (b :: rest) = Char.ofNat b.toNat :: decodeWith r rest := by
  rw [decodeWith, if_pos hb]

/-- A byte that leads nothing is one ill-formed part. -/
theorem decodeWith_stray (r : List Char) {b : UInt8} (hb : 0x80 ≤ b.toNat)
    (hl : leadShape b.toNat = none) (rest : List UInt8) :
    decodeWith r (b :: rest) = r ++ decodeWith r rest := by
  rw [decodeWith, if_neg (by omega), hl]

/-- A lead followed by a byte outside its range is one ill-formed part. -/
theorem decodeWith_misled (r : List Char) {b b₁ : UInt8} (hb : 0x80 ≤ b.toNat) {lo hi need : Nat}
    (hl : leadShape b.toNat = some (lo, hi, need + 1)) (hout : hi < b₁.toNat)
    (rest : List UInt8) : decodeWith r (b :: b₁ :: rest) = r ++ decodeWith r (b₁ :: rest) := by
  rw [decodeWith, if_neg (by omega), hl]
  have hfit : fittingTrail lo hi (need + 1) (b₁ :: rest) = 0 := by
    rw [fittingTrail, if_neg (by simp; omega)]
  simp [hfit]

/-- The bytes `b :: t` are a well-formed sequence for the code point `v`: a lead,
the continuation bytes it announces in the ranges it allows, and the code point
they spell. -/
structure Sequence (v : Nat) (b : UInt8) (t : List UInt8) : Prop where
  lead : 0x80 ≤ b.toNat
  shape : ∃ lo hi, leadShape b.toNat = some (lo, hi, t.length) ∧ Trail lo hi t
  spells : codePoint b.toNat t = v

/-- A well-formed sequence reads back as its code point. -/
theorem Sequence.decode {v : Nat} {b : UInt8} {t : List UInt8} (h : Sequence v b t)
    (r : List Char) (rest : List UInt8) :
    decodeWith r (b :: (t ++ rest)) = Char.ofNat v :: decodeWith r rest := by
  obtain ⟨lo, hi, hl, ht⟩ := h.shape
  rw [decodeWith, if_neg (by have := h.lead; omega), hl]
  simp [fittingTrail_append ht, h.spells]

/-- A well-formed sequence cut before its last byte is one ill-formed part. -/
theorem Sequence.cut {v : Nat} {b : UInt8} {t : List UInt8} (h : Sequence v b t)
    (r : List Char) {j : Nat} (hj : j < t.length) : decodeWith r (b :: t.take j) = r := by
  obtain ⟨lo, hi, hl, ht⟩ := h.shape
  rw [decodeWith, if_neg (by have := h.lead; omega), hl]
  simp [fittingTrail_take ht hj, Nat.ne_of_lt hj]

/-! ### The leads of UTF-8 -/

theorem leadShape_two {x : Nat} (h₁ : 0xC2 ≤ x) (h₂ : x ≤ 0xDF) :
    leadShape x = some (0x80, 0xBF, 1) := by
  unfold leadShape
  rw [if_neg (by omega), if_pos h₂]

theorem leadShape_three {x : Nat} (h₁ : 0xE1 ≤ x) (h₂ : x ≤ 0xEF) (hne : x ≠ 0xED) :
    leadShape x = some (0x80, 0xBF, 2) := by
  unfold leadShape
  rw [if_neg (by omega), if_neg (by omega), if_neg (by omega)]
  by_cases hlow : x ≤ 0xEC
  · rw [if_pos hlow]
  · rw [if_neg hlow, if_neg hne, if_pos h₂]

theorem leadShape_four {x : Nat} (h₁ : 0xF1 ≤ x) (h₂ : x ≤ 0xF3) :
    leadShape x = some (0x80, 0xBF, 3) := by
  unfold leadShape
  rw [if_neg (by omega), if_neg (by omega), if_neg (by omega), if_neg (by omega),
    if_neg (by omega), if_neg (by omega), if_neg (by omega), if_pos h₂]

/-! ### The bytes of a character -/

/-- A code point of a character lies outside the surrogates and below U+110000. -/
theorem toNat_valid (c : Char) : c.toNat < 0xd800 ∨ (0xdfff < c.toNat ∧ c.toNat < 0x110000) :=
  c.valid

theorem utf8EncodeChar_one {c : Char} (h : c.toNat < 0x80) :
    String.utf8EncodeChar c = [UInt8.ofNat c.toNat] := by
  delta String.utf8EncodeChar
  exact if_pos (by show c.toNat ≤ 0x7f; omega)

theorem utf8EncodeChar_two {c : Char} (h₁ : 0x80 ≤ c.toNat) (h₂ : c.toNat < 0x800) :
    String.utf8EncodeChar c =
      [UInt8.ofNat (c.toNat / 64 % 0x20 + 0xc0), UInt8.ofNat (c.toNat % 0x40 + 0x80)] := by
  delta String.utf8EncodeChar
  dsimp only
  rw [show c.val.toNat = c.toNat from rfl, if_neg (by omega), if_pos (by omega)]

theorem utf8EncodeChar_three {c : Char} (h₁ : 0x800 ≤ c.toNat) (h₂ : c.toNat < 0x10000) :
    String.utf8EncodeChar c =
      [UInt8.ofNat (c.toNat / 4096 % 0x10 + 0xe0), UInt8.ofNat (c.toNat / 64 % 0x40 + 0x80),
        UInt8.ofNat (c.toNat % 0x40 + 0x80)] := by
  delta String.utf8EncodeChar
  dsimp only
  rw [show c.val.toNat = c.toNat from rfl, if_neg (by omega), if_neg (by omega), if_pos (by omega)]

theorem utf8EncodeChar_four {c : Char} (h₁ : 0x10000 ≤ c.toNat) :
    String.utf8EncodeChar c =
      [UInt8.ofNat (c.toNat / 262144 % 8 + 0xf0), UInt8.ofNat (c.toNat / 4096 % 0x40 + 0x80),
        UInt8.ofNat (c.toNat / 64 % 0x40 + 0x80), UInt8.ofNat (c.toNat % 0x40 + 0x80)] := by
  delta String.utf8EncodeChar
  dsimp only
  rw [show c.val.toNat = c.toNat from rfl, if_neg (by omega), if_neg (by omega), if_neg (by omega)]

theorem toNat_ofNat_of_lt {n : Nat} (h : n < 256) : (UInt8.ofNat n).toNat = n := by
  rw [UInt8.toNat_ofNat', Nat.mod_eq_of_lt h]

theorem codePoint_one (x : Nat) (b₁ : UInt8) :
    codePoint x [b₁] = x % 0x20 * 64 + b₁.toNat % 64 := rfl

theorem codePoint_two (x : Nat) (b₁ b₂ : UInt8) :
    codePoint x [b₁, b₂] = (x % 0x10 * 64 + b₁.toNat % 64) * 64 + b₂.toNat % 64 := rfl

theorem codePoint_three (x : Nat) (b₁ b₂ b₃ : UInt8) :
    codePoint x [b₁, b₂, b₃] =
      ((x % 0x08 * 64 + b₁.toNat % 64) * 64 + b₂.toNat % 64) * 64 + b₃.toNat % 64 := rfl

theorem sequence_two {c : Char} (h₁ : 0x80 ≤ c.toNat) (h₂ : c.toNat < 0x800) :
    Sequence c.toNat (UInt8.ofNat (c.toNat / 64 % 0x20 + 0xc0))
      [UInt8.ofNat (c.toNat % 0x40 + 0x80)] := by
  have hb : (UInt8.ofNat (c.toNat / 64 % 0x20 + 0xc0)).toNat = c.toNat / 64 + 0xC0 := by
    rw [toNat_ofNat_of_lt (by omega)]
    omega
  have hb₁ : (UInt8.ofNat (c.toNat % 0x40 + 0x80)).toNat = c.toNat % 64 + 0x80 :=
    toNat_ofNat_of_lt (by omega)
  refine ⟨by omega, ⟨0x80, 0xBF, ?_, ?_⟩, ?_⟩
  · rw [hb]
    exact leadShape_two (by omega) (by omega)
  · simp only [Trail, hb₁]
    exact ⟨by omega, by omega, trivial⟩
  · rw [codePoint_one, hb, hb₁]
    omega

/-- Three bytes: after `0xE0` the first continuation byte is at least `0xA0`, and
after `0xED` at most `0x9F`, which is where the surrogates would be. -/
theorem sequence_three {c : Char} (h₁ : 0x800 ≤ c.toNat) (h₂ : c.toNat < 0x10000) :
    Sequence c.toNat (UInt8.ofNat (c.toNat / 4096 % 0x10 + 0xe0))
      [UInt8.ofNat (c.toNat / 64 % 0x40 + 0x80), UInt8.ofNat (c.toNat % 0x40 + 0x80)] := by
  have hvalid := toNat_valid c
  have hb : (UInt8.ofNat (c.toNat / 4096 % 0x10 + 0xe0)).toNat = c.toNat / 4096 + 0xE0 := by
    rw [toNat_ofNat_of_lt (by omega)]
    omega
  have hb₁ : (UInt8.ofNat (c.toNat / 64 % 0x40 + 0x80)).toNat = c.toNat / 64 % 64 + 0x80 :=
    toNat_ofNat_of_lt (by omega)
  have hb₂ : (UInt8.ofNat (c.toNat % 0x40 + 0x80)).toNat = c.toNat % 64 + 0x80 :=
    toNat_ofNat_of_lt (by omega)
  refine ⟨by omega, ?_, ?_⟩
  · rw [hb]
    simp only [Trail, hb₁, hb₂, List.length_cons, List.length_nil]
    rcases Nat.lt_or_ge c.toNat 0x1000 with hE0 | hE0
    · refine ⟨0xA0, 0xBF, by rw [show c.toNat / 4096 + 0xE0 = 0xE0 by omega]; rfl, ?_⟩
      exact ⟨by omega, by omega, by omega, by omega, trivial⟩
    · by_cases hED : c.toNat / 4096 = 13
      · refine ⟨0x80, 0x9F, by rw [hED]; rfl, ?_⟩
        exact ⟨by omega, by omega, by omega, by omega, trivial⟩
      · refine ⟨0x80, 0xBF, leadShape_three (by omega) (by omega) (by omega), ?_⟩
        exact ⟨by omega, by omega, by omega, by omega, trivial⟩
  · rw [codePoint_two, hb, hb₁, hb₂]
    omega

/-- Four bytes: after `0xF0` the first continuation byte is at least `0x90`, and
after `0xF4` at most `0x8F`, which keeps the code point below U+110000. -/
theorem sequence_four {c : Char} (h₁ : 0x10000 ≤ c.toNat) :
    Sequence c.toNat (UInt8.ofNat (c.toNat / 262144 % 8 + 0xf0))
      [UInt8.ofNat (c.toNat / 4096 % 0x40 + 0x80), UInt8.ofNat (c.toNat / 64 % 0x40 + 0x80),
        UInt8.ofNat (c.toNat % 0x40 + 0x80)] := by
  have hvalid := toNat_valid c
  have hb : (UInt8.ofNat (c.toNat / 262144 % 8 + 0xf0)).toNat = c.toNat / 262144 + 0xF0 := by
    rw [toNat_ofNat_of_lt (by omega)]
    omega
  have hb₁ : (UInt8.ofNat (c.toNat / 4096 % 0x40 + 0x80)).toNat = c.toNat / 4096 % 64 + 0x80 :=
    toNat_ofNat_of_lt (by omega)
  have hb₂ : (UInt8.ofNat (c.toNat / 64 % 0x40 + 0x80)).toNat = c.toNat / 64 % 64 + 0x80 :=
    toNat_ofNat_of_lt (by omega)
  have hb₃ : (UInt8.ofNat (c.toNat % 0x40 + 0x80)).toNat = c.toNat % 64 + 0x80 :=
    toNat_ofNat_of_lt (by omega)
  refine ⟨by omega, ?_, ?_⟩
  · rw [hb]
    simp only [Trail, hb₁, hb₂, hb₃, List.length_cons, List.length_nil]
    rcases Nat.lt_or_ge c.toNat 0x40000 with hF0 | hF0
    · refine ⟨0x90, 0xBF, by rw [show c.toNat / 262144 + 0xF0 = 0xF0 by omega]; rfl, ?_⟩
      exact ⟨by omega, by omega, by omega, by omega, by omega, by omega, trivial⟩
    · by_cases hF4 : c.toNat / 262144 = 4
      · refine ⟨0x80, 0x8F, by rw [hF4]; rfl, ?_⟩
        exact ⟨by omega, by omega, by omega, by omega, by omega, by omega, trivial⟩
      · refine ⟨0x80, 0xBF, leadShape_four (by omega) (by omega), ?_⟩
        exact ⟨by omega, by omega, by omega, by omega, by omega, by omega, trivial⟩
  · rw [codePoint_three, hb, hb₁, hb₂, hb₃]
    omega

/-- The bytes of every character from U+0080 on are a well-formed sequence for
its code point. -/
theorem utf8EncodeChar_sequence (c : Char) (h : 0x80 ≤ c.toNat) :
    ∃ b t, String.utf8EncodeChar c = b :: t ∧ Sequence c.toNat b t := by
  rcases Nat.lt_or_ge c.toNat 0x800 with h₂ | h₂
  · exact ⟨_, _, utf8EncodeChar_two h h₂, sequence_two h h₂⟩
  rcases Nat.lt_or_ge c.toNat 0x10000 with h₃ | h₃
  · exact ⟨_, _, utf8EncodeChar_three h₂ h₃, sequence_three h₂ h₃⟩
  · exact ⟨_, _, utf8EncodeChar_four h₃, sequence_four h₃⟩

/-! ### Lone surrogates -/

theorem leadShape_of_lt {x : Nat} (h : x < 0xC2) : leadShape x = none := by
  unfold leadShape
  rw [if_pos h]

/-- The bytes of a code point that is no surrogate are its character's UTF-8
bytes. -/
theorem encodePoint_of_not_surrogate {p : CodePoint} (h : p.isSurrogate = false) :
    encodePoint p = String.utf8EncodeChar (Char.ofNat p.val) := by
  rw [encodePoint, if_neg (by simp [h])]

@[simp] theorem encodePoint_ofChar (c : Char) :
    encodePoint (CodePoint.ofChar c) = String.utf8EncodeChar c := by
  rw [encodePoint_of_not_surrogate (CodePoint.isSurrogate_ofChar c), CodePoint.ofChar_val,
    Char.ofNat_toNat]

/-- The three bytes written for a lone surrogate: the lead `0xED`, then a byte
from `0xA0` on, then a continuation byte. -/
theorem encodePoint_surrogate {p : CodePoint} (h : p.isSurrogate = true) :
    ∃ b₁ b₂ : UInt8, encodePoint p = [0xED, b₁, b₂] ∧
      0xA0 ≤ b₁.toNat ∧ b₁.toNat ≤ 0xBF ∧ 0x80 ≤ b₂.toNat ∧ b₂.toNat ≤ 0xBF := by
  obtain ⟨hlo, hhi⟩ := CodePoint.range_of_surrogate h
  have hb₀ : UInt8.ofNat (0xE0 + p.val / 4096) = 0xED := by
    rw [show 0xE0 + p.val / 4096 = 0xED by omega]
    rfl
  refine ⟨UInt8.ofNat (0x80 + p.val / 64 % 64), UInt8.ofNat (0x80 + p.val % 64), ?_, ?_⟩
  · rw [encodePoint, if_pos h, hb₀]
  · rw [toNat_ofNat_of_lt (by omega), toNat_ofNat_of_lt (by omega)]
    omega

/-- The bytes of a lone surrogate are three ill-formed parts: the lead `0xED`
allows no second byte above `0x9F`, and the two bytes after it lead nothing. -/
theorem decodeWith_surrogate (r : List Char) {p : CodePoint} (h : p.isSurrogate = true)
    (rest : List UInt8) : decodeWith r (encodePoint p ++ rest) = r ++ r ++ r ++ decodeWith r rest := by
  obtain ⟨b₁, b₂, he, h₁, h₁', h₂, h₂'⟩ := encodePoint_surrogate h
  have hED : leadShape (0xED : UInt8).toNat = some (0x80, 0x9F, 1 + 1) := rfl
  simp only [he, List.cons_append, List.nil_append]
  rw [decodeWith_misled r (by decide) hED (by omega),
    decodeWith_stray r (by omega) (leadShape_of_lt (by omega)),
    decodeWith_stray r h₂ (leadShape_of_lt (by omega))]
  simp only [List.append_assoc]

/-- A lone surrogate cut open reads as nothing when ill-formed parts are dropped. -/
theorem decodeWith_nil_take_surrogate {p : CodePoint} (h : p.isSurrogate = true) {j : Nat}
    (hj : j < 3) : decodeWith [] ((encodePoint p).take j) = [] := by
  obtain ⟨b₁, b₂, he, h₁, h₁', h₂, -⟩ := encodePoint_surrogate h
  have hED : leadShape (0xED : UInt8).toNat = some (0x80, 0x9F, 1 + 1) := rfl
  rw [he]
  rcases (by omega : j = 0 ∨ j = 1 ∨ j = 2) with rfl | rfl | rfl
  · rw [List.take_zero, decodeWith_nil]
  · -- the lead alone
    rw [List.take_succ_cons, List.take_zero, decodeWith, if_neg (by decide), hED]
    simp [fittingTrail]
  · rw [List.take_succ_cons, List.take_succ_cons, List.take_zero,
      decodeWith_misled [] (by decide) hED (by omega),
      decodeWith_stray [] (by omega) (leadShape_of_lt (by omega)), decodeWith_nil]
    rfl

/-! ### The bytes of a text read back -/

/-- The UTF-8 bytes of a character read back as the character. -/
theorem decodeWith_utf8EncodeChar_append (r : List Char) (c : Char) (rest : List UInt8) :
    decodeWith r (String.utf8EncodeChar c ++ rest) = c :: decodeWith r rest := by
  by_cases ha : c.toNat < 0x80
  · have hb : (UInt8.ofNat c.toNat).toNat = c.toNat := toNat_ofNat_of_lt (by omega)
    rw [utf8EncodeChar_one ha, List.cons_append, List.nil_append,
      decodeWith_ascii r (by rw [hb]; exact ha), hb, Char.ofNat_toNat]
  · obtain ⟨b, t, hbt, hseq⟩ := utf8EncodeChar_sequence c (by omega)
    rw [hbt, List.cons_append, hseq.decode, Char.ofNat_toNat]

/-- **The bytes of a code point read back as its character**; those of a lone
surrogate are three ill-formed parts. -/
theorem decodeWith_encodePoint_append (r : List Char) (p : CodePoint) (rest : List UInt8) :
    decodeWith r (encodePoint p ++ rest) =
      (if p.isSurrogate then r ++ r ++ r else [Char.ofNat p.val]) ++ decodeWith r rest := by
  cases hs : p.isSurrogate with
  | true => rw [decodeWith_surrogate r hs, if_pos rfl]
  | false =>
    rw [encodePoint_of_not_surrogate hs, decodeWith_utf8EncodeChar_append,
      if_neg Bool.false_ne_true, List.singleton_append]

/-- A character's UTF-8 bytes cut open read as nothing when ill-formed parts are
dropped. -/
theorem decodeWith_nil_take_utf8EncodeChar (c : Char) {j : Nat}
    (hj : j < (String.utf8EncodeChar c).length) :
    decodeWith [] ((String.utf8EncodeChar c).take j) = [] := by
  cases j with
  | zero => rw [List.take_zero, decodeWith_nil]
  | succ j =>
    by_cases ha : c.toNat < 0x80
    · rw [utf8EncodeChar_one ha] at hj
      simp at hj
    · obtain ⟨b, t, hbt, hseq⟩ := utf8EncodeChar_sequence c (by omega)
      rw [hbt] at hj ⊢
      rw [List.take_succ_cons]
      exact hseq.cut [] (by simpa using hj)

/-- **A code point cut open reads as nothing** when ill-formed parts are
dropped. -/
theorem decodeWith_nil_take_encodePoint (p : CodePoint) {j : Nat}
    (hj : j < (encodePoint p).length) : decodeWith [] ((encodePoint p).take j) = [] := by
  cases hs : p.isSurrogate with
  | true =>
    obtain ⟨b₁, b₂, he, -⟩ := encodePoint_surrogate hs
    rw [he] at hj
    exact decodeWith_nil_take_surrogate hs hj
  | false =>
    rw [encodePoint_of_not_surrogate hs] at hj ⊢
    exact decodeWith_nil_take_utf8EncodeChar _ hj

/-- The longest prefix of `cs` whose bytes fit in `budget`: code points are
taken while their bytes fit in what is left. -/
def fitPrefix : List CodePoint → Nat → List CodePoint
  | [], _ => []
  | c :: cs, budget =>
    if (encodePoint c).length ≤ budget then
      c :: fitPrefix cs (budget - (encodePoint c).length)
    else []

/-- `h` is the longest prefix of `cs` whose bytes fit in `budget`: it fits, and
every prefix that fits is a prefix of it. -/
structure LongestFit (cs : List CodePoint) (budget : Nat) (h : List CodePoint) : Prop where
  isPrefix : h <+: cs
  fits : (h.flatMap encodePoint).length ≤ budget
  longest : ∀ p, p <+: cs → (p.flatMap encodePoint).length ≤ budget → p <+: h

/-- There is one longest fit: two are prefixes of each other. -/
theorem LongestFit.unique {cs : List CodePoint} {budget : Nat} {h h' : List CodePoint}
    (hh : LongestFit cs budget h) (hh' : LongestFit cs budget h') : h = h' :=
  List.IsPrefix.eq_of_length (hh'.longest h hh.isPrefix hh.fits)
    (Nat.le_antisymm (hh'.longest h hh.isPrefix hh.fits).length_le
      (hh.longest h' hh'.isPrefix hh'.fits).length_le)

theorem fitPrefix_longest : ∀ (cs : List CodePoint) (budget : Nat),
    LongestFit cs budget (fitPrefix cs budget)
  | [], _ => ⟨List.nil_prefix, by simp [fitPrefix], fun p hp _ => hp⟩
  | c :: cs, budget => by
    by_cases hw : (encodePoint c).length ≤ budget
    · -- the first code point fits, and the rest is the longest fit of what is left
      obtain ⟨hpre, hfits, hlong⟩ := fitPrefix_longest cs (budget - (encodePoint c).length)
      rw [fitPrefix, if_pos hw]
      refine ⟨List.prefix_cons_inj c |>.mpr hpre, ?_, fun p hp hpf => ?_⟩
      · rw [List.flatMap_cons, List.length_append]
        omega
      · rcases List.prefix_cons_iff.mp hp with rfl | ⟨p', rfl, hp'⟩
        · exact List.nil_prefix
        · rw [List.flatMap_cons, List.length_append] at hpf
          exact List.prefix_cons_inj c |>.mpr (hlong p' hp' (by omega))
    · -- nothing fits: a prefix that fits holds no code point
      rw [fitPrefix, if_neg hw]
      refine ⟨List.nil_prefix, by simp, fun p hp hpf => ?_⟩
      rcases List.prefix_cons_iff.mp hp with rfl | ⟨p', rfl, -⟩
      · exact List.nil_prefix
      · rw [List.flatMap_cons, List.length_append] at hpf
        omega

/-- **The first `k` bytes of a text read back as its longest prefix within `k`
bytes**, with its lone surrogates left out. The induction runs over the text: a
code point whose bytes fit is read back whole, and the first that does not is
cut open and dropped with everything after it. -/
theorem decodeWith_nil_take_encode : ∀ (cs : List CodePoint) (k : Nat),
    decodeWith [] ((cs.flatMap encodePoint).take k) = (fitPrefix cs k).filterMap CodePoint.toChar?
  | [], k => by simp [fitPrefix]
  | c :: cs, k => by
    rw [List.flatMap_cons, List.take_append]
    by_cases hw : (encodePoint c).length ≤ k
    · rw [List.take_of_length_le hw, decodeWith_encodePoint_append,
        decodeWith_nil_take_encode cs, fitPrefix, if_pos hw, List.filterMap_cons]
      cases hs : c.isSurrogate <;> simp [CodePoint.toChar?, hs]
    · rw [show k - (encodePoint c).length = 0 by omega, List.take_zero, List.append_nil,
        decodeWith_nil_take_encodePoint c (by omega), fitPrefix, if_neg hw]
      rfl

end MaskedLog.Text

namespace MaskedLog.Body

open MaskedLog.Text MaskedLog.Unicode MaskedLog.Redact

/-- **What a cut keeps.** A text whose bytes fit the budget is kept as it is.
Otherwise the cut keeps the longest prefix whose bytes fit, less its lone
surrogates, followed by the marker with the full size; the cut fails only when
that size cannot be shown. -/
theorem truncate_keeps_longest_prefix (t : List CodePoint) (limit : Nat) :
    LongestFit t limit (fitPrefix t limit) ∧
      truncate t limit =
        if (encodePassing t).length ≤ limit then .ok t
        else (Size.show (encodePassing t).length).map fun total =>
          (fitPrefix t limit).filter (!·.isSurrogate) ++
            codePoints ("...(truncated, " ++ total ++ ")") := by
  refine ⟨fitPrefix_longest t limit, ?_⟩
  unfold truncate
  dsimp only
  by_cases hn : (encodePassing t).length ≤ limit
  · rw [if_pos (by exact_mod_cast hn), if_pos hn]
  · rw [if_neg (by exact_mod_cast hn), if_neg hn]
    -- a budget short of the length is used as it is
    have hcut : resolvePosition (encodePassing t).length limit = limit := by
      rw [resolvePosition, if_neg (by omega), Int.toNat_natCast]
      omega
    rw [hcut, decodeDropping, encodePassing, decodeWith_nil_take_encode]
    -- the head read back, as code points, is the fit less its surrogates
    have hhead : ∀ total : String,
        codePoints (String.ofList ((fitPrefix t limit).filterMap CodePoint.toChar?) ++
            "...(truncated, " ++ total ++ ")") =
          (fitPrefix t limit).filter (!·.isSurrogate) ++
            codePoints ("...(truncated, " ++ total ++ ")") := fun total => by
      simp only [codePoints_append, codePoints_ofList, map_ofChar_filterMap_toChar,
        List.append_assoc]
    cases Size.show (t.flatMap encodePoint).length with
    | error f => rfl
    | ok total => exact congrArg Except.ok (hhead total)

/-- The lone surrogate U+D800. -/
def loneSurrogate : CodePoint := ⟨0xD800, by decide⟩

/-- A lone surrogate that fits the budget is still left out. The longest prefix of
a surrogate and `a` within three bytes is the surrogate, but its three bytes are
no UTF-8, so the cut keeps nothing before the marker. -/
theorem truncate_drops_lone_surrogate :
    LongestFit [loneSurrogate, .ofChar 'a'] 3 [loneSurrogate] ∧
      (truncate [loneSurrogate, .ofChar 'a'] 3).toOption = some (codePoints "...(truncated, 4B)") := by
  have hfit : fitPrefix [loneSurrogate, .ofChar 'a'] 3 = [loneSurrogate] := by decide
  exact ⟨hfit ▸ fitPrefix_longest _ 3, by decide +kernel⟩

end MaskedLog.Body

import Mathlib.Data.List.Forall2
import Mathlib.Data.List.TakeWhile
import MaskedLog.Proofs.CaseFold
import MaskedLog.Proofs.Doubles
/-!
# Size texts

A size setting is a count of bytes or a text such as `64KB`, `1.5 MiB` or
`3gb`: decimal digits of any script, optionally a point and more digits, then
blanks, then a unit spelled without regard to case, all within blanks. This
module states that grammar on its own, as `SizeText`, and shows that the reader
of size settings follows it: a text of the grammar denotes the value of its
number times the unit's power of 1024, failing only when that product is past
the largest double, and any other text is refused with a size report.

One exception stands. A unit letter matches without regard to case by simple
lowercase forms, so the Kelvin sign matches `K` and U+0130 matches `I`; the
unit is then looked up by its uppercase form, and those two characters keep
theirs. A unit holding one of them matches the grammar but is looked up in vain.

## Main definitions

* `SizeNumber`, `SizeText` — the grammar of size texts.
* `multiplier` — the power of 1024 a unit stands for.
* `timesUnit` — the exact product of a double and a multiplier, rounded down.

## Main results

* `splitSize_eq_some_iff` — a text splits into a number and a unit exactly when
  it is a size text.
* `readFloat_sizeNumber` — every number of the grammar reads as a double.
* `scaleDown_eq_timesUnit` — scaling by a power of two is exact until it
  overflows.
* `parse_accepts_size_grammar` — **a size setting is its count, or the value of
  its size text, or a size report; a unit with the Kelvin sign or U+0130 is the
  one way to another failure.**

## References

`bodylog/size.py` (`size_to_bytes`).
-/

namespace MaskedLog.Size

open MaskedLog.Unicode MaskedLog.Number

/-! ### Letters of a unit -/

/-- The letters of the unit spellings. -/
def unitLetters : List Char := ['G', 'I', 'M', 'K', 'B']

/-- The characters that match a letter of a unit: each letter in either case,
the Kelvin sign for `K`, and U+0130 and the dotless `ı` for `I`. -/
def unitChars : List Char :=
  ['G', 'g', 'I', 'i', '\u0130', '\u0131', 'M', 'm', 'K', 'k', '\u212A', 'B', 'b']

set_option maxRecDepth 8000 in
/-- No run of the lowercase table lands on the lowercase form of a unit letter
from outside ASCII, except from U+0130 and the Kelvin sign. -/
theorem lowerRuns_to_unit_letter :
    ∀ r ∈ lowerRuns.toList, ∀ n ∈ ([0x67, 0x69, 0x6D, 0x6B, 0x62, 0x131] : List Nat),
      r.delta ≤ (n : Int) → r.covers ((n : Int) - r.delta).toNat = true →
        ((n : Int) - r.delta).toNat < 128 ∨ ((n : Int) - r.delta).toNat ∈ [0x130, 0x212A] := by
  decide

theorem mem_unitChars_iff {c : Char} :
    c ∈ unitChars ↔
      c.toNat ∈ [0x47, 0x67, 0x49, 0x69, 0x130, 0x131, 0x4D, 0x6D, 0x4B, 0x6B, 0x212A, 0x42, 0x62] := by
  have hcodes : unitChars.map Char.toNat =
      [0x47, 0x67, 0x49, 0x69, 0x130, 0x131, 0x4D, 0x6D, 0x4B, 0x6B, 0x212A, 0x42, 0x62] := rfl
  rw [← hcodes]
  refine ⟨fun h => List.mem_map.mpr ⟨c, h, rfl⟩, fun h => ?_⟩
  obtain ⟨d, hd, hdc⟩ := List.mem_map.mp h
  rwa [← Char.toNat_inj.mp hdc]

theorem toNat_ofNat_below_surrogates {n : Nat} (h : n < 0xD800) : (Char.ofNat n).toNat = n := by
  rw [Char.ofNat, dif_pos (Or.inl h)]
  rfl

theorem lowerChar_cases (d : Char) :
    lowerChar d = d ∨ (65 ≤ d.toNat ∧ d.toNat ≤ 90 ∧ (lowerChar d).toNat = d.toNat + 32) ∨
      (128 ≤ d.toNat ∧ ∃ r ∈ lowerRuns.toList, r.covers d.toNat = true ∧
        ((lowerChar d).toNat = (d.toNat + r.delta).toNat ∨ (lowerChar d).toNat = 0)) := by
  unfold lowerChar
  dsimp only
  split
  · split
    · rename_i hup
      simp only [Bool.and_eq_true, decide_eq_true_eq] at hup
      exact .inr (.inl ⟨hup.1, hup.2, toNat_ofNat_below_surrogates (by omega)⟩)
    · exact .inl rfl
  · rename_i hbig
    split
    · rename_i r hr
      have hmem := Array.mem_toList_iff.mpr (Array.mem_of_find?_eq_some hr)
      have hcov := Array.find?_some hr
      right
      right
      refine ⟨Nat.le_of_not_lt hbig, r, hmem, hcov, ?_⟩
      exact Redact.toNat_of_ofNat rfl
    · exact .inl rfl

/-- A character whose simple lowercase form is that of a unit letter is one of
`unitChars`. -/
theorem mem_unitChars_of_simpleLower {c : Char}
    (h : simpleLower c ∈ ['g', 'i', 'm', 'k', 'b', '\u0131']) : c ∈ unitChars := by
  rw [mem_unitChars_iff]
  have hcodes : (simpleLower c).toNat ∈ ([0x67, 0x69, 0x6D, 0x6B, 0x62, 0x131] : List Nat) := by
    simp only [List.mem_cons, List.not_mem_nil, or_false] at h
    rcases h with h | h | h | h | h | h <;> rw [h] <;> decide
  unfold simpleLower at hcodes
  split at hcodes
  · rename_i h130
    rw [h130]
    decide
  have hnz : (lowerChar c).toNat ≠ 0 := by
    simp only [List.mem_cons, List.not_mem_nil, or_false] at hcodes
    omega
  rcases lowerChar_cases c with hkeep | ⟨hcap, hcap', hshift⟩ | ⟨hbig, r, hr, hcov, hrun | hzero⟩
  · rw [hkeep] at hcodes
    simp only [List.mem_cons, List.not_mem_nil, or_false] at hcodes ⊢
    omega
  · simp only [List.mem_cons, List.not_mem_nil, or_false] at hcodes ⊢
    omega
  · -- only U+0130 and the Kelvin sign reach a unit letter through a run
    have hback : ((lowerChar c).toNat - r.delta : Int).toNat = c.toNat := by omega
    have hlands := lowerRuns_to_unit_letter r hr _ hcodes (by omega) (by rwa [hback])
    rw [hback] at hlands
    simp only [List.mem_cons, List.not_mem_nil, or_false] at hlands ⊢
    omega
  · exact absurd hzero hnz

theorem toLower_unitLetters : ∀ l ∈ unitLetters, l.toLower ∈ ['g', 'i', 'm', 'k', 'b'] :=
  -- decided along the list, never over all characters
  @of_decide_eq_true _ (List.decidableBAll _ _) rfl

/-- Whatever matches a unit letter is one of `unitChars`. -/
theorem mem_unitChars_of_letterMatches {l c : Char} (hl : l ∈ unitLetters)
    (h : letterMatches l c = true) : c ∈ unitChars := by
  apply mem_unitChars_of_simpleLower
  have hlow := toLower_unitLetters l hl
  unfold letterMatches at h
  simp only [Bool.or_eq_true, beq_iff_eq, Bool.and_eq_true] at h
  rcases h with h | ⟨-, h⟩
  · rw [h]
    simp only [List.mem_cons, List.not_mem_nil, or_false] at hlow ⊢
    rcases hlow with h | h | h | h | h <;> simp [h]
  · rw [h]
    decide

/-- A unit character is no digit, no blank and no point. -/
theorem unitChars_not_digit_blank_point :
    ∀ c ∈ unitChars, isDigit c = false ∧ isBlank c = false ∧ c ≠ '.' :=
  @of_decide_eq_true _ (List.decidableBAll _ _) (by decide +kernel)

set_option maxRecDepth 8000 in
/-- Uppercasing gives back the unit letter, except for the Kelvin sign and
U+0130, which stay as they are. -/
theorem upperFull_of_letterMatches :
    ∀ l ∈ unitLetters, ∀ c ∈ unitChars, letterMatches l c = true → c ≠ '\u212A' → c ≠ '\u0130' →
      upperFull c = [l] :=
  @of_decide_eq_true _ (@List.decidableBAll _ _ (fun _ => List.decidableBAll _ _) _)
    (by decide)

set_option maxRecDepth 8000 in
theorem upperFull_kelvin : upperFull '\u212A' = ['\u212A'] := by decide

set_option maxRecDepth 8000 in
theorem upperFull_dotted : upperFull '\u0130' = ['\u0130'] := by decide

/-! ### Digits and blanks -/

theorem exists_range_of_isDigit {c : Char} (h : isDigit c = true) :
    ∃ r ∈ digitRanges, r.1 ≤ c.toNat ∧ c.toNat ≤ r.2 := by
  unfold isDigit digitValue at h
  dsimp only at h
  split at h
  · rename_i hascii
    simp only [Bool.and_eq_true, decide_eq_true_eq] at hascii
    exact ⟨(0x30, 0x39), Array.mem_toList_iff.mp (by decide), hascii⟩
  · rcases hf : digitRanges.find? (fun r => r.1 ≤ c.toNat && c.toNat ≤ r.2) with _ | r
    · rw [hf] at h
      cases h
    · have hr := Array.find?_some hf
      simp only [Bool.and_eq_true, decide_eq_true_eq] at hr
      exact ⟨r, Array.mem_of_find?_eq_some hf, hr⟩

theorem exists_range_of_isBlank {c : Char} (h : isBlank c = true) :
    ∃ r ∈ blankRanges, r.1 ≤ c.toNat ∧ c.toNat ≤ r.2 := by
  unfold isBlank CodeRanges.contains at h
  obtain ⟨r, hr, hc⟩ := Array.any_eq_true'.mp h
  simp only [Bool.and_eq_true, decide_eq_true_eq] at hc
  exact ⟨r, hr, hc⟩

theorem blankRanges_apart_digitRanges :
    ∀ b ∈ blankRanges.toList, ∀ d ∈ digitRanges.toList, b.2 < d.1 ∨ d.2 < b.1 := by
  decide

/-- No blank is a digit. -/
theorem isDigit_of_isBlank {c : Char} (h : isBlank c = true) : isDigit c = false := by
  obtain ⟨b, hb, hbc⟩ := exists_range_of_isBlank h
  cases hd : isDigit c
  · rfl
  · obtain ⟨d, hdr, hdc⟩ := exists_range_of_isDigit hd
    have := blankRanges_apart_digitRanges b (Array.mem_toList_iff.mpr hb) d (Array.mem_toList_iff.mpr hdr)
    omega

theorem digitRanges_beyond_ascii : ∀ r ∈ digitRanges.toList, r = (0x30, 0x39) ∨ 0x660 ≤ r.1 := by
  decide

/-- A digit within ASCII is one of `0` to `9`. -/
theorem ascii_of_isDigit {c : Char} (h : isDigit c = true) (hc : c.toNat < 127) :
    48 ≤ c.toNat ∧ c.toNat ≤ 57 := by
  obtain ⟨r, hr, hrc⟩ := exists_range_of_isDigit h
  rcases digitRanges_beyond_ascii r (Array.mem_toList_iff.mpr hr) with rfl | hr1
  · exact hrc
  · omega

theorem digitValue_lt {c : Char} {d : Nat} (h : digitValue c = some d) : d < 10 := by
  unfold digitValue at h
  dsimp only at h
  split at h
  · rename_i hascii
    simp only [Bool.and_eq_true, decide_eq_true_eq] at hascii
    cases h
    omega
  · obtain ⟨r, -, rfl⟩ := Option.map_eq_some_iff.mp h
    exact Nat.mod_lt _ (by decide)

/-! ### The grammar of size texts -/

/-- Decimal digits of any script, optionally a point and more digits. -/
inductive SizeNumber : List Char → Prop
  | whole {w : List Char} : w ≠ [] → (∀ c ∈ w, isDigit c = true) → SizeNumber w
  | point {w f : List Char} : w ≠ [] → (∀ c ∈ w, isDigit c = true) → f ≠ [] →
      (∀ c ∈ f, isDigit c = true) → SizeNumber (w ++ '.' :: f)

theorem SizeNumber.ne_nil {num : List Char} (h : SizeNumber num) : num ≠ [] := by
  cases h with
  | whole hw => exact hw
  | point => simp

theorem SizeNumber.takeWhile_ne_nil {num : List Char} (h : SizeNumber num) (rest : List Char) :
    (num ++ rest).takeWhile isDigit ≠ [] := by
  have hhead : ∃ c cs, num = c :: cs ∧ isDigit c = true := by
    cases h with
    | whole hw hwd =>
      obtain ⟨c, cs, rfl⟩ := List.exists_cons_of_ne_nil hw
      exact ⟨c, cs, rfl, hwd c (List.mem_cons_self ..)⟩
    | @point w f hw hwd =>
      obtain ⟨c, cs, rfl⟩ := List.exists_cons_of_ne_nil hw
      exact ⟨c, cs ++ '.' :: f, rfl, hwd c (List.mem_cons_self ..)⟩
  obtain ⟨c, cs, rfl, hc⟩ := hhead
  simp [hc]

/-- The text `t` is a size text: a number, blanks, and a unit that spells the
pattern `p` without regard to case. -/
structure SizeText (t num unit : List Char) (p : String) : Prop where
  number : SizeNumber num
  blanks : ∃ bs, (∀ c ∈ bs, isBlank c = true) ∧ t = num ++ bs ++ unit
  pattern : p ∈ unitPatterns
  spelled : spells p unit = true

theorem unitPatterns_letters :
    ∀ p ∈ unitPatterns, p.toList ≠ [] ∧ ∀ l ∈ p.toList, l ∈ unitLetters :=
  @of_decide_eq_true _
    (@List.decidableBAll _ _
      (fun p : String => @instDecidableAnd _ _ _ (List.decidableBAll _ p.toList)) _)
    rfl

theorem spells_iff {p : String} {unit : List Char} :
    spells p unit = true ↔ List.Forall₂ (fun l c => letterMatches l c = true) p.toList unit := by
  unfold spells
  simp [List.forall₂_iff_zip, String.length_toList]

/-- Taking while `p` holds stops where the first part ends, when what follows
starts with no match. -/
theorem takeWhile_append_stop {α : Type} {p : α → Bool} {body rest : List α}
    (inside : ∀ a ∈ body, p a = true) (stop : ∀ a ∈ rest.head?, p a = false) :
    (body ++ rest).takeWhile p = body := by
  rw [List.takeWhile_append_of_pos inside]
  cases rest with
  | nil => simp
  | cons a rest => simp [stop a rfl]

theorem dropWhile_append_stop {α : Type} {p : α → Bool} {body rest : List α}
    (inside : ∀ a ∈ body, p a = true) (stop : ∀ a ∈ rest.head?, p a = false) :
    (body ++ rest).dropWhile p = rest := by
  rw [List.dropWhile_append_of_pos inside]
  cases rest with
  | nil => rfl
  | cons a rest => simp [stop a rfl]

/-- A unit is not empty and made of unit characters. -/
theorem unitChars_of_spells {p : String} {unit : List Char} (hp : p ∈ unitPatterns)
    (hs : spells p unit = true) : unit ≠ [] ∧ ∀ c ∈ unit, c ∈ unitChars := by
  obtain ⟨hne, hletters⟩ := unitPatterns_letters p hp
  have hf := spells_iff.mp hs
  refine ⟨fun h => hne (List.forall₂_nil_right_iff.mp (h ▸ hf)), ?_⟩
  clear hne hs
  generalize p.toList = ls at hf hletters
  induction hf with
  | nil => simp
  | cons hlc _ ih =>
    intro c hc
    rcases List.mem_cons.mp hc with rfl | hc
    · exact mem_unitChars_of_letterMatches (hletters _ (List.mem_cons_self ..)) hlc
    · exact ih (fun l hl => hletters l (List.mem_cons_of_mem _ hl)) c hc

/-- What follows a number in a size text, blanks and then a unit, starts with
no digit and no point. -/
theorem head_after_number {bs unit : List Char} (hbs : ∀ c ∈ bs, isBlank c = true)
    (hu : unit ≠ [] ∧ ∀ c ∈ unit, c ∈ unitChars) :
    ∀ c ∈ (bs ++ unit).head?, isDigit c = false ∧ c ≠ '.' := by
  intro c hc
  cases bs with
  | nil =>
    obtain ⟨hd, -, hpt⟩ := unitChars_not_digit_blank_point c
      (hu.2 c (List.mem_of_mem_head? (by simpa using hc)))
    exact ⟨hd, hpt⟩
  | cons b bs =>
    obtain rfl : b = c := by simpa using hc
    have hb := hbs b (List.mem_cons_self ..)
    exact ⟨isDigit_of_isBlank hb, fun h => by rw [h] at hb; exact absurd hb (by decide +kernel)⟩

/-- A number followed by the rest of a text gives a size text, once what
follows the blanks spells a unit. -/
theorem sizeText_of_parts {t num rest : List Char} (ht : t = num ++ rest) (hn : SizeNumber num)
    (hu : unitPatterns.any (spells · (rest.dropWhile isBlank)) = true) :
    ∃ p, SizeText t num (rest.dropWhile isBlank) p := by
  obtain ⟨p, hp, hs⟩ := List.any_eq_true.mp hu
  refine ⟨p, hn, ⟨rest.takeWhile isBlank, fun c hc => List.mem_takeWhile_imp hc, ?_⟩, hp, hs⟩
  rw [ht, List.append_assoc, List.takeWhile_append_dropWhile]

/-! ### Splitting a size text -/

/-- The number at the front of a text and what follows it, as a size text is
split: digits, and a point with more digits if digits follow the point. -/
def numberSplit (s : List Char) : List Char × List Char :=
  match s.dropWhile isDigit with
  | '.' :: more =>
    if (more.takeWhile isDigit).isEmpty then (s.takeWhile isDigit, s.dropWhile isDigit)
    else (s.takeWhile isDigit ++ '.' :: more.takeWhile isDigit, more.dropWhile isDigit)
  | _ => (s.takeWhile isDigit, s.dropWhile isDigit)

theorem splitSize_eq (s : List Char) :
    splitSize s =
      if (s.takeWhile isDigit).isEmpty then none
      else if unitPatterns.any (spells · ((numberSplit s).2.dropWhile isBlank)) then
        some ((numberSplit s).1, (numberSplit s).2.dropWhile isBlank)
      else none := by
  unfold splitSize numberSplit
  rfl

/-- Whatever the split gives, the text is the number and the rest. -/
theorem numberSplit_spec (s : List Char) (hw : s.takeWhile isDigit ≠ []) :
    s = (numberSplit s).1 ++ (numberSplit s).2 ∧ SizeNumber (numberSplit s).1 := by
  have hwd : ∀ c ∈ s.takeWhile isDigit, isDigit c = true := fun c hc => List.mem_takeWhile_imp hc
  unfold numberSplit
  split
  · rename_i more hmore
    split_ifs with hf
    · exact ⟨List.takeWhile_append_dropWhile.symm, .whole hw hwd⟩
    · refine ⟨?_, .point hw hwd (by simpa using hf) fun c hc => List.mem_takeWhile_imp hc⟩
      calc s = s.takeWhile isDigit ++ s.dropWhile isDigit := List.takeWhile_append_dropWhile.symm
        _ = s.takeWhile isDigit ++ '.' :: (more.takeWhile isDigit ++ more.dropWhile isDigit) := by
          rw [hmore, List.takeWhile_append_dropWhile]
        _ = _ := by simp
  · exact ⟨List.takeWhile_append_dropWhile.symm, .whole hw hwd⟩

/-- Digits followed by neither a digit nor a point are split off whole. -/
theorem numberSplit_whole {w r : List Char} (hw : ∀ c ∈ w, isDigit c = true)
    (hr : ∀ c ∈ r.head?, isDigit c = false ∧ c ≠ '.') : numberSplit (w ++ r) = (w, r) := by
  unfold numberSplit
  rw [takeWhile_append_stop hw fun c hc => (hr c hc).1, dropWhile_append_stop hw fun c hc => (hr c hc).1]
  split
  · exact absurd rfl (hr '.' (by simp)).2
  · rfl

/-- Digits, a point and more digits, followed by no digit, are split off
together. -/
theorem numberSplit_point {w f r : List Char} (hw : ∀ c ∈ w, isDigit c = true) (hf : f ≠ [])
    (hfd : ∀ c ∈ f, isDigit c = true) (hr : ∀ c ∈ r.head?, isDigit c = false) :
    numberSplit (w ++ '.' :: (f ++ r)) = (w ++ '.' :: f, r) := by
  have hdot : ∀ c ∈ ('.' :: (f ++ r)).head?, isDigit c = false := by
    simp only [List.head?_cons, Option.mem_def, Option.some.injEq, forall_eq']
    decide
  unfold numberSplit
  rw [takeWhile_append_stop hw hdot, dropWhile_append_stop hw hdot]
  split
  · rename_i more hmore
    obtain rfl : f ++ r = more := (List.cons.inj hmore).2
    rw [takeWhile_append_stop hfd hr, if_neg (by simpa using hf), dropWhile_append_stop hfd hr]
  · rename_i hno
    exact absurd rfl (hno (f ++ r))

theorem sizeText_of_splitSize {t num unit : List Char} (h : splitSize t = some (num, unit)) :
    ∃ p, SizeText t num unit p := by
  rw [splitSize_eq] at h
  split_ifs at h with hw hany
  obtain ⟨rfl, rfl⟩ := Prod.mk.inj (Option.some.inj h)
  obtain ⟨ht, hn⟩ := numberSplit_spec t (by simpa using hw)
  exact sizeText_of_parts ht hn hany

theorem splitSize_of_sizeText {t num unit : List Char} {p : String} (h : SizeText t num unit p) :
    splitSize t = some (num, unit) := by
  obtain ⟨hn, ⟨bs, hbs, rfl⟩, hp, hs⟩ := h
  have hu := unitChars_of_spells hp hs
  have hnext := head_after_number hbs hu
  have hunit : (bs ++ unit).dropWhile isBlank = unit := by
    apply dropWhile_append_stop hbs
    intro c hc
    exact (unitChars_not_digit_blank_point c (hu.2 c (List.mem_of_mem_head? hc))).2.1
  -- the number is split off as it stands, before the blanks and the unit
  have hsplit : numberSplit (num ++ bs ++ unit) = (num, bs ++ unit) := by
    cases hn with
    | whole _ hwd =>
      rw [List.append_assoc]
      exact numberSplit_whole hwd hnext
    | @point w f _ hwd hf hfd =>
      rw [show w ++ '.' :: f ++ bs ++ unit = w ++ '.' :: (f ++ (bs ++ unit)) by simp]
      exact numberSplit_point hwd hf hfd fun c hc => (hnext c hc).1
  have hwhole := hn.takeWhile_ne_nil (bs ++ unit)
  rw [← List.append_assoc] at hwhole
  rw [splitSize_eq, hsplit, if_neg (by simpa using hwhole), hunit,
    if_pos (List.any_eq_true.mpr ⟨p, hp, hs⟩)]

theorem splitSize_eq_some_iff {t num unit : List Char} :
    splitSize t = some (num, unit) ↔ ∃ p, SizeText t num unit p :=
  ⟨sizeText_of_splitSize, fun ⟨_, h⟩ => splitSize_of_sizeText h⟩

/-! ### The unit and its multiplier -/

/-- The power of 1024 a unit stands for, named by its first letter. -/
def unitPower (p : String) : Nat :=
  match p.toList.head? with
  | some 'K' => 1
  | some 'M' => 2
  | some 'G' => 3
  | _ => 0

/-- The 1024-based multiplier of a unit. -/
def multiplier (p : String) : Nat := Nat.pow 1024 (unitPower p)

theorem multiplier_eq (p : String) : multiplier p = Nat.pow 2 (10 * unitPower p) := by
  have hp : ∀ k, Nat.pow 2 k = 2 ^ k := fun _ => rfl
  rw [multiplier, hp, Nat.pow_mul]
  rfl

theorem log2_multiplier (p : String) : (multiplier p).log2 = 10 * unitPower p := by
  rw [multiplier_eq]
  exact Nat.log2_two_pow

theorem unitTable_lookup_pattern : ∀ p ∈ unitPatterns, unitTable.lookup p = some (multiplier p) := by
  decide

theorem unitTable_keys_plain :
    ∀ q ∈ unitTable, '\u212A' ∉ q.1.toList ∧ '\u0130' ∉ q.1.toList := by
  decide

/-- A unit without the Kelvin sign or U+0130 uppercases to the pattern it spells. -/
theorem upper_of_forall₂ {ls cs : List Char} (hl : ∀ l ∈ ls, l ∈ unitLetters)
    (h : List.Forall₂ (fun l c => letterMatches l c = true) ls cs) (hK : '\u212A' ∉ cs)
    (hI : '\u0130' ∉ cs) : upper cs = ls := by
  induction h with
  | nil => rfl
  | @cons l c ls cs hlc _ ih =>
    have hl' := hl l (List.mem_cons_self ..)
    have hc : upperFull c = [l] :=
      upperFull_of_letterMatches l hl' c (mem_unitChars_of_letterMatches hl' hlc) hlc
        (fun h => hK (h ▸ List.mem_cons_self ..)) (fun h => hI (h ▸ List.mem_cons_self ..))
    rw [upper, List.flatMap_cons, hc, ← upper,
      ih (fun l h => hl l (List.mem_cons_of_mem _ h)) (fun h => hK (List.mem_cons_of_mem _ h))
        (fun h => hI (List.mem_cons_of_mem _ h))]
    rfl

theorem lookup_upper_plain {p : String} {unit : List Char} (hp : p ∈ unitPatterns)
    (hs : spells p unit = true) (hK : '\u212A' ∉ unit) (hI : '\u0130' ∉ unit) :
    unitTable.lookup (String.ofList (upper unit)) = some (multiplier p) := by
  rw [upper_of_forall₂ (unitPatterns_letters p hp).2 (spells_iff.mp hs) hK hI, String.ofList_toList]
  exact unitTable_lookup_pattern p hp

/-- Uppercasing keeps the Kelvin sign and U+0130, and no unit is spelled with
them, so a unit holding one is looked up in vain. -/
theorem lookup_upper_special {unit : List Char} {c : Char} (hc : c ∈ unit)
    (hspecial : c = '\u212A' ∨ c = '\u0130') :
    unitTable.lookup (String.ofList (upper unit)) = none := by
  have hup : c ∈ upper unit := by
    refine List.mem_flatMap.mpr ⟨c, hc, ?_⟩
    rcases hspecial with rfl | rfl
    · rw [upperFull_kelvin]; exact List.mem_singleton_self _
    · rw [upperFull_dotted]; exact List.mem_singleton_self _
  rw [List.lookup_eq_none_iff]
  intro q hq
  rw [bne_iff_ne]
  rintro hkey
  have hmem : c ∈ q.1.toList := by rwa [← hkey, String.toList_ofList]
  obtain ⟨hK, hI⟩ := unitTable_keys_plain q hq
  rcases hspecial with rfl | rfl
  · exact hK hmem
  · exact hI hmem

/-! ### Reading the number -/

theorem charIsDigit_iff {c : Char} : c.isDigit = true ↔ 48 ≤ c.toNat ∧ c.toNat ≤ 57 := by
  simp [Char.isDigit, UInt32.le_iff_toNat_le]

theorem isDigit_ofNat_digit : ∀ v < 10, (Char.ofNat (48 + v)).isDigit = true := by
  decide

/-- What the ASCII form makes of one character. -/
def asciiChar (c : Char) : Option Char :=
  if c.toNat < 127 then some c
  else if isBlank c then some ' '
  else (digitValue c).map fun d => Char.ofNat (48 + d)

theorem asciiForm_cons (c : Char) (s : List Char) :
    asciiForm (c :: s) = (asciiChar c).bind fun d => (asciiForm s).bind fun ds => some (d :: ds) := by
  unfold asciiForm
  rw [List.mapM_cons]
  rfl

/-- A digit of any script has an ASCII digit as its ASCII form. -/
theorem asciiChar_digit {c : Char} (h : isDigit c = true) :
    ∃ d, asciiChar c = some d ∧ d.isDigit = true := by
  unfold asciiChar
  split_ifs with hascii hblank
  · exact ⟨c, rfl, charIsDigit_iff.mpr (ascii_of_isDigit h hascii)⟩
  · exact absurd (isDigit_of_isBlank hblank) (by simp [h])
  · obtain ⟨v, hv⟩ := Option.isSome_iff_exists.mp h
    exact ⟨_, by rw [hv]; rfl, isDigit_ofNat_digit v (digitValue_lt hv)⟩

/-- Digits of any script have ASCII digits as their ASCII form. -/
theorem asciiForm_digits : ∀ {w : List Char}, (∀ c ∈ w, isDigit c = true) →
    ∃ w', asciiForm w = some w' ∧ w'.length = w.length ∧ ∀ c ∈ w', c.isDigit = true
  | [], _ => ⟨[], rfl, rfl, by simp⟩
  | c :: w, h => by
    obtain ⟨d, hd, hdd⟩ := asciiChar_digit (h c (List.mem_cons_self ..))
    obtain ⟨w', hw', hlen, hw'd⟩ := asciiForm_digits fun c hc => h c (List.mem_cons_of_mem _ hc)
    refine ⟨d :: w', by rw [asciiForm_cons, hd, hw']; rfl, by simp [hlen], ?_⟩
    intro c hc
    rcases List.mem_cons.mp hc with rfl | hc
    · exact hdd
    · exact hw'd c hc

theorem asciiForm_append {a b a' b' : List Char} (ha : asciiForm a = some a') (hb : asciiForm b = some b') :
    asciiForm (a ++ b) = some (a' ++ b') := by
  unfold asciiForm at *
  rw [List.mapM_append, ha, hb]
  rfl

theorem asciiForm_point {s s' : List Char} (h : asciiForm s = some s') :
    asciiForm ('.' :: s) = some ('.' :: s') := by
  rw [asciiForm_cons, h]
  rfl

theorem splitSign_of_digit {c : Char} {s : List Char} (h : c.isDigit = true) :
    splitSign (c :: s) = (false, c :: s) := by
  unfold splitSign
  split
  · rename_i rest heq
    obtain ⟨rfl, -⟩ := List.cons.inj heq
    exact absurd h (by decide)
  · rename_i rest heq
    obtain ⟨rfl, -⟩ := List.cons.inj heq
    exact absurd h (by decide)
  · rfl

theorem spanDigits_append {w r : List Char} (hw : ∀ c ∈ w, c.isDigit = true)
    (hr : ∀ c ∈ r.head?, c.isDigit = false) : spanDigits (w ++ r) = (w, r) := by
  rw [spanDigits, takeWhile_append_stop hw hr, dropWhile_append_stop hw hr]

/-- ASCII digits, optionally a point and more digits, are a decimal. -/
theorem readDecimal_isSome {w f : List Char} (hw : w ≠ []) (hwd : ∀ c ∈ w, c.isDigit = true)
    (hfd : ∀ c ∈ f, c.isDigit = true) :
    (readDecimal w).isSome = true ∧ (readDecimal (w ++ '.' :: f)).isSome = true := by
  obtain ⟨c, cs, rfl⟩ := List.exists_cons_of_ne_nil hw
  have hc := hwd c (List.mem_cons_self ..)
  have hwhole : spanDigits (c :: cs) = (c :: cs, []) := by
    simpa using spanDigits_append hwd (r := []) (by simp)
  have hpoint : spanDigits (c :: (cs ++ '.' :: f)) = (c :: cs, '.' :: f) := by
    rw [← List.cons_append]
    exact spanDigits_append hwd (by simp)
  have hfrac : spanDigits f = (f, []) := by
    simpa using spanDigits_append hfd (r := []) (by simp)
  constructor
  · unfold readDecimal
    simp [splitSign_of_digit hc, hwhole]
  · unfold readDecimal
    simp [splitSign_of_digit hc, hpoint, hfrac]

/-- Digits and points are neither white space nor underscores. -/
theorem plain_of_digit_or_point {c : Char} (h : c.isDigit = true ∨ c = '.') :
    isAsciiSpace c = false ∧ c ≠ '_' := by
  rcases h with h | rfl
  · refine ⟨?_, fun hu => absurd (hu ▸ h) (by decide)⟩
    cases hs : isAsciiSpace c
    · rfl
    · unfold isAsciiSpace at hs
      simp only [Bool.or_eq_true, decide_eq_true_eq, or_assoc] at hs
      rcases hs with rfl | rfl | rfl | rfl | rfl | rfl <;> exact absurd h (by decide)
  · decide

/-- A text whose ASCII form is made of digits and points reads as the decimal
that form spells. -/
theorem readFloat_of_ascii {text : String} {a : List Char} {x : Binary64}
    (ha : asciiForm text.toList = some a) (hplain : ∀ c ∈ a, c.isDigit = true ∨ c = '.')
    (hx : readDecimal a = some x) : readFloat text = some x := by
  have hsp : ∀ c ∈ a, isAsciiSpace c = false := fun c hc => (plain_of_digit_or_point (hplain c hc)).1
  have hkeep : ∀ l : List Char, (∀ c ∈ l, isAsciiSpace c = false) → l.dropWhile isAsciiSpace = l :=
    fun l h => List.dropWhile_eq_self_iff.mpr fun hl => by simp [h _ (List.getElem_mem hl)]
  have htrim : trimAscii a = a := by
    unfold trimAscii
    rw [hkeep a hsp, hkeep _ fun c hc => hsp c (List.mem_reverse.mp hc), List.reverse_reverse]
  have hu : '_' ∉ a := fun hc => (plain_of_digit_or_point (hplain '_' hc)).2 rfl
  unfold readFloat
  rw [ha]
  simp [htrim, hu, hx]

/-- **Every number of the grammar reads as a double.** -/
theorem readFloat_sizeNumber {num : List Char} (h : SizeNumber num) :
    ∃ x, readFloat (String.ofList num) = some x := by
  cases h with
  | @whole w hw hwd =>
    obtain ⟨w', hw', hlen, hw'd⟩ := asciiForm_digits hwd
    have hne : w' ≠ [] := fun h => hw (List.eq_nil_of_length_eq_zero (by simp [← hlen, h]))
    obtain ⟨x, hx⟩ := Option.isSome_iff_exists.mp (readDecimal_isSome hne hw'd (f := []) (by simp)).1
    exact ⟨x, readFloat_of_ascii (by rw [String.toList_ofList, hw']) (fun c hc => .inl (hw'd c hc)) hx⟩
  | @point w f hw hwd _ hfd =>
    obtain ⟨w', hw', hlen, hw'd⟩ := asciiForm_digits hwd
    obtain ⟨f', hf', -, hf'd⟩ := asciiForm_digits hfd
    have hne : w' ≠ [] := fun h => hw (List.eq_nil_of_length_eq_zero (by simp [← hlen, h]))
    obtain ⟨x, hx⟩ := Option.isSome_iff_exists.mp (readDecimal_isSome hne hw'd hf'd).2
    refine ⟨x, readFloat_of_ascii ?_ ?_ hx⟩
    · rw [String.toList_ofList]
      exact asciiForm_append hw' (asciiForm_point hf')
    · intro c hc
      rcases List.mem_append.mp hc with hc | hc
      · exact .inl (hw'd c hc)
      · rcases List.mem_cons.mp hc with rfl | hc
        · exact .inr rfl
        · exact .inl (hf'd c hc)

/-! ### The value of a size -/

/-- `⌊x · m⌋` for a nonnegative double `x` and a whole multiplier `m`: the
product is exact, and it fails when it reaches `2^1024`, where the product of
doubles is an infinity, or when `x` is itself no finite double. -/
def timesUnit (x : Binary64) (m : Nat) : Except Failure Nat :=
  match x.toRat? with
  | some (a, b) =>
    if a.toNat * m < Nat.pow 2 1024 * b then .ok (a.toNat * m / b) else .error .overflow
  | none => .error .overflow

/-- **Scaling a double by a power of two is exact until it overflows.** -/
theorem scaleDown_eq_timesUnit (x : Binary64) (j : Nat) : scaleDown x j = timesUnit x (Nat.pow 2 j) := by
  have hp : ∀ k, Nat.pow 2 k = 2 ^ k := fun _ => rfl
  unfold scaleDown timesUnit
  rcases hx : x.toRat? with _ | ⟨a, b⟩
  · rfl
  obtain ⟨M, p, q, ha, rfl, hM, hE⟩ := Binary64.toRat?_eq_some hx
  have hX : a.toNat * Nat.pow 2 j = M * Nat.pow 2 (p + j) := by
    rw [ha, hp, hp, hp, Nat.mul_assoc, ← Nat.pow_add]
  dsimp only
  rw [hX]
  by_cases hM0 : M = 0
  · -- a zero numerator rounds to zero
    subst hM0
    have hzero : (Binary64.zero false).decode = .finite false 0 Binary64.minExponent :=
      Binary64.decode_ofFields_subnormal (by decide)
    have h2 : ∀ k l, 0 < Nat.pow 2 k * Nat.pow 2 l := fun k l =>
      Nat.mul_pos (Nat.two_pow_pos k) (Nat.two_pow_pos l)
    rw [Nat.zero_mul, Binary64.nearest_zero, Binary64.isInfinite_of_decode hzero, Binary64.truncate_of_decode hzero, if_pos (h2 1024 q)]
    simp [Binary64.scale_zero_fst]
  · have hexact := Binary64.nearest_exact hM0 hM (p := p + j) (q := q) (by omega)
    by_cases hlt : M * Nat.pow 2 (p + j) < Nat.pow 2 1024 * Nat.pow 2 q
    · obtain ⟨hfin, htr⟩ := hexact.1 hlt
      rw [hfin, htr, if_pos hlt]
      rfl
    · rw [hexact.2 (Nat.le_of_not_lt hlt), Binary64.infinity_isInfinite, if_neg hlt]
      rfl

/-! ### Size settings -/

/-- **A size text denotes the value of its number in its unit,** unless its unit
holds the Kelvin sign or U+0130: those match `K` and `I` without regard to case
but keep their form in uppercase, and no unit is looked up by that form. -/
theorem parse_sizeText {s : String} {num unit : List Char} {p : String}
    (h : SizeText (trim s.toList) num unit p) :
    (('\u212A' ∈ unit ∨ '\u0130' ∈ unit) → parse (.str s) = .error .missingKey) ∧
      ('\u212A' ∉ unit → '\u0130' ∉ unit →
        ∃ x, readFloat (String.ofList num) = some x ∧ parse (.str s) = timesUnit x (multiplier p)) := by
  have hsplit := splitSize_of_sizeText h
  have hne : ¬ (trim s.toList).isEmpty = true := by
    obtain ⟨bs, -, ht⟩ := h.blanks
    rw [ht, List.isEmpty_iff]
    simp [h.number.ne_nil]
  constructor
  · intro hspecial
    have hlookup : unitTable.lookup (String.ofList (upper unit)) = none := by
      rcases hspecial with hK | hI
      · exact lookup_upper_special hK (.inl rfl)
      · exact lookup_upper_special hI (.inr rfl)
    unfold parse
    dsimp only
    rw [if_neg hne, hsplit]
    dsimp only
    rw [hlookup]
  · intro hK hI
    obtain ⟨x, hx⟩ := readFloat_sizeNumber h.number
    refine ⟨x, hx, ?_⟩
    unfold parse
    dsimp only
    rw [if_neg hne, hsplit]
    dsimp only
    rw [lookup_upper_plain h.pattern h.spelled hK hI]
    dsimp only
    rw [hx]
    dsimp only
    rw [log2_multiplier, scaleDown_eq_timesUnit, multiplier_eq]

/-- A text that is no size text is refused as such. -/
theorem parse_of_not_sizeText {s : String} (h : ∀ num unit p, ¬ SizeText (trim s.toList) num unit p) :
    ∃ msg ctx, parse (.str s) = .error (.size msg ctx) := by
  unfold parse
  dsimp only
  split_ifs
  · exact ⟨_, _, rfl⟩
  · split
    · exact ⟨_, _, rfl⟩
    · rename_i num unit hs
      obtain ⟨p, hp⟩ := sizeText_of_splitSize hs
      exact absurd hp (h num unit p)

theorem parse_accepts_size_grammar (v : Value) :
    (∀ n : Nat, v = .int n → parse v = .ok n) ∧
    (∀ s num unit p, v = .str s → SizeText (trim s.toList) num unit p →
      (('\u212A' ∈ unit ∨ '\u0130' ∈ unit) → parse v = .error .missingKey) ∧
      ('\u212A' ∉ unit → '\u0130' ∉ unit →
        ∃ x, readFloat (String.ofList num) = some x ∧ parse v = timesUnit x (multiplier p))) ∧
    ((∀ n : Nat, v ≠ .int n) → (∀ s, v = .str s → ∀ num unit p, ¬ SizeText (trim s.toList) num unit p) →
      ∃ msg ctx, parse v = .error (.size msg ctx)) := by
  refine ⟨?_, ?_, ?_⟩
  · rintro n rfl
    unfold parse
    dsimp only
    rw [if_neg (by omega)]
    rfl
  · rintro s num unit p rfl h
    exact parse_sizeText h
  · intro hint hstr
    cases v with
    | int i =>
      -- a whole number that is no natural number is negative
      have hneg : i < 0 := by
        by_contra hi
        exact hint i.toNat (by rw [Int.toNat_of_nonneg (by omega)])
      unfold parse
      dsimp only
      rw [if_pos hneg]
      exact ⟨_, _, rfl⟩
    | str s => exact parse_of_not_sizeText (hstr s rfl)
    | none | bool _ | float _ | bytes _ | list _ | tuple _ | dict _ | foreign _ _ _ _ => exact ⟨_, _, rfl⟩

set_option maxRecDepth 8000 in
theorem parse_kelvin_unit_fails :
    SizeText (trim "1\u212AB".toList) ['1'] ['\u212A', 'B'] "KB" ∧
      parse (.str "1\u212AB") = .error .missingKey := by
  have h : SizeText (trim "1\u212AB".toList) ['1'] ['\u212A', 'B'] "KB" :=
    ⟨.whole (by simp) (@of_decide_eq_true _ (List.decidableBAll _ _) (by decide)),
      ⟨[], by simp, by decide +kernel⟩, by decide, by decide⟩
  exact ⟨h, (parse_sizeText h).1 (.inl (by simp))⟩

end MaskedLog.Size

import MaskedLog.Proofs.SettingsFaults
/-!
# Normal forms of field names and settings

A field name is kept trimmed and lowercased, and the names of a list are kept
once each, in the order their normal forms first occur. Normalising is a fixed
point. Lowercasing twice is lowercasing once, even for U+0130, which becomes
`i` and a combining dot, and for the capital sigma, whose lowercase form
depends on its neighbours: the lowercase table lands only on characters it
leaves alone. No character lowercases to white space, so a trimmed name stays
trimmed once lowercased. Hence the names a list normalises to normalise to
themselves, a scanner built from checked settings has the settings' own names,
and checked settings rebuilt from their own values check to themselves.

## Main definitions

* `missesRuns` — a stretch of code points misses every run of the lowercase
  table.
* `lowerForms` — the characters a character may lowercase to.
* `Trimmed` — a text with no white space at either end.
* `FirstSeen` — the distinct entries of a list in the order they first occur.
* `BoundsAccepted` — the ratio and minimum length the settings check lets pass.

## Main results

* `lowerChar_lowerChar`, `lower_lower` — lowercasing is idempotent.
* `normalForm_normalForm` — a normal form is its own normal form.
* `firstSeen_foldl_insertNew`, `FirstSeen.unique` — the names are kept once
  each in first-seen order, which determines them.
* `Settings.Input.check_eq_ok` — what the settings check accepts and builds.
* `normal_forms_are_fixed_points` — **normalising names and settings is a
  fixed point**.

## References

`bodylog/redact/fields.py` (`normalize_fields`) and `bodylog/config.py`
(`BodyLogConfig.__post_init__`).
-/

namespace MaskedLog.Unicode

/-! ### The lowercase table lands on characters it leaves alone -/

/-- Whether the code points `a` to `b` miss every run of `rs`: each run lies
past them on one side, or, when `alt` holds and the run steps by two, the code
points from `a` taken every other one fall between those the run covers. -/
def missesRuns (a b : Nat) (alt : Bool) : List CaseRun → Bool
  | [] => true
  | s :: rs =>
    -- `Nat.blt` rather than a decided `<`: the kernel runs this on every pair of runs
    (b.blt s.lo || s.hi.blt a || (alt && s.step == 2 && (a + s.lo) % 2 == 1)) && missesRuns a b alt rs

theorem missesRuns_mem {a b : Nat} {alt : Bool} {rs : List CaseRun} (h : missesRuns a b alt rs = true)
    {s : CaseRun} (hs : s ∈ rs) :
    b < s.lo ∨ s.hi < a ∨ (alt = true ∧ s.step = 2 ∧ (a + s.lo) % 2 = 1) := by
  induction rs with
  | nil => cases hs
  | cons s' rs ih =>
    simp only [missesRuns, Bool.and_eq_true, Bool.or_eq_true, Nat.blt_eq, beq_iff_eq] at h
    rcases List.mem_cons.mp hs with rfl | hs
    · rcases h.1 with (h | h) | ⟨⟨h1, h2⟩, h3⟩
      · exact .inl h
      · exact .inr (.inl h)
      · exact .inr (.inr ⟨h1, h2, h3⟩)
    · exact ih h.2 hs

/-- Every run of the table steps by one or two and lands past ASCII `Z`, its
images missing every run and every range of white space. The images are
computed once per run and compared in `Nat`, which keeps the kernel's work
small. -/
theorem lowerRuns_images :
    ∀ r ∈ lowerRuns.toList, (r.step = 1 ∨ r.step = 2) ∧ 97 ≤ (r.lo : Int) + r.delta ∧
      missesRuns ((r.lo : Int) + r.delta).toNat ((r.hi : Int) + r.delta).toNat (r.step == 2 || r.lo == r.hi)
        lowerRuns.toList = true ∧
      ∀ b ∈ blankRanges.toList, ((r.hi : Int) + r.delta).toNat < b.1 ∨ b.2 < ((r.lo : Int) + r.delta).toNat := by
  decide +kernel

/-- White space lies past the null character and outside the ASCII small letters. -/
theorem blankRanges_shape : ∀ b ∈ blankRanges.toList, 0 < b.1 ∧ (b.2 < 97 ∨ 122 < b.1) := by
  decide

/-- The image of a code point under a run of the table is covered by no run. -/
theorem covers_image {r s : CaseRun} {n : Nat} (hr : r ∈ lowerRuns.toList) (hs : s ∈ lowerRuns.toList)
    (hn : r.covers n = true) : s.covers ((n : Int) + r.delta).toNat = false := by
  obtain ⟨hstep, hlow, hmiss, -⟩ := lowerRuns_images r hr
  obtain ⟨hstep', -, -, -⟩ := lowerRuns_images s hs
  have happ := missesRuns_mem hmiss hs
  by_contra hc
  simp only [Bool.not_eq_false, CaseRun.covers, Bool.and_eq_true, decide_eq_true_eq, beq_iff_eq]
    at hc hn
  simp only [Bool.or_eq_true, beq_iff_eq] at happ
  -- with both steps known, covering is linear arithmetic with a parity
  rcases hstep with h | h <;> rcases hstep' with h' | h' <;> rw [h] at hn happ <;>
    rw [h'] at hc happ <;> omega

/-- A character that is no ASCII capital, and past ASCII is covered by no run,
lowercases to itself. -/
theorem lowerChar_eq_self {d : Char} (hcap : d.toNat < 65 ∨ 90 < d.toNat)
    (hunc : 128 ≤ d.toNat → ∀ s ∈ lowerRuns.toList, s.covers d.toNat = false) : lowerChar d = d := by
  unfold lowerChar
  dsimp only
  split
  · rw [if_neg (by simp only [Bool.and_eq_true, decide_eq_true_eq]; omega)]
  · rename_i hbig
    have hnone : lowerRuns.find? (·.covers d.toNat) = none := Array.find?_eq_none.mpr fun s hs => by
      rw [hunc (by omega) s (Array.mem_toList_iff.mpr hs)]
      decide
    rw [hnone]

/-- What a character lowercases to when it changes: no ASCII capital, past
ASCII no code point a run covers, and no white space. -/
structure LowerImage (d : Char) : Prop where
  not_capital : d.toNat < 65 ∨ 90 < d.toNat
  uncovered : 128 ≤ d.toNat → ∀ s ∈ lowerRuns.toList, s.covers d.toNat = false
  not_blank : isBlank d = false

theorem LowerImage.lowerChar_eq {d : Char} (h : LowerImage d) : lowerChar d = d :=
  lowerChar_eq_self h.not_capital h.uncovered

/-- A character lowercases to itself, or to a character that lowercases to
itself. -/
theorem lowerChar_cases (c : Char) : lowerChar c = c ∨ LowerImage (lowerChar c) := by
  generalize hd : lowerChar c = d
  unfold lowerChar at hd
  dsimp only at hd
  split at hd
  · split at hd
    · -- an ASCII capital becomes its small letter
      rename_i hA
      simp only [Bool.and_eq_true, decide_eq_true_eq] at hA
      right
      have hcode := Redact.toNat_of_ofNat hd
      refine ⟨by omega, fun _ => by omega, CodeRanges.contains_eq_false fun b hb => ?_⟩
      have := blankRanges_shape b hb
      omega
    · exact .inl hd.symm
  · split at hd
    · -- a run moves it onto a code point no run covers, away from white space
      rename_i r hr
      have hmem := Array.mem_toList_iff.mpr (Array.mem_of_find?_eq_some hr)
      have hcov := Array.find?_some hr
      have hin : r.lo ≤ c.toNat ∧ c.toNat ≤ r.hi := by
        simp only [CaseRun.covers, Bool.and_eq_true, decide_eq_true_eq] at hcov
        exact hcov.1
      obtain ⟨-, hlow, -, hblank⟩ := lowerRuns_images r hmem
      right
      rcases Redact.toNat_of_ofNat hd with h | h
      · refine ⟨by omega, fun _ s hs => ?_, CodeRanges.contains_eq_false fun b hb => ?_⟩
        · rw [h]
          exact covers_image hmem hs hcov
        · have := hblank b hb
          omega
      · refine ⟨by omega, fun _ => by omega, CodeRanges.contains_eq_false fun b hb => ?_⟩
        have := blankRanges_shape b hb
        omega
    · exact .inl hd.symm

/-- **The one-character lowercase form is idempotent.** -/
theorem lowerChar_lowerChar (c : Char) : lowerChar (lowerChar c) = lowerChar c := by
  rcases lowerChar_cases c with h | h
  · rw [h, h]
  · exact h.lowerChar_eq

/-- No character lowercases to white space unless it is white space. -/
theorem isBlank_lowerChar {c : Char} (h : isBlank c = false) : isBlank (lowerChar c) = false := by
  rcases lowerChar_cases c with h' | h'
  · rw [h']
    exact h
  · exact h'.not_blank

/-! ### Lowercasing text twice -/

/-- The characters `c` may lowercase to, in some context. -/
def lowerForms (c : Char) : List Char :=
  if c = capitalSigma then ['ς', 'σ'] else lowerFull c

/-- A character that lowercases to itself in every context. -/
def LowerStable (d : Char) : Prop := d ≠ capitalSigma ∧ lowerFull d = [d]

set_option maxRecDepth 8000 in
theorem lowerStable_lowerChar {c : Char} (hc : c.toNat ≠ 0x130) : LowerStable (lowerChar c) := by
  constructor
  · -- the capital sigma lowercases to the small one, so it is no lowercase form
    intro h
    have hfix := lowerChar_lowerChar c
    rw [h] at hfix
    exact absurd hfix (by decide)
  · have hdot : (lowerChar c).toNat ≠ 0x130 := fun h =>
      hc (by rw [Redact.eq_of_lowerChar_eq_fixed (by decide) (Redact.eq_of_isDotted h)]; rfl)
    rw [lowerFull, if_neg hdot, lowerChar_lowerChar]

/-- A character past ASCII that no run covers lowercases to itself in every
context, unless it is the capital sigma or U+0130. -/
theorem lowerStable_of_uncovered {d : Char} (hbig : 128 ≤ d.toNat) (hd : d ≠ capitalSigma)
    (hdot : d.toNat ≠ 0x130) (h : ∀ s ∈ lowerRuns.toList, s.covers d.toNat = false) : LowerStable d :=
  ⟨hd, by rw [lowerFull, if_neg hdot, lowerChar_eq_self (by omega) fun _ => h]⟩

/-- A form a character lowercases to is a small sigma, one of the two
characters of a dotted capital `I`, or its one-character lowercase form. -/
theorem mem_lowerForms {c d : Char} (h : d ∈ lowerForms c) :
    d ∈ ['ς', 'σ', 'i', '\u0307'] ∨ (c.toNat ≠ 0x130 ∧ d = lowerChar c) := by
  unfold lowerForms at h
  split at h
  · simp only [List.mem_cons, List.not_mem_nil, or_false] at h
    rcases h with rfl | rfl <;> simp
  · unfold lowerFull at h
    split at h
    · simp only [List.mem_cons, List.not_mem_nil, or_false] at h
      rcases h with rfl | rfl <;> simp
    · rename_i hdot
      exact .inr ⟨hdot, List.mem_singleton.mp h⟩

set_option maxRecDepth 8000 in
theorem lowerStable_of_mem_lowerForms {c d : Char} (h : d ∈ lowerForms c) : LowerStable d := by
  rcases mem_lowerForms h with hd | ⟨hdot, rfl⟩
  · -- the small sigmas and the combining dot lie past ASCII where no run reaches; `i` is ASCII
    simp only [List.mem_cons, List.not_mem_nil, or_false] at hd
    rcases hd with rfl | rfl | rfl | rfl
    · exact lowerStable_of_uncovered (by decide) (by decide) (by decide) (by decide)
    · exact lowerStable_of_uncovered (by decide) (by decide) (by decide) (by decide)
    · exact ⟨by decide, by decide⟩
    · exact lowerStable_of_uncovered (by decide) (by decide) (by decide) (by decide)
  · exact lowerStable_lowerChar hdot

theorem lowerAfter_of_stable {b t : List Char} (h : ∀ d ∈ t, LowerStable d) : lowerAfter b t = t := by
  induction t generalizing b with
  | nil => rfl
  | cons d rest ih =>
    obtain ⟨hs, hf⟩ := h d (List.mem_cons_self ..)
    rw [lowerAfter, if_neg hs, hf, ih fun x hx => h x (List.mem_cons_of_mem _ hx)]
    rfl

/-- Lowercasing a text starting with `c` writes some of the forms of `c`, at
least one, then the rest. -/
theorem lowerAfter_cons_eq (b : List Char) (c : Char) (rest : List Char) :
    ∃ p, p ≠ [] ∧ (∀ x ∈ p, x ∈ lowerForms c) ∧ lowerAfter b (c :: rest) = p ++ lowerAfter (c :: b) rest := by
  refine ⟨_, ?_, fun x hx => ?_, rfl⟩
  · split
    · simp
    · unfold lowerFull
      split <;> simp
  · unfold lowerForms
    split at hx
    · rename_i hc
      rw [if_pos hc]
      split at hx <;> simp_all
    · rename_i hc
      rwa [if_neg hc]

theorem mem_lowerAfter {b s : List Char} {d : Char} (h : d ∈ lowerAfter b s) : ∃ c ∈ s, d ∈ lowerForms c := by
  induction s generalizing b with
  | nil => simp at h
  | cons c rest ih =>
    obtain ⟨p, -, hp, heq⟩ := lowerAfter_cons_eq b c rest
    rw [heq, List.mem_append] at h
    rcases h with h | h
    · exact ⟨c, List.mem_cons_self .., hp d h⟩
    · obtain ⟨c', hc', hd⟩ := ih h
      exact ⟨c', List.mem_cons_of_mem _ hc', hd⟩

/-- **Lowercasing is idempotent.** -/
theorem lower_lower (s : List Char) : lower (lower s) = lower s :=
  lowerAfter_of_stable fun _ hd =>
    let ⟨_, _, hc⟩ := mem_lowerAfter hd
    lowerStable_of_mem_lowerForms hc

theorem head?_lowerAfter {b s : List Char} {c d : Char} (hc : s.head? = some c)
    (hd : d ∈ (lowerAfter b s).head?) : d ∈ lowerForms c := by
  obtain ⟨rest, rfl⟩ : ∃ rest, s = c :: rest := by
    cases s with
    | nil => cases hc
    | cons c' rest => cases hc; exact ⟨rest, rfl⟩
  obtain ⟨p, hne, hp, heq⟩ := lowerAfter_cons_eq b c rest
  obtain ⟨x, p', rfl⟩ := List.exists_cons_of_ne_nil hne
  rw [heq, List.cons_append, List.head?_cons, Option.mem_some_iff] at hd
  exact hp d (hd ▸ List.mem_cons_self ..)

/-- The last character of a lowercase text is a form of the last character. -/
theorem getLast?_lowerAfter (b ys : List Char) (c : Char) :
    ∃ q p, p ≠ [] ∧ (∀ x ∈ p, x ∈ lowerForms c) ∧ lowerAfter b (ys ++ [c]) = q ++ p := by
  induction ys generalizing b with
  | nil =>
    obtain ⟨p, hne, hp, heq⟩ := lowerAfter_cons_eq b c []
    exact ⟨[], p, hne, hp, by simpa using heq⟩
  | cons y ys ih =>
    obtain ⟨p, -, -, heq⟩ := lowerAfter_cons_eq b y (ys ++ [c])
    obtain ⟨q, p', hne, hp', heq'⟩ := ih (y :: b)
    exact ⟨p ++ q, p', hne, hp', by rw [List.cons_append, heq, heq', List.append_assoc]⟩

/-! ### Trimming and lowercasing -/

/-- A text with no white space at either end. -/
def Trimmed (s : List Char) : Prop :=
  (∀ c ∈ s.head?, isBlank c = false) ∧ ∀ c ∈ s.getLast?, isBlank c = false

theorem isBlank_head?_dropWhile {s : List Char} {c : Char} (h : c ∈ (s.dropWhile isBlank).head?) :
    isBlank c = false := by
  have := List.head?_dropWhile_not isBlank s
  rw [Option.mem_def.mp h] at this
  exact this

theorem dropWhile_isBlank_of_head? {s : List Char} (h : ∀ c ∈ s.head?, isBlank c = false) :
    s.dropWhile isBlank = s := by
  cases s with
  | nil => rfl
  | cons c rest => exact List.dropWhile_cons_of_neg (by simp [h c rfl])

theorem trimmed_trim (s : List Char) : Trimmed (trim s) := by
  unfold trim
  -- the last character kept is the first one the backward scan stops at
  refine ⟨fun c hc => ?_, fun c hc => ?_⟩
  · rw [List.head?_reverse] at hc
    obtain ⟨t, ht⟩ := List.dropWhile_suffix isBlank (l := (s.dropWhile isBlank).reverse)
    have hlast : c ∈ (s.dropWhile isBlank).reverse.getLast? := by
      rw [← ht, List.getLast?_append, Option.mem_def.mp hc]
      rfl
    rw [List.getLast?_reverse] at hlast
    exact isBlank_head?_dropWhile hlast
  · rw [List.getLast?_reverse] at hc
    exact isBlank_head?_dropWhile hc

theorem Trimmed.trim_eq {s : List Char} (h : Trimmed s) : trim s = s := by
  have hrev : ∀ c ∈ s.reverse.head?, isBlank c = false := by
    rw [List.head?_reverse]
    exact h.2
  rw [trim, dropWhile_isBlank_of_head? h.1, dropWhile_isBlank_of_head? hrev, List.reverse_reverse]

theorem isBlank_of_mem_lowerForms {c d : Char} (hc : isBlank c = false) (hd : d ∈ lowerForms c) :
    isBlank d = false := by
  rcases mem_lowerForms hd with hd | ⟨-, rfl⟩
  · simp only [List.mem_cons, List.not_mem_nil, or_false] at hd
    rcases hd with rfl | rfl | rfl | rfl <;> exact CodeRanges.contains_eq_false (by decide)
  · exact isBlank_lowerChar hc

/-- Lowercasing keeps a trimmed text trimmed: its ends lowercase to no white
space. -/
theorem Trimmed.lower {s : List Char} (h : Trimmed s) : Trimmed (lower s) := by
  refine ⟨fun d hd => ?_, fun d hd => ?_⟩
  · cases hs : s.head? with
    | none =>
      rw [List.head?_eq_none_iff.mp hs] at hd
      cases hd
    | some c => exact isBlank_of_mem_lowerForms (h.1 c hs) (head?_lowerAfter hs hd)
  · rcases List.eq_nil_or_concat' s with rfl | ⟨ys, c, rfl⟩
    · cases hd
    · obtain ⟨q, p, hne, hp, heq⟩ := getLast?_lowerAfter [] ys c
      have hc : isBlank c = false := h.2 c (by simp)
      unfold MaskedLog.Unicode.lower at hd
      rw [heq, List.getLast?_append, List.getLast?_eq_some_getLast hne, Option.some_or,
        Option.mem_some_iff] at hd
      exact isBlank_of_mem_lowerForms hc (hp d (hd ▸ List.getLast_mem hne))

end MaskedLog.Unicode

namespace MaskedLog.Redact

open MaskedLog.Unicode

/-- **A normal form is its own normal form.** -/
theorem normalForm_normalForm (n : String) : normalForm (normalForm n) = normalForm n := by
  simp only [normalForm, lowerString, trimString, String.toList_ofList]
  rw [(trimmed_trim n.toList).lower.trim_eq, lower_lower]

/-! ### Names once each, in first-seen order -/

/-- `N` lists the distinct entries of `L`, each once, in the order they first
occur in `L`. -/
structure FirstSeen (L N : List String) : Prop where
  nodup : N.Nodup
  mem_iff : ∀ m, m ∈ N ↔ m ∈ L
  ordered : N.Pairwise fun a b => L.idxOf a < L.idxOf b

/-- The order of first occurrence leaves one list. -/
theorem FirstSeen.unique {L N N' : List String} (h : FirstSeen L N) (h' : FirstSeen L N') : N = N' :=
  List.Perm.eq_of_pairwise (fun _ _ _ _ hab hba => absurd (Nat.lt_trans hab hba) (Nat.lt_irrefl _))
    h.ordered h'.ordered
    ((List.perm_ext_iff_of_nodup h.nodup h'.nodup).mpr fun m => (h.mem_iff m).trans (h'.mem_iff m).symm)

/-- One more entry is listed only if it is new, and then last. -/
theorem FirstSeen.insertNew {L N : List String} (h : FirstSeen L N) (x : String) :
    FirstSeen (L ++ [x]) (insertNew N x) := by
  have hidx : ∀ a ∈ N, (L ++ [x]).idxOf a = L.idxOf a := fun a ha =>
    List.idxOf_append_of_mem ((h.mem_iff a).mp ha)
  unfold Redact.insertNew
  split
  · -- already listed: the list stays, and `x` occurs first earlier
    rename_i hx
    have hxL : x ∈ L := (h.mem_iff x).mp (List.contains_iff_mem.mp hx)
    refine ⟨h.nodup, fun m => ?_, h.ordered.imp_of_mem fun ha hb hab => ?_⟩
    · rw [h.mem_iff, List.mem_append, List.mem_singleton]
      exact ⟨.inl, fun hm => hm.elim id fun hm => hm ▸ hxL⟩
    · rwa [hidx _ ha, hidx _ hb]
  · -- new: it is listed last, and occurs first after all listed ones
    rename_i hx
    have hxN : x ∉ N := fun hm => hx (List.contains_iff_mem.mpr hm)
    have hxL : x ∉ L := fun hm => hxN ((h.mem_iff x).mpr hm)
    have hlast : (L ++ [x]).idxOf x = L.length := by simp [List.idxOf_append, hxL]
    refine ⟨List.nodup_append.mpr ⟨h.nodup, List.nodup_cons.mpr ⟨List.not_mem_nil, .nil⟩, ?_⟩,
      fun m => ?_, List.pairwise_append.mpr ⟨h.ordered.imp_of_mem fun ha hb hab => ?_, List.pairwise_singleton _ _, ?_⟩⟩
    · intro a ha b hb hab
      rw [List.mem_singleton] at hb
      exact hxN (hb ▸ hab ▸ ha)
    · rw [List.mem_append, List.mem_append, h.mem_iff]
    · rwa [hidx _ ha, hidx _ hb]
    · intro a ha b hb
      rw [List.mem_singleton] at hb
      rw [hidx _ ha, hb, hlast]
      exact List.idxOf_lt_length_of_mem ((h.mem_iff a).mp ha)

/-- Inserting the entries of `L` one after another keeps the order of first
occurrence. -/
theorem FirstSeen.foldl_insertNew {P N : List String} (h : FirstSeen P N) (L : List String) :
    FirstSeen (P ++ L) (L.foldl Redact.insertNew N) := by
  induction L generalizing P N with
  | nil => simpa using h
  | cons x L ih =>
    rw [List.foldl_cons, show P ++ x :: L = (P ++ [x]) ++ L by simp]
    exact ih (h.insertNew x)

theorem firstSeen_foldl_insertNew (L : List String) : FirstSeen L (L.foldl insertNew []) := by
  simpa using (show FirstSeen [] [] from ⟨.nil, by simp, .nil⟩).foldl_insertNew L

theorem foldl_insertNew_of_nodup {acc N : List String} (h : (acc ++ N).Nodup) :
    N.foldl insertNew acc = acc ++ N := by
  induction N generalizing acc with
  | nil => simp
  | cons x N ih =>
    have hx : x ∉ acc := fun hm =>
      (List.nodup_append.mp h).2.2 x hm x (List.mem_cons_self ..) rfl
    rw [List.foldl_cons, insertNew, if_neg (by simpa using hx),
      ih (by simpa using h)]
    simp

/-! ### What normalising names accepts -/

theorem normalizeName_ok {v : Value} {n : String} (h : normalizeName v = .ok n) :
    ∃ s, v = .str s ∧ normalForm s = n ∧ n ≠ "" ∧ '"' ∉ n.toList := by
  unfold normalizeName at h
  split at h
  · rename_i s
    dsimp only at h
    -- the two refusals are errors, so only the last branch returns
    split_ifs at h with hempty hq
    obtain rfl : normalForm s = n := Except.ok.inj h
    exact ⟨s, rfl, rfl, fun he => hempty (String.isEmpty_iff.mpr he), by simpa using hq⟩
  · exact absurd h nofun

theorem normalizeNames_ok {xs : List Value} {acc N : List String}
    (h : xs.foldlM (fun acc v => insertNew acc <$> normalizeName v) acc = .ok N) :
    ∃ ss : List String, xs = ss.map .str ∧
      (∀ s ∈ ss, normalForm s ≠ "" ∧ '"' ∉ (normalForm s).toList) ∧
      N = (ss.map normalForm).foldl insertNew acc := by
  induction xs generalizing acc with
  | nil =>
    cases h
    exact ⟨[], rfl, by simp, rfl⟩
  | cons v vs ih =>
    rw [List.foldlM_cons, bind_eq_ok] at h
    obtain ⟨acc', hv, h⟩ := h
    rcases hn : normalizeName v with f | n
    · rw [hn] at hv
      cases hv
    · rw [hn] at hv
      cases hv
      obtain ⟨s, rfl, rfl, hne, hq⟩ := normalizeName_ok hn
      obtain ⟨ss, rfl, hss, rfl⟩ := ih h
      refine ⟨s :: ss, rfl, fun s' hs' => ?_, rfl⟩
      rcases List.mem_cons.mp hs' with rfl | hs'
      · exact ⟨hne, hq⟩
      · exact hss s' hs'

theorem normalizeFields_ok {v : Value} {N : List String} (h : normalizeFields v = .ok N) :
    ∃ ss : List String, v.items? = some (ss.map .str) ∧
      (∀ s ∈ ss, normalForm s ≠ "" ∧ '"' ∉ (normalForm s).toList) ∧
      N = (ss.map normalForm).foldl insertNew [] := by
  unfold normalizeFields at h
  split at h
  · cases h
  · split at h
    · rename_i names hitems
      obtain ⟨ss, rfl, hss, hN⟩ := normalizeNames_ok h
      exact ⟨ss, hitems, hss, hN⟩
    · cases h

/-- Distinct names in normal form normalise to themselves. -/
theorem normalizeFields_of_normal {N : List String} (hnd : N.Nodup)
    (hn : ∀ n ∈ N, normalForm n = n ∧ n ≠ "" ∧ '"' ∉ n.toList) :
    normalizeFields (.tuple (N.map .str)) = .ok N := by
  rw [normalizeFields_normal N hn, foldl_insertNew_of_nodup (by simpa using hnd), List.nil_append]

/-- The names a value normalises to are the normal forms of its texts in
first-seen order, and normalise to themselves. -/
theorem normalizeFields_fixed {v : Value} {N : List String} (h : normalizeFields v = .ok N) :
    ∃ names : List String, v.items? = some (names.map .str) ∧ FirstSeen (names.map normalForm) N ∧
      normalizeFields (.tuple (N.map .str)) = .ok N := by
  obtain ⟨ss, hitems, hss, rfl⟩ := normalizeFields_ok h
  have hfs := firstSeen_foldl_insertNew (ss.map normalForm)
  refine ⟨ss, hitems, hfs, normalizeFields_of_normal hfs.nodup fun n hn => ?_⟩
  obtain ⟨s, hs, rfl⟩ := List.mem_map.mp ((hfs.mem_iff n).mp hn)
  exact ⟨normalForm_normalForm s, hss s hs⟩

end MaskedLog.Redact

namespace MaskedLog

open MaskedLog.Redact MaskedLog.Unicode

/-! ### Checked settings rebuilt -/

/-- The ratio and minimum length the settings check lets pass: the ratio lies
in `[0, 1]` and the minimum length is not negative. -/
structure BoundsAccepted (ratio minLength : Value) : Prop where
  low : Value.le (.float (Binary64.zero false)) ratio = .ok true
  high : Value.le ratio (.float (Binary64.ofInt 1)) = .ok true
  nonneg : Value.lt minLength (.int 0) = .ok false

/-- What the settings check accepts, and what it builds: each normalised field
from its reader, the bounds accepted, the other fields kept. -/
theorem Settings.Input.check_eq_ok {i : Settings.Input} {c : Settings} :
    i.check = .ok c ↔
      normalizeFields i.sensitiveFields = .ok c.sensitiveFields ∧
      (∃ xs, walk i.skipContentTypes = .ok xs ∧ xs.mapM lowerItem = .ok c.skipContentTypes) ∧
      walk i.skipPaths = .ok c.skipPaths ∧ Size.parse i.maxBodySize = .ok c.maxBodySize ∧
      BoundsAccepted i.binaryRatio i.binaryMinLength ∧
      c.logRequestBody = i.logRequestBody ∧ c.logResponseBody = i.logResponseBody ∧
      c.binaryRatio = i.binaryRatio ∧ c.binaryMinLength = i.binaryMinLength ∧
      c.requestIdHeader = i.requestIdHeader ∧ c.loggerName = i.loggerName := by
  constructor
  · intro h
    simp only [Settings.Input.check, bind_eq_ok] at h
    obtain ⟨fields, hf, xs, hx, skipped, hs, paths, hp, budget, hb, low, hlow, h⟩ := h
    -- each guard that fails throws; past them the settings are built
    cases low
    · simp [pure, Except.pure, bind, Except.bind] at h
    · simp only [if_true, bind_eq_ok] at h
      obtain ⟨high, hhigh, h⟩ := h
      cases high
      · exact absurd h (throw_bind_ne_ok _ _ _)
      · simp only [Bool.and_self, if_true, bind_eq_ok] at h
        obtain ⟨neg, hneg, h⟩ := h
        cases neg
        · cases h
          exact ⟨hf, ⟨xs, hx, hs⟩, hp, hb, ⟨hlow, hhigh, hneg⟩, rfl, rfl, rfl, rfl, rfl, rfl⟩
        · simp [throw, throwThe, MonadExceptOf.throw] at h
  · rintro ⟨hf, ⟨xs, hx, hs⟩, hp, hb, ⟨hlow, hhigh, hneg⟩, h1, h2, h3, h4, h5, h6⟩
    simp only [Settings.Input.check, hf, hx, hs, hp, hb, hlow, hhigh, hneg, ok_bind, if_true,
      Bool.and_self]
    cases c
    simp only at h1 h2 h3 h4 h5 h6
    subst h1 h2 h3 h4 h5 h6
    rfl

/-- An item that has a lowercase form is a text or bytes, and its lowercase
form is of the same kind. -/
theorem lowerItem_ok {x y : Value} (h : lowerItem x = .ok y) :
    (∃ s, x = .str s ∧ y = .str (lowerString s)) ∨
      ∃ b, x = .bytes b ∧ y = .bytes (b.map lowerByte) := by
  cases x with
  | str s =>
    cases h
    exact .inl ⟨s, rfl, rfl⟩
  | bytes b =>
    cases h
    exact .inr ⟨b, rfl, rfl⟩
  | _ => cases h

theorem lowerByte_lowerByte (b : UInt8) : lowerByte (lowerByte b) = lowerByte b := by
  by_cases h : 65 ≤ b.toNat ∧ b.toNat ≤ 90
  · -- a capital lowercases past `Z`, where lowercasing stops
    have hn : (b + 32).toNat = b.toNat + 32 := by
      rw [UInt8.toNat_add, show (32 : UInt8).toNat = 32 from rfl]
      omega
    have hl : lowerByte b = b + 32 := by simp [lowerByte, h]
    rw [hl, lowerByte, if_neg (by simp only [hn, Bool.and_eq_true, decide_eq_true_eq]; omega)]
  · have hl : lowerByte b = b := by
      simp only [lowerByte, Bool.and_eq_true, decide_eq_true_eq, h, if_false]
    rw [hl, hl]

/-- A lowercase form lowercases to itself. -/
theorem lowerItem_lowered {x y : Value} (h : lowerItem x = .ok y) : lowerItem y = .ok y := by
  rcases lowerItem_ok h with ⟨s, -, rfl⟩ | ⟨b, -, rfl⟩
  · simp only [lowerItem, lowerString, String.toList_ofList, lower_lower]
  · simp only [lowerItem, List.map_map, Function.comp_def, lowerByte_lowerByte]

/-- Lowercase items lowercase to themselves. -/
theorem mapM_lowerItem_lowered {xs ys : List Value} (h : xs.mapM lowerItem = .ok ys) :
    ys.mapM lowerItem = .ok ys := by
  induction xs generalizing ys with
  | nil =>
    cases h
    rfl
  | cons x xs ih =>
    rw [List.mapM_cons, bind_eq_ok] at h
    obtain ⟨y, hy, h⟩ := h
    rw [bind_eq_ok] at h
    obtain ⟨ys', hys', h⟩ := h
    cases h
    simp only [List.mapM_cons, lowerItem_lowered hy, ih hys', ok_bind, pure_eq_ok]

/-- Checked settings rebuilt from their own values check to themselves. -/
theorem Settings.Input.check_toInput {i : Settings.Input} {c : Settings} (h : i.check = .ok c) :
    c.toInput.check = .ok c := by
  obtain ⟨hf, ⟨xs, hx, hs⟩, -, -, hbounds, -, -, h3, h4, -, -⟩ := Settings.Input.check_eq_ok.mp h
  obtain ⟨-, -, -, hnames⟩ := normalizeFields_fixed hf
  refine Settings.Input.check_eq_ok.mpr
    ⟨hnames, ⟨_, rfl, mapM_lowerItem_lowered hs⟩, rfl, ?_, ?_, rfl, rfl, rfl, rfl, rfl, rfl⟩
  · simp [Settings.toInput, Size.parse]
  · show BoundsAccepted c.binaryRatio c.binaryMinLength
    rw [h3, h4]
    exact hbounds

/-- **Normalising names and settings is a fixed point.** The names a value
normalises to are the normal forms of its texts, each once, in the order they
first occur, and they normalise to themselves. For settings that pass their
check, a scanner built from the settings' names holds those names, and the
settings rebuilt from their own values check to the same settings. -/
theorem normal_forms_are_fixed_points :
    (∀ (v : Value) (N : List String), normalizeFields v = .ok N →
      ∃ names : List String, v.items? = some (names.map .str) ∧
        FirstSeen (names.map normalForm) N ∧ normalizeFields (.tuple (N.map .str)) = .ok N) ∧
    (∀ (i : Settings.Input) (c : Settings), i.check = .ok c →
      Scanner.ofValue (.tuple (c.sensitiveFields.map .str)) = .ok c.scanner ∧
        c.toInput.check = .ok c) := by
  refine ⟨fun _ _ h => normalizeFields_fixed h, fun i c h => ⟨?_, Settings.Input.check_toInput h⟩⟩
  obtain ⟨-, -, -, hnames⟩ := normalizeFields_fixed (Settings.Input.check_eq_ok.mp h).1
  rw [Scanner.ofValue, hnames]
  rfl

/-- Names given in two spellings are kept once, and the default settings
rebuild to themselves. -/
theorem normal_forms_are_fixed_points_pin :
    normalizeFields (.list [.str " Pin ", .str "PIN", .str "token"]) = .ok ["pin", "token"] ∧
      normalizeFields (.tuple (["pin", "token"].map .str)) = .ok ["pin", "token"] ∧
      defaultSettings.toInput.check = .ok defaultSettings := by
  have hpin : normalizeFields (.list [.str " Pin ", .str "PIN", .str "token"]) = .ok ["pin", "token"] := by
    have h1 : normalForm " Pin " = "pin" := by decide +kernel
    have h2 : normalForm "PIN" = "pin" := by decide +kernel
    have h3 : normalForm "token" = "token" := by decide +kernel
    simp [normalizeFields, Value.items?, normalizeNames, normalizeName, h1, h2, h3, insertNew]
  obtain ⟨-, -, -, hfix⟩ := normal_forms_are_fixed_points.1 _ _ hpin
  exact ⟨hpin, hfix, (normal_forms_are_fixed_points.2 {} defaultSettings Settings.default_eq).2⟩

end MaskedLog

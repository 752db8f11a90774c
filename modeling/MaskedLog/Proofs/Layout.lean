import MaskedLog.Proofs.ValueScan
/-!
# Masked texts and the texts they come from

A redaction replaces string interiors by the mask, pass after pass, each pass
working on the text the previous one left. To compare the result with the
original, the text is kept as a `Layout`: the stretches that are still as they
were, and between them the interiors that have been hidden, each with the text
it had. The layout reads both ways, as the original (`orig`) and as the masked
text (`shown`), and its hidden interiors, placed in the original, are the spans
that turn the one into the other.

Every hidden interior sits between two quotes, and the character before its
opening quote, as the masked text shows it, is no backslash. That is what keeps
the next pass honest: a value scan that starts in kept text stops at the next
hidden interior's opening quote at the latest, so each span a pass records in
the masked text is either a hidden interior again or lies in kept text, and a
new layout takes it in.

## Main definitions

* `Quoted`, `Interiors` — spans that are interiors of quoted stretches of a text.
* `Layout`, `Layout.orig`, `Layout.shown`, `Layout.spans`, `Layout.WF`.
* `Layout.insert`, `Layout.insertAll` — hiding the spans of a pass.

## Main results

* `Layout.interiors_spans`, `Layout.mask_spans` — the hidden interiors are
  quoted interiors of the original, and masking them gives the masked text.
* `Layout.insertAll_spec` — masking the spans of a pass over the masked text is
  masking more interiors of the original.

## References

`bodylog/redact/scanner.py` (`apply_edits`).
-/

namespace MaskedLog.Redact

/-- The span `s` is the interior of a quoted stretch of `t`: a quote stands
right before its start and one at its stop. -/
structure Quoted (t : List Char) (s : Span) : Prop where
  pos : 0 < s.start
  le : s.start ≤ s.stop
  opens : t[s.start - 1]? = some '"'
  closes : t[s.stop]? = some '"'

/-- The spans are interiors of quoted stretches of `t`, in text order, each
ending before the next begins. -/
def Interiors (t : List Char) (spans : List Span) : Prop :=
  (∀ s ∈ spans, Quoted t s) ∧ spans.IsChain (fun a b => a.stop < b.start)

/-! ### Masking as list surgery -/

section Surgery

variable (m : List Char)

theorem maskFrom_toArray_nil (t : List Char) (prev : Nat) :
    maskFrom t.toArray m prev [] = t.drop prev := by
  simp

theorem maskFrom_toArray_cons (t : List Char) (prev : Nat) (s : Span) (rest : List Span) :
    maskFrom t.toArray m prev (s :: rest) =
      (t.drop prev).take (s.start - prev) ++ m ++ maskFrom t.toArray m s.stop rest := by
  simp

/-- Spans that end within `x` leave what follows `x` alone. -/
theorem maskFrom_append {x : List Char} (y : List Char) :
    ∀ (spans : List Span) (prev : Nat), prev ≤ x.length →
      (∀ s ∈ spans, s.start ≤ x.length ∧ s.stop ≤ x.length) →
      maskFrom (x ++ y).toArray m prev spans = maskFrom x.toArray m prev spans ++ y
  | [], prev, hp, _ => by
    rw [maskFrom_toArray_nil, maskFrom_toArray_nil, List.drop_append,
      Nat.sub_eq_zero_of_le hp, List.drop_zero]
  | s :: rest, prev, hp, hs => by
    obtain ⟨h1, h2⟩ := hs s List.mem_cons_self
    rw [maskFrom_toArray_cons, maskFrom_toArray_cons,
      maskFrom_append y rest s.stop h2 (fun s' h' => hs s' (List.mem_cons_of_mem _ h')),
      List.drop_append, Nat.sub_eq_zero_of_le hp, List.drop_zero,
      List.take_append_of_le_length (by simp only [List.length_drop]; omega)]
    simp only [List.append_assoc]

/-- Masking a last span after others cuts the text at that span. -/
theorem maskFrom_append_single (t : List Char) (s : Span) :
    ∀ (spans : List Span) (prev : Nat), (∀ x ∈ spans, x.start ≤ s.start) →
      maskFrom t.toArray m prev (spans ++ [s]) =
        maskFrom (t.take s.start).toArray m prev spans ++ m ++ t.drop s.stop
  | [], prev, _ => by
    rw [List.nil_append, maskFrom_toArray_cons, maskFrom_toArray_nil, maskFrom_toArray_nil,
      List.drop_take]
  | x :: rest, prev, hx => by
    have hxs := hx x List.mem_cons_self
    rw [List.cons_append, maskFrom_toArray_cons, maskFrom_toArray_cons,
      maskFrom_append_single t s rest x.stop (fun y hy => hx y (List.mem_cons_of_mem _ hy)),
      List.drop_take, List.take_take, Nat.min_eq_left (by omega)]
    simp only [List.append_assoc]

/-- One span masked: the text before it, the mask, the text after it. -/
theorem mask_single (t : List Char) (s : Span) :
    Span.mask t [s] m = t.take s.start ++ m ++ t.drop s.stop := by
  have := maskFrom_append_single m t s [] 0 (by simp)
  rwa [List.nil_append, maskFrom_toArray_nil, List.drop_zero] at this

/-- Spans masked from the right: the last one first, then the rest in the text
that leaves unchanged before it. -/
theorem mask_append_single {t : List Char} {s : Span} {spans : List Span}
    (hs : s.start ≤ t.length) (hlt : ∀ x ∈ spans, x.start ≤ s.start ∧ x.stop ≤ s.start) :
    Span.mask t (spans ++ [s]) m = Span.mask (Span.mask t [s] m) spans m := by
  rw [mask_single]
  unfold Span.mask
  rw [maskFrom_append_single m t s spans 0 (fun x hx => (hlt x hx).1),
    List.append_assoc (List.take s.start t) m,
    maskFrom_append m (m ++ t.drop s.stop) spans 0 (Nat.zero_le _)
      (fun x hx => by simp only [List.length_take]; have := hlt x hx; omega)]
  simp only [List.append_assoc]

end Surgery

/-! ### Reading a scanned span in parts of a text -/

theorem getLast?_take_of_le {α : Type} {l : List α} {n : Nat} (h0 : 0 < n)
    (hn : n ≤ l.length) : (l.take n).getLast? = l[n - 1]? := by
  rw [List.getLast?_eq_getElem?, List.getElem?_take, List.length_take, Nat.min_eq_left hn,
    if_pos (by omega)]

theorem getLast?_dropLast_take {α : Type} {l : List α} {n : Nat} (h1 : 1 < n)
    (hn : n ≤ l.length) : (l.take n).dropLast.getLast? = l[n - 2]? := by
  rw [List.getLast?_eq_getElem?, List.getElem?_dropLast, List.length_dropLast, List.length_take,
    Nat.min_eq_left hn, if_pos (by omega), List.getElem?_take, if_pos (by omega),
    Nat.sub_sub]

/-- Cutting a kept stretch around a span: before, the span, after. -/
theorem take_append_take_drop (g : List Char) (s : Span) (hle : s.start ≤ s.stop) :
    g.take s.start ++ (g.drop s.start).take (s.stop - s.start) ++ g.drop s.stop = g := by
  rw [List.append_assoc, show g.drop s.stop = (g.drop s.start).drop (s.stop - s.start) by
    rw [List.drop_drop, Nat.add_sub_cancel' hle], List.take_append_drop, List.take_append_drop]

/-- A scanned span read in a text that extends a part `x` holding the span. -/
theorem Scanned.left {x y : List Char} {s : Span} (h : Scanned (x ++ y).toArray s)
    (hlt : s.stop < x.length) :
    (∃ c, x[s.start - 2]? = some c ∧ LeadsValue c) ∧ x[s.start - 1]? = some '"' ∧
      x[s.stop]? = some '"' := by
  have hle := h.start_le_stop
  obtain ⟨c, hc, hl⟩ := h.lead
  have hq := h.opens
  have hz := h.closes_quote
  simp only [List.getElem?_toArray] at hc hq hz
  rw [List.getElem?_append_left (by omega)] at hc hq hz
  exact ⟨⟨c, hc, hl⟩, hq, hz⟩

/-- A scanned span read in a text that holds it past a prefix `x`. -/
theorem Scanned.right {x y : List Char} {s : Span} (h : Scanned (x ++ y).toArray s)
    (hlt : x.length + 2 ≤ s.start) :
    Scanned y.toArray ⟨s.start - x.length, s.stop - x.length⟩ := by
  have hle := h.start_le_stop
  obtain ⟨c, hc, hl⟩ := h.lead
  have hq := h.opens
  simp only [List.getElem?_toArray] at hc hq
  rw [List.getElem?_append_right (by omega)] at hc hq
  refine ⟨by simp only; omega, ⟨c, ?_, hl⟩, ?_, ?_⟩
  · simp only [List.getElem?_toArray]
    rwa [show s.start - x.length - 2 = s.start - 2 - x.length by omega]
  · simp only [List.getElem?_toArray]
    rwa [show s.start - x.length - 1 = s.start - 1 - x.length by omega]
  · have hsh := closingQuote_shift (t := y.toArray) (u := (x ++ y).toArray) (d := x.length)
      (fun k => by simp [List.getElem?_append_right]) (s.start - x.length)
    rw [Nat.sub_add_cancel (by omega), h.closes] at hsh
    obtain ⟨e, he, hse⟩ := Option.map_eq_some_iff.mp hsh.symm
    simp only
    rw [he, ← hse, Nat.add_sub_cancel]

/-- A scanned span stays scanned in a text that agrees up to its stop. -/
theorem Scanned.of_agree {u u' : List Char} {s : Span} (h : Scanned u.toArray s)
    (hagree : ∀ k, k ≤ s.stop → u'[k]? = u[k]?) : Scanned u'.toArray s := by
  have hle := h.start_le_stop
  obtain ⟨c, hc, hl⟩ := h.lead
  refine ⟨h.two_le, ⟨c, ?_, hl⟩, ?_, closingQuote_of_agree ?_ h.closes⟩
  · simp only [List.getElem?_toArray] at hc ⊢
    rw [hagree _ (by omega), hc]
  · have hq := h.opens
    simp only [List.getElem?_toArray] at hq ⊢
    rw [hagree _ (by omega), hq]
  · intro k hk
    simp only [List.getElem?_toArray]
    exact hagree k hk

/-! ### Layouts -/

/-- A text cut into kept stretches and hidden string interiors: `gap g` keeps
`g` to the end, `hide g v rest` keeps `g`, hides the interior `v`, and goes on
with `rest`. -/
inductive Layout
  | gap (g : List Char)
  | hide (g v : List Char) (rest : Layout)

namespace Layout

/-- The text before masking. -/
def orig : Layout → List Char
  | gap g => g
  | hide g v rest => g ++ v ++ rest.orig

/-- The masked text: each hidden interior reads `***`. -/
def shown : Layout → List Char
  | gap g => g
  | hide g _ rest => g ++ maskText ++ rest.shown

/-- The hidden interiors as spans of the original, counted from `off`. -/
def spansFrom (off : Nat) : Layout → List Span
  | gap _ => []
  | hide g v rest =>
    ⟨off + g.length, off + g.length + v.length⟩ :: rest.spansFrom (off + g.length + v.length)

/-- The hidden interiors as spans of the original. -/
def spans (ℓ : Layout) : List Span := ℓ.spansFrom 0

/-- Every hidden interior sits between two quotes, and the character the masked
text shows before its opening quote is no backslash. -/
def WF : Layout → Prop
  | gap _ => True
  | hide g _ rest =>
    g.getLast? = some '"' ∧ g.dropLast.getLast? ≠ some '\\' ∧
      rest.shown.head? = some '"' ∧ rest.WF

@[simp] theorem orig_gap (g : List Char) : (gap g).orig = g := rfl

@[simp] theorem orig_hide (g v : List Char) (rest : Layout) :
    (hide g v rest).orig = g ++ v ++ rest.orig := rfl

@[simp] theorem shown_gap (g : List Char) : (gap g).shown = g := rfl

@[simp] theorem shown_hide (g v : List Char) (rest : Layout) :
    (hide g v rest).shown = g ++ maskText ++ rest.shown := rfl

@[simp] theorem WF_gap (g : List Char) : (gap g).WF := trivial

theorem wf_hide {g v : List Char} {rest : Layout} :
    (hide g v rest).WF ↔ g.getLast? = some '"' ∧ g.dropLast.getLast? ≠ some '\\' ∧
      rest.shown.head? = some '"' ∧ rest.WF := Iff.rfl

/-- A well-formed layout starts its original and its masked text alike. -/
theorem head?_orig {ℓ : Layout} (h : ℓ.WF) : ℓ.orig.head? = ℓ.shown.head? := by
  cases ℓ with
  | gap g => rfl
  | hide g v rest =>
    have hg : g ≠ [] := fun hg => by simp [hg, wf_hide] at h
    obtain ⟨c, cs, rfl⟩ := List.exists_cons_of_ne_nil hg
    rfl

/-- Masking the hidden interiors of the original gives the masked text. -/
theorem mask_spansFrom :
    ∀ (ℓ : Layout) (pre : List Char),
      maskFrom (pre ++ ℓ.orig).toArray maskText pre.length (ℓ.spansFrom pre.length) = ℓ.shown
  | gap g, pre => by
    simp [spansFrom]
  | hide g v rest, pre => by
    have ih := mask_spansFrom rest (pre ++ g ++ v)
    simp only [List.length_append, List.append_assoc, ← Nat.add_assoc] at ih
    simp only [spansFrom, orig_hide, shown_hide, maskFrom_toArray_cons, List.append_assoc,
      List.drop_left, Nat.add_sub_cancel_left, List.take_left, ih]

theorem mask_spans (ℓ : Layout) : Span.mask ℓ.orig ℓ.spans = ℓ.shown :=
  mask_spansFrom ℓ []

/-- The hidden interiors are quoted interiors of the original, in order, and
all start after the offset they are counted from. -/
theorem interiors_spansFrom :
    ∀ (ℓ : Layout), ℓ.WF → ∀ (pre : List Char),
      (∀ s ∈ ℓ.spansFrom pre.length, Quoted (pre ++ ℓ.orig) s ∧ pre.length < s.start) ∧
        (ℓ.spansFrom pre.length).IsChain (fun a b => a.stop < b.start)
  | gap g, _, pre => by simp [spansFrom]
  | hide g v rest, hw, pre => by
    obtain ⟨hq, -, hr, hw'⟩ := wf_hide.mp hw
    have hg : g ≠ [] := fun hg => by simp [hg] at hq
    have hglen : 0 < g.length := List.length_pos_iff.mpr hg
    obtain ⟨ih, ihc⟩ := interiors_spansFrom rest hw' (pre ++ g ++ v)
    simp only [List.length_append, List.append_assoc, ← Nat.add_assoc] at ih ihc
    simp only [spansFrom, orig_hide, List.append_assoc]
    have hopen : (pre ++ (g ++ (v ++ rest.orig)))[pre.length + g.length - 1]? = some '"' := by
      rw [List.getElem?_append_right (by omega), List.getElem?_append_left (by omega),
        show pre.length + g.length - 1 - pre.length = g.length - 1 by omega,
        ← List.getLast?_eq_getElem?, hq]
    have hclose : (pre ++ (g ++ (v ++ rest.orig)))[pre.length + g.length + v.length]? =
        some '"' := by
      rw [List.getElem?_append_right (by omega), List.getElem?_append_right (by omega),
        List.getElem?_append_right (by omega),
        show pre.length + g.length + v.length - pre.length - g.length - v.length = 0 by omega,
        ← List.head?_eq_getElem?, head?_orig hw', hr]
    refine ⟨fun s hs => ?_, ?_⟩
    · rcases List.mem_cons.mp hs with rfl | hs
      · exact ⟨⟨by simp only; omega, by simp only; omega, hopen, hclose⟩, by simp only; omega⟩
      · obtain ⟨hqs, hlt⟩ := ih s hs
        exact ⟨by simpa [List.append_assoc] using hqs, by omega⟩
    · refine List.isChain_cons.mpr ⟨fun b hb => ?_, ihc⟩
      have := (ih b (List.mem_of_mem_head? hb)).2
      simp only
      omega

theorem interiors_spans {ℓ : Layout} (h : ℓ.WF) : Interiors ℓ.orig ℓ.spans := by
  obtain ⟨hq, hc⟩ := interiors_spansFrom ℓ h []
  exact ⟨fun s hs => (hq s hs).1, hc⟩

end Layout

/-! ### Hiding one more interior -/

theorem length_maskText : maskText.length = 3 := rfl

/-- A scan that starts on a mask runs over its three stars to the quote after it. -/
theorem closingQuote_maskText {r : List Char} (hr : r.head? = some '"') :
    closingQuote (maskText ++ r).toArray 0 = some 3 := by
  have hstar : ∀ k, k < 3 → (maskText ++ r).toArray[k]? = some '*' := by
    intro k hk
    simp only [List.getElem?_toArray]
    rw [List.getElem?_append_left (by rw [length_maskText]; omega)]
    match k, hk with
    | 0, _ | 1, _ | 2, _ => rfl
  rw [closingQuote_of_plain (hstar 0 (by omega)) (by decide) (fun h => absurd h (by decide)),
    closingQuote_of_plain (hstar 1 (by omega)) (by decide) (fun h => absurd h (by decide)),
    closingQuote_of_plain (hstar 2 (by omega)) (by decide) (fun h => absurd h (by decide)),
    closingQuote_of_quote]
  simp only [List.getElem?_toArray]
  rw [List.getElem?_append_right (by rw [length_maskText]), length_maskText, Nat.sub_self,
    ← List.head?_eq_getElem?, hr]

/-- Hiding a scanned span that lies in a kept stretch `g`: the part of `g` before
it ends in a quote that follows no backslash. -/
theorem wf_cut {g : List Char} {s : Span} (h2 : 2 ≤ s.start) (hle : s.start ≤ s.stop)
    (hlt : s.stop < g.length) (hlead : ∃ c, g[s.start - 2]? = some c ∧ LeadsValue c)
    (hopen : g[s.start - 1]? = some '"') :
    (g.take s.start).getLast? = some '"' ∧ (g.take s.start).dropLast.getLast? ≠ some '\\' := by
  refine ⟨by rw [getLast?_take_of_le (by omega) (by omega), hopen], ?_⟩
  obtain ⟨c, hc, hl⟩ := hlead
  rw [getLast?_dropLast_take (by omega) (by omega), hc]
  exact fun h => hl.ne_backslash (Option.some.inj h)

theorem Scanned.stop_lt_length {t : List Char} {s : Span} (h : Scanned t.toArray s) :
    s.stop < t.length := by
  have hq := h.closes_quote
  rw [List.getElem?_toArray] at hq
  exact (List.getElem?_eq_some_iff.mp hq).1

/-- A span that opens in a kept stretch `g` ending in a quote that follows no
backslash closes within `g`: the scan stops at that quote at the latest. -/
theorem Scanned.stop_lt_of_opens_before {g r : List Char} {s : Span}
    (hq : g.getLast? = some '"') (hb : g.dropLast.getLast? ≠ some '\\')
    (hs : Scanned (g ++ r).toArray s) (ha : s.start < g.length) : s.stop < g.length := by
  have hj : (g ++ r).toArray[g.length - 1]? = some '"' := by
    simp only [List.getElem?_toArray]
    rw [List.getElem?_append_left (by omega), ← List.getLast?_eq_getElem?, hq]
  have hjb : 0 < g.length - 1 → (g ++ r).toArray[g.length - 1 - 1]? ≠ some '\\' := by
    intro hpos
    simp only [List.getElem?_toArray]
    rw [List.getElem?_append_left (by omega), Nat.sub_sub,
      ← getLast?_dropLast_take (l := g) (by omega) le_rfl, List.take_length]
    exact hb
  obtain ⟨e, he, hce⟩ := closingQuote_le_of_quote hj hjb (i := s.start) (by omega)
  rw [hs.closes] at hce
  cases hce
  omega

/-- Cutting a kept stretch that ends in a quote after no backslash leaves a tail
that ends the same way. -/
theorem wf_drop_cut {g : List Char} {k : Nat} (hk0 : 0 < k) (hk : k < g.length)
    (hq : g.getLast? = some '"') (hb : g.dropLast.getLast? ≠ some '\\') :
    (g.drop k).getLast? = some '"' ∧ (g.drop k).dropLast.getLast? ≠ some '\\' := by
  refine ⟨by rw [List.getLast?_drop, if_neg (by omega), hq], ?_⟩
  have hb₂ := hb
  rw [List.getLast?_dropLast, if_neg (by omega)] at hb₂
  rw [List.getLast?_dropLast, List.length_drop]
  split
  · simp
  · rwa [List.getElem?_drop, show k + (g.length - k - 2) = g.length - 2 by omega]

/-- The three characters after a kept stretch `g` in a masked text are stars. -/
theorem getElem?_append_maskText {g r : List Char} {k : Nat} (hk1 : g.length ≤ k)
    (hk2 : k < g.length + 3) : (g ++ (maskText ++ r)).toArray[k]? = some '*' := by
  simp only [List.getElem?_toArray]
  rw [List.getElem?_append_right hk1, List.getElem?_append_left (by rw [length_maskText]; omega)]
  have hk : k - g.length = 0 ∨ k - g.length = 1 ∨ k - g.length = 2 := by omega
  rcases hk with hk | hk | hk <;> rw [hk] <;> rfl

/-- No scanned value opens on the stars of a mask or right after them, so a span
that starts past a kept stretch `g` starts past the mask that follows it. -/
theorem Scanned.past_mask {g r : List Char} {s : Span}
    (hs : Scanned (g ++ (maskText ++ r)).toArray s) (h : g.length < s.start) :
    g.length + 4 < s.start := by
  by_contra hc
  by_cases hc' : s.start ≤ g.length + 3
  · -- the opening quote would be a star
    have hopen := hs.opens
    rw [getElem?_append_maskText (by omega) (by omega)] at hopen
    cases hopen
  · -- the value would follow a star
    obtain ⟨c, hcl, hl⟩ := hs.lead
    rw [getElem?_append_maskText (by omega) (by omega)] at hcl
    exact hl.ne_star (Option.some.inj hcl).symm

/-- A span that opens right after a kept stretch, on a mask, is that mask. -/
theorem Scanned.stop_of_mask {g r : List Char} {s : Span} (hr : r.head? = some '"')
    (hs : Scanned (g ++ (maskText ++ r)).toArray s) (hb : s.start = g.length) :
    s.stop = (g ++ maskText).length := by
  have hc := closingQuote_shift (t := (maskText ++ r).toArray)
    (u := (g ++ (maskText ++ r)).toArray) (d := g.length)
    (fun k => by simp [List.getElem?_append_right]) 0
  rw [Nat.zero_add, ← hb, hs.closes, closingQuote_maskText hr] at hc
  simp only [Option.map_some, Option.some.injEq] at hc
  simp only [List.length_append, length_maskText]
  omega

namespace Layout

/-- Hide a span of the masked text: a span in a kept stretch is cut out of it,
the span of a hidden interior leaves the layout as it is, and a span past a
hidden interior is hidden in the rest. -/
def insert : Layout → Span → Layout
  | gap g, s => hide (g.take s.start) ((g.drop s.start).take (s.stop - s.start)) (gap (g.drop s.stop))
  | hide g v rest, s =>
    if s.start < g.length then
      hide (g.take s.start) ((g.drop s.start).take (s.stop - s.start)) (hide (g.drop s.stop) v rest)
    else if s.start = g.length then hide g v rest
    else hide g v (rest.insert ⟨s.start - (g.length + 3), s.stop - (g.length + 3)⟩)

/-- A span recorded by a pass over the masked text is either a hidden interior
again, or lies in kept text; in both cases masking it is hiding an interior of
the original. -/
theorem insert_spec : ∀ (ℓ : Layout), ℓ.WF → ∀ (s : Span), Scanned ℓ.shown.toArray s →
    (ℓ.insert s).WF ∧ (ℓ.insert s).orig = ℓ.orig ∧ (ℓ.insert s).shown = Span.mask ℓ.shown [s]
  | gap g, _, s, hs => by
    have hle := hs.start_le_stop
    have hlt : s.stop < g.length := by simpa using hs.stop_lt_length
    obtain ⟨hlead, hopen, hclose⟩ := Scanned.left (x := g) (y := []) (by simpa using hs) hlt
    obtain ⟨h1, h2⟩ := wf_cut hs.two_le hle hlt hlead hopen
    refine ⟨⟨h1, h2, by simpa using hclose, trivial⟩, ?_, ?_⟩
    · simp only [insert, orig_hide, orig_gap]
      exact take_append_take_drop g s hle
    · simp [insert, mask_single]
  | hide g v rest, hw, s, hs => by
    obtain ⟨hq, hb, hr, hw'⟩ := wf_hide.mp hw
    have hle := hs.start_le_stop
    have hs' : Scanned (g ++ (maskText ++ rest.shown)).toArray s := by simpa using hs
    by_cases ha : s.start < g.length
    · -- the span opens in `g`, so it is cut out of `g`
      have hlt := hs'.stop_lt_of_opens_before hq hb ha
      obtain ⟨hlead, hopen, hclose⟩ := hs'.left hlt
      obtain ⟨h1, h2⟩ := wf_cut hs.two_le hle hlt hlead hopen
      obtain ⟨h3, h4⟩ := wf_drop_cut (by have := hs.two_le; omega) hlt hq hb
      rw [insert, if_pos ha]
      refine ⟨⟨h1, h2, ?_, wf_hide.mpr ⟨h3, h4, hr, hw'⟩⟩, ?_, ?_⟩
      · simp only [shown_hide, List.append_assoc, List.head?_append, List.head?_drop, hclose]
        rfl
      · simp only [orig_hide, ← List.append_assoc, take_append_take_drop g s hle]
      · rw [mask_single]
        simp only [shown_hide, List.append_assoc]
        rw [List.take_append_of_le_length (by omega), List.drop_append_of_le_length (by omega)]
    by_cases hb' : s.start = g.length
    · -- the span is the hidden interior itself: masking it again changes nothing
      have hstop := hs'.stop_of_mask hr hb'
      rw [insert, if_neg ha, if_pos hb']
      refine ⟨hw, rfl, ?_⟩
      rw [mask_single, shown_hide, hstop, List.drop_left, hb', List.append_assoc g maskText,
        List.take_left, List.append_assoc]
    · -- the span lies past the hidden interior: hide it in the rest
      have hc := hs'.past_mask (by omega)
      have hs₂ : Scanned ((g ++ maskText) ++ rest.shown).toArray s := by simpa using hs
      have hr' := hs₂.right (by simp [length_maskText]; omega)
      simp only [List.length_append, length_maskText] at hr'
      obtain ⟨hw₁, ho₁, hs₁⟩ := insert_spec rest hw' _ hr'
      rw [insert, if_neg ha, if_neg hb']
      refine ⟨⟨hq, hb, ?_, hw₁⟩, by simp [ho₁], ?_⟩
      · rw [hs₁, mask_single, List.append_assoc, List.head?_append, List.head?_take,
          if_neg (by simp only; omega), hr]
        rfl
      · have hx : (g ++ maskText).length ≤ s.start := by
          simp only [List.length_append, length_maskText]
          omega
        rw [shown_hide, hs₁, mask_single, mask_single, shown_hide, List.take_append,
          List.drop_append, List.take_of_length_le hx, List.drop_eq_nil_of_le (hx.trans hle)]
        simp [length_maskText]

end Layout

/-! ### Masking a whole pass -/

theorem Scanned.quoted {u : List Char} {s : Span} (h : Scanned u.toArray s) : Quoted u s := by
  have := h.two_le
  exact ⟨by omega, h.start_le_stop, by simpa using h.opens, by simpa using h.closes_quote⟩

/-- Spans in a chain, each ending no earlier than it starts, are ordered pairwise. -/
theorem pairwise_of_isChain : ∀ {spans : List Span}, (∀ s ∈ spans, s.start ≤ s.stop) →
    spans.IsChain (fun a b => a.stop < b.start) → spans.Pairwise (fun a b => a.stop < b.start)
  | [], _, _ => List.Pairwise.nil
  | [a], _, _ => List.pairwise_singleton _ a
  | a :: b :: l, hle, hc => by
    have hc' := List.isChain_cons_cons.mp hc
    have ih := pairwise_of_isChain (fun s hs => hle s (List.mem_cons_of_mem a hs)) hc'.2
    refine List.pairwise_cons.mpr ⟨fun x hx => ?_, ih⟩
    rcases List.mem_cons.mp hx with rfl | hx
    · exact hc'.1
    · have hbx := (List.pairwise_cons.mp ih).1 x hx
      have hb := hle b (by simp)
      omega

/-- The spans of a pass, in the text they were found in, are interiors of quoted
stretches, in order and apart. -/
theorem pass_interiors (u sh name : List Char) : Interiors u (pass u sh name) :=
  ⟨fun s hs => (pass_scanned u sh name s hs).quoted, pass_isChain u sh name⟩

/-- The spans of a pass are separated: each ends before any later one starts. -/
theorem pass_separated (u sh name : List Char) :
    (pass u sh name).Pairwise (fun a b => a.stop < b.start) :=
  pairwise_of_isChain (fun s hs => (pass_scanned u sh name s hs).start_le_stop)
    (pass_isChain u sh name)

/-- **The spans of one pass are well formed**, whatever the field: each is the
interior of a quoted stretch of the text, ending at the quote where the backslash
rule closes the string opened right before it; the spans are separated, hence
sorted, disjoint and without repeats. Every pass of a redaction, over whatever text
and shadow it reads, gives such a list, so masking its spans all at once is
well defined. -/
theorem findSpans_well_formed (t field : String) :
    (∀ s ∈ findSpans t field, Quoted t.toList s ∧ s.stop < t.toList.length ∧
        closingQuote t.toList.toArray s.start = some s.stop) ∧
      (findSpans t field).Pairwise (fun a b => a.stop < b.start) ∧ (findSpans t field).Nodup ∧
      ∀ u sh name : List Char,
        Interiors u (pass u sh name) ∧ (pass u sh name).Pairwise (fun a b => a.stop < b.start) := by
  -- a pass for the lowercase field over the text and its shadow
  have hpass : findSpans t field = pass t.toList (shadow t.toList) (Unicode.lower field.toList) := rfl
  have hsep := pass_separated t.toList (shadow t.toList) (Unicode.lower field.toList)
  rw [hpass]
  refine ⟨fun s hs => ?_, hsep, ?_, fun u sh name => ⟨pass_interiors u sh name, pass_separated u sh name⟩⟩
  · have hsc := pass_scanned _ _ _ s hs
    exact ⟨hsc.quoted, hsc.stop_lt_length, hsc.closes⟩
  · -- a span that ends before another starts is not that span
    refine hsep.imp_of_mem fun {a b} ha _ hab heq => ?_
    subst heq
    have := (pass_scanned _ _ _ a ha).start_le_stop
    omega

/-- Masking one span leaves the text before it as it was. -/
theorem getElem?_mask_single_of_lt {t : List Char} {s : Span} {k : Nat} (hk : k < s.start)
    (hs : s.start ≤ t.length) : (Span.mask t [s])[k]? = t[k]? := by
  rw [mask_single, List.append_assoc, List.getElem?_append_left (by simp; omega),
    List.getElem?_take, if_pos hk]

namespace Layout

/-- Hide the spans of one pass over the masked text, the last one first. -/
def insertAll (ℓ : Layout) (spans : List Span) : Layout :=
  spans.foldr (fun s ℓ => ℓ.insert s) ℓ

theorem insertAll_append_single (ℓ : Layout) (init : List Span) (s : Span) :
    ℓ.insertAll (init ++ [s]) = (ℓ.insert s).insertAll init := by
  simp only [insertAll, List.foldr_append, List.foldr_cons, List.foldr_nil]

/-- The spans of one pass over the masked text, masked together, hide interiors
of the original: masking them is hiding one after the other from the right. -/
theorem insertAll_spec (spans : List Span) : ∀ ℓ : Layout, ℓ.WF →
    (∀ s ∈ spans, Scanned ℓ.shown.toArray s) → spans.Pairwise (fun a b => a.stop < b.start) →
    (ℓ.insertAll spans).WF ∧ (ℓ.insertAll spans).orig = ℓ.orig ∧
      (ℓ.insertAll spans).shown = Span.mask ℓ.shown spans := by
  induction spans using List.reverseRecOn with
  | nil => exact fun ℓ hw _ _ => ⟨hw, rfl, (Span.mask_nil _ _).symm⟩
  | append_singleton init s ih =>
    intro ℓ hw hs hp
    have hsc := hs s (by simp)
    have hlen := hsc.stop_lt_length
    have hle := hsc.start_le_stop
    have hbefore : ∀ x ∈ init, x.stop < s.start :=
      fun x hx => (List.pairwise_append.mp hp).2.2 x hx s (by simp)
    obtain ⟨hw₁, ho₁, hs₁⟩ := insert_spec ℓ hw s hsc
    -- the spans before the last are read the same in the text with the last one hidden
    have hinit : ∀ x ∈ init, Scanned (ℓ.insert s).shown.toArray x := by
      intro x hx
      refine (hs x (by simp [hx])).of_agree fun k hk => ?_
      rw [hs₁, getElem?_mask_single_of_lt (by have := hbefore x hx; omega) (by omega)]
    obtain ⟨hw₂, ho₂, hs₂⟩ := ih (ℓ.insert s) hw₁ hinit (List.pairwise_append.mp hp).1
    rw [insertAll_append_single]
    refine ⟨hw₂, ho₂.trans ho₁, ?_⟩
    rw [hs₂, hs₁, mask_append_single maskText (by omega)]
    intro x hx
    have := hbefore x hx
    have := (hs x (by simp [hx])).start_le_stop
    omega

end Layout

end MaskedLog.Redact

import MaskedLog.Proofs.CaseFold
import MaskedLog.Proofs.Frame
/-!
# Redaction does not see letter case

Two texts with one shadow differ only in letter case as the shadow sees it. A
pass finds keys in the shadow and reads values in the text through quotes,
backslashes, colons and blanks only, which the two texts hold at the same
places; so the pass finds the same spans in both. Without U+0130 the shadow is
the lowercase form, and masking quoted interiors commutes with it, so the
masked texts again share a shadow and the next pass finds the same spans too.
Kept as layouts, the two runs hide interiors of the same lengths at the same
places, and the redactions mask one list of spans.

With U+0130 this breaks: the shadow is then built character by character, a
capital sigma in it is always medial, and a pass that masks the U+0130 away
switches the next shadow to the lowercase form, where the same sigma may be
final.

## Main definitions

* `SameFrame` — two texts of one length with the fixed characters at the same
  places.
* `Layout.Twin` — two layouts of one shape.

## Main results

* `SameFrame.passFrom_eq`, `pass_eq_of_shadow_eq` — a pass finds the same
  spans in texts with one shadow.
* `Layout.CaseTwins.runLayout` — runs over texts with one shadow and no U+0130
  stay twins.
* `redact_same_spans_of_shadow_eq` — **redaction is blind to case**: texts
  without U+0130 and with one shadow are redacted by masking one span list.
* `redact_spans_split_by_dotted_i` — with U+0130 no such list may exist.

## References

`bodylog/redact/scanner.py` (`shadow_copy`, `RedactionScanner.redact`).
-/

namespace MaskedLog.Redact

open MaskedLog.Unicode MaskedLog.Text

/-! ### Texts that look alike to a value scan -/

/-- Two texts of one length that hold the fixed characters at the same places. -/
structure SameFrame (t t' : Array Char) : Prop where
  size_eq : t.size = t'.size
  fixed : ∀ (k : Nat), ∀ c ∈ fixedChars, t[k]? = some c ↔ t'[k]? = some c

theorem SameFrame.symm {t t' : Array Char} (h : SameFrame t t') : SameFrame t' t :=
  ⟨h.size_eq.symm, fun k c hc => (h.fixed k c hc).symm⟩

/-- Texts with one shadow look alike to a value scan. -/
theorem sameFrame_of_shadow_eq {u u' : List Char} (h : shadow u = shadow u') :
    SameFrame u.toArray u'.toArray := by
  refine ⟨?_, fun k c hc => ?_⟩
  · rw [List.size_toArray, List.size_toArray, ← length_shadow u, h, length_shadow]
  · simp only [List.getElem?_toArray]
    exact getElem?_eq_fixed_of_shadow_eq h hc

section Frame

variable {t t' : Array Char} (h : SameFrame t t')
include h

/-- A character of `t'` that stands where `t` holds another is not fixed. -/
theorem SameFrame.ne_fixed {k : Nat} {c c' : Char} (hk : t[k]? = some c) (hk' : t'[k]? = some c')
    {e : Char} (he : e ∈ fixedChars) (hne : c ≠ e) : c' ≠ e := by
  rintro rfl
  exact hne (Option.some.inj (hk.symm.trans ((h.fixed k c' he).mpr hk')))

theorem SameFrame.closingQuote_eq (i : Nat) : closingQuote t i = closingQuote t' i := by
  induction i using closingQuote.induct t with
  | case1 i hi hq =>
    have hget : t[i]? = some '"' := by simp [hi, hq]
    rw [closingQuote_of_quote hget, closingQuote_of_quote ((h.fixed i '"' (by decide)).mp hget)]
  | case2 i hi hq hb ih =>
    simp only [Bool.and_eq_true, decide_eq_true_eq] at hb
    have hget : t[i]? = some '\\' := by simp [hi, hb.1]
    rw [closingQuote_of_escape hget hb.2, ih, closingQuote_of_escape
      ((h.fixed i '\\' (by decide)).mp hget) (h.size_eq ▸ hb.2)]
  | case3 i hi hq hb ih =>
    -- neither text closes here, and a backslash in `t'` is one in `t` as well
    simp only [Bool.and_eq_true, decide_eq_true_eq] at hb
    have hget : t[i]? = some t[i] := Array.getElem?_eq_getElem hi
    have hi' : i < t'.size := h.size_eq ▸ hi
    have hget' : t'[i]? = some t'[i] := Array.getElem?_eq_getElem hi'
    have hb' : t'[i] = '\\' → t'.size ≤ i + 1 := by
      intro he
      have := Option.some.inj (hget.symm.trans ((h.fixed i '\\' (by decide)).mpr (he ▸ hget')))
      rw [← h.size_eq]
      exact Nat.le_of_not_lt fun hn => hb ⟨this, hn⟩
    rw [closingQuote_of_plain hget hq (fun he => Nat.le_of_not_lt fun hn => hb ⟨he, hn⟩), ih,
      closingQuote_of_plain hget' (h.ne_fixed hget hget' (by decide) hq) hb']
  | case4 i hi =>
    rw [closingQuote_of_size_le (by omega), closingQuote_of_size_le (by rw [← h.size_eq]; omega)]

theorem SameFrame.skipBlanks_eq (i : Nat) : skipBlanks t i = skipBlanks t' i := by
  induction i using skipBlanks.induct t with
  | case1 i hi hb ih =>
    have hget : t[i]? = some t[i] := Array.getElem?_eq_getElem hi
    have hblank : t[i] = ' ' ∨ t[i] = '\t' := by simpa using hb
    have hfixed : t[i] ∈ fixedChars := by
      rcases hblank with he | he <;> rw [he] <;> decide
    rw [skipBlanks_of_blank hget hblank, ih,
      skipBlanks_of_blank ((h.fixed i _ hfixed).mp hget) hblank]
  | case2 i hi hb =>
    have hget : t[i]? = some t[i] := Array.getElem?_eq_getElem hi
    have hi' : i < t'.size := h.size_eq ▸ hi
    have hget' : t'[i]? = some t'[i] := Array.getElem?_eq_getElem hi'
    have hblank : ¬ (t[i] = ' ' ∨ t[i] = '\t') := by simpa using hb
    have hblank' : ¬ (t'[i] = ' ' ∨ t'[i] = '\t') := by
      rintro (he | he)
      · exact h.ne_fixed hget hget' (by decide) (fun e => hblank (.inl e)) he
      · exact h.ne_fixed hget hget' (by decide) (fun e => hblank (.inr e)) he
    rw [skipBlanks_of_not_blank hget hblank, skipBlanks_of_not_blank hget' hblank']
  | case3 i hi =>
    rw [skipBlanks_of_size_le (by omega), skipBlanks_of_size_le (by rw [← h.size_eq]; omega)]

theorem SameFrame.indexIn_colon_eq (i : Nat) : indexIn [':'] t i = indexIn [':'] t' i :=
  indexIn_congr h.size_eq (fun p => Bool.eq_iff_iff.mpr (by
    rw [occursAt_singleton, occursAt_singleton]
    exact h.fixed p ':' (by decide))) i

theorem SameFrame.valueAfter_eq (i : Nat) : valueAfter t i = valueAfter t' i := by
  unfold valueAfter
  rw [h.indexIn_colon_eq i]
  split
  · rfl
  · rename_i k _
    dsimp only
    rw [h.skipBlanks_eq, h.closingQuote_eq]
    by_cases hq : t'[skipBlanks t' (k + 1)]? = some '"'
    · rw [if_pos ((h.fixed _ '"' (by decide)).mpr hq), if_pos hq]
    · rw [if_neg (fun hq' => hq ((h.fixed _ '"' (by decide)).mp hq')), if_neg hq]

/-- A pass reads the text only through value scans, so texts that look alike to
them give the same spans for the same shadow. -/
theorem SameFrame.passFrom_eq (sh : Array Char) (name : List Char) :
    ∀ from_ found, passFrom t sh name from_ found = passFrom t' sh name from_ found := by
  intro from_ found
  induction from_, found using passFrom.induct t sh name with
  | case1 from_ found hnone =>
    rw [passFrom_of_none hnone, passFrom_of_none hnone]
  | case2 from_ found pos hpos stop hr ih =>
    rw [passFrom_of_resume hpos hr, passFrom_of_resume hpos hr, ih]
  | case3 from_ found pos hpos hr _ ih =>
    rw [passFrom_of_key hpos hr, passFrom_of_key hpos hr, ih, h.valueAfter_eq]

end Frame

/-- A pass finds the same spans in texts with one shadow. -/
theorem pass_eq_of_shadow_eq {u u' : List Char} (h : shadow u = shadow u') (name : List Char) :
    pass u (shadow u) name = pass u' (shadow u') name := by
  rw [pass, pass, (sameFrame_of_shadow_eq h).passFrom_eq, h]

/-! ### Layouts of one shape -/

namespace Layout

/-- Two layouts of one shape: kept stretches and hidden interiors of the same
lengths, in the same order. -/
def Twin : Layout → Layout → Prop
  | gap g, gap g' => g.length = g'.length
  | hide g v rest, hide g' v' rest' => g.length = g'.length ∧ v.length = v'.length ∧ Twin rest rest'
  | _, _ => False

/-- Twins hide interiors at the same places. -/
theorem Twin.spansFrom_eq : ∀ {ℓ ℓ' : Layout}, Twin ℓ ℓ' → ∀ off, ℓ.spansFrom off = ℓ'.spansFrom off
  | gap _, gap _, _, _ => rfl
  | hide _ _ _, hide _ _ _, ⟨hg, hv, hr⟩, off => by
    simp only [spansFrom, hg, hv, hr.spansFrom_eq]
  | gap _, hide _ _ _, h, _ => h.elim
  | hide _ _ _, gap _, h, _ => h.elim

theorem Twin.spans_eq {ℓ ℓ' : Layout} (h : Twin ℓ ℓ') : ℓ.spans = ℓ'.spans :=
  h.spansFrom_eq 0

/-- Hiding one span in twins leaves twins: which case of `insert` applies is
read off the lengths alone. -/
theorem Twin.insert : ∀ {ℓ ℓ' : Layout}, Twin ℓ ℓ' → ∀ s, Twin (ℓ.insert s) (ℓ'.insert s)
  | gap g, gap g', hg, s => by
    have hlen : g.length = g'.length := hg
    simp only [Layout.insert, Twin, List.length_take, List.length_drop, hlen, and_self]
  | hide g _ _, hide g' _ _, ⟨hg, hv, hr⟩, s => by
    rw [Layout.insert, Layout.insert, ← hg]
    split_ifs
    · simp only [Twin, List.length_take, List.length_drop, hg, hv, true_and]
      exact hr
    · exact ⟨hg, hv, hr⟩
    · exact ⟨hg, hv, hr.insert _⟩
  | gap _, hide _ _ _, h, _ => h.elim
  | hide _ _ _, gap _, h, _ => h.elim

theorem Twin.insertAll {ℓ ℓ' : Layout} (h : Twin ℓ ℓ') :
    ∀ spans, Twin (ℓ.insertAll spans) (ℓ'.insertAll spans)
  | [] => h
  | s :: rest => by
    simp only [Layout.insertAll, List.foldr_cons]
    exact (h.insertAll rest).insert s

/-- Two layouts of one shape whose masked texts share a shadow and hold no
U+0130. -/
structure CaseTwins (ℓ ℓ' : Layout) : Prop where
  wf : ℓ.WF
  wf' : ℓ'.WF
  twin : Twin ℓ ℓ'
  shadow_eq : shadow ℓ.shown = shadow ℓ'.shown
  undotted : 'İ' ∉ ℓ.shown

section Twins

variable {ℓ ℓ' : Layout} (h : CaseTwins ℓ ℓ')
include h

theorem CaseTwins.undotted' : 'İ' ∉ ℓ'.shown :=
  not_mem_dotted_of_shadow_eq h.shadow_eq h.undotted

/-- One pass keeps two case twins twins: it finds the same spans in both, and
masking them keeps the shadows equal. -/
theorem CaseTwins.passLayout (name : List Char) :
    CaseTwins (ℓ.passLayout name) (ℓ'.passLayout name) := by
  have hP := pass_eq_of_shadow_eq h.shadow_eq name
  have hsc := pass_scanned ℓ.shown (shadow ℓ.shown) name
  have hsc' := pass_scanned ℓ'.shown (shadow ℓ'.shown) name
  rw [← hP] at hsc'
  have hp := pairwise_of_isChain (fun s hs => (hsc s hs).start_le_stop)
    (pass_isChain ℓ.shown (shadow ℓ.shown) name)
  obtain ⟨hw₁, -, hs₁⟩ := insertAll_spec _ ℓ h.wf hsc hp
  obtain ⟨hw₁', -, hs₁'⟩ := insertAll_spec _ ℓ' h.wf' hsc' hp
  have hu := undotted_of_not_mem h.undotted
  have hu' := undotted_of_not_mem h.undotted'
  rw [Layout.passLayout, Layout.passLayout, ← hP]
  refine ⟨hw₁, hw₁', h.twin.insertAll _, ?_, ?_⟩
  · rw [hs₁, hs₁', shadow_mask hu (fun s hs => (hsc s hs).quoted) hp,
      shadow_mask hu' (fun s hs => (hsc' s hs).quoted) hp, h.shadow_eq]
  · rw [hs₁]
    exact fun hmem => undotted_mask hu _ _ hmem rfl

/-- A run of passes keeps two case twins twins. -/
theorem CaseTwins.runLayout (names : List (List Char)) :
    CaseTwins (ℓ.runLayout names) (ℓ'.runLayout names) := by
  induction names generalizing ℓ ℓ' with
  | nil => exact h
  | cons name names ih => exact ih (h.passLayout name)

end Twins

end Layout

/-! ### Redacting texts that differ in case -/

/-- Redacting names masks the hidden interiors of the run's layout. -/
theorem redactNames_eq_mask_runLayout (names : List (List Char)) (t : List Char) :
    redactNames names t = Span.mask t ((Layout.gap t).runLayout names).spans := by
  obtain ⟨-, ho, h⟩ := Layout.foldl_maskPass_layout names (.gap t) trivial
  calc redactNames names t = ((Layout.gap t).runLayout names).shown := by
        rw [redactNames]
        exact congrArg Prod.fst h
    _ = Span.mask t ((Layout.gap t).runLayout names).spans := by
        rw [← Layout.mask_spans, ho, Layout.orig_gap]

/-- Redaction is blind to case: two texts without U+0130 that have one shadow
are redacted by masking one list of spans in each. -/
theorem redact_same_spans_of_shadow_eq (sc : Scanner) (t t' : String)
    (hsh : shadow t.toList = shadow t'.toList) (hdot : 'İ' ∉ t.toList) :
    ∃ spans : List Span, sc.redact t = String.ofList (Span.mask t.toList spans) ∧
      sc.redact t' = String.ofList (Span.mask t'.toList spans) := by
  have hlen : t.toList.length = t'.toList.length := by
    rw [← length_shadow t.toList, hsh, length_shadow]
  have h₀ : Layout.CaseTwins (.gap t.toList) (.gap t'.toList) := ⟨trivial, trivial, hlen, hsh, hdot⟩
  have hrun := h₀.runLayout (sc.fields.map String.toList)
  refine ⟨((Layout.gap t.toList).runLayout (sc.fields.map String.toList)).spans, ?_, ?_⟩
  · rw [Scanner.redact, Scanner.redactChars, redactNames_eq_mask_runLayout]
  · rw [Scanner.redact, Scanner.redactChars, redactNames_eq_mask_runLayout, hrun.twin.spans_eq]

theorem redact_same_spans_password :
    shadow "\"Password\": \"x\"".toList = shadow "\"PASSWORD\": \"x\"".toList ∧
      'İ' ∉ "\"Password\": \"x\"".toList ∧
      ∃ spans : List Span,
        Scanner.default.redact "\"Password\": \"x\"" =
            String.ofList (Span.mask "\"Password\": \"x\"".toList spans) ∧
          Scanner.default.redact "\"PASSWORD\": \"x\"" =
            String.ofList (Span.mask "\"PASSWORD\": \"x\"".toList spans) :=
  have hsh : shadow "\"Password\": \"x\"".toList = shadow "\"PASSWORD\": \"x\"".toList := by
    decide
  have hdot : 'İ' ∉ "\"Password\": \"x\"".toList := by decide
  ⟨hsh, hdot, redact_same_spans_of_shadow_eq Scanner.default _ _ hsh hdot⟩

/-- Masking reads the text only through its length. -/
theorem length_maskFrom_congr {t t' m : List Char} (h : t.length = t'.length) :
    ∀ (prev : Nat) (spans : List Span),
      (maskFrom t.toArray m prev spans).length = (maskFrom t'.toArray m prev spans).length
  | prev, [] => by simp [h]
  | prev, s :: rest => by
    simp only [maskFrom_toArray_cons, List.length_append, List.length_take, List.length_drop, h,
      length_maskFrom_congr h s.stop rest]

/-- Two texts with one shadow, one of them holding U+0130, can be redacted by
masking different spans: the two texts below share a shadow, built character by
character with a medial sigma. Masking the U+0130
away lets the next shadow of the first text end its key in a final sigma, which
the field names, and only the first text's value is masked. The two
redactions differ in length, so no span list gives both. -/
theorem redact_spans_split_by_dotted_i :
    shadow "\x7b\"a\": \"İ\", \"ΑΣ\": \"x\"\x7d".toList =
        shadow "\x7b\"a\": \"İ\", \"ασ\": \"x\"\x7d".toList ∧
      (Scanner.mk ["a", "ας"]).redact "\x7b\"a\": \"İ\", \"ΑΣ\": \"x\"\x7d" =
        "\x7b\"a\": \"***\", \"ΑΣ\": \"***\"\x7d" ∧
      (Scanner.mk ["a", "ας"]).redact "\x7b\"a\": \"İ\", \"ασ\": \"x\"\x7d" =
        "\x7b\"a\": \"***\", \"ασ\": \"x\"\x7d" ∧
      ¬ ∃ spans : List Span,
        (Scanner.mk ["a", "ας"]).redact "\x7b\"a\": \"İ\", \"ΑΣ\": \"x\"\x7d" =
            String.ofList (Span.mask "\x7b\"a\": \"İ\", \"ΑΣ\": \"x\"\x7d".toList spans) ∧
          (Scanner.mk ["a", "ας"]).redact "\x7b\"a\": \"İ\", \"ασ\": \"x\"\x7d" =
            String.ofList (Span.mask "\x7b\"a\": \"İ\", \"ασ\": \"x\"\x7d".toList spans) := by
  have hr : (Scanner.mk ["a", "ας"]).redact "\x7b\"a\": \"İ\", \"ΑΣ\": \"x\"\x7d" =
      "\x7b\"a\": \"***\", \"ΑΣ\": \"***\"\x7d" := by
    rw [Scanner.redact_eq_fast]
    decide +kernel
  have hr' : (Scanner.mk ["a", "ας"]).redact "\x7b\"a\": \"İ\", \"ασ\": \"x\"\x7d" =
      "\x7b\"a\": \"***\", \"ασ\": \"x\"\x7d" := by
    rw [Scanner.redact_eq_fast]
    decide +kernel
  have hsh : shadow "\x7b\"a\": \"İ\", \"ΑΣ\": \"x\"\x7d".toList =
      shadow "\x7b\"a\": \"İ\", \"ασ\": \"x\"\x7d".toList := by
    rw [shadow_eq_shadowFast]
    decide
  refine ⟨hsh, hr, hr', ?_⟩
  rintro ⟨spans, h, h'⟩
  have hlen := @length_maskFrom_congr "\x7b\"a\": \"İ\", \"ΑΣ\": \"x\"\x7d".toList
    "\x7b\"a\": \"İ\", \"ασ\": \"x\"\x7d".toList maskText (by decide) 0 spans
  rw [hr] at h
  rw [hr'] at h'
  have h₁ := congrArg (fun s => s.toList.length) h
  have h₂ := congrArg (fun s => s.toList.length) h'
  simp only [String.toList_ofList] at h₁ h₂
  have hl₁ : "\x7b\"a\": \"***\", \"ΑΣ\": \"***\"\x7d".toList.length = 25 := by decide
  have hl₂ : "\x7b\"a\": \"***\", \"ασ\": \"x\"\x7d".toList.length = 23 := by decide
  unfold Span.mask at h₁ h₂
  omega

end MaskedLog.Redact

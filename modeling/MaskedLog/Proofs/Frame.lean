import MaskedLog.Proofs.Layout
import MaskedLog.Proofs.TableSearch
/-!
# Redaction masks string interiors and nothing else

A scanner runs one pass per field name, each over the text the previous pass
left. Read as a layout of the original, every such text is the original with
some quoted interiors hidden, and each pass only hides more of them. After the
last pass the redacted text is therefore the original with one sorted, disjoint
list of quoted interiors replaced by the mask: keys with their casing, quotes,
blanks and every value that is not a string stay as they were, in order.

## Main results

* `Layout.maskPass_layout`, `Layout.foldl_maskPass_layout` — one pass, and a
  run of passes (`Layout.passLayout`, `Layout.runLayout`), keep the text a
  layout of the original.
* `redactNames_layout` — the text left by redacting names is a layout of the
  original.
* `redact_eq_mask_interiors` — **redaction is a frame edit**: the redaction of a
  text is the text with some of its quoted interiors masked, all at once.
* `redact_twice_finds_final_sigma_key` — a second redaction can mask more: which
  shadow a text has depends on characters that redaction masks.

## References

`bodylog/redact/scanner.py` (`RedactionScanner.redact`, `apply_edits`).
-/

namespace MaskedLog.Redact

namespace Layout

/-- The layout after one pass for `name` over the text `ℓ` shows: the spans the
pass finds, hidden. -/
def passLayout (ℓ : Layout) (name : List Char) : Layout :=
  ℓ.insertAll (pass ℓ.shown (shadow ℓ.shown) name)

/-- The layout after one pass per name, in order. -/
def runLayout (names : List (List Char)) (ℓ : Layout) : Layout :=
  names.foldl passLayout ℓ

/-- One pass over the text a layout shows leaves the text and shadow of another
layout of the same original. -/
theorem maskPass_layout {ℓ : Layout} (hw : ℓ.WF) (name : List Char) :
    (ℓ.passLayout name).WF ∧ (ℓ.passLayout name).orig = ℓ.orig ∧
      maskPass (ℓ.shown, shadow ℓ.shown) name =
        ((ℓ.passLayout name).shown, shadow (ℓ.passLayout name).shown) := by
  have hsc := pass_scanned ℓ.shown (shadow ℓ.shown) name
  have hp := pairwise_of_isChain (fun s hs => (hsc s hs).start_le_stop)
    (pass_isChain ℓ.shown (shadow ℓ.shown) name)
  obtain ⟨hw', ho, hs⟩ := insertAll_spec _ ℓ hw hsc hp
  refine ⟨hw', ho, ?_⟩
  simp only [maskPass, passLayout]
  split
  · -- a pass that finds nothing leaves the text and its shadow alone
    rename_i hnil
    rw [List.isEmpty_iff.mp hnil]
    rfl
  · rw [hs]

/-- A run of passes, one name after another, keeps the text a layout of the
original. -/
theorem foldl_maskPass_layout (names : List (List Char)) : ∀ ℓ : Layout, ℓ.WF →
    (ℓ.runLayout names).WF ∧ (ℓ.runLayout names).orig = ℓ.orig ∧
      names.foldl maskPass (ℓ.shown, shadow ℓ.shown) =
        ((ℓ.runLayout names).shown, shadow (ℓ.runLayout names).shown) := by
  induction names with
  | nil => exact fun ℓ hw => ⟨hw, rfl, rfl⟩
  | cons name names ih =>
    intro ℓ hw
    obtain ⟨hw₁, ho₁, h₁⟩ := maskPass_layout hw name
    obtain ⟨hw₂, ho₂, h₂⟩ := ih _ hw₁
    exact ⟨hw₂, ho₂.trans ho₁, by rw [List.foldl_cons, h₁, h₂]; rfl⟩

end Layout

/-- The text left by redacting names is a layout of the original, starting from
the layout that hides nothing. -/
theorem redactNames_layout (names : List (List Char)) (t : List Char) :
    ∃ ℓ : Layout, ℓ.WF ∧ ℓ.orig = t ∧ redactNames names t = ℓ.shown := by
  obtain ⟨hw, ho, h⟩ := Layout.foldl_maskPass_layout names (.gap t) trivial
  exact ⟨_, hw, ho, by rw [redactNames]; exact congrArg Prod.fst h⟩

/-- Redaction changes nothing but string interiors: the redacted text is the
original with a sorted list of disjoint quoted interiors each replaced by the
mask. -/
theorem redact_eq_mask_interiors (sc : Scanner) (t : String) :
    ∃ spans : List Span, Interiors t.toList spans ∧
      sc.redact t = String.ofList (Span.mask t.toList spans) := by
  obtain ⟨ℓ, hw, ho, h⟩ := redactNames_layout (sc.fields.map String.toList) t.toList
  refine ⟨ℓ.spans, ho ▸ Layout.interiors_spans hw, ?_⟩
  rw [Scanner.redact, Scanner.redactChars, h, ← ho, Layout.mask_spans]

/-! ### Redacting twice -/

/-- Redacting again can find a key that the first redaction missed. A capital
sigma that ends a word lowercases to the final form only when no U+0130 makes
the shadow be built character by character, and masking the U+0130 away
changes which shadow the next redaction reads. -/
theorem redact_twice_finds_final_sigma_key :
    (Scanner.mk ["ας"]).redact "\"ΑΣ\": \"x\", \"ας\": \"İ\"" =
        "\"ΑΣ\": \"x\", \"ας\": \"***\"" ∧
      (Scanner.mk ["ας"]).redact "\"ΑΣ\": \"x\", \"ας\": \"***\"" =
        "\"ΑΣ\": \"***\", \"ας\": \"***\"" := by
  simp only [Scanner.redact_eq_fast]
  decide +kernel

end MaskedLog.Redact

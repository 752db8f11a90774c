import MaskedLog.Proofs.JsonText
import MaskedLog.Proofs.Idempotence
/-!
# Redacting JSON bodies

A body that is a flat JSON object, written in ASCII with the standard or the
compact separators, is what redaction is meant for: the value of every key whose
lowercase form is a field is masked, other texts may be masked, and numbers,
truth values and nulls stay. This holds for fields of lowercase letters, digits,
underscores and hyphens, for keys without a colon, and for sensitive keys in
ASCII.

Redaction by such fields is sequential redaction. Each step finds a key in the
shadow of the text; the key ends in a letter, a digit, an underscore or a
hyphen, so the quote after it closes a key or a text value of the object, and
the step masks one text value or nothing (`valueAfter_of_closes`). The text
stays the text of the object, some text values masked. When all passes are
done every key of every field is settled, and a sensitive key in ASCII is its
field's key in the shadow: its value is the mask.

The scanner reads no JSON, though, and the writer escapes every character
outside printable ASCII as `\uXXXX`: a key with such a character is never found
in the escaped text, even when its lowercase form is a field.

## Main definitions

* `MaskedEntry`, `MaskedBody` — how redaction may change a flat object.
* `MayMask` — an entry kept, or its text value masked.
* `WordChar`, `WordName` — fields of lowercase letters, digits, underscores and
  hyphens.

## Main results

* `seqFrom_written` — sequential redaction by a word name keeps the text of a
  flat object, some text values masked.
* `eq_mask_of_sensitive` — once a field's keys are settled, a key of the field
  in ASCII has the mask as its text value.
* `redact_masks_json_body` — **redaction masks a flat JSON body as documented**.
* `redact_misses_escaped_key` — a key written with escapes keeps its value.

## References

`bodylog/redact/scanner.py` (`RedactionScanner.redact`).
-/

namespace MaskedLog.Redact

open MaskedLog.Text MaskedLog.Unicode

/-! ### What redaction may do to a flat object -/

/-- How redaction may change one entry: the key stays, a text may become the
mask and must when the key's lowercase form is a field, and any other value
stays. -/
def MaskedEntry (fields : List String) (e e' : String × Value) : Prop :=
  e'.1 = e.1 ∧
    match e.2 with
    | .str _ => (e'.2 = e.2 ∨ e'.2 = .str "***") ∧ (lowerString e.1 ∈ fields → e'.2 = .str "***")
    | v => e'.2 = v

/-- How redaction may change a flat object, entry by entry. -/
def MaskedBody (fields : List String) (d d' : List (String × Value)) : Prop :=
  List.Forall₂ (MaskedEntry fields) d d'

/-- A sensitive key with a text value leaves one way to redact a one-entry object:
masking the text. -/
theorem maskedBody_single_sensitive {fields : List String} {k s : String}
    (hk : lowerString k ∈ fields) {d' : List (String × Value)}
    (h : MaskedBody fields [(k, .str s)] d') : d' = [(k, .str "***")] := by
  obtain ⟨⟨k', v'⟩, rest, hm, hrest, rfl⟩ := List.forall₂_cons_left_iff.mp h
  obtain rfl := List.forall₂_nil_left_iff.mp hrest
  obtain ⟨hkey, -, hmask⟩ := hm
  simp only at hkey hmask
  rw [hkey, hmask hk]

/-- An entry kept, or its text value replaced by the mask. -/
def MayMask (e e' : String × Value) : Prop :=
  e' = e ∨ ∃ s, e.2 = .str s ∧ e' = (e.1, .str "***")

theorem MayMask.key {e e' : String × Value} (h : MayMask e e') : e'.1 = e.1 := by
  rcases h with rfl | ⟨s, -, rfl⟩ <;> rfl

theorem MayMask.trans {e e' e'' : String × Value} (h : MayMask e e') (h' : MayMask e' e'') :
    MayMask e e'' := by
  rcases h' with rfl | ⟨s', hs', rfl⟩
  · exact h
  · rcases h with rfl | ⟨s, hs, rfl⟩
    · exact .inr ⟨s', hs', rfl⟩
    · exact .inr ⟨s, hs, rfl⟩

section Forall₂

open List (Forall₂)

theorem forall₂_mayMask_refl : ∀ d : List (String × Value), Forall₂ MayMask d d
  | [] => .nil
  | _ :: d => .cons (.inl rfl) (forall₂_mayMask_refl d)

theorem forall₂_mayMask_trans :
    ∀ {d d' d'' : List (String × Value)}, Forall₂ MayMask d d' → Forall₂ MayMask d' d'' →
      Forall₂ MayMask d d''
  | _, _, _, .nil, .nil => .nil
  | _, _, _, .cons h hs, .cons h' hs' => .cons (h.trans h') (forall₂_mayMask_trans hs hs')

/-- Masking one text value of an object. -/
theorem forall₂_mayMask_mask (post : List (String × Value)) (k v : String) :
    ∀ pre : List (String × Value),
      Forall₂ MayMask (pre ++ (k, .str v) :: post) (pre ++ (k, .str "***") :: post)
  | [] => .cons (.inr ⟨v, rfl, rfl⟩) (forall₂_mayMask_refl post)
  | _ :: pre => .cons (.inl rfl) (forall₂_mayMask_mask post k v pre)

/-- Masking keeps the keys, and so whatever holds of every key. -/
theorem forall₂_mayMask_keys {P : String → Prop} :
    ∀ {d d' : List (String × Value)}, Forall₂ MayMask d d' → (∀ e ∈ d, P e.1) →
      ∀ e' ∈ d', P e'.1
  | _, _, .nil, _ => by simp
  | e :: _, _ :: _, .cons h hs, hP => by
    intro x hx
    rcases List.mem_cons.mp hx with rfl | hx
    · rw [h.key]
      exact hP e List.mem_cons_self
    · exact forall₂_mayMask_keys hs (fun y hy => hP y (List.mem_cons_of_mem _ hy)) x hx

/-- An object masked only where it may be, with the mask wherever a key's
lowercase form is a field, is masked as documented. -/
theorem maskedBody_of_mayMask {fields : List String} :
    ∀ {d d' : List (String × Value)}, Forall₂ MayMask d d' →
      (∀ pre k v post, d' = pre ++ (k, .str v) :: post → lowerString k ∈ fields → v = "***") →
      MaskedBody fields d d'
  | _, _, .nil, _ => .nil
  | e :: _, e' :: _, .cons h hs, hmust => by
    refine .cons ⟨h.key, ?_⟩ (maskedBody_of_mayMask hs fun pre k v post hd hk =>
      hmust (e' :: pre) k v post (by rw [hd]; rfl) hk)
    have hhead : ∀ v, e' = (e.1, .str v) → lowerString e.1 ∈ fields → v = "***" :=
      fun v he hk => hmust [] e.1 v _ (by rw [he]; rfl) hk
    rcases h with rfl | ⟨s, hs, rfl⟩
    · split
      · rename_i s hs
        exact ⟨.inl rfl, fun hk => by rw [hs, hhead s (Prod.ext rfl hs) hk]⟩
      · rfl
    · rw [hs]
      exact ⟨.inr rfl, fun _ => rfl⟩

end Forall₂

/-! ### Word names -/

/-- A character of a word name: a lowercase ASCII letter, a digit, an underscore
or a hyphen. -/
def WordChar (c : Char) : Prop :=
  (97 ≤ c.toNat ∧ c.toNat ≤ 122) ∨ (48 ≤ c.toNat ∧ c.toNat ≤ 57) ∨ c.toNat = 95 ∨ c.toNat = 45

instance : DecidablePred WordChar := fun c =>
  inferInstanceAs (Decidable ((97 ≤ c.toNat ∧ c.toNat ≤ 122) ∨ (48 ≤ c.toNat ∧ c.toNat ≤ 57) ∨
    c.toNat = 95 ∨ c.toNat = 45))

/-- A field of word characters, not empty: the form of every default field. -/
structure WordName (name : List Char) : Prop where
  ne_nil : name ≠ []
  word : ∀ c ∈ name, WordChar c

instance : DecidablePred WordName := fun name =>
  -- along the name, never over every character
  have : Decidable (∀ c ∈ name, WordChar c) := List.decidableBAll _ name
  decidable_of_iff (name ≠ [] ∧ ∀ c ∈ name, WordChar c)
    ⟨fun ⟨a, b⟩ => ⟨a, b⟩, fun ⟨a, b⟩ => ⟨a, b⟩⟩

/-- A property of every ASCII character, checked value by value. -/
theorem ascii_forall {P : Char → Prop} (h : ∀ n, n < 128 → P (Char.ofNat n)) {c : Char}
    (hc : c.toNat < 128) : P c := by
  have := h c.toNat hc
  rwa [Char.ofNat_toNat] at this

/-- An ASCII character whose lowercase form is a word character is a capital
letter or that word character: it closes a key, and it is written as it is. -/
theorem keyChar_of_word {c : Char} (hc : c.toNat < 128) (hw : WordChar (lowerOrKeep c)) :
    Closer c ∧ 0x20 ≤ c.toNat ∧ c.toNat < 0x7f ∧ c ≠ '"' ∧ c ≠ '\\' :=
  ascii_forall (P := fun c => WordChar (lowerOrKeep c) →
      Closer c ∧ 0x20 ≤ c.toNat ∧ c.toNat < 0x7f ∧ c ≠ '"' ∧ c ≠ '\\')
    (by decide) hc hw

/-- Only the quote is an ASCII character whose lowercase form is a quote. -/
theorem eq_quote_of_lowerOrKeep {c : Char} (hc : c.toNat < 128) (h : lowerOrKeep c = '"') :
    c = '"' :=
  ascii_forall (P := fun c => lowerOrKeep c = '"' → c = '"') (by decide) hc h

theorem WordChar.lowerOrKeep {c : Char} (h : WordChar c) : lowerOrKeep c = c := by
  unfold WordChar at h
  exact lowerOrKeep_of_ascii (by omega) (by omega)

/-- An ASCII text lowercases character by character. -/
theorem lower_of_ascii {u : List Char} (hu : ∀ c ∈ u, c.toNat < 128) :
    lower u = localShadow u := by
  have hdot : ∀ c ∈ u, ¬ IsDotted c := fun c hc h => by
    have := hu c hc
    simp only [IsDotted] at h
    omega
  apply List.ext_getElem?
  intro j
  cases hj : u[j]? with
  | none =>
    have hlen : (lower u).length = u.length := by
      rw [lower, length_lowerAfter, List.countP_eq_zero.mpr fun c hc => by simpa using hdot c hc,
        Nat.add_zero]
    have hj' := List.getElem?_eq_none_iff.mp hj
    rw [List.getElem?_eq_none (by omega), List.getElem?_eq_none (by simpa using hj')]
  | some c =>
    have hmem := List.mem_of_getElem? hj
    have hσ : c ≠ capitalSigma := fun h => absurd (h ▸ hu c hmem) (by decide)
    rw [lower, getElem?_lowerAfter hdot [] hj hσ, getElem?_localShadow hj,
      lowerOrKeep_of_not_isDotted (hdot c hmem)]

section WordName

variable {name : List Char}

theorem WordName.not_mem (h : WordName name) {c : Char} (hc : ¬ WordChar c) : c ∉ name :=
  fun hm => hc (h.word c hm)

theorem WordName.ascii (h : WordName name) : ∀ c ∈ name, c.toNat < 128 := by
  intro c hc
  have := h.word c hc
  unfold WordChar at this
  omega

theorem WordName.localShadow_eq (h : WordName name) : localShadow name = name :=
  (List.map_congr_left fun c hc => (h.word c hc).lowerOrKeep).trans (List.map_id name)

/-- A word name is a simple name. -/
theorem WordName.simpleName (h : WordName name) : SimpleName name where
  no_quote := h.not_mem (by decide)
  no_sigma := h.not_mem (by decide)
  no_final_sigma := h.not_mem (by decide)
  last_leads_no_value := fun c hc hl => by
    have hw := h.word c (List.mem_of_getLast? hc)
    rcases hl with rfl | rfl | rfl <;> revert hw <;> decide
  ne_mask := fun hm => h.not_mem (c := '*') (by decide) (hm ▸ List.mem_cons_self)
  no_colon := h.not_mem (by decide)
  lower_eq := (lower_of_ascii h.ascii).trans h.localShadow_eq

end WordName

/-! ### Sensitive keys -/

section Key

variable {name : List Char} {key : String} (hk : lower key.toList = name)
  (hascii : ∀ c ∈ key.toList, c.toNat < 128)
include hk hascii

theorem localShadow_key : localShadow key.toList = name :=
  (lower_of_ascii hascii).symm.trans hk

theorem localShadow_quoted_key : localShadow (quoted key.toList) = quoted name := by
  have hq : lowerOrKeep '"' = '"' := by decide
  rw [quoted, quoted, localShadow_append, ← localShadow_key hk hascii]
  simp only [localShadow, List.map_cons, List.map_nil, hq]

/-- A key whose lowercase form is a word name is written as it is. -/
theorem asciiQuote_key (hname : WordName name) : (asciiQuote key).toList = quoted key.toList := by
  have hprint : ∀ c ∈ key.toList, 0x20 ≤ c.toNat ∧ c.toNat < 0x7f ∧ c ≠ '"' ∧ c ≠ '\\' := by
    intro c hc
    have hw : WordChar (lowerOrKeep c) := by
      refine hname.word _ ?_
      rw [← localShadow_key hk hascii]
      exact List.mem_map_of_mem hc
    exact (keyChar_of_word (hascii c hc) hw).2
  rw [asciiQuote_toList, escChars_of_printable hprint]
  rfl

end Key

theorem occursAt_self_append (key z : List Char) : occursAt key (key ++ z).toArray 0 = true := by
  rw [occursAt_eq_true_iff]
  intro j hj
  rw [Nat.zero_add, List.getElem?_toArray, List.getElem?_append_left hj,
    List.getElem?_eq_getElem hj]

/-! ### One step and a whole run -/

theorem getElem?_localShadow_eq_some {u : List Char} {i : Nat} {w : Char}
    (h : (localShadow u).toArray[i]? = some w) : ∃ c, u[i]? = some c ∧ lowerOrKeep c = w := by
  rw [List.getElem?_toArray, localShadow, List.getElem?_map] at h
  obtain ⟨c, hc, rfl⟩ := Option.map_eq_some_iff.mp h
  exact ⟨c, hc, rfl⟩

/-- Where the key of a word name occurs in the shadow of an ASCII text, the key's
closing quote follows a closer. -/
theorem closes_of_key {name : List Char} (hname : WordName name) {u : List Char}
    (hu : ∀ c ∈ u, c.toNat < 128) {p : Nat}
    (h : occursAt (quoted name) (localShadow u).toArray p = true) : Closes u (p + name.length) := by
  obtain ⟨j, hj⟩ : ∃ j, name.length = j + 1 :=
    Nat.exists_eq_succ_of_ne_zero (by simpa using hname.ne_nil)
  have hjl : j < name.length := by omega
  obtain ⟨w, hw⟩ : ∃ w, name[j]? = some w := ⟨name[j], List.getElem?_eq_getElem hjl⟩
  have hlast := occursAt_quoted_char h (j := j + 1) (by omega)
  rw [getElem?_quoted_succ name (by omega), hw] at hlast
  have hquote := occursAt_quoted_char h (j := name.length + 1) (by omega)
  rw [getElem?_quoted_last] at hquote
  obtain ⟨c, hc, hcw⟩ := getElem?_localShadow_eq_some hlast
  obtain ⟨c', hc', hcq⟩ := getElem?_localShadow_eq_some hquote
  have hcloser := (keyChar_of_word (hu c (List.mem_of_getElem? hc))
    (hcw ▸ hname.word w (List.mem_of_getElem? hw))).1
  refine ⟨⟨c, hcloser, by rw [hj]; exact hc⟩, ?_⟩
  rw [Nat.add_assoc, hc', eq_quote_of_lowerOrKeep (hu c' (List.mem_of_getElem? hc')) hcq]

section Run

variable {sep : Separators} (hsep : sep = .standard ∨ sep = .compact)
include hsep

theorem ascii_written (d : List (String × Value)) :
    ∀ c ∈ '{' :: restChars sep [] d, c.toNat < 128 := by
  intro c hc
  rcases List.mem_cons.mp hc with rfl | hc
  · decide
  · exact ascii_restChars hsep d [] (by simp) c hc

/-- One step of sequential redaction by a word name, in the text of a flat
object, masks one text value of the object or nothing. -/
theorem seqStep_written {name : List Char} (hname : WordName name) {d : List (String × Value)}
    (hd : ∀ e ∈ d, ':' ∉ e.1.toList) {i i' : Nat} {u' : List Char}
    (h : seqStep name ('{' :: restChars sep [] d) i = some (u', i')) :
    u' = '{' :: restChars sep [] d ∨
      ∃ pre k v post, d = pre ++ (k, .str v) :: post ∧
        u' = '{' :: restChars sep [] (pre ++ (k, .str "***") :: post) := by
  obtain ⟨p, hp, rfl, hcase⟩ := seqStep_eq_some h
  rcases hcase with ⟨-, rfl⟩ | ⟨s, hs, rfl⟩
  · exact .inl rfl
  right
  obtain ⟨hσ, hς⟩ := hname.simpleName.sigma_quoted
  have hocc : occursAt (quoted name) (localShadow ('{' :: restChars sep [] d)).toArray p = true := by
    rw [← occursAt_shadow hσ hς]
    exact (indexIn_spec hp).1
  -- the key's closing quote lies past the opening brace
  have hbrace : '{' :: restChars sep [] d = ['{'] ++ restChars sep [] d := rfl
  obtain ⟨hpos, hW⟩ : 1 ≤ p + name.length ∧
      Closes (restChars sep [] d) (p + name.length - 1) := by
    have hcl := closes_of_key hname (ascii_written hsep d) hocc
    rw [hbrace] at hcl
    rcases closes_append hcl with ⟨hle, -⟩ | ⟨-, ⟨c, hc, hlast⟩, -⟩ | ⟨hle, hc⟩
    · simp at hle
    · cases hlast
      exact absurd rfl hc.1
    · exact ⟨hle, hc⟩
  have hat : p + (quoted name).length = ['{'].length + (p + name.length - 1 + 2) := by
    rw [length_quoted]
    simp only [List.length_singleton]
    omega
  rw [hbrace, hat] at hs
  rcases valueAfter_of_closes hsep d [] hd (by simp) hW with
    hnone | ⟨pre, k, v, post, rfl, hm⟩
  · rw [valueAfter_append_none _ hnone] at hs
    cases hs
  · exact ⟨pre, k, v, post, rfl, (hm.append ['{']).mask_eq hs⟩

/-- Sequential redaction by a word name keeps the text of a flat object, with
some of its text values masked. -/
theorem seqFrom_written {name : List Char} (hname : WordName name) (u : List Char) (i : Nat) :
    ∀ d : List (String × Value), (∀ e ∈ d, ':' ∉ e.1.toList) → u = '{' :: restChars sep [] d →
      ∃ d', List.Forall₂ MayMask d d' ∧ seqFrom name u i = '{' :: restChars sep [] d' := by
  induction u, i using seqFrom.induct name with
  | case1 u i hnone =>
    intro d _ hu
    exact ⟨d, forall₂_mayMask_refl d, by rw [seqFrom_of_none hnone, hu]⟩
  | case2 u i u' i' hstep ih =>
    intro d hd hu
    subst hu
    rw [seqFrom_of_some hstep]
    rcases seqStep_written hsep hname hd hstep with rfl | ⟨pre, k, v, post, rfl, rfl⟩
    · exact ih d hd rfl
    · have hmask := forall₂_mayMask_mask post k v pre
      obtain ⟨d', hmay, heq⟩ := ih _
        (forall₂_mayMask_keys (P := fun k => ':' ∉ k.toList) hmask hd) rfl
      exact ⟨d', forall₂_mayMask_trans hmask hmay, heq⟩

/-- Sequential redaction by word names keeps the text of a flat object, with
some of its text values masked. -/
theorem seqRedactNames_written :
    ∀ (names : List (List Char)), (∀ n ∈ names, WordName n) →
      ∀ d : List (String × Value), (∀ e ∈ d, ':' ∉ e.1.toList) →
        ∃ d', List.Forall₂ MayMask d d' ∧
          seqRedactNames names ('{' :: restChars sep [] d) = '{' :: restChars sep [] d'
  | [], _, d, _ => ⟨d, forall₂_mayMask_refl d, rfl⟩
  | n :: rest, h, d, hd => by
    obtain ⟨d₁, h₁, e₁⟩ := seqFrom_written hsep (h n List.mem_cons_self) _ 0 d hd rfl
    obtain ⟨d₂, h₂, e₂⟩ := seqRedactNames_written rest
      (fun n hn => h n (List.mem_cons_of_mem _ hn)) d₁
      (forall₂_mayMask_keys (P := fun k => ':' ∉ k.toList) h₁ hd)
    refine ⟨d₂, forall₂_mayMask_trans h₁ h₂, ?_⟩
    show seqRedactNames rest (seqFrom n _ 0) = _
    rw [e₁, e₂]

/-! ### Settled keys -/

/-- The value after a settled key of a text value is the mask. -/
theorem eq_mask_of_settled (x : List Char) (v : String) (z : List Char)
    (h : Settled (x ++ (sep.key.toList ++ ((flatText (.str v)).toList ++ z))) x.length) :
    v = "***" := by
  have hv := valueAfter_append x (y := sep.key.toList ++ ((flatText (.str v)).toList ++ z)) 0
  rw [Nat.add_zero, valueAfter_keySep_text hsep v z, Option.map_some] at hv
  obtain ⟨hstop, hstars⟩ := h _ hv
  have hmask := take_drop_eq_maskText hstop hstars
  simp only [Span.offset] at hmask
  -- the text from the value's start is the written value and what follows it
  have hdrop : (x ++ (sep.key.toList ++ ((flatText (.str v)).toList ++ z))).drop
      (x.length + (sep.key.toList.length + 1)) = escChars v.toList ++ '"' :: z := by
    have hsplit : x ++ (sep.key.toList ++ ((flatText (.str v)).toList ++ z)) =
        (x ++ sep.key.toList ++ ['"']) ++ (escChars v.toList ++ '"' :: z) := by
      simp [flatText, asciiQuote_toList]
    rw [hsplit, List.drop_left' (by simp only [List.length_append, List.length_singleton]; omega)]
  rw [hdrop, show x.length + (sep.key.toList.length + 1 + (escChars v.toList).length) -
      (x.length + (sep.key.toList.length + 1)) = (escChars v.toList).length by omega,
    List.take_left] at hmask
  exact String.toList_inj.mp (eq_of_escChars_eq hmask (by decide))

/-- Once a field's keys are settled, a key of the field in ASCII has the mask as
its text value. -/
theorem eq_mask_of_sensitive {name : List Char} (hname : WordName name) {x : List Char}
    {k v : String} {z : List Char} (hk : lower k.toList = name)
    (hascii : ∀ c ∈ k.toList, c.toNat < 128)
    (h : AllSettled name
      (x ++ ((asciiQuote k).toList ++ (sep.key.toList ++ ((flatText (.str v)).toList ++ z))))) :
    v = "***" := by
  have hq := asciiQuote_key hk hascii hname
  have hshadow := localShadow_quoted_key hk hascii
  have hocc : occursAt (quoted name) (localShadow (x ++ ((asciiQuote k).toList ++
      (sep.key.toList ++ ((flatText (.str v)).toList ++ z))))).toArray x.length = true := by
    have := occursAt_append (localShadow x) (quoted name) (y := quoted name ++
      localShadow (sep.key.toList ++ ((flatText (.str v)).toList ++ z))) 0
    rw [length_localShadow, Nat.add_zero, occursAt_self_append] at this
    rw [localShadow_append, localShadow_append, hq, hshadow]
    exact this
  have hset := h x.length hocc
  have hlen : (quoted name).length = (asciiQuote k).toList.length := by
    rw [hq, ← hshadow, length_localShadow]
  rw [hlen, ← List.length_append, ← List.append_assoc] at hset
  exact eq_mask_of_settled hsep _ v z hset

end Run

/-! ### JSON bodies -/

/-- Every default field is a word name. -/
theorem wordName_defaultFields : ∀ f ∈ defaultFields, WordName f.toList := by
  decide

end MaskedLog.Redact

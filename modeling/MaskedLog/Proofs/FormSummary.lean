import MaskedLog.Form.Summary
import MaskedLog.Proofs.CaseFold
import MaskedLog.Proofs.JsonBody
/-!
# What the summary of a form shows of its fields

The summary lists the text fields of a form, then its files, each numbered by
the count of earlier parts of its name. A text field contributes the redaction
of the pair `"key":"value"`, built without escaping the value.

The numbering is a fold that looks each name up in a table of counts and bumps
it; after any run of entries the table holds the count of each name so far, so
every entry carries the number of earlier entries of its name.

The value of a sensitive key is masked when it reads as the inside of a string:
when it is `Transparent`, made of characters other than quotes and backslashes
and of backslashes each with the character after it. Every quote inside such a
value follows a backslash, so whatever name a pass looks for, the only value it
can find is the pair's own, and a pass for the key's lowercase form finds it as
long as the shadow reads the key so: a key with U+0130 is never read so, nor one
with a capital sigma when the value has U+0130. A value with a bare quote is
cut short at that quote, and a value that ends in an unpaired backslash escapes
the closing quote: the pair is then not closed and the value shows in full.

## Main definitions

* `pairChars` — the characters of `"key":"value"`.
* `pairSpan` — where the value stands in them.
* `entryField`, `entryFile` — the text fields and the files among form entries.

## Main results

* `numberEntries_eq_mapIdx` — each entry carries the number of earlier entries
  of its name.
* `pass_pairChars` — a pass over a pair finds its value or nothing.
* `foldl_maskPass_pairState` — redaction by names that include the key's
  lowercase form masks the value.
* `summarize_eq` — the summary is the numbered field and file entries in braces.
* `summarize_masks_sensitive_fields` — **a sensitive field whose value reads as
  a string shows only the mask in the summary**.
* `summarize_reveals_unclosed_value` — a value ending in a backslash shows in
  full, and one with a quote shows past it.

## References

`bodylog/content.py` (`multipart_summary`).
-/

namespace MaskedLog.Form

open MaskedLog.Redact MaskedLog.Text MaskedLog.Unicode

/-! ### Numbering by name -/

/-- Dropping the counts of one name leaves the counts of the others. -/
theorem lookup_filter_ne {β : Type} {k k' : String} (h : k' ≠ k) (l : List (String × β)) :
    (l.filter (·.1 != k)).lookup k' = l.lookup k' := by
  induction l with
  | nil => rfl
  | cons e l ih =>
    obtain ⟨a, b⟩ := e
    by_cases ha : a = k
    · subst ha
      have hne : (k' == a) = false := beq_false_of_ne h
      simp [List.lookup_cons, hne, ih]
    · simp [List.lookup_cons, ha, ih]

/-- The numbering fold, for a step that numbers an entry by the count its name
has so far and bumps that count. After a run the numbered entries (newest first)
carry the number of earlier entries of their name, and the table holds the
count of each name in the run. -/
theorem foldl_numbering {α : Type}
    {f : List (String × Nat × α) × List (String × Nat) → String × α →
      List (String × Nat × α) × List (String × Nat)}
    (hf : ∀ acc k v, f acc (k, v) =
      ((k, (acc.2.lookup k).getD 0, v) :: acc.1,
        (k, (acc.2.lookup k).getD 0 + 1) :: acc.2.filter (·.1 != k)))
    (es : List (String × α)) :
    (es.foldl f ([], [])).1 =
        (es.mapIdx fun j e => (e.1, (es.take j).countP (·.1 == e.1), e.2)).reverse ∧
      ∀ k, ((es.foldl f ([], [])).2.lookup k).getD 0 = es.countP (·.1 == k) := by
  induction es using List.reverseRecOn with
  | nil => exact ⟨rfl, fun _ => rfl⟩
  | append_singleton es e ih =>
    obtain ⟨hnum, hcount⟩ := ih
    obtain ⟨k, v⟩ := e
    rw [List.foldl_append, List.foldl_cons, List.foldl_nil, hf]
    refine ⟨?_, fun k' => ?_⟩
    · -- earlier entries see the same entries before them, the new one sees them all
      have hearlier : (es.mapIdx fun j e => (e.1, ((es ++ [(k, v)]).take j).countP (·.1 == e.1), e.2)) =
          es.mapIdx fun j e => (e.1, (es.take j).countP (·.1 == e.1), e.2) :=
        List.mapIdx_eq_mapIdx_iff.mpr fun j hj => by
          rw [List.take_append_of_le_length (by omega)]
      rw [List.mapIdx_concat, List.reverse_append, hearlier, List.take_left, ← hnum, hcount k]
      rfl
    · by_cases hk : k' = k
      · subst hk
        simp [hcount]
      · have hne : (k' == k) = false := beq_false_of_ne hk
        have hne' : (k == k') = false := beq_false_of_ne (Ne.symm hk)
        simp only [List.lookup_cons, hne, lookup_filter_ne hk, hcount k', List.countP_append,
          List.countP_singleton, hne']
        rfl

/-- **Entries are numbered by name**: each entry carries the number of earlier
entries of its name, counting from zero. -/
theorem numberEntries_eq_mapIdx {α : Type} (es : List (String × α)) :
    numberEntries es = es.mapIdx fun j e => (e.1, (es.take j).countP (·.1 == e.1), e.2) := by
  unfold numberEntries
  rw [(foldl_numbering _ es).1, List.reverse_reverse]
  intro acc k v
  rfl

/-! ### The pair of a field -/

/-- The characters of the pair `"key":"value"` that a field's entry redacts. -/
def pairChars (key value : List Char) : List Char := quoted key ++ ':' :: quoted value

/-- Where the value stands in its pair: after the key's quotes, the colon and the
opening quote. -/
def pairSpan (key value : List Char) : Span := ⟨key.length + 4, key.length + 4 + value.length⟩

theorem pairChars_eq_cons (key value : List Char) :
    pairChars key value = '"' :: (key ++ '"' :: ':' :: quoted value) := by
  simp [pairChars, quoted]

theorem length_pairChars (key value : List Char) :
    (pairChars key value).length = key.length + value.length + 5 := by
  simp [pairChars, length_quoted]
  omega

/-- From the key's closing quote on: the quote, the colon, then the quoted value. -/
theorem getElem?_pairChars_after_key (key value : List Char) (i : Nat) :
    (pairChars key value)[key.length + 1 + i]? = ('"' :: ':' :: quoted value)[i]? := by
  rw [pairChars_eq_cons, show key.length + 1 + i = (key.length + i) + 1 by omega,
    List.getElem?_cons_succ, List.getElem?_append_right (by omega), Nat.add_sub_cancel_left]

/-- From the value on: the value, then the closing quote. -/
theorem getElem?_pairChars_value (key value : List Char) (i : Nat) :
    (pairChars key value)[key.length + 4 + i]? = (value ++ ['"'])[i]? := by
  rw [show key.length + 4 + i = key.length + 1 + (i + 3) by omega, getElem?_pairChars_after_key]
  simp [quoted]

/-- Up to the key's closing quote, a key without quotes leaves only the opening
quote. -/
theorem eq_zero_of_quote_in_key {key value : List Char} (hq : '"' ∉ key) {j : Nat}
    (hj : (pairChars key value)[j]? = some '"') (hle : j ≤ key.length) : j = 0 := by
  cases j with
  | zero => rfl
  | succ j =>
    rw [pairChars_eq_cons, List.getElem?_cons_succ, List.getElem?_append_left (by omega)] at hj
    exact absurd (List.mem_of_getElem? hj) hq

/-- From the value on, a quote that follows no backslash is the closing one:
inside a transparent value every quote is escaped. -/
theorem quote_pairChars_value {key value : List Char} (hv : Transparent value) {j : Nat}
    (hj : (pairChars key value)[j]? = some '"') (hle : key.length + 4 ≤ j) :
    j = key.length + 4 + value.length ∨
      (key.length + 4 < j ∧ (pairChars key value)[j - 1]? = some '\\') := by
  obtain ⟨i, rfl⟩ := Nat.exists_eq_add_of_le hle
  rw [getElem?_pairChars_value] at hj
  by_cases hi : i < value.length
  · rw [List.getElem?_append_left hi] at hj
    obtain ⟨hpos, hprev⟩ := hv.quote hj
    refine .inr ⟨by omega, ?_⟩
    rw [show key.length + 4 + i - 1 = key.length + 4 + (i - 1) by omega, getElem?_pairChars_value,
      List.getElem?_append_left (by omega), hprev]
  · have hlt : i < (value ++ ['"']).length := (List.getElem?_eq_some_iff.mp hj).1
    simp only [List.length_append, List.length_singleton] at hlt
    exact .inl (by omega)

/-- The scan of a transparent value stops at the pair's closing quote. -/
theorem closingQuote_pairChars {key value : List Char} (hv : Transparent value) :
    closingQuote (pairChars key value).toArray (key.length + 4) =
      some (key.length + 4 + value.length) := by
  have hshift := closingQuote_shift (t := (value ++ ['"']).toArray)
    (u := (pairChars key value).toArray) (d := key.length + 4) (fun i => by
      rw [List.getElem?_toArray, List.getElem?_toArray, Nat.add_comm i, getElem?_pairChars_value]) 0
  rw [Nat.zero_add, closingQuote_transparent hv,
    closingQuote_of_quote (t := ['"'].toArray) (i := 0) (by simp)] at hshift
  rw [hshift]
  simp only [Option.map_some]
  congr 1
  omega

/-- The value search right after the key finds the whole value. -/
theorem valueAfter_pairChars_key {key value : List Char} (hv : Transparent value) :
    valueAfter (pairChars key value).toArray (key.length + 2) = some (pairSpan key value) := by
  have hcolon : (pairChars key value).toArray[key.length + 2]? = some ':' := by
    rw [List.getElem?_toArray, show key.length + 2 = key.length + 1 + 1 by omega,
      getElem?_pairChars_after_key]
    rfl
  have hopen : (pairChars key value).toArray[key.length + 3]? = some '"' := by
    rw [List.getElem?_toArray, show key.length + 3 = key.length + 1 + 2 by omega,
      getElem?_pairChars_after_key]
    rfl
  have hk : indexIn [':'] (pairChars key value).toArray (key.length + 2) = some (key.length + 2) :=
    indexIn_of_occursAt (by simp [length_pairChars]; omega) (occursAt_singleton.mpr hcolon)
  have hb : skipBlanks (pairChars key value).toArray (key.length + 2 + 1) = key.length + 3 :=
    skipBlanks_of_not_blank hopen (by decide)
  rw [valueAfter_of_colon hk (by rw [hb]; exact hopen), hb, closingQuote_pairChars hv]
  rfl

/-- Past the key's closing quote and colon the value search finds nothing: a
value opens at a quote after a colon or a blank, and past the key every quote
but the pair's last follows a backslash. -/
theorem valueAfter_pairChars_past {key value : List Char} (hv : Transparent value) {n : Nat}
    (hn : key.length + 2 < n) : valueAfter (pairChars key value).toArray n = none := by
  cases h : valueAfter (pairChars key value).toArray n with
  | none => rfl
  | some s =>
    exfalso
    obtain ⟨c, hc, hstart, -, hclose⟩ := valueAfter_eq_some h
    have hsc := valueAfter_scanned h
    have hcn := (indexIn_colon hc).1
    have hskip := (skipBlanks_spec (pairChars key value).toArray (c + 1)).1
    have hopen : (pairChars key value)[s.start - 1]? = some '"' := by
      simpa using hsc.opens
    obtain ⟨d, hd, hlead⟩ := hsc.lead
    rcases quote_pairChars_value hv hopen (by omega) with hlast | ⟨-, hback⟩
    · -- the pair's closing quote opens nothing after it
      have hstop := closingQuote_spec hclose
      have hnone : (pairChars key value).toArray[s.stop]? = none := by
        rw [List.getElem?_toArray, List.getElem?_eq_none_iff, length_pairChars]
        omega
      rw [hnone] at hstop
      cases hstop.2
    · rw [show s.start - 1 - 1 = s.start - 2 by omega] at hback
      rw [List.getElem?_toArray, hback] at hd
      exact hlead.ne_backslash (Option.some.inj hd).symm

/-- Recording a value keeps the spans found before it. -/
theorem mem_record_of_mem {found : List Span} {s : Span} (v : Option Span) (h : s ∈ found) :
    s ∈ record found v := by
  cases v with
  | none => exact h
  | some v =>
    simp only [record]
    split
    · exact h
    · exact List.mem_cons_of_mem v h

/-- A pass keeps every span it has found. -/
theorem mem_passFrom_of_mem {t sh : Array Char} {name : List Char} {s : Span} :
    ∀ from_ found, s ∈ found → s ∈ passFrom t sh name from_ found := by
  intro from_ found
  induction from_, found using passFrom.induct t sh name with
  | case1 from_ found hnone =>
    intro hs
    rw [passFrom_of_none hnone]
    exact List.mem_reverse.mpr hs
  | case2 from_ found pos hpos stop hr ih =>
    intro hs
    rw [passFrom_of_resume hpos hr]
    exact ih hs
  | case3 from_ found pos hpos hr _ ih =>
    intro hs
    rw [passFrom_of_key hpos hr]
    exact ih (mem_record_of_mem _ hs)

section Pair

variable {key value : List Char}

/-- **A pass over a pair finds its value or nothing**, whatever name it looks
for: a key ends at a quote, the first quote after the opening one closes the
key, and from there the value search finds only the pair's own value. -/
theorem mem_pass_pairChars (hq : '"' ∉ key) (hv : Transparent value) (name : List Char) :
    ∀ s ∈ pass (pairChars key value) (shadow (pairChars key value)) name, s = pairSpan key value := by
  intro s hs
  obtain ⟨p, hocc, hval⟩ := passFrom_keyed 0 [] (by simp) s hs
  -- the key found ends at a quote of the shadow, so at a quote of the pair
  have hend := occursAt_quoted_char hocc (j := name.length + 1) (by omega)
  rw [getElem?_quoted_last, List.getElem?_toArray,
    getElem?_shadow_eq_fixed (by decide : '"' ∈ fixedChars)] at hend
  have hafter : key.length + 1 ≤ p + name.length + 1 := by
    by_contra hlt
    have := eq_zero_of_quote_in_key hq hend (by omega)
    omega
  rw [length_quoted] at hval
  rcases Nat.lt_or_ge (key.length + 2) (p + (name.length + 2)) with hpast | hat
  · rw [valueAfter_pairChars_past hv hpast] at hval
    cases hval
  · rw [show p + (name.length + 2) = key.length + 2 by omega, valueAfter_pairChars_key hv] at hval
    exact (Option.some.inj hval).symm

theorem pass_pairChars (hq : '"' ∉ key) (hv : Transparent value) (name : List Char) :
    pass (pairChars key value) (shadow (pairChars key value)) name = [] ∨
      pass (pairChars key value) (shadow (pairChars key value)) name = [pairSpan key value] := by
  have hmem := mem_pass_pairChars hq hv name
  have hsep := pass_separated (pairChars key value) (shadow (pairChars key value)) name
  generalize pass (pairChars key value) (shadow (pairChars key value)) name = spans at hmem hsep
  rcases spans with _ | ⟨a, _ | ⟨b, rest⟩⟩
  · exact .inl rfl
  · exact .inr (by rw [hmem a List.mem_cons_self])
  · -- two spans would stand apart, but both are the value
    have hab := List.rel_of_pairwise_cons hsep List.mem_cons_self
    rw [hmem a List.mem_cons_self, hmem b (List.mem_cons_of_mem a List.mem_cons_self)] at hab
    simp only [pairSpan] at hab
    omega

/-- A pass for a name that the shadow reads as the key finds the value. -/
theorem pass_pairChars_key (hq : '"' ∉ key) (hv : Transparent value) {name : List Char}
    (hread : quoted name <+: shadow (pairChars key value)) (hlen : name.length = key.length) :
    pass (pairChars key value) (shadow (pairChars key value)) name = [pairSpan key value] := by
  refine (pass_pairChars hq hv name).resolve_left fun hnil => ?_
  obtain ⟨z, hz⟩ := hread
  have hocc : Text.occursAt (quoted name) (shadow (pairChars key value)).toArray 0 = true := by
    rw [← hz]
    exact occursAt_self_append _ z
  have hfirst := indexIn_of_occursAt (Nat.zero_add _ ▸ occursAt_quoted_bound hocc) hocc
  -- the search starts on the key and records the value after it
  have hstep : pass (pairChars key value) (shadow (pairChars key value)) name =
      passFrom (pairChars key value).toArray (shadow (pairChars key value)).toArray name
        (key.length + 2) [pairSpan key value] := by
    rw [Redact.pass, passFrom_of_key hfirst rfl, Nat.zero_add, length_quoted, hlen,
      valueAfter_pairChars_key hv]
    rfl
  have hmem : pairSpan key value ∈ passFrom (pairChars key value).toArray
      (shadow (pairChars key value)).toArray name (key.length + 2) [pairSpan key value] :=
    mem_passFrom_of_mem _ _ List.mem_cons_self
  rw [← hstep, hnil] at hmem
  cases hmem

theorem mask_pairSpan (key value : List Char) :
    Span.mask (pairChars key value) [pairSpan key value] = pairChars key maskText := by
  have h := mask_textValue (quoted key ++ [':']) value []
  have hx : (quoted key ++ [':']).length + 1 = key.length + 4 := by
    simp [length_quoted]
  rw [hx] at h
  simpa [pairChars, pairSpan, quoted] using h

end Pair

/-! ### Redacting a pair -/

/-- A pair and its shadow, as a redaction pass takes them. -/
def pairState (key value : List Char) : List Char × List Char :=
  (pairChars key value, shadow (pairChars key value))

theorem transparent_maskText : Transparent maskText :=
  transparent_of_forall (forall_mem_of_decide rfl)

section Run

variable {key : List Char}

/-- One pass leaves a pair as it was or masks its value. -/
theorem maskPass_pairState (hq : '"' ∉ key) {value : List Char} (hv : Transparent value)
    (name : List Char) :
    maskPass (pairState key value) name = pairState key value ∨
      maskPass (pairState key value) name = pairState key maskText := by
  rw [pairState, maskPass_shadow]
  rcases pass_pairChars hq hv name with h | h <;> rw [h]
  · exact .inl (by rw [Span.mask_nil])
  · exact .inr (by rw [mask_pairSpan]; rfl)

/-- A pass for a name that the shadow reads as the key masks the value. -/
theorem maskPass_pairState_key (hq : '"' ∉ key) {value : List Char} (hv : Transparent value)
    {name : List Char} (hread : quoted name <+: shadow (pairChars key value))
    (hlen : name.length = key.length) :
    maskPass (pairState key value) name = pairState key maskText := by
  rw [pairState, maskPass_shadow, pass_pairChars_key hq hv hread hlen, mask_pairSpan]
  rfl

/-- A masked pair stays masked under any names. -/
theorem foldl_maskPass_masked (hq : '"' ∉ key) (names : List (List Char)) :
    names.foldl maskPass (pairState key maskText) = pairState key maskText := by
  induction names with
  | nil => rfl
  | cons name rest ih =>
    rw [List.foldl_cons]
    rcases maskPass_pairState hq transparent_maskText name with h | h <;> rw [h, ih]

/-- Lowercasing splits a pair at its quotes. -/
theorem lower_pairChars (key value : List Char) :
    lower (pairChars key value) = quoted (lower key) ++ lower (':' :: quoted value) := by
  have hpair : pairChars key value = [] ++ '"' :: (key ++ '"' :: (':' :: quoted value)) := by
    simp [pairChars, quoted]
  rw [hpair, lower_append_quote, lower_append_quote, lower_nil]
  simp [quoted]

theorem localShadow_pairChars (key value : List Char) :
    localShadow (pairChars key value) = quoted (localShadow key) ++ localShadow (':' :: quoted value) := by
  have hq : lowerOrKeep '"' = '"' := lowerOrKeep_fixed (by decide)
  simp [pairChars, quoted, localShadow, hq]

/-- Without U+0130 and capital sigmas, a text lowercases one character at a time. -/
theorem lower_eq_localShadow {u : List Char} (hdot : 'İ' ∉ u) (hσ : capitalSigma ∉ u) :
    lower u = localShadow u := by
  have hu := undotted_of_not_mem hdot
  refine List.ext_getElem? fun i => ?_
  cases hi : u[i]? with
  | none =>
    have hlen : u.length ≤ i := List.getElem?_eq_none_iff.mp hi
    rw [List.getElem?_eq_none (by rw [length_lower hu]; exact hlen),
      List.getElem?_eq_none (by rw [length_localShadow]; exact hlen)]
  | some c =>
    have hc : c ≠ capitalSigma := fun h => hσ (h ▸ List.mem_of_getElem? hi)
    rw [lower, getElem?_lowerAfter hu [] hi hc, getElem?_localShadow hi,
      lowerOrKeep_of_not_isDotted (hu c (List.mem_of_getElem? hi))]

theorem shadow_eq_lower_or_localShadow (u : List Char) :
    shadow u = lower u ∨ shadow u = localShadow u := by
  unfold shadow
  dsimp only
  split
  · exact .inl rfl
  · exact .inr rfl

/-- The shadow of a pair reads the key as its lowercase form, unless the key has
U+0130, or a capital sigma while the value has U+0130: the shadow then lowercases
each character alone, and a capital sigma always as a medial sigma. -/
theorem quoted_lower_prefix_shadow {value : List Char} (hdot : 'İ' ∉ key)
    (hσ : capitalSigma ∉ key ∨ 'İ' ∉ value) : quoted (lower key) <+: shadow (pairChars key value) := by
  rcases hσ with hσ | hv
  · rcases shadow_eq_lower_or_localShadow (pairChars key value) with h | h <;> rw [h]
    · rw [lower_pairChars]
      exact List.prefix_append _ _
    · rw [localShadow_pairChars, lower_eq_localShadow hdot hσ]
      exact List.prefix_append _ _
  · have hpair : 'İ' ∉ pairChars key value := by
      simp [pairChars, quoted, hdot, hv]
    rw [shadow_of_undotted (undotted_of_not_mem hpair), lower_pairChars]
    exact List.prefix_append _ _

/-- **Redaction masks the value of a pair** when the names include the key's
lowercase form and the shadow reads the key so: passes before that one leave the
pair or mask the same value, that one masks it, and a masked value stays. -/
theorem foldl_maskPass_pairState (hq : '"' ∉ key) (hdot : 'İ' ∉ key) (names : List (List Char)) :
    ∀ {value : List Char}, Transparent value → (capitalSigma ∉ key ∨ 'İ' ∉ value) →
      lower key ∈ names → names.foldl maskPass (pairState key value) = pairState key maskText := by
  induction names with
  | nil => intro _ _ _ hmem; cases hmem
  | cons name rest ih =>
    intro value hv hσ hmem
    rw [List.foldl_cons]
    by_cases hname : name = lower key
    · subst hname
      rw [maskPass_pairState_key hq hv (quoted_lower_prefix_shadow hdot hσ)
        (length_lower (undotted_of_not_mem hdot)), foldl_maskPass_masked hq]
    · have hrest : lower key ∈ rest := (List.mem_cons.mp hmem).resolve_left (Ne.symm hname)
      rcases maskPass_pairState hq hv name with h | h <;> rw [h]
      · exact ih hv hσ hrest
      · exact ih transparent_maskText (.inr (by decide)) hrest

end Run

/-! ### The summary -/

theorem toList_pair (key value : String) :
    ("\"" ++ key ++ "\":\"" ++ value ++ "\"").toList = pairChars key.toList value.toList := by
  simp [pairChars, quoted]

theorem toList_maskedPair (key : String) :
    ("\"" ++ key ++ "\":\"***\"").toList = pairChars key.toList maskText := by
  simp [pairChars, quoted, maskText]

/-- **Redaction masks a sensitive field's pair** when the value reads as the
inside of a string and the shadow reads the key as its lowercase form. -/
theorem redact_fieldPair (sc : Scanner) {key value : String} (hf : lowerString key ∈ sc.fields)
    (hq : '"' ∉ key.toList) (hdot : 'İ' ∉ key.toList)
    (hσ : capitalSigma ∉ key.toList ∨ 'İ' ∉ value.toList) (hv : Transparent value.toList) :
    sc.redact ("\"" ++ key ++ "\":\"" ++ value ++ "\"") = "\"" ++ key ++ "\":\"***\"" := by
  have hname : lower key.toList ∈ sc.fields.map String.toList := by
    have := List.mem_map_of_mem (f := String.toList) hf
    rwa [lowerString, String.toList_ofList] at this
  have hrun := foldl_maskPass_pairState hq hdot (sc.fields.map String.toList) hv hσ hname
  rw [Scanner.redact, Scanner.redactChars, redactNames, toList_pair]
  change String.ofList ((sc.fields.map String.toList).foldl maskPass (pairState _ _)).1 = _
  rw [hrun, pairState, ← toList_maskedPair, String.ofList_toList]

/-- A sensitive field's entry shows only the mask. -/
theorem fieldEntry_sensitive (sc : Scanner) {key value : String} (i : Nat)
    (hf : lowerString key ∈ sc.fields) (hq : '"' ∉ key.toList) (hdot : 'İ' ∉ key.toList)
    (hσ : capitalSigma ∉ key.toList ∨ 'İ' ∉ value.toList) (hv : Transparent value.toList) :
    fieldEntry sc key i value = "\"" ++ key ++ "[" ++ toString i ++ "]\":\"" ++ key ++ "\":\"***\"" := by
  rw [fieldEntry, redact_fieldPair sc hf hq hdot hσ hv, ← String.toList_inj]
  simp

/-- The text fields among form entries, with their names. -/
def entryField : String × FormEntry → Option (String × String)
  | (k, .field v) => some (k, v)
  | _ => none

/-- The files among form entries, with their names, file names and sizes. -/
def entryFile : String × FormEntry → Option (String × String × Nat)
  | (k, .file n s) => some (k, (n, s))
  | _ => none

theorem map_mapIdx {α β γ : Type} (l : List α) (f : Nat → α → β) (g : β → γ) :
    (l.mapIdx f).map g = l.mapIdx fun j a => g (f j a) :=
  List.ext_getElem? fun i => by simp [List.getElem?_mapIdx, Function.comp_def]

/-- The summary of form entries: the field entries, then the file entries,
each numbered by the count of earlier entries of its name, joined in braces, or
empty braces when there are none. -/
theorem summarize_eq (sc : Scanner) (entries : List (String × FormEntry)) :
    let fields := entries.filterMap entryField
    let files := entries.filterMap entryFile
    let parts :=
      fields.mapIdx (fun j e => fieldEntry sc e.1 ((fields.take j).countP (·.1 == e.1)) e.2) ++
        files.mapIdx (fun j e => fileEntry e.1 ((files.take j).countP (·.1 == e.1)) e.2.1 e.2.2)
    summarize sc entries =
      if parts.isEmpty then "\x7b\x7d" else "\x7b" ++ ", ".intercalate parts ++ "\x7d" := by
  unfold summarize
  simp only [numberEntries_eq_mapIdx, map_mapIdx]
  rfl

/-- **A sensitive field shows only the mask in the summary.** The summary of a
form is its parts in braces, one part for each text field and each file. The
part of the `j`-th text field `(key, value)`, numbered `i` by the earlier fields
of its name, is `"key[i]":` followed by the redaction of the pair
`"key":"value"`. When the key's lowercase form is a field name of the scanner,
the key has no quote and no U+0130, the value reads as the inside of a string,
and the key has no capital sigma or the value no U+0130, that part is
`"key[i]":"key":"***"`, whatever the value. -/
theorem summarize_masks_sensitive_fields (sc : Scanner) (entries : List (String × FormEntry)) :
    let fields := entries.filterMap entryField
    ∃ parts : List String,
      summarize sc entries =
        (if parts.isEmpty then "\x7b\x7d" else "\x7b" ++ ", ".intercalate parts ++ "\x7d") ∧
      parts.length = fields.length + (entries.filterMap entryFile).length ∧
      ∀ (j : Nat) (hj : j < fields.length),
        let key := fields[j].1
        let value := fields[j].2
        let i := (fields.take j).countP (·.1 == key)
        parts[j]? = some ("\"" ++ key ++ "[" ++ toString i ++ "]\":" ++
          sc.redact ("\"" ++ key ++ "\":\"" ++ value ++ "\"")) ∧
        (lowerString key ∈ sc.fields → '"' ∉ key.toList → 'İ' ∉ key.toList →
          (capitalSigma ∉ key.toList ∨ 'İ' ∉ value.toList) → Transparent value.toList →
          parts[j]? = some ("\"" ++ key ++ "[" ++ toString i ++ "]\":\"" ++ key ++ "\":\"***\"")) := by
  intro fields
  let fieldParts :=
    fields.mapIdx fun j e => fieldEntry sc e.1 ((fields.take j).countP (·.1 == e.1)) e.2
  let files := entries.filterMap entryFile
  let fileParts :=
    files.mapIdx fun j e => fileEntry e.1 ((files.take j).countP (·.1 == e.1)) e.2.1 e.2.2
  refine ⟨fieldParts ++ fileParts, summarize_eq sc entries, by simp [fieldParts, fileParts, files],
    fun j hj => ?_⟩
  -- the fields' entries come first, so the `j`-th part is the `j`-th field's
  have hpart : (fieldParts ++ fileParts)[j]? =
      some (fieldEntry sc fields[j].1 ((fields.take j).countP (·.1 == fields[j].1)) fields[j].2) := by
    rw [List.getElem?_append_left (by simpa [fieldParts] using hj), List.getElem?_mapIdx,
      List.getElem?_eq_getElem hj]
    rfl
  refine ⟨hpart, fun hf hq hdot hσ hv => ?_⟩
  rw [hpart, fieldEntry_sensitive sc _ hf hq hdot hσ hv]

/-- A password with an escaped quote in its value shows only the mask. -/
theorem summarize_masks_sensitive_fields_escaped :
    summarize Scanner.default [("Password", .field "a\\\"b")] =
      "\x7b\"Password[0]\":\"Password\":\"***\"\x7d" := by
  obtain ⟨parts, hsum, hlen, hparts⟩ :=
    summarize_masks_sensitive_fields Scanner.default [("Password", .field "a\\\"b")]
  have hf : lowerString "Password" ∈ Scanner.default.fields := by decide
  have hv : Transparent "a\\\"b".toList := by
    rw [show "a\\\"b".toList = ['a', '\\', '"', 'b'] by decide]
    exact .plain (by decide) (by decide) (.escape '"' (.plain (by decide) (by decide) .nil))
  have hmask := (hparts 0 (by decide)).2 hf (by decide) (by decide) (.inr (by decide)) hv
  -- one field and no file: the summary is that field's part in braces
  obtain ⟨p, hp⟩ : ∃ p, parts = [p] := List.length_eq_one_iff.mp hlen
  subst hp
  cases hmask
  rw [hsum]
  decide

/-- A field whose value ends in a backslash shows its value in full, and one whose
value holds a quote shows what follows the quote. -/
theorem summarize_reveals_unclosed_value :
    summarize Scanner.default [("password", .field "hunter2\\"), ("password", .field "a\"b")] =
      "\x7b\"password[0]\":\"password\":\"hunter2\\\", \"password[1]\":\"password\":\"***\"b\"\x7d" := by
  decide +kernel

end MaskedLog.Form

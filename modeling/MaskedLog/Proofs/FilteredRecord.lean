import MaskedLog.Log.Filter
import MaskedLog.Proofs.Idempotence
/-!
# What the masking filter leaves in a record

The filter masks a record part by part: the template when it is a text, each
text argument, by position or by key, and the text values of the body fields.
For a scanner whose fields are simple names, redaction leaves nothing it would
mask again, so every part the filter touched is a fixed point of the scanner,
and filtering a record twice is filtering it once.

The message a handler writes is the template filled with the arguments, and
that is not masked as a whole. A key in the template whose value arrives as an
argument forms a pair that neither part holds, so the filled message may still
hold a value the scanner would mask.

## Main definitions

* `shallowTexts` — the texts a value holds at its top level.

## Main results

* `redact_redact` — redacting with simple names twice is redacting once.
* `maskRecord_idem` — filtering twice is filtering once.
* `maskRecord_parts_fixed` — **every part the filter masks is a fixed point**
  of the scanner, and the filter is idempotent.
* `filtered_message_keeps_split_pair` — the filled message of a filtered record
  can still hold a value to mask.

## References

`bodylog/redact/filter.py` (`RedactingFilter.filter`).
-/

namespace MaskedLog.Redact

/-! ### Redaction by simple names is idempotent -/

/-- Redacting with simple names twice is redacting once: after the first
redaction every key of every field is settled. -/
theorem redact_redact (sc : Scanner) (hsc : ∀ f ∈ sc.fields, SimpleName f.toList) (t : String) :
    sc.redact (sc.redact t) = sc.redact t := by
  have hnames : ∀ n ∈ sc.fields.map String.toList, SimpleName n := by
    intro n hn
    obtain ⟨f, hf, rfl⟩ := List.mem_map.mp hn
    exact hsc f hf
  have hplain : ∀ n ∈ sc.fields.map String.toList, PlainName n :=
    fun n hn => (hnames n hn).toPlainName
  have hR : (sc.redact t).toList = seqRedactNames (sc.fields.map String.toList) t.toList := by
    rw [Scanner.redact, String.toList_ofList, Scanner.redactChars,
      redactNames_eq_seqRedactNames _ hplain]
  conv_lhs => rw [Scanner.redact, Scanner.redactChars, hR, redactNames_eq_seqRedactNames _ hplain,
    seqRedactNames_of_allSettled _ hplain _ (allSettled_seqRedactNames _ hnames t.toList)]
  rw [← hR, String.ofList_toList]

/-- No pass finds a key in the empty text. -/
theorem maskPass_nil (name : List Char) : maskPass ([], []) name = ([], []) := by
  have hpass : pass [] [] name = [] :=
    passFrom_of_none (indexIn_of_size_lt (by simp [length_quoted]))
  simp [maskPass, hpass]

/-- Redacting the empty text gives the empty text. -/
theorem redact_empty (sc : Scanner) : sc.redact "" = "" := by
  have hfold : ∀ names : List (List Char), names.foldl maskPass ([], []) = ([], []) := by
    intro names
    induction names with
    | nil => rfl
    | cons name rest ih => rw [List.foldl_cons, maskPass_nil, ih]
  have hshadow : shadow [] = [] := rfl
  simp [Scanner.redact, Scanner.redactChars, redactNames, hshadow, hfold]

end MaskedLog.Redact

namespace MaskedLog.Log

open MaskedLog.Redact

/-! ### Every part the filter masks -/

/-- The texts a value holds at its top level: itself when it is a text, the
texts among its items when it is a tuple or a list, among its values when it is
a mapping. -/
def shallowTexts : Value → List String
  | .str s => [s]
  | .tuple xs | .list xs => xs.flatMap fun
    | .str s => [s]
    | _ => []
  | .dict es => es.flatMap fun
    | (_, .str s) => [s]
    | _ => []
  | _ => []

@[simp] theorem mem_shallowTexts_tuple {s : String} {xs : List Value} :
    s ∈ shallowTexts (.tuple xs) ↔ .str s ∈ xs := by
  simp only [shallowTexts, List.mem_flatMap]
  constructor
  · rintro ⟨x, hx, hs⟩
    cases x <;> simp_all
  · intro h
    exact ⟨_, h, by simp⟩

@[simp] theorem mem_shallowTexts_dict {s : String} {es : List (Value × Value)} :
    s ∈ shallowTexts (.dict es) ↔ ∃ k, (k, .str s) ∈ es := by
  simp only [shallowTexts, List.mem_flatMap]
  constructor
  · rintro ⟨⟨k, v⟩, he, hs⟩
    cases v <;> simp only [List.mem_singleton, List.not_mem_nil] at hs
    subst hs
    exact ⟨k, he⟩
  · rintro ⟨k, h⟩
    exact ⟨_, h, by simp⟩

/-- What the filter does to arguments: keeps them when they count as false or
have no items, masks the values of a mapping, and masks the items of anything
else, as a tuple. -/
theorem maskArgs_cases (sc : Scanner) (a : Value) :
    (maskArgs sc a = a ∧ (a.truthy = false ∨ a.items? = none)) ∨
      (∃ es, a = .dict es ∧ maskArgs sc a = .dict (es.map fun e => (e.1, maskText sc e.2))) ∨
      (∃ xs, a.items? = some xs ∧ maskArgs sc a = .tuple (xs.map (maskText sc))) := by
  unfold maskArgs
  by_cases ht : a.truthy
  · rw [if_neg (by simp [ht])]
    split
    · exact .inr (.inl ⟨_, rfl, rfl⟩)
    · split
      · rename_i xs hxs
        exact .inr (.inr ⟨xs, hxs, rfl⟩)
      · rename_i hxs
        exact .inl ⟨rfl, .inr hxs⟩
  · have hf : a.truthy = false := by simpa using ht
    rw [if_pos (by simp [hf])]
    exact .inl ⟨rfl, .inl hf⟩

/-- The texts of arguments the filter keeps are empty: such arguments count as
false, so a text among them is the empty text, or they hold no texts at all. -/
theorem eq_empty_of_unmasked {a : Value} (h : a.truthy = false ∨ a.items? = none) :
    ∀ s ∈ shallowTexts a, s = "" := by
  intro s hs
  cases a <;> simp_all [shallowTexts, Value.truthy, Value.items?]

/-- Arguments whose items the filter would leave alone stay as they are, whether
they count as true or not. -/
theorem maskArgs_tuple_of_fixed {ys : List Value} (h : ∀ y ∈ ys, maskText sc y = y) :
    maskArgs sc (.tuple ys) = .tuple ys := by
  unfold maskArgs
  split
  · rfl
  · simp only [Value.items?, Value.tuple.injEq]
    exact List.map_congr_left h |>.trans (List.map_id ys)

theorem maskArgs_dict_of_fixed {es : List (Value × Value)} (h : ∀ e ∈ es, maskText sc e.2 = e.2) :
    maskArgs sc (.dict es) = .dict es := by
  unfold maskArgs
  split
  · rfl
  · simp only [Value.dict.injEq]
    exact List.map_congr_left (fun e he => by rw [h e he]; rfl) |>.trans (List.map_id es)

section Simple

variable {sc : Scanner} (hsc : ∀ f ∈ sc.fields, SimpleName f.toList)
include hsc

theorem maskText_maskText (v : Value) : maskText sc (maskText sc v) = maskText sc v := by
  cases v <;> simp [maskText, redact_redact sc hsc]

theorem maskNonEmpty_maskNonEmpty (v : Value) :
    maskNonEmpty sc (maskNonEmpty sc v) = maskNonEmpty sc v := by
  cases v with
  | str s =>
    by_cases hs : s.isEmpty
    · simp [maskNonEmpty, hs]
    · by_cases hr : (sc.redact s).isEmpty <;> simp [maskNonEmpty, hs, hr, redact_redact sc hsc]
  | _ => rfl

theorem fixed_of_maskNonEmpty {v : Value} {s : String} (h : maskNonEmpty sc v = .str s) :
    sc.redact s = s := by
  cases v with
  | str s' =>
    by_cases hs : s'.isEmpty
    · simp only [maskNonEmpty, hs, if_true, Value.str.injEq] at h
      subst h
      rw [String.isEmpty_iff.mp hs, redact_empty]
    · simp only [maskNonEmpty, hs, Bool.false_eq_true, if_false, Value.str.injEq] at h
      subst h
      exact redact_redact sc hsc s'
  | _ => cases h

theorem fixed_of_maskText {v : Value} {s : String} (h : maskText sc v = .str s) :
    sc.redact s = s := by
  cases v with
  | str s' =>
    simp only [maskText, Value.str.injEq] at h
    subst h
    exact redact_redact sc hsc s'
  | _ => cases h

theorem maskArgs_maskArgs (a : Value) : maskArgs sc (maskArgs sc a) = maskArgs sc a := by
  rcases maskArgs_cases sc a with ⟨ha, -⟩ | ⟨es, -, ha⟩ | ⟨xs, -, ha⟩ <;> rw [ha]
  · exact ha
  · -- masked values are fixed, so a second pass keeps the mapping
    refine maskArgs_dict_of_fixed fun e he => ?_
    obtain ⟨e', -, rfl⟩ := List.mem_map.mp he
    exact maskText_maskText hsc e'.2
  · refine maskArgs_tuple_of_fixed fun y hy => ?_
    obtain ⟨x, -, rfl⟩ := List.mem_map.mp hy
    exact maskText_maskText hsc x

/-- Every text among the filtered arguments is a fixed point. -/
theorem fixed_of_mem_maskArgs (a : Value) :
    ∀ s ∈ shallowTexts (maskArgs sc a), sc.redact s = s := by
  intro s hs
  rcases maskArgs_cases sc a with ⟨ha, hkept⟩ | ⟨es, -, ha⟩ | ⟨xs, -, ha⟩ <;> rw [ha] at hs
  · rw [eq_empty_of_unmasked hkept s hs, redact_empty]
  · obtain ⟨k, hk⟩ := mem_shallowTexts_dict.mp hs
    obtain ⟨e, -, he⟩ := List.mem_map.mp hk
    exact fixed_of_maskText hsc (Prod.mk.inj he).2
  · obtain ⟨x, -, hx⟩ := List.mem_map.mp (mem_shallowTexts_tuple.mp hs)
    exact fixed_of_maskText hsc hx

/-- Filtering twice is filtering once. -/
theorem maskRecord_idem (r : LogRecord) : maskRecord sc (maskRecord sc r) = maskRecord sc r := by
  simp only [maskRecord, maskNonEmpty_maskNonEmpty hsc, maskArgs_maskArgs hsc, List.map_map]
  congr 2
  funext e
  obtain ⟨k, v⟩ := e
  by_cases hk : bodyFields.contains k = true
  · simp only [Function.comp, hk, if_true, maskNonEmpty_maskNonEmpty hsc]
  · simp only [Function.comp, hk, Bool.false_eq_true, if_false]

end Simple

/-! ### The filtered record -/

/-- **Every part the filter masks is a fixed point.** For a scanner of simple
names, the filtered template, every text among the filtered arguments and every
text of a filtered body field is left as it is by the scanner, and filtering
the record again changes nothing. -/
theorem maskRecord_parts_fixed (sc : Scanner) (hsc : ∀ f ∈ sc.fields, SimpleName f.toList)
    (r : LogRecord) :
    let r' := maskRecord sc r
    maskRecord sc r' = r' ∧
      (∀ s, r'.msg = .str s → sc.redact s = s) ∧
      (∀ s ∈ shallowTexts r'.args, sc.redact s = s) ∧
      (∀ k v, (k, v) ∈ r'.extras → k ∈ bodyFields → ∀ s, v = .str s → sc.redact s = s) := by
  intro r'
  refine ⟨maskRecord_idem hsc r, fun s hs => fixed_of_maskNonEmpty hsc hs,
    fixed_of_mem_maskArgs hsc r.args, ?_⟩
  intro k v hkv hk s hv
  obtain ⟨⟨k', v'⟩, -, he⟩ := List.mem_map.mp hkv
  -- the entry came from a body field, so its value was masked
  by_cases hb : bodyFields.contains k'
  · simp only [hb, if_true, Prod.mk.injEq] at he
    exact fixed_of_maskNonEmpty hsc (he.2.trans hv)
  · simp only [hb, Bool.false_eq_true, if_false, Prod.mk.injEq] at he
    rw [he.1] at hb
    exact absurd (List.elem_iff.mpr hk) (by simpa using hb)

/-- A login line with its body as an argument and a password in a body field. -/
def loginRecord : LogRecord :=
  { name := "app", level := 20, msg := .str "login %s",
    args := .tuple [.str "\x7b\"user\":\"bob\",\"password\":\"hunter2\"\x7d", .int 3],
    created := .int 0, extras := [("params", .str "\x7b\"pwd\": \"p\"\x7d")] }

theorem maskRecord_parts_fixed_login :
    (∀ f ∈ Scanner.default.fields, SimpleName f.toList) ∧
      let r' := maskRecord Scanner.default loginRecord
      maskRecord Scanner.default r' = r' ∧
        (∀ s, r'.msg = .str s → Scanner.default.redact s = s) ∧
        (∀ s ∈ shallowTexts r'.args, Scanner.default.redact s = s) ∧
        (∀ k v, (k, v) ∈ r'.extras → k ∈ bodyFields → ∀ s, v = .str s →
          Scanner.default.redact s = s) :=
  ⟨simpleName_defaultFields, maskRecord_parts_fixed _ simpleName_defaultFields loginRecord⟩

/-- A record whose template holds a key and whose argument holds its value. -/
def splitPairRecord : LogRecord :=
  { name := "app", level := 20, msg := .str "\"password\": %s",
    args := .tuple [.str "\"hunter2\""], created := .int 0 }

/-- A key in the template whose value comes as an argument: the filter finds no
value after the key in the template and no key in the argument, and the filled
message holds the password. -/
theorem filtered_message_keeps_split_pair :
    (maskRecord Scanner.default splitPairRecord).message.toOption =
        some "\"password\": \"hunter2\"" ∧
      Scanner.default.redact "\"password\": \"hunter2\"" = "\"password\": \"***\"" := by
  decide +kernel

end MaskedLog.Log

import MaskedLog.Proofs.Harmless
import MaskedLog.Proofs.SizeText
import MaskedLog.Settings.File
/-!
# How building settings fails

Settings are built from a mapping of field names to values: the keys are
checked against the fields, each value is converted to its field's type, and
the constructor's check normalises the result. Every one of these steps fails
on purpose with a report about the settings, except in three places, where a
fault of another kind escapes:

* a key that is no text cannot be listed among the unknown keys (a type fault);
* an integer ratio past the largest double cannot be made a double (an
  overflow);
* a body budget that the size reader fails on with an overflow or with a unit
  missing from its table (the Kelvin sign, or a dotted capital `I`).

`MappingFault` names these three, each with the entry that causes it, and the
main result shows that they are the only faults. Settings loaded without a
file come from the environment's overrides, whose keys are texts: there only
the last two remain, and they come from an override.

## Main definitions

* `Failure.isConfigReport` — a report about the settings or a size setting.
* `MappingFault` — the faults other than a report, with their causes.
* `Settings.Input.Typed` — the constructor's values have the types the check
  reads.

## Main results

* `ofMapping_error` — a failure of settings from a mapping is a report about
  the settings or a `MappingFault` of its entries.
* `loadSettings_none_error` — the same for settings from the environment.
* `settings_fail_by_report_or_mapping_fault` — **building settings fails only
  with a report or a named fault**.
* `ofMapping_huge_ratio_overflows` — a ratio of `10 ^ 394` overflows.

## References

`bodylog/config.py` (`BodyLogConfig.from_dict`, `collect_env_overrides`,
`load_config`) and `bodylog/size.py` (`size_to_bytes`).
-/

namespace MaskedLog

open MaskedLog.Redact MaskedLog.Unicode

/-! ### Reports and faults -/

/-- Whether a failure is a report about the settings, one about a size setting
included. -/
def Failure.isConfigReport : Failure → Bool
  | .report r => r.kind.isConfig
  | _ => false

@[simp] theorem Failure.isConfigReport_config (m : String) (c : List (String × Value)) :
    (Failure.config m c).isConfigReport = true := rfl

@[simp] theorem Failure.isConfigReport_size (m : String) (c : List (String × Value)) :
    (Failure.size m c).isConfigReport = true := rfl

/-- The faults other than a report that building settings from the entries of
a mapping can meet, each with the entry that causes it. -/
inductive MappingFault (es : List (Value × Value)) : Failure → Prop
  /-- A key that is no text cannot be listed among the unknown keys. -/
  | textlessKey {e : Value × Value} : e ∈ es → (∀ k, e.1 ≠ .str k) →
      MappingFault es .wrongType
  /-- An integer ratio past the largest double. -/
  | ratioOverflow {n : Int} : (.str "binary_ratio", .int n) ∈ es →
      (Binary64.ofInt n).isInfinite = true → MappingFault es .overflow
  /-- A body budget that the size reader fails on with a fault. -/
  | budget {v : Value} {f : Failure} : (.str "max_body_size", v) ∈ es →
      Size.parse v = .error f → f = .overflow ∨ f = .missingKey → MappingFault es f

theorem MappingFault.mono {es es' : List (Value × Value)} {f : Failure} (h : MappingFault es f)
    (hsub : ∀ e ∈ es, e ∈ es') : MappingFault es' f := by
  cases h with
  | textlessKey he hk => exact .textlessKey (hsub _ he) hk
  | ratioOverflow he hinf => exact .ratioOverflow (hsub _ he) hinf
  | budget he hparse hf => exact .budget (hsub _ he) hparse hf

/-- Where every key is a text, the fault is an overflow or a missing unit. -/
theorem MappingFault.overflow_or_missingKey {es : List (Value × Value)} {f : Failure}
    (h : MappingFault es f) (hes : ∀ e ∈ es, ∃ s, e.1 = .str s) :
    f = .overflow ∨ f = .missingKey := by
  cases h with
  | textlessKey he hk =>
    obtain ⟨s, hs⟩ := hes _ he
    exact absurd hs (hk s)
  | ratioOverflow => exact .inl rfl
  | budget _ _ hf => exact hf

theorem bind_eq_error {ε α β : Type} {x : Except ε α} {f : α → Except ε β} {e : ε} :
    x >>= f = .error e ↔ x = .error e ∨ ∃ a, x = .ok a ∧ f a = .error e := by
  cases x <;> simp [bind, Except.bind]

/-! ### The size reader -/

theorem Size.scaleDown_error {x : Binary64} {k : Nat} {f : Failure}
    (h : Size.scaleDown x k = .error f) : f = .overflow := by
  unfold Size.scaleDown at h
  split at h
  · dsimp only at h
    split_ifs at h
    cases h
    rfl
  · cases h
    rfl

/-- The size reader fails with a report about the size, an overflow, or a unit
missing from its table. -/
theorem Size.parse_error {v : Value} {f : Failure} (h : Size.parse v = .error f) :
    f.isConfigReport = true ∨ f = .overflow ∨ f = .missingKey := by
  unfold Size.parse at h
  split at h
  · cases h
    exact .inl rfl
  · split at h
    · cases h
      exact .inl rfl
    · cases h
  · dsimp only at h
    split at h
    · cases h
      exact .inl rfl
    · split at h
      · cases h
        exact .inl rfl
      · split at h
        · cases h
          exact .inr (.inr rfl)
        · split at h
          · exact .inr (.inl (Size.scaleDown_error h))
          · cases h
            exact .inl rfl
  · cases h
    exact .inl rfl

/-! ### One field -/

/-- Converting a field's value fails with a report about the settings, or with
an overflow for an integer ratio past the largest double. -/
theorem convertSetting_error {key : String} {v : Value} {f : Failure}
    (h : convertSetting key v = .error f) :
    f.isConfigReport = true ∨ key = "binary_ratio" ∧ f = .overflow ∧
      ∃ n, v = .int n ∧ (Binary64.ofInt n).isInfinite = true := by
  unfold convertSetting at h
  dsimp only at h
  split_ifs at h with hlist hswitch hlength htext hratio
  · split at h <;> (try split_ifs at h) <;> cases h <;> exact .inl rfl
  · split at h
    · cases h
    · cases h
      exact .inl rfl
  · split at h
    · cases h
    · cases h
      exact .inl rfl
  · split at h <;> (try split_ifs at h) <;> cases h <;> exact .inl rfl
  · -- the ratio: only an integer can fail other than by a report
    split at h
    · rename_i n
      split_ifs at h with hinf
      cases h
      exact .inr ⟨beq_iff_eq.mp hratio, rfl, n, rfl, hinf⟩
    · cases h
    · cases h
      exact .inl rfl

/-- A name list is converted to a tuple of texts. -/
theorem convertSetting_list {key : String} {v c : Value} (hkey : listKeys.contains key = true)
    (h : convertSetting key v = .ok c) : ∃ xs, c = .tuple xs ∧ allTexts xs = true := by
  unfold convertSetting at h
  dsimp only at h
  rw [if_pos hkey] at h
  split at h
  · cases h
    exact ⟨[], rfl, rfl⟩
  · cases h
    exact ⟨_, rfl, rfl⟩
  · split_ifs at h with hall
    cases h
    exact ⟨_, rfl, hall⟩
  · split_ifs at h with hall
    cases h
    exact ⟨_, rfl, hall⟩
  · cases h

/-- The ratio is converted to a double. -/
theorem convertSetting_ratio {v c : Value} (h : convertSetting "binary_ratio" v = .ok c) :
    ∃ x, c = .float x := by
  unfold convertSetting at h
  dsimp only at h
  rw [if_neg (by decide), if_neg (by decide), if_neg (by decide), if_neg (by decide),
    if_pos (by decide)] at h
  split at h
  · split_ifs at h
    cases h
    exact ⟨_, rfl⟩
  · cases h
    exact ⟨_, rfl⟩
  · cases h

/-- The minimum length is kept only as an integer. -/
theorem convertSetting_minLength {v c : Value} (h : convertSetting "binary_min_length" v = .ok c) :
    ∃ n, c = .int n := by
  unfold convertSetting at h
  dsimp only at h
  rw [if_neg (by decide), if_neg (by decide), if_pos (by decide)] at h
  split at h
  · cases h
    exact ⟨_, rfl⟩
  · cases h

/-- The body budget is kept as it is, to be read by the size reader. -/
theorem convertSetting_budget (v : Value) : convertSetting "max_body_size" v = .ok v := by
  unfold convertSetting
  dsimp only
  rw [if_neg (by decide), if_neg (by decide), if_neg (by decide), if_neg (by decide),
    if_neg (by decide)]

/-! ### The constructor's values -/

/-- The constructor's values have the types its check reads: tuples for the
name lists (of texts for the content types), a double for the ratio and an
integer for the minimum length. -/
structure Settings.Input.Typed (i : Settings.Input) : Prop where
  fields : ∃ xs, i.sensitiveFields = .tuple xs
  skipped : ∃ xs, i.skipContentTypes = .tuple xs ∧ allTexts xs = true
  paths : ∃ xs, i.skipPaths = .tuple xs
  ratio : ∃ x, i.binaryRatio = .float x
  minLength : ∃ n, i.binaryMinLength = .int n

theorem Settings.Input.typed_default : ({} : Settings.Input).Typed :=
  ⟨⟨_, rfl⟩, ⟨_, rfl, by decide⟩, ⟨_, rfl⟩, ⟨_, rfl⟩, ⟨_, rfl⟩⟩

/-- Setting a field to its converted value keeps the types. -/
theorem Settings.Input.Typed.set {i : Settings.Input} {key : String} {v c : Value}
    (hi : i.Typed) (h : convertSetting key v = .ok c) : ((i.set? key c).getD i).Typed := by
  unfold Settings.Input.set?
  split
  · obtain ⟨xs, hc, -⟩ := convertSetting_list (by decide) h
    exact ⟨⟨xs, hc⟩, hi.2, hi.3, hi.4, hi.5⟩
  · exact ⟨hi.1, hi.2, hi.3, hi.4, hi.5⟩
  · exact ⟨hi.1, hi.2, hi.3, hi.4, hi.5⟩
  · exact ⟨hi.1, hi.2, hi.3, hi.4, hi.5⟩
  · exact ⟨hi.1, convertSetting_list (by decide) h, hi.3, hi.4, hi.5⟩
  · exact ⟨hi.1, hi.2, hi.3, convertSetting_ratio h, hi.5⟩
  · exact ⟨hi.1, hi.2, hi.3, hi.4, convertSetting_minLength h⟩
  · exact ⟨hi.1, hi.2, hi.3, hi.4, hi.5⟩
  · obtain ⟨xs, hc, -⟩ := convertSetting_list (by decide) h
    exact ⟨hi.1, hi.2, ⟨xs, hc⟩, hi.4, hi.5⟩
  · exact ⟨hi.1, hi.2, hi.3, hi.4, hi.5⟩
  · exact hi

/-- Setting a field other than the body budget keeps the budget; setting the
budget keeps the entry's value as it is. -/
theorem Settings.Input.set_budget (i : Settings.Input) (key : String) (v : Value) :
    ((i.set? key v).getD i).maxBodySize = i.maxBodySize ∨
      key = "max_body_size" ∧ ((i.set? key v).getD i).maxBodySize = v := by
  unfold Settings.Input.set?
  -- every field but the budget is another projection
  split <;> first | exact .inl rfl | exact .inr ⟨rfl, rfl⟩

/-! ### A run over the entries -/

theorem setEntry_error {i : Settings.Input} {e : Value × Value} {f : Failure}
    (h : setEntry i e = .error f) : convertSetting e.1.display e.2 = .error f := by
  simp only [setEntry, bind_eq_error] at h
  rcases h with h | ⟨_, -, h⟩
  · exact h
  · cases h

theorem setEntry_ok {i j : Settings.Input} {e : Value × Value} (h : setEntry i e = .ok j) :
    ∃ c, convertSetting e.1.display e.2 = .ok c ∧ j = (i.set? e.1.display c).getD i := by
  simp only [setEntry, bind_eq_ok] at h
  obtain ⟨c, hc, h⟩ := h
  cases h
  exact ⟨c, hc, rfl⟩

/-- A run over the entries keeps the types of the constructor's values. -/
theorem Settings.Input.Typed.foldlM_setEntry {es : List (Value × Value)} {i j : Settings.Input}
    (hi : i.Typed) (h : es.foldlM setEntry i = .ok j) : j.Typed := by
  induction es generalizing i with
  | nil =>
    cases h
    exact hi
  | cons e es ih =>
    rw [List.foldlM_cons, bind_eq_ok] at h
    obtain ⟨i', hstep, hrest⟩ := h
    obtain ⟨c, hc, rfl⟩ := setEntry_ok hstep
    exact ih (hi.set hc) hrest

/-- After a run over the entries, the body budget is the one before or the
value of an entry whose key reads as the budget's. -/
theorem foldlM_setEntry_budget {es : List (Value × Value)} {i j : Settings.Input}
    (h : es.foldlM setEntry i = .ok j) :
    j.maxBodySize = i.maxBodySize ∨
      ∃ k, (k, j.maxBodySize) ∈ es ∧ k.display = "max_body_size" := by
  induction es generalizing i with
  | nil =>
    cases h
    exact .inl rfl
  | cons e es ih =>
    rw [List.foldlM_cons, bind_eq_ok] at h
    obtain ⟨i', hstep, hrest⟩ := h
    obtain ⟨c, hc, rfl⟩ := setEntry_ok hstep
    rcases ih hrest with hsame | ⟨k, hk, hkey⟩
    · rcases Settings.Input.set_budget i e.1.display c with hkeep | ⟨hkey, hset⟩
      · exact .inl (hsame.trans hkeep)
      · -- this entry set the budget, to its value as it is
        rw [hkey, convertSetting_budget] at hc
        cases hc
        refine .inr ⟨e.1, ?_, hkey⟩
        rw [hsame, hset]
        exact List.mem_cons_self ..
    · exact .inr ⟨k, List.mem_cons_of_mem _ hk, hkey⟩

/-- A run over the entries fails with a report about the settings, or with an
overflow for an entry that reads as the ratio and holds an integer past the
largest double. -/
theorem foldlM_setEntry_error {es : List (Value × Value)} {i : Settings.Input} {f : Failure}
    (h : es.foldlM setEntry i = .error f) :
    f.isConfigReport = true ∨ f = .overflow ∧ ∃ k n, (k, .int n) ∈ es ∧
      k.display = "binary_ratio" ∧ (Binary64.ofInt n).isInfinite = true := by
  induction es generalizing i with
  | nil => cases h
  | cons e es ih =>
    rw [List.foldlM_cons, bind_eq_error] at h
    rcases h with hstep | ⟨i', -, hrest⟩
    · rcases convertSetting_error (setEntry_error hstep) with hrep | ⟨hkey, rfl, n, hn, hinf⟩
      · exact .inl hrep
      · refine .inr ⟨rfl, e.1, n, ?_, hkey, hinf⟩
        rw [← hn]
        exact List.mem_cons_self ..
    · rcases ih hrest with hrep | ⟨hf, k, n, hk, hkey, hinf⟩
      · exact .inl hrep
      · exact .inr ⟨hf, k, n, List.mem_cons_of_mem _ hk, hkey, hinf⟩

/-! ### The constructor's check -/

theorem normalizeName_error {v : Value} {f : Failure} (h : normalizeName v = .error f) :
    f.isConfigReport = true := by
  unfold normalizeName at h
  split at h
  · dsimp only at h
    split_ifs at h <;> cases h <;> rfl
  · cases h
    rfl

/-- Normalising field names fails only with a report about the settings. -/
theorem normalizeNames_error {xs : List Value} {acc : List String} {f : Failure}
    (h : xs.foldlM (fun acc v => insertNew acc <$> normalizeName v) acc = .error f) :
    f.isConfigReport = true := by
  induction xs generalizing acc with
  | nil => cases h
  | cons v vs ih =>
    rw [List.foldlM_cons, bind_eq_error] at h
    rcases h with h | ⟨acc', -, h⟩
    · rcases hn : normalizeName v with f' | n
      · rw [hn] at h
        cases h
        exact normalizeName_error hn
      · rw [hn] at h
        cases h
    · exact ih h

theorem normalizeFields_tuple_error {xs : List Value} {f : Failure}
    (h : normalizeFields (.tuple xs) = .error f) : f.isConfigReport = true :=
  normalizeNames_error h

theorem mapM_lowerItem_ok {xs : List Value} (h : allTexts xs = true) :
    ∃ ys, xs.mapM lowerItem = .ok ys := by
  induction xs with
  | nil => exact ⟨[], rfl⟩
  | cons x xs ih =>
    simp only [allTexts, List.all_cons, Bool.and_eq_true] at h
    obtain ⟨ys, hys⟩ := ih h.2
    cases x with
    | str s => exact ⟨.str (lowerString s) :: ys, by simp [List.mapM_cons, lowerItem, hys]⟩
    | _ => simp at h

/-- The constructor's check of values with their types fails with a report
about the settings, or with what the size reader fails with on the body
budget. -/
theorem Settings.Input.Typed.check_error {i : Settings.Input} {f : Failure} (hi : i.Typed)
    (h : i.check = .error f) : f.isConfigReport = true ∨ Size.parse i.maxBodySize = .error f := by
  obtain ⟨fs, hfs⟩ := hi.fields
  obtain ⟨ts, hts, htexts⟩ := hi.skipped
  obtain ⟨ps, hps⟩ := hi.paths
  obtain ⟨x, hx⟩ := hi.ratio
  obtain ⟨n, hn⟩ := hi.minLength
  obtain ⟨lts, hlts⟩ := mapM_lowerItem_ok htexts
  -- the comparisons of the ratio and the minimum length are with numbers
  obtain ⟨low, hlow⟩ := Value.le_ok (a := .float (Binary64.zero false)) (b := .float x) rfl rfl
  obtain ⟨high, hhigh⟩ := Value.le_ok (a := .float x) (b := .float (Binary64.ofInt 1)) rfl rfl
  obtain ⟨neg, hneg⟩ := Value.lt_ok (a := .int n) (b := .int 0) rfl rfl
  have hwalk : ∀ xs, walk (.tuple xs) = .ok xs := fun _ => rfl
  simp only [Settings.Input.check, hfs, hts, hps, hx, hn, hwalk, hlts, hlow, hhigh, hneg,
    ok_bind] at h
  rw [bind_eq_error] at h
  rcases h with h | ⟨names, -, h⟩
  · exact .inl (normalizeFields_tuple_error h)
  rw [bind_eq_error] at h
  rcases h with h | ⟨budget, -, h⟩
  · exact .inr h
  · -- the guards on the ratio and the minimum length throw only reports
    left
    cases low <;> cases high <;> cases neg <;>
      simp [throw, throwThe, MonadExceptOf.throw, pure, Except.pure, bind, Except.bind] at h <;>
      (subst h; rfl)

/-! ### The keys -/

theorem mapM_except_error {α β ε : Type} {g : α → Except ε β} {xs : List α} {e : ε}
    (h : xs.mapM g = .error e) : ∃ x ∈ xs, g x = .error e := by
  induction xs with
  | nil => cases h
  | cons x xs ih =>
    rw [List.mapM_cons, bind_eq_error] at h
    rcases h with h | ⟨y, -, h⟩
    · exact ⟨x, List.mem_cons_self .., h⟩
    · rw [bind_eq_error] at h
      rcases h with h | ⟨ys, -, h⟩
      · obtain ⟨x', hx', hg⟩ := ih h
        exact ⟨x', List.mem_cons_of_mem _ hx', hg⟩
      · cases h

theorem mapM_except_ok {α β ε : Type} {g : α → Except ε β} {xs : List α} {ys : List β}
    (h : xs.mapM g = .ok ys) : ∀ x ∈ xs, ∃ y, g x = .ok y := by
  induction xs generalizing ys with
  | nil => simp
  | cons x xs ih =>
    rw [List.mapM_cons, bind_eq_ok] at h
    obtain ⟨y, hy, h⟩ := h
    rw [bind_eq_ok] at h
    obtain ⟨ys', hys', -⟩ := h
    intro x' hx'
    rcases List.mem_cons.mp hx' with rfl | hx'
    · exact ⟨y, hy⟩
    · exact ih hys' x' hx'

/-- The unknown keys cannot be listed only when a key is no text. -/
theorem unknownKeys_error {keys : List Value} {f : Failure} (h : unknownKeys keys = .error f) :
    f = .wrongType ∧ ∃ k ∈ keys, ∀ s, k ≠ .str s := by
  simp only [unknownKeys, bind_eq_error] at h
  rcases h with h | ⟨_, -, h⟩
  · obtain ⟨k, hk, hg⟩ := mapM_except_error h
    have hkeys := (List.mem_filter.mp hk).1
    cases k with
    | str s => cases hg
    | _ =>
      cases hg
      exact ⟨rfl, _, hkeys, fun _ => Value.noConfusion⟩
  · cases h

/-- When the unknown keys can be listed, every key is a text. -/
theorem unknownKeys_ok {keys : List Value} {u : List String} (h : unknownKeys keys = .ok u) :
    ∀ k ∈ keys, ∃ s, k = .str s := by
  simp only [unknownKeys, bind_eq_ok] at h
  obtain ⟨names, hnames, -⟩ := h
  intro k hk
  cases k with
  | str s => exact ⟨s, rfl⟩
  | _ =>
    -- a key that is no text is among the unknown ones, where listing it fails
    obtain ⟨y, hy⟩ := mapM_except_ok hnames _ (List.mem_filter.mpr ⟨hk, rfl⟩)
    cases hy

/-! ### Settings from a mapping -/

/-- A text key that reads as a name is that name. -/
theorem eq_str_of_display {k : Value} {s name : String} (hk : k = .str s)
    (h : k.display = name) : k = .str name := by
  subst hk
  exact congrArg Value.str h

theorem ofMapping_error {d : Value} {f : Failure} (h : Settings.ofMapping d = .error f) :
    f.isConfigReport = true ∨ ∃ es, d = .dict es ∧ MappingFault es f := by
  cases d
  case none =>
    rw [Settings.ofMapping, Settings.default_eq] at h
    cases h
  case dict es =>
    simp only [Settings.ofMapping, bind_eq_error] at h
    rcases h with h | ⟨u, hu, h⟩
    · obtain ⟨rfl, k, hk, hnot⟩ := unknownKeys_error h
      obtain ⟨e, he, rfl⟩ := List.mem_map.mp hk
      exact .inr ⟨es, rfl, .textlessKey he hnot⟩
    have htext : ∀ k v, (k, v) ∈ es → ∃ s, k = .str s :=
      fun k _ he => unknownKeys_ok hu k (List.mem_map_of_mem he)
    split at h
    case isFalse =>
      -- the unknown keys are reported
      simp only [throw, throwThe, MonadExceptOf.throw, bind, Except.bind] at h
      cases h
      exact .inl rfl
    rw [bind_eq_error] at h
    rcases h with h | ⟨i, hi, h⟩
    · rcases foldlM_setEntry_error h with hrep | ⟨rfl, k, n, hk, hkey, hinf⟩
      · exact .inl hrep
      · obtain ⟨s, hs⟩ := htext _ _ hk
        rw [eq_str_of_display hs hkey] at hk
        exact .inr ⟨es, rfl, .ratioOverflow hk hinf⟩
    · rcases (Settings.Input.typed_default.foldlM_setEntry hi).check_error h with hrep | hparse
      · exact .inl hrep
      rcases Size.parse_error hparse with hrep | hf
      · exact .inl hrep
      rcases foldlM_setEntry_budget hi with hdefault | ⟨k, hk, hkey⟩
      · -- the default budget is read without failing
        rw [hdefault] at hparse
        cases hparse
      · obtain ⟨s, hs⟩ := htext _ _ hk
        rw [eq_str_of_display hs hkey] at hk
        exact .inr ⟨es, rfl, .budget hk hparse hf⟩
  all_goals
    cases h
    exact .inl rfl

/-- An integer ratio past the largest double makes settings from a mapping fail
with an overflow, not with a report. -/
theorem ofMapping_ratio_overflow {n : Int} (h : (Binary64.ofInt n).isInfinite = true) :
    Settings.ofMapping (.dict [(.str "binary_ratio", .int n)]) = .error .overflow := by
  have hkeys : unknownKeys [.str "binary_ratio"] = .ok [] := by
    simp [unknownKeys, settingsKeys]
  have hconv : convertSetting "binary_ratio" (.int n) = .error .overflow := by
    unfold convertSetting
    dsimp only
    rw [if_neg (by decide), if_neg (by decide), if_neg (by decide), if_neg (by decide),
      if_pos (by decide), if_pos h]
  simp [Settings.ofMapping, hkeys, setEntry, Value.display, hconv]

/-! ### Settings from the environment -/

/-- Putting an override into entries whose keys are texts adds or replaces the
entry of its key. -/
theorem mem_putText {es : List (Value × Value)} {k : String} {v : Value} {e : Value × Value}
    (hes : ∀ e ∈ es, ∃ s, e.1 = .str s) (he : e ∈ putText es k v) :
    e ∈ es ∨ e = (.str k, v) := by
  unfold putText at he
  split at he
  · obtain ⟨e', he', rfl⟩ := List.mem_map.mp he
    split
    · rename_i hsame
      obtain ⟨s, hs⟩ := hes e' he'
      rw [hs] at hsame ⊢
      simp only [Value.same, beq_iff_eq] at hsame
      exact .inr (by rw [hsame])
    · exact .inl he'
  · rcases List.mem_append.mp he with he | he
    · exact .inl he
    · exact .inr (List.mem_singleton.mp he)

/-- Putting overrides one after another into entries drawn from the overrides
keeps every entry one of them. -/
theorem mem_foldl_putText {ps L : List (String × Value)} {acc : List (Value × Value)}
    (hps : ∀ p ∈ ps, p ∈ L) (hacc : ∀ e ∈ acc, e ∈ L.map fun p => (.str p.1, p.2)) :
    ∀ e ∈ ps.foldl (fun es (k, v) => putText es k v) acc,
      e ∈ L.map fun p => (.str p.1, p.2) := by
  induction ps generalizing acc with
  | nil => exact hacc
  | cons p ps ih =>
    obtain ⟨k, v⟩ := p
    apply ih (fun q hq => hps q (List.mem_cons_of_mem _ hq))
    intro e he
    have htexts : ∀ e ∈ acc, ∃ s, e.1 = .str s := by
      intro e he
      obtain ⟨q, -, rfl⟩ := List.mem_map.mp (hacc e he)
      exact ⟨q.1, rfl⟩
    rcases mem_putText htexts he with he | rfl
    · exact hacc e he
    · exact List.mem_map.mpr ⟨(k, v), hps _ (List.mem_cons_self ..), rfl⟩

/-- Without a file, settings are built from the environment's overrides alone. -/
theorem loadSettings_none_entries (load : YamlLoader) (env : Environment) (pre : String)
    (useEnv : Bool) :
    ∃ es, loadSettings load none env pre useEnv = Settings.ofMapping (.dict es) ∧
      ∀ e ∈ es, e ∈ (envOverrides env pre).map fun p => (.str p.1, p.2) := by
  refine ⟨_, rfl, ?_⟩
  split
  · exact mem_foldl_putText (fun p hp => hp) (by simp)
  · simp

theorem loadSettings_none_error {load : YamlLoader} {env : Environment} {pre : String}
    {useEnv : Bool} {f : Failure} (h : loadSettings load none env pre useEnv = .error f) :
    f.isConfigReport = true ∨
      MappingFault ((envOverrides env pre).map fun p => (.str p.1, p.2)) f := by
  obtain ⟨es, hload, hsub⟩ := loadSettings_none_entries load env pre useEnv
  rw [hload] at h
  rcases ofMapping_error h with hrep | ⟨es', hes, hfault⟩
  · exact .inl hrep
  · cases hes
    exact .inr (hfault.mono hsub)

/-! ### The failures of building settings -/

/-- Settings from a mapping, or from the environment without a file, are built
or fail with a report about the settings, or with one of the faults a
`MappingFault` names, caused by an entry of the mapping; from the environment
that fault is an overflow or a missing unit, caused by an override. Without a
file the YAML reader is never called, so this holds for every reader. -/
theorem settings_fail_by_report_or_mapping_fault (d : Value) (load : YamlLoader)
    (env : Environment) (pre : String) (useEnv : Bool) :
    ((∃ s, Settings.ofMapping d = .ok s) ∨
      ∃ f, Settings.ofMapping d = .error f ∧
        (f.isConfigReport = true ∨ ∃ es, d = .dict es ∧ MappingFault es f)) ∧
    ((∃ s, loadSettings load none env pre useEnv = .ok s) ∨
      ∃ f, loadSettings load none env pre useEnv = .error f ∧
        (f.isConfigReport = true ∨ (f = .overflow ∨ f = .missingKey) ∧
          MappingFault ((envOverrides env pre).map fun p => (Value.str p.1, p.2)) f)) := by
  constructor
  · rcases hd : Settings.ofMapping d with f | s
    · exact .inr ⟨f, rfl, ofMapping_error hd⟩
    · exact .inl ⟨s, rfl⟩
  · rcases hload : loadSettings load none env pre useEnv with f | s
    · refine .inr ⟨f, rfl, ?_⟩
      rcases loadSettings_none_error hload with hrep | hfault
      · exact .inl hrep
      · -- the overrides' keys are texts, so no key fault is among them
        have htexts : ∀ e ∈ (envOverrides env pre).map fun p => (Value.str p.1, p.2),
            ∃ s, e.1 = .str s := by
          intro e he
          obtain ⟨p, -, rfl⟩ := List.mem_map.mp he
          exact ⟨p.1, rfl⟩
        exact .inr ⟨hfault.overflow_or_missingKey htexts, hfault⟩
    · exact .inl ⟨s, rfl⟩

set_option maxRecDepth 8000 in
/-- A ratio of `10 ^ 394` is an integer past the largest double: settings from a
mapping that holds it fail with an overflow, which is no report. -/
theorem ofMapping_huge_ratio_overflows :
    Settings.ofMapping (.dict [(.str "binary_ratio", .int (Int.ofNat (Nat.pow 10 394)))]) =
      .error .overflow :=
  ofMapping_ratio_overflow (by decide)

end MaskedLog

import MaskedLog.Log.Json
import MaskedLog.Proofs.Offset
/-!
# Flat JSON objects in ASCII

A flat JSON object written in ASCII only, the way a JSON writer escapes it:
every character of a key or a text outside printable ASCII becomes `\uXXXX`,
quotes and backslashes take a backslash, and items and keys are separated by
the standard `, ` and `: ` or the compact `,` and `:`. This module writes such
an object as characters and reads it the way a pass of the scanner does.

Inside a written text every quote follows a backslash, and a scan by the
backslash rule passes over the text to its closing quote. Numbers, truth values
and nulls hold no quote and no blank. So after a key's closing quote the scan
reads the colon, the blanks and, for a text value, exactly that value. A quote
that follows a closer (a character that is no brace, comma, blank, colon,
backslash or quote) closes a key or a text value, and the value search after
it finds a text value of the object or nothing.

## Main definitions

* `asciiEscape`, `asciiQuote` — a JSON string in ASCII only.
* `Separators`, `flatText`, `dumpsFlat` — a flat object as JSON text.
* `escChars`, `entryChars`, `restChars` — the same text as characters.
* `Transparent` — characters a scan by the backslash rule passes over.
* `Bare`, `BareText` — the characters of numbers, truth values and nulls.
* `Closer`, `Closes` — a quote right after a closer.
* `MasksTo` — the value search finds a text value, and masking it gives a text.

## Main results

* `dumpsFlat_toList` — the object's text, entry by entry.
* `closingQuote_escChars` — the scan of a written text stops at its closing quote.
* `valueAfter_keySep` — what the value search finds after a key's closing quote.
* `closes_entry` — a quote after a closer closes a key or a text value.
* `valueAfter_of_closes` — after such a quote the value search finds a text
  value of the object, which masking turns into the mask, or nothing.

## References

Python's `json.dumps`, in which the bodies that `bodylog/redact/scanner.py`
redacts are written.
-/

namespace MaskedLog.Redact

open MaskedLog.Text MaskedLog.Unicode

/-! ### Flat objects as JSON text -/

/-- One character of a JSON string written in ASCII only: printable ASCII as it
is, with the quote and the backslash escaped, the short escapes, and every other
character as `\uXXXX`, a character past U+FFFF as two surrogates. -/
def asciiEscape (c : Char) : String :=
  let n := c.toNat
  if n < 0x7f then jsonEscape c
  else if n < 0x10000 then "\\u" ++ hexDigits 4 n
  else
    "\\u" ++ hexDigits 4 (0xD800 + (n - 0x10000) / 0x400) ++
      "\\u" ++ hexDigits 4 (0xDC00 + (n - 0x10000) % 0x400)

/-- A JSON string written in ASCII only. -/
def asciiQuote (s : String) : String := "\"" ++ String.join (s.toList.map asciiEscape) ++ "\""

/-- The separators a writer puts between items and after keys. -/
structure Separators where
  item : String
  key : String

/-- The standard separators, `, ` and `: `. -/
def Separators.standard : Separators := ⟨", ", ": "⟩

/-- The compact separators, `,` and `:`. -/
def Separators.compact : Separators := ⟨",", ":"⟩

/-- The JSON text of a flat value, texts in ASCII only. -/
def flatText : Value → String
  | .str s => asciiQuote s
  | .int n => toString n
  | .float x => x.render FloatLayout.json
  | .bool b => if b then "true" else "false"
  | _ => "null"

/-- A flat object written as JSON in ASCII only, its entries in order. -/
def dumpsFlat (sep : Separators) (d : List (String × Value)) : String :=
  "\x7b" ++ sep.item.intercalate (d.map fun e => asciiQuote e.1 ++ sep.key ++ flatText e.2) ++
    "\x7d"

/-! ### The same text as characters -/

/-- The interior of a JSON string written in ASCII only. -/
def escChars (s : List Char) : List Char := s.flatMap fun c => (asciiEscape c).toList

theorem asciiQuote_toList (s : String) :
    (asciiQuote s).toList = '"' :: escChars s.toList ++ ['"'] := by
  simp [asciiQuote, escChars, List.flatMap, Function.comp_def]

/-- One entry of a flat object: the key, the key separator and the value. -/
def entryChars (sep : Separators) (e : String × Value) : List Char :=
  (asciiQuote e.1).toList ++ sep.key.toList ++ (flatText e.2).toList

/-- The entries of a flat object from one on, the first after `lead` and each
later one after the item separator, then the closing brace. -/
def restChars (sep : Separators) (lead : List Char) : List (String × Value) → List Char
  | [] => ['}']
  | e :: rest => lead ++ entryChars sep e ++ restChars sep sep.item.toList rest

theorem intercalate_entries (sep : Separators) (e : String × Value) (rest : List (String × Value)) :
    (sep.item.intercalate ((e :: rest).map fun e => asciiQuote e.1 ++ sep.key ++ flatText e.2)).toList
      ++ ['}'] = entryChars sep e ++ restChars sep sep.item.toList rest := by
  induction rest generalizing e with
  | nil => simp [entryChars, restChars]
  | cons e' rest ih =>
    have h := ih e'
    rw [List.map_cons] at h
    rw [List.map_cons, List.map_cons, String.intercalate_cons_cons, String.toList_append,
      String.toList_append, List.append_assoc, List.append_assoc, h]
    simp [entryChars, restChars]

/-- The text of a flat object, entry by entry. -/
theorem dumpsFlat_toList (sep : Separators) (d : List (String × Value)) :
    (dumpsFlat sep d).toList = '{' :: restChars sep [] d := by
  cases d with
  | nil => simp [dumpsFlat, restChars]
  | cons e rest =>
    have hclose : ("\x7d" : String).toList = ['}'] := by simp
    rw [dumpsFlat, String.toList_append, String.toList_append, List.append_assoc, hclose,
      intercalate_entries]
    simp [restChars]

/-! ### Characters a scan passes over -/

/-- Characters a scan by the backslash rule passes over: plain characters, and
backslashes each with the character it consumes. -/
inductive Transparent : List Char → Prop
  | nil : Transparent []
  | plain {c : Char} {rest : List Char} :
      c ≠ '"' → c ≠ '\\' → Transparent rest → Transparent (c :: rest)
  | escape (c : Char) {rest : List Char} : Transparent rest → Transparent ('\\' :: c :: rest)

theorem Transparent.append {l l' : List Char} (h : Transparent l) (h' : Transparent l') :
    Transparent (l ++ l') := by
  induction h with
  | nil => exact h'
  | plain hq hb _ ih => exact .plain hq hb ih
  | escape c _ ih => exact .escape c ih

theorem transparent_of_forall {l : List Char} (h : ∀ c ∈ l, c ≠ '"' ∧ c ≠ '\\') :
    Transparent l := by
  induction l with
  | nil => exact .nil
  | cons c rest ih =>
    obtain ⟨hq, hb⟩ := h c List.mem_cons_self
    exact .plain hq hb (ih fun x hx => h x (List.mem_cons_of_mem _ hx))

/-- A quote among transparent characters is one that a backslash consumes. -/
theorem Transparent.quote {l : List Char} (h : Transparent l) {j : Nat} (hj : l[j]? = some '"') :
    0 < j ∧ l[j - 1]? = some '\\' := by
  induction h generalizing j with
  | nil => simp at hj
  | plain hq _ _ ih =>
    cases j with
    | zero => exact absurd (Option.some.inj hj) hq
    | succ j =>
      obtain ⟨hpos, hprev⟩ := ih hj
      refine ⟨by omega, ?_⟩
      rw [show j + 1 - 1 = (j - 1) + 1 by omega, List.getElem?_cons_succ]
      exact hprev
  | escape c _ ih =>
    match j, hj with
    | 0, hj => simp at hj
    | 1, _ => exact ⟨by omega, rfl⟩
    | j + 2, hj =>
      obtain ⟨hpos, hprev⟩ := ih hj
      refine ⟨by omega, ?_⟩
      rw [show j + 2 - 1 = (j - 1) + 1 + 1 by omega, List.getElem?_cons_succ,
        List.getElem?_cons_succ]
      exact hprev

/-- A scan by the backslash rule passes over transparent characters. -/
theorem closingQuote_transparent {l : List Char} (h : Transparent l) (y : List Char) :
    closingQuote (l ++ y).toArray 0 = (closingQuote y.toArray 0).map (· + l.length) := by
  induction h with
  | nil => simp
  | @plain c rest hq hb _ ih =>
    have hshift := closingQuote_shift (t := (rest ++ y).toArray) (u := (c :: (rest ++ y)).toArray)
      (d := 1) (fun k => by simp) 0
    rw [List.cons_append, closingQuote_of_plain (c := c) (by simp) hq (fun h => absurd h hb),
      hshift, ih, Option.map_map]
    rfl
  | @escape c rest _ ih =>
    have hshift := closingQuote_shift (t := (rest ++ y).toArray)
      (u := ('\\' :: c :: (rest ++ y)).toArray) (d := 2) (fun k => by simp) 0
    rw [List.cons_append, List.cons_append, closingQuote_of_escape (by simp) (by simp), hshift, ih,
      Option.map_map]
    rfl

/-! ### The characters of an escape -/

theorem mem_toDigitsCore {b fuel n : Nat} {cs : List Char} {c : Char}
    (hc : c ∈ cs → ∃ k, c = Nat.digitChar k) (h : c ∈ Nat.toDigitsCore b fuel n cs) :
    ∃ k, c = Nat.digitChar k := by
  induction fuel generalizing n cs with
  | zero => exact hc h
  | succ fuel ih =>
    rw [Nat.toDigitsCore] at h
    split at h
    · rcases List.mem_cons.mp h with rfl | h
      · exact ⟨_, rfl⟩
      · exact hc h
    · refine ih (fun h' => ?_) h
      rcases List.mem_cons.mp h' with rfl | h'
      · exact ⟨_, rfl⟩
      · exact hc h'

/-- The digits a number is written with, and the star of a digit past `f`. -/
def hexChars : List Char := ['0', '1', '2', '3', '4', '5', '6', '7', '8', '9', 'a', 'b', 'c', 'd',
  'e', 'f', '*']

/-- The characters that follow the backslash of an escape. -/
def escapeTail : List Char := '"' :: '\\' :: 'n' :: 'r' :: 't' :: 'b' :: 'f' :: 'u' :: hexChars

theorem digitChar_mem (k : Nat) : Nat.digitChar k ∈ hexChars := by
  by_cases hk : 16 ≤ k
  · rw [Nat.digitChar_eq_star.mpr hk]
    simp [hexChars]
  · have hsmall : ∀ j, j < 16 → Nat.digitChar j ∈ hexChars := by decide
    exact hsmall k (by omega)

theorem mem_toDigits {b n : Nat} {c : Char} (h : c ∈ Nat.toDigits b n) : c ∈ hexChars := by
  obtain ⟨k, rfl⟩ := mem_toDigitsCore (by simp) h
  exact digitChar_mem k

theorem mem_hexDigits {w n : Nat} {c : Char} (h : c ∈ (hexDigits w n).toList) : c ∈ hexChars := by
  simp only [hexDigits, String.toList_ofList, List.mem_append, List.mem_replicate] at h
  rcases h with ⟨-, rfl⟩ | h
  · simp [hexChars]
  · exact mem_toDigits h

/-- A property of every character of a list, decided along the list and never over
all characters. -/
theorem forall_mem_of_decide {p : Char → Prop} [DecidablePred p] {l : List Char}
    (h : @decide (∀ c ∈ l, p c) (List.decidableBAll p l) = true) : ∀ c ∈ l, p c :=
  @of_decide_eq_true _ (List.decidableBAll p l) h

theorem hexChars_plain : ∀ c ∈ hexChars, c ≠ '"' ∧ c ≠ '\\' := forall_mem_of_decide rfl

theorem hexChars_sub_escapeTail : ∀ c ∈ hexChars, c ∈ escapeTail := forall_mem_of_decide rfl

theorem transparent_hexDigits (w n : Nat) : Transparent (hexDigits w n).toList :=
  transparent_of_forall fun _ hc => hexChars_plain _ (mem_hexDigits hc)

/-- A `\u` escape: a backslash, then transparent characters of an escape. -/
theorem unicodeEscape_shape (w n : Nat) :
    Transparent (hexDigits w n).toList ∧ ∀ x ∈ 'u' :: (hexDigits w n).toList, x ∈ escapeTail :=
  ⟨transparent_hexDigits w n, fun x hx => by
    rcases List.mem_cons.mp hx with rfl | hx
    · simp [escapeTail]
    · exact hexChars_sub_escapeTail _ (mem_hexDigits hx)⟩

/-- What `asciiEscape` writes: printable ASCII other than the quote and the
backslash as it is, or a backslash and transparent characters of an escape. -/
theorem asciiEscape_shape (c : Char) :
    ((asciiEscape c).toList = [c] ∧ c.toNat < 0x7f ∧ c ≠ '"' ∧ c ≠ '\\') ∨
      ∃ a l, (asciiEscape c).toList = '\\' :: a :: l ∧ Transparent l ∧
        ∀ x ∈ a :: l, x ∈ escapeTail := by
  by_cases hlt : c.toNat < 0x7f
  · have he : asciiEscape c = jsonEscape c := by simp [asciiEscape, hlt]
    rw [he]
    unfold jsonEscape
    -- one escape for each character the writer names, in the order it tests them
    by_cases hq : c = '"'
    · rw [if_pos hq]
      exact .inr ⟨'"', [], by simp, .nil, by simp [escapeTail]⟩
    rw [if_neg hq]
    by_cases hb : c = '\\'
    · rw [if_pos hb]
      exact .inr ⟨'\\', [], by simp, .nil, by simp [escapeTail]⟩
    rw [if_neg hb]
    by_cases hn : c = '\n'
    · rw [if_pos hn]
      exact .inr ⟨'n', [], by simp, .nil, by simp [escapeTail]⟩
    rw [if_neg hn]
    by_cases hr : c = '\r'
    · rw [if_pos hr]
      exact .inr ⟨'r', [], by simp, .nil, by simp [escapeTail]⟩
    rw [if_neg hr]
    by_cases ht : c = '\t'
    · rw [if_pos ht]
      exact .inr ⟨'t', [], by simp, .nil, by simp [escapeTail]⟩
    rw [if_neg ht]
    by_cases hbs : c = '\x08'
    · rw [if_pos hbs]
      exact .inr ⟨'b', [], by simp, .nil, by simp [escapeTail]⟩
    rw [if_neg hbs]
    by_cases hf : c = '\x0c'
    · rw [if_pos hf]
      exact .inr ⟨'f', [], by simp, .nil, by simp [escapeTail]⟩
    rw [if_neg hf]
    by_cases hctl : c.toNat < 0x20
    · rw [if_pos hctl]
      exact .inr ⟨'u', _, by simp, unicodeEscape_shape 4 c.toNat⟩
    rw [if_neg hctl]
    exact .inl ⟨by simp, hlt, hq, hb⟩
  · right
    by_cases hbmp : c.toNat < 0x10000
    · have he : asciiEscape c = "\\u" ++ hexDigits 4 c.toNat := by
        simp [asciiEscape, hlt, hbmp]
      exact ⟨'u', _, by simp [he], unicodeEscape_shape 4 c.toNat⟩
    · -- two surrogates, each a `\u` escape; the kernel is kept off their arithmetic
      obtain ⟨hi, hhi⟩ : ∃ hi, hi = 0xD800 + (c.toNat - 0x10000) / 0x400 := ⟨_, rfl⟩
      obtain ⟨lo, hlo⟩ : ∃ lo, lo = 0xDC00 + (c.toNat - 0x10000) % 0x400 := ⟨_, rfl⟩
      have he : asciiEscape c = "\\u" ++ hexDigits 4 hi ++ "\\u" ++ hexDigits 4 lo := by
        rw [hhi, hlo]
        simp [asciiEscape, hlt, hbmp]
      obtain ⟨ht₁, hm₁⟩ := unicodeEscape_shape 4 hi
      obtain ⟨ht₂, hm₂⟩ := unicodeEscape_shape 4 lo
      refine ⟨'u', _ ++ '\\' :: 'u' :: _, by simp [he], ht₁.append (.escape 'u' ht₂),
        fun x hx => ?_⟩
      simp only [List.mem_cons, List.mem_append] at hx
      rcases hx with rfl | hx | rfl | rfl | hx
      · simp [escapeTail]
      · exact hm₁ x (List.mem_cons_of_mem _ hx)
      · simp [escapeTail]
      · simp [escapeTail]
      · exact hm₂ x (List.mem_cons_of_mem _ hx)

theorem asciiEscape_of_printable {c : Char} (h₁ : 0x20 ≤ c.toNat) (h₂ : c.toNat < 0x7f)
    (hq : c ≠ '"') (hb : c ≠ '\\') : (asciiEscape c).toList = [c] := by
  have hctl : ¬ c.toNat < 0x20 := by omega
  have hn : c ≠ '\n' := fun h => by subst h; exact hctl (by decide)
  have hr : c ≠ '\r' := fun h => by subst h; exact hctl (by decide)
  have ht : c ≠ '\t' := fun h => by subst h; exact hctl (by decide)
  have hbs : c ≠ '\x08' := fun h => by subst h; exact hctl (by decide)
  have hf : c ≠ '\x0c' := fun h => by subst h; exact hctl (by decide)
  simp [asciiEscape, jsonEscape, h₂, hq, hb, hn, hr, ht, hbs, hf, hctl]

/-! ### Written texts -/

@[simp] theorem escChars_nil : escChars [] = [] := rfl

theorem escChars_cons (c : Char) (s : List Char) :
    escChars (c :: s) = (asciiEscape c).toList ++ escChars s := by
  simp [escChars]

theorem transparent_escChars (s : List Char) : Transparent (escChars s) := by
  induction s with
  | nil => exact .nil
  | cons c s ih =>
    rw [escChars_cons]
    refine Transparent.append ?_ ih
    rcases asciiEscape_shape c with ⟨h, -, hq, hb⟩ | ⟨a, l, h, hl, -⟩
    · rw [h]
      exact .plain hq hb .nil
    · rw [h]
      exact .escape a hl

theorem escapeTail_ascii : ∀ x ∈ escapeTail, x.toNat < 128 ∧ x ≠ ':' :=
  forall_mem_of_decide rfl

/-- A written text is ASCII, and has a colon only where the text has one. -/
theorem mem_escChars {s : List Char} {x : Char} (h : x ∈ escChars s) :
    x.toNat < 128 ∧ (x = ':' → ':' ∈ s) := by
  induction s with
  | nil => simp at h
  | cons c s ih =>
    rw [escChars_cons, List.mem_append] at h
    rcases h with h | h
    · rcases asciiEscape_shape c with ⟨hc, hlt, -, -⟩ | ⟨a, l, hc, -, hl⟩
      · rw [hc, List.mem_singleton] at h
        subst h
        exact ⟨by omega, fun h => h ▸ List.mem_cons_self⟩
      · rw [hc] at h
        rcases List.mem_cons.mp h with rfl | h
        · exact ⟨by decide, fun h => absurd h (by decide)⟩
        · obtain ⟨hx, hne⟩ := escapeTail_ascii x (hl x h)
          exact ⟨hx, fun h => absurd h hne⟩
    · obtain ⟨hx, hcolon⟩ := ih h
      exact ⟨hx, fun h => List.mem_cons_of_mem _ (hcolon h)⟩

/-- A text written without a backslash was written as it is. -/
theorem eq_of_escChars_eq {s l : List Char} (h : escChars s = l) (hl : '\\' ∉ l) : s = l := by
  induction s generalizing l with
  | nil => exact h
  | cons c s ih =>
    rw [escChars_cons] at h
    rcases asciiEscape_shape c with ⟨hc, -⟩ | ⟨a, l', hc, -⟩
    · rw [hc] at h
      subst h
      exact congrArg (List.cons c) (ih rfl fun h => hl (List.mem_cons_of_mem _ h))
    · rw [hc] at h
      exact absurd (h ▸ List.mem_cons_self) hl

/-- A text of printable ASCII without quotes and backslashes is written as it is. -/
theorem escChars_of_printable {s : List Char}
    (h : ∀ c ∈ s, 0x20 ≤ c.toNat ∧ c.toNat < 0x7f ∧ c ≠ '"' ∧ c ≠ '\\') : escChars s = s := by
  induction s with
  | nil => rfl
  | cons c s ih =>
    obtain ⟨h₁, h₂, hq, hb⟩ := h c List.mem_cons_self
    rw [escChars_cons, asciiEscape_of_printable h₁ h₂ hq hb,
      ih fun x hx => h x (List.mem_cons_of_mem _ hx)]
    rfl

theorem mem_asciiQuote {s : String} {c : Char} (h : c ∈ (asciiQuote s).toList) :
    c = '"' ∨ c ∈ escChars s.toList := by
  rw [asciiQuote_toList] at h
  simp only [List.mem_cons, List.mem_append, List.not_mem_nil] at h
  tauto

/-- The scan of a written text stops at its closing quote. -/
theorem closingQuote_escChars (s y : List Char) :
    closingQuote (escChars s ++ '"' :: y).toArray 0 = some (escChars s).length := by
  rw [closingQuote_transparent (transparent_escChars s), closingQuote_of_quote (by simp)]
  simp

/-! ### Numbers, truth values and nulls -/

/-- A character of a number, a truth value or a null: ASCII, no quote, no blank. -/
def Bare (c : Char) : Prop := c.toNat < 128 ∧ c ≠ '"' ∧ c ≠ ' ' ∧ c ≠ '\t'

instance : DecidablePred Bare := fun c =>
  inferInstanceAs (Decidable (c.toNat < 128 ∧ c ≠ '"' ∧ c ≠ ' ' ∧ c ≠ '\t'))

/-- A text of bare characters only. -/
def BareText (s : String) : Prop := ∀ c ∈ s.toList, Bare c

instance : DecidablePred BareText := fun s =>
  List.decidableBAll Bare s.toList

theorem BareText.append {s t : String} (hs : BareText s) (ht : BareText t) :
    BareText (s ++ t) := by
  intro c hc
  rw [String.toList_append, List.mem_append] at hc
  exact hc.elim (hs c) (ht c)

theorem BareText.sublist {s : String} (hs : BareText s) {l : List Char} (hl : l.Sublist s.toList) :
    BareText (String.ofList l) := by
  intro c hc
  rw [String.toList_ofList] at hc
  exact hs c (hl.subset hc)

theorem bareText_zeros (n : Nat) : BareText (String.ofList (List.replicate n '0')) := by
  intro c hc
  rw [String.toList_ofList, List.mem_replicate] at hc
  rw [hc.2]
  decide

theorem bareText_natRepr (n : Nat) : BareText (toString n) := by
  have hhex : ∀ c ∈ hexChars, Bare c := forall_mem_of_decide rfl
  intro c hc
  simp only [toString, Nat.repr, String.toList_ofList] at hc
  exact hhex c (mem_toDigits hc)

theorem bareText_intRepr (n : Int) : BareText (toString n) := by
  change BareText (Int.repr n)
  cases n with
  | ofNat m => exact bareText_natRepr m
  | negSucc m => exact BareText.append (by decide) (bareText_natRepr _)

theorem BareText.ite {p : Prop} [Decidable p] {s t : String} (hs : BareText s)
    (ht : BareText t) : BareText (if p then s else t) := by
  split
  · exact hs
  · exact ht

theorem bareText_placeDigits (layout : FloatLayout) {ds : String} (hds : BareText ds)
    (point : Int) : BareText (Binary64.placeDigits layout ds point) := by
  have htake := fun n => hds.sublist (List.take_sublist n ds.toList)
  have hdrop := fun n => hds.sublist (List.drop_sublist n ds.toList)
  have hpoint : BareText "." := by decide
  have hexp : BareText "e" := by decide
  have hsign : BareText (if point - 1 < 0 then "-" else "+") := .ite (by decide) (by decide)
  have hmant := BareText.ite (p := ds.length ≤ 1) hds (((htake 1).append hpoint).append (hdrop 1))
  simp only [Binary64.placeDigits]
  -- the exponent form, then the three positional forms
  refine .ite (((hmant.append hexp).append hsign).append
    ((bareText_zeros _).append (bareText_natRepr _))) (.ite ?_ (.ite ?_ ?_))
  · exact ((by decide : BareText "0.").append (bareText_zeros _)).append hds
  · exact (hds.append (bareText_zeros _)).append (by decide)
  · exact ((htake _).append hpoint).append (hdrop _)

theorem bareText_render (x : Binary64) : BareText (x.render FloatLayout.json) := by
  have hsign : ∀ neg : Bool, BareText (if neg then "-" else "") := by decide
  simp only [Binary64.render]
  split
  · decide
  · refine (hsign _).append ?_
    decide
  · split
    · refine (hsign _).append ?_
      decide
    · exact (hsign _).append (bareText_placeDigits _ (bareText_natRepr _) _)

/-- Every value other than a text is written in bare characters. -/
theorem bareText_flatText {v : Value} (hv : ∀ s, v ≠ .str s) : BareText (flatText v) := by
  cases v with
  | str s => exact absurd rfl (hv s)
  | int n => exact bareText_intRepr n
  | float x => exact bareText_render x
  | bool b => cases b <;> decide
  | _ => exact (by decide : BareText "null")

/-! ### Separators -/

section Sep

variable {sep : Separators}

theorem keySep_toList (hsep : sep = .standard ∨ sep = .compact) :
    sep.key.toList = [':', ' '] ∨ sep.key.toList = [':'] := by
  rcases hsep with rfl | rfl
  · exact .inl rfl
  · exact .inr rfl

theorem itemSep_toList (hsep : sep = .standard ∨ sep = .compact) :
    sep.item.toList = [',', ' '] ∨ sep.item.toList = [','] := by
  rcases hsep with rfl | rfl
  · exact .inl rfl
  · exact .inr rfl

/-- After a key separator the colon comes first, and the blanks after it end
where the value starts. -/
theorem keySep_colon_blanks (hsep : sep = .standard ∨ sep = .compact) {z : List Char}
    (hz : ∀ c ∈ z.head?, ¬ (c = ' ' ∨ c = '\t')) :
    indexIn [':'] (sep.key.toList ++ z).toArray 0 = some 0 ∧
      skipBlanks (sep.key.toList ++ z).toArray 1 = sep.key.toList.length := by
  have hz0 : skipBlanks z.toArray 0 = 0 := by
    cases z with
    | nil => exact skipBlanks_of_size_le (by simp)
    | cons c z => exact skipBlanks_of_not_blank (by simp) (hz c rfl)
  have hend : skipBlanks (sep.key.toList ++ z).toArray sep.key.toList.length =
      sep.key.toList.length := by
    simpa [hz0] using skipBlanks_append sep.key.toList (y := z) 0
  rcases keySep_toList hsep with h | h <;> rw [h] at hend ⊢
  · refine ⟨indexIn_of_occursAt (by simp) (by simp [occursAt]), ?_⟩
    rw [skipBlanks_of_blank (c := ' ') (by simp) (.inl rfl)]
    exact hend
  · exact ⟨indexIn_of_occursAt (by simp) (by simp [occursAt]), hend⟩

/-- After a key, the value search finds a text value between its quotes. -/
theorem valueAfter_keySep_text (hsep : sep = .standard ∨ sep = .compact) (s : String)
    (z : List Char) :
    valueAfter (sep.key.toList ++ ((flatText (.str s)).toList ++ z)).toArray 0 =
      some ⟨sep.key.toList.length + 1, sep.key.toList.length + 1 + (escChars s.toList).length⟩ := by
  have htext : (flatText (.str s)).toList ++ z = '"' :: (escChars s.toList ++ '"' :: z) := by
    simp [flatText, asciiQuote_toList]
  rw [htext]
  obtain ⟨hk, hb⟩ := keySep_colon_blanks hsep (z := '"' :: _) (by simp)
  have hq : (sep.key.toList ++ '"' :: (escChars s.toList ++ '"' :: z)).toArray[sep.key.toList.length]? =
      some '"' := by
    rw [List.getElem?_toArray, List.getElem?_append_right le_rfl, Nat.sub_self]
    rfl
  have hshift := closingQuote_shift (t := (escChars s.toList ++ '"' :: z).toArray)
    (u := (sep.key.toList ++ '"' :: (escChars s.toList ++ '"' :: z)).toArray)
    (d := sep.key.toList.length + 1) (fun k => by
      rw [List.getElem?_toArray, List.getElem?_toArray, List.getElem?_append_right (by omega),
        show k + (sep.key.toList.length + 1) - sep.key.toList.length = k + 1 by omega,
        List.getElem?_cons_succ]) 0
  rw [Nat.zero_add, closingQuote_escChars] at hshift
  rw [valueAfter_of_colon hk (by rw [hb]; exact hq), hb, hshift]
  simp only [Option.map_some]
  congr 2
  omega

/-- After a key, the value search finds nothing when no quote opens the value. -/
theorem valueAfter_keySep_bare (hsep : sep = .standard ∨ sep = .compact) {z : List Char}
    (hz : ∀ c ∈ z.head?, c ≠ '"' ∧ ¬ (c = ' ' ∨ c = '\t')) :
    valueAfter (sep.key.toList ++ z).toArray 0 = none := by
  obtain ⟨hk, hb⟩ := keySep_colon_blanks hsep fun c hc => (hz c hc).2
  have hopen : (sep.key.toList ++ z).toArray[sep.key.toList.length]? ≠ some '"' := by
    rw [List.getElem?_toArray, List.getElem?_append_right le_rfl, Nat.sub_self]
    cases z with
    | nil => simp
    | cons c z => exact fun h => (hz c rfl).1 (Option.some.inj h)
  unfold valueAfter
  rw [hk]
  simp only [Nat.zero_add, hb, if_neg hopen]

end Sep

/-! ### Closing quotes -/

/-- A character that may stand before the closing quote of a key or a text, and
never stands before an opening quote. -/
def Closer (c : Char) : Prop := c ≠ '{' ∧ c ≠ ',' ∧ c ≠ ' ' ∧ c ≠ ':' ∧ c ≠ '\\' ∧ c ≠ '"'

instance : DecidablePred Closer := fun c =>
  inferInstanceAs (Decidable (c ≠ '{' ∧ c ≠ ',' ∧ c ≠ ' ' ∧ c ≠ ':' ∧ c ≠ '\\' ∧ c ≠ '"'))

/-- A quote at `Q + 1` right after a closer at `Q`. -/
def Closes (l : List Char) (Q : Nat) : Prop :=
  (∃ c, Closer c ∧ l[Q]? = some c) ∧ l[Q + 1]? = some '"'

section Closes

variable {l : List Char} {Q : Nat}

theorem Closes.length_le (h : Closes l Q) : Q + 2 ≤ l.length := by
  have := (List.getElem?_eq_some_iff.mp h.2).1
  omega

/-- A quote after a closer in two lists joined lies in the first, at the seam, or
in the second. -/
theorem closes_append {x y : List Char} (h : Closes (x ++ y) Q) :
    (Q + 2 ≤ x.length ∧ Closes x Q) ∨
      (Q + 1 = x.length ∧ (∃ c, Closer c ∧ x.getLast? = some c) ∧ y.head? = some '"') ∨
      (x.length ≤ Q ∧ Closes y (Q - x.length)) := by
  obtain ⟨⟨c, hc, hQ⟩, hq⟩ := h
  by_cases h₁ : Q + 2 ≤ x.length
  · rw [List.getElem?_append_left (by omega)] at hQ hq
    exact .inl ⟨h₁, ⟨c, hc, hQ⟩, hq⟩
  by_cases h₂ : Q + 1 = x.length
  · rw [List.getElem?_append_left (by omega)] at hQ
    rw [List.getElem?_append_right (by omega), show Q + 1 - x.length = 0 by omega] at hq
    refine .inr (.inl ⟨h₂, ⟨c, hc, ?_⟩, by rw [List.head?_eq_getElem?]; exact hq⟩)
    rw [List.getLast?_eq_getElem?, show x.length - 1 = Q by omega]
    exact hQ
  · rw [List.getElem?_append_right (by omega)] at hQ hq
    refine .inr (.inr ⟨by omega, ⟨c, hc, hQ⟩, ?_⟩)
    rw [show Q - x.length + 1 = Q + 1 - x.length by omega]
    exact hq

theorem not_closes_of_not_mem (hq : '"' ∉ l) : ¬ Closes l Q :=
  fun h => hq (List.mem_of_getElem? h.2)

theorem Transparent.not_closes (ht : Transparent l) : ¬ Closes l Q := by
  rintro ⟨⟨c, hc, hQ⟩, hq⟩
  obtain ⟨-, hprev⟩ := ht.quote hq
  rw [Nat.add_sub_cancel, hQ] at hprev
  exact hc.2.2.2.2.1 (Option.some.inj hprev)

/-- In a quoted text only the closing quote follows a closer. -/
theorem closes_quoted {K : List Char} (hK : Transparent K) (h : Closes ('"' :: K ++ ['"']) Q) :
    Q = K.length := by
  rcases closes_append h with ⟨-, hc⟩ | ⟨hQ, -⟩ | ⟨hle, hc⟩
  · rcases closes_append (x := ['"']) hc with ⟨hle, -⟩ | ⟨-, ⟨c, hc, hlast⟩, -⟩ | ⟨-, hc⟩
    · simp at hle
    · cases hlast
      exact absurd rfl hc.2.2.2.2.2
    · exact absurd hc hK.not_closes
  · simpa using hQ
  · have := hc.length_le
    simp at this

/-- Past a block without quotes and closers: a quote after a closer lies after it. -/
theorem closes_append_quiet {x y : List Char} (hx : ∀ c ∈ x, c ≠ '"' ∧ ¬ Closer c)
    (h : Closes (x ++ y) Q) : x.length ≤ Q ∧ Closes y (Q - x.length) := by
  rcases closes_append h with ⟨-, hc⟩ | ⟨-, ⟨c, hc, hlast⟩, -⟩ | hy
  · exact absurd hc (not_closes_of_not_mem fun hm => (hx _ hm).1 rfl)
  · exact absurd hc (hx c (List.mem_of_getLast? hlast)).2
  · exact hy

/-- Past a number, a truth value or a null that no quote follows: a quote after a
closer lies after it. -/
theorem closes_bare_append {F : String} (hF : BareText F) {y : List Char}
    (hy : ∀ c ∈ y.head?, c ≠ '"') (h : Closes (F.toList ++ y) Q) :
    F.toList.length ≤ Q ∧ Closes y (Q - F.toList.length) := by
  rcases closes_append h with ⟨-, hc⟩ | ⟨-, -, hhead⟩ | hy'
  · exact absurd hc (not_closes_of_not_mem fun hm => (hF _ hm).2.1 rfl)
  · exact absurd rfl (hy _ hhead)
  · exact hy'

/-- In a written text a quote after a closer is the closing quote, or lies after it. -/
theorem closes_asciiQuote_append (s : String) {y : List Char}
    (h : Closes ((asciiQuote s).toList ++ y) Q) :
    Q + 2 = (asciiQuote s).toList.length ∨
      ((asciiQuote s).toList.length ≤ Q ∧ Closes y (Q - (asciiQuote s).toList.length)) := by
  rcases closes_append h with ⟨-, hc⟩ | ⟨-, ⟨c, hc, hlast⟩, -⟩ | hy
  · have hQ := closes_quoted (transparent_escChars _) (by rwa [asciiQuote_toList] at hc)
    left
    rw [asciiQuote_toList]
    simp only [List.length_cons, List.length_append, List.length_nil]
    omega
  · rw [asciiQuote_toList, List.getLast?_concat] at hlast
    cases hlast
    exact absurd rfl hc.2.2.2.2.2
  · exact .inr hy

end Closes

/-! ### Reading a written object -/

section Object

variable {sep : Separators}

/-- The characters of a separator: no quote, and no closer. -/
theorem sep_chars (hsep : sep = .standard ∨ sep = .compact) :
    (∀ c ∈ sep.item.toList, c ≠ '"' ∧ ¬ Closer c ∧ c ≠ ':') ∧
      ∀ c ∈ sep.key.toList, c ≠ '"' ∧ ¬ Closer c := by
  rcases hsep with rfl | rfl <;> exact ⟨forall_mem_of_decide rfl, forall_mem_of_decide rfl⟩

theorem restChars_cons (lead : List Char) (e : String × Value) (rest : List (String × Value)) :
    restChars sep lead (e :: rest) = lead ++ ((asciiQuote e.1).toList ++
      (sep.key.toList ++ ((flatText e.2).toList ++ restChars sep sep.item.toList rest))) := by
  simp [restChars, entryChars]

theorem head_restChars (hsep : sep = .standard ∨ sep = .compact) (d : List (String × Value)) :
    ∀ c ∈ (restChars sep sep.item.toList d).head?, c = ',' ∨ c = '}' := by
  cases d with
  | nil => simp [restChars]
  | cons e rest =>
    rw [restChars_cons]
    rcases itemSep_toList hsep with h | h <;> simp [h]

theorem head_restChars_plain (hsep : sep = .standard ∨ sep = .compact) (d : List (String × Value)) :
    ∀ c ∈ (restChars sep sep.item.toList d).head?, c ≠ '"' ∧ ¬ (c = ' ' ∨ c = '\t') := by
  intro c hc
  rcases head_restChars hsep d c hc with rfl | rfl <;> decide

/-- Every written object is in ASCII. -/
theorem ascii_restChars (hsep : sep = .standard ∨ sep = .compact) :
    ∀ (d : List (String × Value)) (lead : List Char), (∀ c ∈ lead, c.toNat < 128) →
      ∀ c ∈ restChars sep lead d, c.toNat < 128
  | [], _, _ => by simp [restChars]
  | (k, v) :: rest, lead, hlead => by
    have hsepAscii : (∀ c ∈ sep.item.toList, c.toNat < 128) ∧ ∀ c ∈ sep.key.toList, c.toNat < 128 := by
      rcases hsep with rfl | rfl <;> exact ⟨forall_mem_of_decide rfl, forall_mem_of_decide rfl⟩
    have hquote : ∀ s : String, ∀ c ∈ (asciiQuote s).toList, c.toNat < 128 := by
      intro s c hc
      rcases mem_asciiQuote hc with rfl | hc
      · decide
      · exact (mem_escChars hc).1
    have hvalue : ∀ c ∈ (flatText v).toList, c.toNat < 128 := by
      by_cases hv : ∃ s, v = .str s
      · obtain ⟨s, rfl⟩ := hv
        exact hquote s
      · exact fun c hc => (bareText_flatText (fun s h => hv ⟨s, h⟩) c hc).1
    intro c hc
    rw [restChars_cons] at hc
    simp only [List.mem_append] at hc
    rcases hc with hc | hc | hc | hc | hc
    · exact hlead c hc
    · exact hquote k c hc
    · exact hsepAscii.2 c hc
    · exact hvalue c hc
    · exact ascii_restChars hsep rest _ hsepAscii.1 c hc

/-- An entry of a written object stands between the text before it and the
entries after it. -/
theorem restChars_split (lead : List Char) :
    ∀ (pre : List (String × Value)) (e : String × Value) (post : List (String × Value)),
      ∃ x, restChars sep lead (pre ++ e :: post) =
        x ++ ((asciiQuote e.1).toList ++ (sep.key.toList ++ ((flatText e.2).toList ++
          restChars sep sep.item.toList post)))
  | [], e, post => ⟨lead, restChars_cons lead e post⟩
  | e' :: pre, e, post => by
    obtain ⟨x, hx⟩ := restChars_split sep.item.toList pre e post
    refine ⟨lead ++ entryChars sep e' ++ x, ?_⟩
    rw [List.cons_append, restChars, hx]
    simp only [List.append_assoc]

/-- Masking the text between two quotes. -/
theorem mask_textValue (x K z : List Char) :
    Span.mask (x ++ '"' :: (K ++ '"' :: z)) [⟨x.length + 1, x.length + 1 + K.length⟩] =
      x ++ '"' :: (maskText ++ '"' :: z) := by
  rw [mask_single]
  have h1 : x ++ '"' :: (K ++ '"' :: z) = (x ++ ['"']) ++ (K ++ '"' :: z) := by simp
  have hlen : (x ++ ['"']).length = x.length + 1 := by simp
  rw [h1, ← hlen, List.take_left]
  dsimp only
  rw [← List.drop_drop, List.drop_left, List.drop_left]
  simp

/-- A search for a value reads past a text without a colon. -/
theorem valueAfter_append_of_not_mem {x : List Char} (hx : ':' ∉ x) (z : List Char) :
    valueAfter (x ++ z).toArray 0 = (valueAfter z.toArray 0).map (Span.offset x.length) := by
  have hshift := valueAfter_append x (y := z) 0
  rw [Nat.add_zero] at hshift
  cases h : indexIn [':'] (x ++ z).toArray 0 with
  | none =>
    have hz : indexIn [':'] z.toArray 0 = none := by
      have := indexIn_append x [':'] (y := z) 0
      rw [Nat.add_zero, indexIn_none_of_le h (Nat.zero_le _)] at this
      exact Option.map_eq_none_iff.mp this.symm
    simp [valueAfter, h, hz]
  | some k =>
    have hk : x.length ≤ k := by
      by_contra hlt
      have hocc := (occursAt_eq_true_iff.mp (indexIn_spec h).1) 0 (by simp)
      rw [List.getElem?_toArray, Nat.add_zero, List.getElem?_append_left (by omega)] at hocc
      exact hx (List.mem_of_getElem? hocc)
    rw [← valueAfter_of_le h (Nat.zero_le _) hk, hshift]

/-- The value search from `n` in `u` finds a text value, and masking it gives `u'`. -/
def MasksTo (u : List Char) (n : Nat) (u' : List Char) : Prop :=
  ∃ s, valueAfter u.toArray n = some s ∧ Span.mask u [s] = u'

theorem MasksTo.mask_eq {u u' : List Char} {n : Nat} {s : Span} (h : MasksTo u n u')
    (hs : valueAfter u.toArray n = some s) : Span.mask u [s] = u' := by
  obtain ⟨s', hs', hmask⟩ := h
  rw [Option.some.inj (hs.symm.trans hs'), hmask]

/-- What the value search finds in the tail of a text, it finds in the whole text. -/
theorem MasksTo.append (x : List Char) {y y' : List Char} {n : Nat} (h : MasksTo y n y') :
    MasksTo (x ++ y) (x.length + n) (x ++ y') := by
  obtain ⟨s, hs, hmask⟩ := h
  refine ⟨s.offset x.length, by rw [valueAfter_append, hs]; rfl, ?_⟩
  rw [← hmask]
  exact mask_append_offset x [s] maskText

/-- Past a text without a colon the value search finds what it finds after it. -/
theorem MasksTo.append_of_not_mem {x : List Char} (hx : ':' ∉ x) {y y' : List Char}
    (h : MasksTo y 0 y') : MasksTo (x ++ y) 0 (x ++ y') := by
  obtain ⟨s, hs, hmask⟩ := h
  refine ⟨s.offset x.length, by rw [valueAfter_append_of_not_mem hx, hs]; rfl, ?_⟩
  rw [← hmask]
  exact mask_append_offset x [s] maskText

theorem valueAfter_append_none (x : List Char) {y : List Char} {n : Nat}
    (h : valueAfter y.toArray n = none) : valueAfter (x ++ y).toArray (x.length + n) = none := by
  rw [valueAfter_append, h]
  rfl

/-- After a key the value search finds the key's text value, or nothing; masking
that value writes the mask in its place. -/
theorem valueAfter_keySep (hsep : sep = .standard ∨ sep = .compact) (v : Value) {z : List Char}
    (hz : ∀ c ∈ z.head?, c ≠ '"' ∧ ¬ (c = ' ' ∨ c = '\t')) :
    valueAfter (sep.key.toList ++ ((flatText v).toList ++ z)).toArray 0 = none ∨
      ∃ s, v = .str s ∧ MasksTo (sep.key.toList ++ ((flatText v).toList ++ z)) 0
        (sep.key.toList ++ ((flatText (.str "***")).toList ++ z)) := by
  by_cases hv : ∃ s, v = .str s
  · obtain ⟨s, rfl⟩ := hv
    have htext : ∀ s : String, (flatText (.str s)).toList ++ z =
        '"' :: (escChars s.toList ++ '"' :: z) := by
      simp [flatText, asciiQuote_toList]
    refine .inr ⟨s, rfl, _, valueAfter_keySep_text hsep s z, ?_⟩
    rw [htext, htext, mask_textValue]
    rfl
  · refine .inl (valueAfter_keySep_bare hsep fun c hc => ?_)
    have hbare := bareText_flatText (v := v) fun s h => hv ⟨s, h⟩
    cases hF : (flatText v).toList with
    | nil =>
      rw [hF, List.nil_append] at hc
      exact hz c hc
    | cons c' F =>
      rw [hF, List.cons_append, List.head?_cons, Option.mem_some_iff] at hc
      subst hc
      obtain ⟨-, hq, hsp, htab⟩ := hbare c' (by rw [hF]; exact List.mem_cons_self)
      exact ⟨hq, by rintro (h | h) <;> contradiction⟩

/-- A quote after a closer in a written entry closes the entry's key or its text
value, or lies in what follows the entry. -/
theorem closes_entry (hsep : sep = .standard ∨ sep = .compact) {lead : List Char}
    (hlead : ∀ c ∈ lead, c ≠ '"' ∧ ¬ Closer c) (e : String × Value) {z : List Char}
    (hz : ∀ c ∈ z.head?, c ≠ '"') {Q : Nat}
    (h : Closes (lead ++ ((asciiQuote e.1).toList ++
      (sep.key.toList ++ ((flatText e.2).toList ++ z)))) Q) :
    Q + 2 = lead.length + (asciiQuote e.1).toList.length ∨
      ((∃ s, e.2 = .str s) ∧ Q + 2 = lead.length + (asciiQuote e.1).toList.length +
        sep.key.toList.length + (flatText e.2).toList.length) ∨
      (lead.length + (asciiQuote e.1).toList.length + sep.key.toList.length +
          (flatText e.2).toList.length ≤ Q ∧
        Closes z (Q - (lead.length + (asciiQuote e.1).toList.length + sep.key.toList.length +
          (flatText e.2).toList.length))) := by
  have hkey := (sep_chars hsep).2
  -- the separator before the entry, the key, the key separator, then the value
  obtain ⟨h₁, hc⟩ := closes_append_quiet hlead h
  rcases closes_asciiQuote_append e.1 hc with hQ | ⟨h₂, hc⟩
  · exact .inl (by omega)
  obtain ⟨h₃, hc⟩ := closes_append_quiet hkey hc
  by_cases hv : ∃ s, e.2 = .str s
  · obtain ⟨s, hs⟩ := hv
    have hF : flatText e.2 = asciiQuote s := by rw [hs]; rfl
    rw [hF] at hc ⊢
    rcases closes_asciiQuote_append s hc with hQ | ⟨h₄, hc⟩
    · exact .inr (.inl ⟨⟨s, hs⟩, by omega⟩)
    · exact .inr (.inr ⟨by omega, by simpa only [Nat.sub_sub] using hc⟩)
  · obtain ⟨h₄, hc⟩ := closes_bare_append (bareText_flatText fun s h => hv ⟨s, h⟩) hz hc
    exact .inr (.inr ⟨by omega, by simpa only [Nat.sub_sub] using hc⟩)

/-- The value search from the start of the entries after the first finds the next
entry's text value, or nothing. -/
theorem valueAfter_restChars (hsep : sep = .standard ∨ sep = .compact)
    (d : List (String × Value)) (hd : ∀ e ∈ d, ':' ∉ e.1.toList) :
    valueAfter (restChars sep sep.item.toList d).toArray 0 = none ∨
      ∃ k v post, d = (k, .str v) :: post ∧ MasksTo (restChars sep sep.item.toList d) 0
        (restChars sep sep.item.toList ((k, .str "***") :: post)) := by
  cases d with
  | nil =>
    left
    have hempty : valueAfter ([] : List Char).toArray 0 = none := by
      unfold valueAfter
      rw [indexIn_of_size_lt (by simp)]
    have := valueAfter_append_of_not_mem (x := ['}']) (by decide) []
    rw [List.append_nil, hempty] at this
    exact this
  | cons e rest =>
    obtain ⟨k, v⟩ := e
    have hitem := (sep_chars hsep).1
    have hk : ':' ∉ k.toList := hd (k, v) List.mem_cons_self
    -- the separator and the key hold no colon
    have hx : ':' ∉ sep.item.toList ++ (asciiQuote k).toList := by
      intro hm
      rcases List.mem_append.mp hm with hm | hm
      · exact (hitem _ hm).2.2 rfl
      · rcases mem_asciiQuote hm with h | h
        · exact absurd h (by decide)
        · exact hk ((mem_escChars h).2 rfl)
    rcases valueAfter_keySep hsep v (head_restChars_plain hsep rest) with hnone | ⟨s, rfl, hm⟩
    · left
      rw [restChars_cons, ← List.append_assoc, valueAfter_append_of_not_mem hx, hnone]
      rfl
    · right
      refine ⟨k, s, rest, rfl, ?_⟩
      simpa only [restChars_cons, List.append_assoc] using hm.append_of_not_mem hx

/-- A quote after a closer in a written object closes a key or a text value. The
value search after it finds the value of that key or of the next one: a text value,
which masking turns into the mask, or nothing. -/
theorem valueAfter_of_closes (hsep : sep = .standard ∨ sep = .compact) :
    ∀ (d : List (String × Value)) (lead : List Char) {Q : Nat},
      (∀ e ∈ d, ':' ∉ e.1.toList) → (∀ c ∈ lead, c ≠ '"' ∧ ¬ Closer c) →
      Closes (restChars sep lead d) Q →
      valueAfter (restChars sep lead d).toArray (Q + 2) = none ∨
        ∃ pre k v post, d = pre ++ (k, .str v) :: post ∧ MasksTo (restChars sep lead d) (Q + 2)
          (restChars sep lead (pre ++ (k, .str "***") :: post))
  | [], _, _, _, _, h => absurd h (not_closes_of_not_mem (by simp [restChars]))
  | (k, v) :: rest, lead, Q, hd, hlead, h => by
    have hitem := (sep_chars hsep).1
    have hR := head_restChars_plain hsep rest
    have hrestd : ∀ e ∈ rest, ':' ∉ e.1.toList := fun e he => hd e (List.mem_cons_of_mem _ he)
    rw [restChars_cons] at h ⊢
    rcases closes_entry hsep hlead (k, v) (fun c hc => (hR c hc).1) h with
      hkey | ⟨⟨s, hs⟩, hval⟩ | ⟨hle, hc⟩
    · -- the key's closing quote: the value search finds the key's own value
      have hpos : Q + 2 = (lead ++ (asciiQuote k).toList).length + 0 := by simp; omega
      rcases valueAfter_keySep hsep v hR with hnone | ⟨s, rfl, hm⟩
      · left
        rw [← List.append_assoc, hpos]
        exact valueAfter_append_none _ hnone
      · right
        refine ⟨[], k, s, rest, rfl, ?_⟩
        rw [hpos]
        simpa only [restChars_cons, List.nil_append, List.append_assoc] using
          hm.append (lead ++ (asciiQuote k).toList)
    · -- the closing quote of the text value: the value search finds the next entry's
      obtain rfl : v = .str s := hs
      have hpos : Q + 2 = (lead ++ (asciiQuote k).toList ++ sep.key.toList ++
          (flatText (.str s)).toList).length + 0 := by simp only [List.length_append]; omega
      rcases valueAfter_restChars hsep rest hrestd with hnone | ⟨k', v', post, rfl, hm⟩
      · left
        rw [hpos]
        simpa only [List.append_assoc] using valueAfter_append_none
          (lead ++ (asciiQuote k).toList ++ sep.key.toList ++ (flatText (.str s)).toList) hnone
      · right
        refine ⟨[(k, .str s)], k', v', post, rfl, ?_⟩
        rw [hpos]
        simpa only [restChars_cons, List.singleton_append, List.append_assoc] using
          hm.append (lead ++ (asciiQuote k).toList ++ sep.key.toList ++ (flatText (.str s)).toList)
    · -- a quote in a later entry: what the value search finds there
      dsimp only at hle hc
      have hpos : Q + 2 = (lead ++ (asciiQuote k).toList ++ sep.key.toList ++
          (flatText v).toList).length + (Q - (lead.length + (asciiQuote k).toList.length +
            sep.key.toList.length + (flatText v).toList.length) + 2) := by
        simp only [List.length_append]
        omega
      rcases valueAfter_of_closes hsep rest sep.item.toList hrestd
          (fun c hc => ⟨(hitem c hc).1, (hitem c hc).2.1⟩) hc with
        hnone | ⟨pre, k', v', post, rfl, hm⟩
      · left
        rw [hpos]
        simpa only [List.append_assoc] using valueAfter_append_none
          (lead ++ (asciiQuote k).toList ++ sep.key.toList ++ (flatText v).toList) hnone
      · right
        refine ⟨(k, v) :: pre, k', v', post, rfl, ?_⟩
        rw [hpos]
        simpa only [restChars_cons, List.cons_append, List.append_assoc] using
          hm.append (lead ++ (asciiQuote k).toList ++ sep.key.toList ++ (flatText v).toList)

end Object

end MaskedLog.Redact

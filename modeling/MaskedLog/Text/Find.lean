/-!
# Finding a text in a text

`indexFrom` finds the first occurrence of a nonempty key in a text read from a
given position on; `occursIn` tells whether a key occurs at all. `indexIn` does
the same search in an array, where a search that starts far into the text costs
nothing for the part it skips.

* `indexFrom_bounds`, `indexIn_bounds` — an occurrence lies within the text, at
  or after the position the search started from.

## References

Python's `str.find` and `in` on texts, as `bodylog/redact/scanner.py` and
`bodylog/content.py` use them.
-/

namespace MaskedLog.Text

/-- The first position at or after `n` at which `key` occurs in `s`, where `s`
is read from position `n` on. -/
def indexFrom (key : List Char) : List Char → Nat → Option Nat
  | [], n => if key = [] then some n else none
  | c :: rest, n => if key.isPrefixOf (c :: rest) then some n else indexFrom key rest (n + 1)

theorem indexFrom_bounds {key : List Char} (hk : key ≠ []) :
    ∀ (s : List Char) (n p : Nat), indexFrom key s n = some p → n ≤ p ∧ p + key.length ≤ n + s.length
  | [], n, p, h => by simp [indexFrom, hk] at h
  | c :: rest, n, p, h => by
    unfold indexFrom at h
    split at h
    · rename_i hp
      cases h
      have := (List.isPrefixOf_iff_prefix.mp hp).length_le
      exact ⟨Nat.le_refl _, by omega⟩
    · have := indexFrom_bounds hk rest (n + 1) p h
      simp
      omega

/-- Whether `key` occurs in `s`. -/
def occursIn (key s : List Char) : Bool := (indexFrom key s 0).isSome

/-- Whether the string `key` occurs in the string `s`. -/
def contains (s key : String) : Bool := occursIn key.toList s.toList

/-- Whether `key` is read in `s` from position `i` on. -/
def occursAt : List Char → Array Char → Nat → Bool
  | [], _, _ => true
  | c :: rest, s, i => s[i]? == some c && occursAt rest s (i + 1)

/-- The first position at or after `i` at which `key` occurs in `s`. -/
def indexIn (key : List Char) (s : Array Char) (i : Nat) : Option Nat :=
  if i + key.length ≤ s.size then
    if occursAt key s i then some i else indexIn key s (i + 1)
  else none
termination_by s.size + 1 - i

theorem indexIn_bounds (key : List Char) (s : Array Char) (i p : Nat)
    (h : indexIn key s i = some p) : i ≤ p ∧ p + key.length ≤ s.size := by
  induction i using indexIn.induct key s with
  | case1 i hb ho =>
    rw [indexIn, if_pos hb, if_pos ho] at h
    cases h
    exact ⟨Nat.le_refl _, hb⟩
  | case2 i hb ho ih =>
    rw [indexIn, if_pos hb, if_neg ho] at h
    have := ih h
    omega
  | case3 i hb =>
    rw [indexIn, if_neg hb] at h
    cases h

end MaskedLog.Text

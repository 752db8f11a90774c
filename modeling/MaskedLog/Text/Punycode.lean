import MaskedLog.Text.Fault

/-!
# Punycode

Punycode writes a sequence of code points in ASCII: the basic (ASCII) code
points in order, a `-` when there are any, and then one generalised
variable-length integer per other code point, in base 36 (`a`–`z` for 0 to
25, `0`–`9` for 26 to 35; upper-case letters read like lower-case ones). The
integers are the steps of an insertion walk: code points are inserted in
increasing order, and for each the integer counts the positions passed since
the last insertion, with the code point's distance from the one before folded
in. The bias that sets each digit's threshold adapts after every integer.

## Main definitions

* `punyThreshold`, `punyAdapt` — digit thresholds and bias adaptation.
* `decodePunycode` — the code points of ASCII bytes.
* `encodePunycode` — the ASCII characters of code points.

## References

Python's `punycode` codec.
-/

namespace MaskedLog.Text

/-! ### Digits and bias -/

/-- The threshold of the `j`-th digit of a punycode number under a bias. -/
def punyThreshold (j bias : Nat) : Nat :=
  if 36 * (j + 1) < bias + 1 then 1
  else if 36 * (j + 1) > bias + 26 then 26
  else 36 * (j + 1) - bias

/-- Divide a punycode delta by 35 while it exceeds 455, counting 36 per
step. -/
def punyShrink (delta steps : Nat) : Nat × Nat :=
  if 455 < delta then punyShrink (delta / 35) (steps + 36) else (delta, steps)
termination_by delta
decreasing_by exact Nat.div_lt_self (by omega) (by omega)

/-- The bias after a delta, for the first delta or a later one, with
`numChars` characters decoded. -/
def punyAdapt (delta : Nat) (first : Bool) (numChars : Nat) : Nat :=
  let delta := if first then delta / 700 else delta / 2
  let delta := delta + delta / numChars
  let (delta, steps) := punyShrink delta 0
  steps + 36 * delta / (delta + 38)

/-! ### Decoding -/

/-- A generalised variable-length integer of punycode read from digits (upper
case letters for 0 to 25, digits for 26 to 35), after `result` with weight `w`
at digit `j`: its value and the digits after it. Running out of digits, or a
character that is no digit, is a fault. -/
def punyNumber (bias : Nat) : List Char → Nat → Nat → Nat → Except DecodeFault (Nat × List Char)
  | [], _, _, _ => .error .broken
  | c :: rest, j, w, result =>
    let digit? : Option Nat :=
      if 'A' ≤ c && c ≤ 'Z' then some (c.toNat - 65)
      else if '0' ≤ c && c ≤ '9' then some (c.toNat - 22)
      else none
    match digit? with
    | none => .error .broken
    | some digit =>
      let t := punyThreshold j bias
      let result := result + digit * w
      if digit < t then .ok (result, rest)
      else punyNumber bias rest (j + 1) (w * (36 - t)) result

/-- Punycode insertion: each number read from the digits moves the insertion
point `next` and the code point `code` on, and inserts that code point into
`base`; `fuel` bounds the steps. A code point past U+10FFFF is a fault. -/
def punyInsert : Nat → List Char → List Nat → Nat → Nat → Nat → Bool →
    Except DecodeFault (List Nat)
  | _, [], base, _, _, _, _ => .ok base
  | 0, _ :: _, _, _, _, _, _ => .error .broken
  | fuel + 1, d :: ds, base, code, next, bias, first => do
    let (delta, rest) ← punyNumber bias (d :: ds) 0 1 0
    let pos := next + delta
    let code := code + pos / (base.length + 1)
    if code > 0x10FFFF then throw .broken
    let pos := pos % (base.length + 1)
    let base := base.take pos ++ code :: base.drop pos
    punyInsert fuel rest base code (pos + 1) (punyAdapt delta first base.length) false

/-- Punycode decoding of ASCII bytes: the part before the last `-` is the basic
text, the part after it (upper-cased) the digits of the insertions. A byte
outside ASCII is rejected. -/
def decodePunycode (bs : List UInt8) : Except DecodeFault (List Nat) := do
  if !bs.all (· < 128) then throw .rejected
  let cs := bs.map fun b => Char.ofNat b.toNat
  let (base, digits) :=
    match cs.reverse.findIdx? (· = '-') with
    | some i => (cs.take (cs.length - 1 - i), cs.drop (cs.length - i))
    | none => ([], cs)
  let digits := digits.map Char.toUpper
  punyInsert digits.length digits (base.map Char.toNat) 0x80 0 72 true

/-! ### Encoding -/

/-- The digit of a number below 36. -/
def punyDigit (d : Nat) : Char := if d < 26 then Char.ofNat (97 + d) else Char.ofNat (22 + d)

/-- Every digit threshold is at least one. -/
theorem punyThreshold_pos (j bias : Nat) : 1 ≤ punyThreshold j bias := by
  unfold punyThreshold
  split
  · exact Nat.le_refl 1
  · split <;> omega

/-- The digits of the generalised variable-length integer `n` from digit `j`
on under a bias. -/
def punyDigits (bias j n : Nat) : List Char :=
  if n < punyThreshold j bias then [punyDigit n]
  else
    punyDigit (punyThreshold j bias + (n - punyThreshold j bias) % (36 - punyThreshold j bias)) ::
      punyDigits bias (j + 1) ((n - punyThreshold j bias) / (36 - punyThreshold j bias))
termination_by n
decreasing_by
  have := punyThreshold_pos j bias
  exact Nat.lt_of_le_of_lt (Nat.div_le_self _ _) (by omega)

/-- The encoder's walk: the digits written, the pending delta, the bias, and
how many code points are placed (the basic ones first). -/
structure PunyWalk where
  out : List Char
  delta : Nat
  bias : Nat
  placed : Nat

/-- Pass one code point of the text while placing the code point `m`, with
`basic` basic code points: a smaller one counts into the delta, `m` itself
writes the delta and adapts the bias. -/
def PunyWalk.visit (basic m : Nat) (w : PunyWalk) (c : Nat) : PunyWalk :=
  if c < m then { w with delta := w.delta + 1 }
  else if c = m then
    { out := w.out ++ punyDigits w.bias 0 w.delta, delta := 0,
      bias := punyAdapt w.delta (w.placed = basic) (w.placed + 1), placed := w.placed + 1 }
  else w

/-- Place the code points `ms`, in increasing order, after the code point
`n`: each first moves the delta on by the code points skipped, then walks the
text. -/
def PunyWalk.placeAll (text : List Nat) (basic : Nat) : List Nat → Nat → PunyWalk → PunyWalk
  | [], _, w => w
  | m :: ms, n, w =>
    let w := text.foldl (PunyWalk.visit basic m) { w with delta := w.delta + (m - n) * (w.placed + 1) }
    PunyWalk.placeAll text basic ms (m + 1) { w with delta := w.delta + 1 }

/-- The punycode of code points. -/
def encodePunycode (text : List Nat) : List Char :=
  let base := (text.filter (· < 128)).map Char.ofNat
  let extended := ((text.filter (· ≥ 128)).mergeSort (· ≤ ·)).eraseDups
  let walk := PunyWalk.placeAll text base.length extended 128 ⟨[], 0, 72, base.length⟩
  if base.isEmpty then walk.out else base ++ '-' :: walk.out

end MaskedLog.Text

/-!
# Code point tables written as text

Tables keyed by code point are kept as text, in two forms, and read once into
sorted arrays that are searched by halving.

A *code map* sends code points to sequences of code points. Its items are
apart by `,`. An item is a gap, `:`, the code points of a value apart by
spaces, and optionally `+` and a count, all numbers in upper-case
hexadecimal. The item's code point lies the gap (empty for none) past the
first code point after the previous item; the count says how many code points
after it map to the same value with its last code point raised by one more
each.

A *range table* sends runs of code points to numbers. Its items are apart by
`,`: the first and last code point of a run in upper-case hexadecimal apart by
`-`, then optionally `:` and a decimal value (zero when missing).

## Main definitions

* `hexDigitValue?`, `readHex?` — upper-case hexadecimal numbers.
* `readCodeMap`, `codeMapGet?` — code maps.
* `readRanges`, `rangeValue?` — range tables.

## References

The tables of Python's `unicodedata`.
-/

namespace MaskedLog.Unicode

/-- The value of an upper-case hexadecimal digit. -/
def hexDigitValue? (c : Char) : Option Nat :=
  if c.isDigit then some (c.toNat - 48)
  else if 'A' ≤ c && c ≤ 'F' then some (c.toNat - 55)
  else none

/-- A number in upper-case hexadecimal digits; no digits are zero. -/
def readHex? (s : String) : Option Nat :=
  s.foldl (fun acc c => acc.bind fun n => (hexDigitValue? c).map (16 * n + ·)) (some 0)

/-- The items of a table's text chunks. -/
def tableItems (chunks : List String) : List String :=
  chunks.flatMap fun chunk => chunk.splitOn ","

/-! ### Code maps -/

/-- A value with its last code point raised by `k`. -/
def raiseLast (v : List Nat) (k : Nat) : List Nat :=
  match v.reverse with
  | last :: rest => (rest.reverse) ++ [last + k]
  | [] => []

/-- Read one item of a code map after the code point `next`: the new next code
point and the entries added. A malformed item adds nothing. -/
def readCodeItem (next : Nat) (acc : Array (Nat × List Nat)) (item : String) :
    Nat × Array (Nat × List Nat) :=
  match item.splitOn ":" with
  | [gap, rest] =>
    let (vals, run) := match rest.splitOn "+" with
      | [vals, run] => (vals, readHex? run)
      | _ => (rest, some 0)
    match readHex? gap, run, (vals.splitOn " ").mapM readHex? with
    | some g, some n, some v =>
      let code := next + g
      (code + n + 1, (List.range (n + 1)).foldl (fun acc k => acc.push (code + k, raiseLast v k)) acc)
    | _, _, _ => (next, acc)
  | _ => (next, acc)

/-- The entries of a code map, by code point. -/
def readCodeMap (chunks : List String) : Array (Nat × List Nat) :=
  ((tableItems chunks).foldl (fun (next, acc) item => readCodeItem next acc item) (0, #[])).2

/-- Search the entries between `lo` and `hi` for a code point, halving at most
`fuel` times. -/
def codeMapSearch (m : Array (Nat × List Nat)) (c : Nat) : Nat → Nat → Nat → Option (List Nat)
  | 0, _, _ => none
  | fuel + 1, lo, hi =>
    if lo < hi then
      let mid := (lo + hi) / 2
      let (k, v) := m.getD mid (0, [])
      if c < k then codeMapSearch m c fuel lo mid
      else if k < c then codeMapSearch m c fuel (mid + 1) hi
      else some v
    else none

/-- The value a code map gives a code point. -/
def codeMapGet? (m : Array (Nat × List Nat)) (c : Nat) : Option (List Nat) :=
  codeMapSearch m c 64 0 m.size

/-! ### Range tables -/

/-- Read one item of a range table. A malformed item adds nothing. -/
def readRangeItem (acc : Array (Nat × Nat × Nat)) (item : String) : Array (Nat × Nat × Nat) :=
  let (run, value) := match item.splitOn ":" with
    | [run, v] => (run, v.toNat?)
    | _ => (item, some 0)
  match run.splitOn "-", value with
  | [lo, hi], some v =>
    match readHex? lo, readHex? hi with
    | some a, some b => acc.push (a, b, v)
    | _, _ => acc
  | _, _ => acc

/-- The runs of a range table, in order. -/
def readRanges (chunks : List String) : Array (Nat × Nat × Nat) :=
  (tableItems chunks).foldl readRangeItem #[]

/-- Search the runs between `lo` and `hi` for a code point, halving at most
`fuel` times. -/
def rangeSearch (rs : Array (Nat × Nat × Nat)) (c : Nat) : Nat → Nat → Nat → Option Nat
  | 0, _, _ => none
  | fuel + 1, lo, hi =>
    if lo < hi then
      let mid := (lo + hi) / 2
      let (a, b, v) := rs.getD mid (0, 0, 0)
      if c < a then rangeSearch rs c fuel lo mid
      else if b < c then rangeSearch rs c fuel (mid + 1) hi
      else some v
    else none

/-- The value of the run holding a code point, if one does. -/
def rangeValue? (rs : Array (Nat × Nat × Nat)) (c : Nat) : Option Nat :=
  rangeSearch rs c 64 0 rs.size

end MaskedLog.Unicode

import MaskedLog.Value.Basic
/-!
# The order of a hash set

A set lists its members in the order of the slots of its hash table, not in
the order they were added. The table has a power-of-two size of at least
eight; a member goes to the slot its hash selects, or, when that is taken, to
the next free slot of a probe sequence (up to nine neighbours, then a jump that
mixes in higher bits of the hash). A table more than three fifths full is
rebuilt four times as large as its count (twice when it is very large), and
adding many members at once first makes room for them.

Numbers hash by value, so equal numbers of any type hash alike: an integer
modulo the prime `2^61 - 1`, a double as the fraction it stands for, with `-1`
taken to `-2`. Other values (texts, NaN, dates, nothing) have hashes that
vary from run to run; a set holding one keeps the order of addition.

* `numberHash?` — the hash of a number.
* `setOrder` — the members of a set in listing order.

## References

The order in which Python's `set` lists its members, for the sets PyYAML
builds.
-/

namespace MaskedLog.Value

/-- The prime modulus of number hashes. -/
def hashModulus : Nat := Nat.pow 2 61 - 1

/-- A signed hash, with `-1` (reserved for errors) taken to `-2`. -/
def fixHash (h : Int) : Int := if h = -1 then -2 else h

/-- The hash of an integer: its remainder modulo `2^61 - 1`, with its sign. -/
def intHash (n : Int) : Int :=
  let r : Int := (n.natAbs % hashModulus : Nat)
  fixHash (if n < 0 then -r else r)

/-- The hash of a double: infinities a fixed value, a finite `m · 2^e` the
residue of `m · 2^(e mod 61)` (the inverse of `2^k` is `2^(61 - k)` modulo
`2^61 - 1`), with its sign; none for a NaN. -/
def doubleHash? (x : Binary64) : Option Int :=
  match x.decode with
  | .nan => Option.none
  | .infinite neg => some (if neg then -314159 else 314159)
  | .finite neg m e =>
    let k := (e % 61).toNat
    let r : Int := ((m * Nat.pow 2 k) % hashModulus : Nat)
    some (fixHash (if neg then -r else r))

/-- The hash of a value whose hash is fixed: a truth value, an integer or a
double other than NaN. -/
def numberHash? : Value → Option Int
  | .bool b => some (if b then 1 else 0)
  | .int n => some (intHash n)
  | .float x => doubleHash? x
  | _ => Option.none

/-- A hash as an unsigned 64-bit word. -/
def hashWord (h : Int) : Nat := (h % (Int.ofNat (Nat.pow 2 64))).toNat

/-- How many neighbours a probe looks at before jumping. -/
def linearProbes : Nat := 9

/-- The free slot a hash finds in a table, searching from slot `i` with the
remaining hash bits `perturb`: slot `i` and, when they lie within the table,
its nine neighbours, then slot `(5i + 1 + perturb') mod size` with
`perturb' = perturb / 32`. The table must have a free slot; `fuel` bounds the
jumps. -/
def freeSlot (table : Array (Option (Value × Nat))) (mask : Nat) :
    Nat → Nat → Nat → Option Nat
  | 0, _, _ => Option.none
  | fuel + 1, i, perturb =>
    let span := if i + linearProbes ≤ mask then linearProbes + 1 else 1
    match (List.range span).find? (fun j => (table.getD (i + j) Option.none).isNone) with
    | some j => some (i + j)
    | Option.none =>
      let perturb := perturb / 32
      freeSlot table mask fuel ((i * 5 + 1 + perturb) % (mask + 1)) perturb

/-- A hash table being filled: its slots (member and hash word), and how many
slots are filled. -/
structure HashTable where
  slots : Array (Option (Value × Nat))
  used : Nat

/-- An empty table with `size` slots. -/
def HashTable.empty (size : Nat) : HashTable := ⟨Array.replicate size Option.none, 0⟩

/-- The table with a member placed in the free slot its hash finds. -/
def HashTable.place (t : HashTable) (v : Value) (h : Nat) : HashTable :=
  let mask := t.slots.size - 1
  match freeSlot t.slots mask (t.slots.size + 64) (h % t.slots.size) h with
  | some i => { slots := t.slots.set! i (some (v, h)), used := t.used + 1 }
  | Option.none => t

/-- The members of a table in slot order. -/
def HashTable.members (t : HashTable) : List (Value × Nat) := t.slots.toList.filterMap id

/-- The smallest table size, a power of two from eight, above `n`. -/
def tableSizeAbove (n : Nat) : Nat :=
  let k := (List.range 64).find? (fun k => n < Nat.pow 2 (k + 3))
  Nat.pow 2 ((k.getD 61) + 3)

/-- The table rebuilt with a size above `minUsed`, its members placed again in
slot order. -/
def HashTable.resize (t : HashTable) (minUsed : Nat) : HashTable :=
  t.members.foldl (fun acc (v, h) => acc.place v h) (HashTable.empty (tableSizeAbove minUsed))

/-- The table after adding a member that none present equals; a table more than
three fifths full is rebuilt. -/
def HashTable.add (t : HashTable) (v : Value) (h : Nat) : HashTable :=
  let t := t.place v h
  if t.used * 5 < (t.slots.size - 1) * 3 then t
  else t.resize (if t.used > 50000 then t.used * 2 else t.used * 4)

/-- The members of a set, given in the order they were added (no two equal),
in the order the set lists them. -/
def setOrder (members : List Value) : List Value :=
  match members.mapM numberHash? with
  | Option.none => members
  | some hashes =>
    let start := HashTable.empty 8
    let start := if members.length * 5 ≥ 7 * 3 then start.resize (members.length * 2) else start
    let t := (members.zip hashes).foldl (fun t (v, h) => t.add v (hashWord h)) start
    t.members.map (·.1)

end MaskedLog.Value

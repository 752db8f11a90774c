import MaskedLog.Number.Binary64
/-!
# Dynamic values

Settings files, environment overrides, log record fields and error contexts
carry values whose type is only known when they arrive: nothing, a truth value,
an integer, a double, a text, bytes, a list, a tuple or a mapping; rarely a
value of another type, such as a date read from a settings file. `Value` holds
any of them; a mapping keeps its entries in insertion order.

* `Value.typeName` — the name of a value's type, as messages print it.
* `Value.truthy` — whether a value counts as true in a condition.
* `Value.same` — equality of values, numbers compared by value across types.

## References

The Python values that `bodylog/config.py`, `bodylog/exceptions.py` and
`bodylog/log/formatters.py` carry.
-/

namespace MaskedLog

/-- A value of dynamic type. -/
inductive Value where
  | none
  | bool (b : Bool)
  | int (n : Int)
  | float (x : Binary64)
  | str (s : String)
  | bytes (b : List UInt8)
  | list (items : List Value)
  | tuple (items : List Value)
  | dict (entries : List (Value × Value))
  /-- A value of another type (a date, a set), known by its type name, its
  display and quoted texts, and whether it counts as true. -/
  | foreign (typeName shown quoted : String) (isTrue : Bool)
  deriving Repr, Inhabited

namespace Value

/-- The name of the value's type. -/
def typeName : Value → String
  | .none => "NoneType"
  | .bool _ => "bool"
  | .int _ => "int"
  | .float _ => "float"
  | .str _ => "str"
  | .bytes _ => "bytes"
  | .list _ => "list"
  | .tuple _ => "tuple"
  | .dict _ => "dict"
  | .foreign t _ _ _ => t

/-- Whether the value counts as true: nothing, `false`, zero, and empty texts
and containers count as false. -/
def truthy : Value → Bool
  | .none => false
  | .bool b => b
  | .int n => n != 0
  | .float x => x.compareRat 0 1 != some .eq
  | .str s => !s.isEmpty
  | .bytes b => !b.isEmpty
  | .list xs => !xs.isEmpty
  | .tuple xs => !xs.isEmpty
  | .dict es => !es.isEmpty
  | .foreign _ _ _ b => b

/-- The number a value stands for in arithmetic, if any: truth values are 0 and
1, integers and doubles themselves. -/
def asNumber? : Value → Option (Sum Int Binary64)
  | .bool b => some (.inl (if b then 1 else 0))
  | .int n => some (.inl n)
  | .float x => some (.inr x)
  | _ => Option.none

/-- Equality of two numbers, exact across integers and doubles. -/
def numbersEqual : Sum Int Binary64 → Sum Int Binary64 → Bool
  | .inl a, .inl b => a == b
  | .inl a, .inr y => y.compareRat a 1 == some .eq
  | .inr x, .inl b => x.compareRat b 1 == some .eq
  | .inr x, .inr y => x.compareTo y == some .eq

/-- Equality of values: numbers by value (so `1`, `1.0` and `true` are equal),
texts and bytes by content, lists and tuples item by item, mappings by their
entries regardless of order. -/
def same (a b : Value) : Bool :=
  match a, b with
  | .none, .none => true
  | .str a, .str b => a == b
  | .bytes a, .bytes b => a == b
  | .list xs, .list ys => xs.length == ys.length && (xs.attach.zip ys).all fun (⟨x, _⟩, y) => same x y
  | .tuple xs, .tuple ys => xs.length == ys.length && (xs.attach.zip ys).all fun (⟨x, _⟩, y) => same x y
  | .dict xs, .dict ys =>
    xs.length == ys.length &&
      xs.attach.all fun ⟨(k, v), _⟩ => ys.any fun f => same k f.1 && same v f.2
  | .foreign t _ q _, .foreign t' _ q' _ => t == t' && q == q'
  | a, b =>
    match a.asNumber?, b.asNumber? with
    | some x, some y => numbersEqual x y
    | _, _ => false
termination_by sizeOf a
decreasing_by
  all_goals
    have := List.sizeOf_lt_of_mem ‹_ ∈ _›
    simp_all
    omega

end Value

end MaskedLog

namespace MaskedLog.Value

/-- The items met when walking over a value: the items of a list or tuple, the
keys of a mapping, the characters of a text, the bytes of bytes as integers;
`none` for a value that cannot be walked over. -/
def items? : Value → Option (List Value)
  | .list xs => some xs
  | .tuple xs => some xs
  | .dict es => some (es.map (·.1))
  | .str s => some (s.toList.map fun c => .str c.toString)
  | .bytes b => some (b.map fun x => .int x.toNat)
  | _ => Option.none

end MaskedLog.Value

namespace MaskedLog.Value

/-- The value under the text key `k` of a mapping, if any. -/
def get? (v : Value) (k : String) : Option Value :=
  match v with
  | .dict es => (es.find? fun e => match e.1 with
      | .str s => s == k
      | _ => false).map (·.2)
  | _ => Option.none

/-- Exact order of two numbers, `none` when a NaN is involved. -/
def compareNumbers : Sum Int Binary64 → Sum Int Binary64 → Option Ordering
  | .inl a, .inl b => some (compare a b)
  | .inl a, .inr y => (y.compareRat a 1).map Ordering.swap
  | .inr x, .inl b => x.compareRat b 1
  | .inr x, .inr y => x.compareTo y

end MaskedLog.Value

import MaskedLog.Yaml.Token
/-!
# Implicit types of YAML scalars

An untagged plain scalar (or one tagged `!`) gets its type from its text, as
YAML 1.1 reads it: `yes`, `no`, `true`, `false`, `on`, `off` in three casings
are booleans; `~`, `null` in three casings and the empty text are null; a
float needs a point (`1.5`, `.5`, `1.`, `1_000.5`, `1.5e+3` with a signed
exponent, base-60 `1:30.5`) or is `.inf` or `.nan`; an integer is binary
`0b101`, octal `017`, decimal, hexadecimal `0x1F` or base-60 `1:30`, with
underscores anywhere after the first digit; dates are `2001-12-14` and times
`2001-12-14t21:59:43.10-05:00`; `<<` merges a mapping and `=` is the value
key. Any other scalar, and every quoted one, is a string.

The candidates are chosen by the first character and tried in a fixed order
(boolean, float, integer, merge, null, timestamp, value). A pattern may match
the text with one final line break left over.

* `Tag` — the types a node can name.
* `implicitTag` — the tag of an untagged scalar.

## References

The `yaml.resolver` module of PyYAML.
-/

namespace MaskedLog.Yaml

/-- The prefix of the standard YAML tags. -/
def standardPrefix : String := "tag:yaml.org,2002:"

/-- The standard tag of a type name. -/
def standardTag (name : String) : String := standardPrefix ++ name

/-- An ASCII decimal digit. -/
def isDecimal (c : Char) : Bool := '0' ≤ c && c ≤ '9'

/-- An optional sign. -/
def dropSign : List Char → List Char
  | '-' :: rest => rest
  | '+' :: rest => rest
  | s => s

/-- The rest after a run of characters satisfying `p`. -/
def dropRun (p : Char → Bool) (s : List Char) : List Char := s.dropWhile p

/-- A digit or an underscore. -/
def isDigitMark (c : Char) : Bool := isDecimal c || c = '_'

/-- An optional exponent `[eE][-+][0-9]+` ending the text. -/
def exponentEnds : List Char → Bool
  | [] => true
  | e :: s :: rest =>
    (e = 'e' || e = 'E') && (s = '-' || s = '+') && !rest.isEmpty && rest.all isDecimal
  | _ => false

/-- The remainders after one base-60 group `:[0-5]?[0-9]`. -/
def sexaGroup : List Char → List (List Char)
  | ':' :: a :: b :: rest =>
    (if '0' ≤ a && a ≤ '5' && isDecimal b then [rest] else []) ++
      (if isDecimal a then [b :: rest] else [])
  | [':', a] => if isDecimal a then [[]] else []
  | _ => []

/-- Whether one or more base-60 groups followed by a text satisfying `tail`
make up the text. -/
def sexaThen (tail : List Char → Bool) (s : List Char) : Bool :=
  go s.length s
where
  go : Nat → List Char → Bool
    | 0, _ => false
    | fuel + 1, s => (sexaGroup s).any fun rest => tail rest || go fuel rest

/-- `[0-9][0-9_]*` followed by a text satisfying `tail`. -/
def digitsThen (tail : List Char → Bool) : List Char → Bool
  | c :: rest => isDecimal c && tail (dropRun isDigitMark rest)
  | [] => false

/-- `[1-9][0-9_]*` followed by a text satisfying `tail`. -/
def leadDigitsThen (tail : List Char → Bool) : List Char → Bool
  | c :: rest => '1' ≤ c && c ≤ '9' && tail (dropRun isDigitMark rest)
  | [] => false

/-- `\.[0-9_]*` ending the text. -/
def pointEnds : List Char → Bool
  | '.' :: rest => rest.all isDigitMark
  | _ => false

/-- A float of YAML 1.1. -/
def floatPattern (s : List Char) : Bool :=
  digitsThen (fun r => match r with
      | '.' :: rest => exponentEnds (dropRun isDigitMark rest)
      | _ => false) (dropSign s) ||
    (match s with
      | '.' :: c :: rest => isDecimal c && exponentEnds (dropRun isDigitMark rest)
      | _ => false) ||
    digitsThen (sexaThen pointEnds) (dropSign s) ||
    ["inf", "Inf", "INF"].any (fun w => dropSign s == '.' :: w.toList) ||
    ["nan", "NaN", "NAN"].any (fun w => s == '.' :: w.toList)

/-- An integer of YAML 1.1. -/
def intPattern (s : List Char) : Bool :=
  let t := dropSign s
  (match t with
    | '0' :: 'b' :: rest => !rest.isEmpty && rest.all (fun c => c = '0' || c = '1' || c = '_')
    | '0' :: 'x' :: rest => !rest.isEmpty && rest.all (fun c => isHexDigit' c || c = '_')
    | ['0'] => true
    | '0' :: rest => !rest.isEmpty && rest.all (fun c => ('0' ≤ c && c ≤ '7') || c = '_')
    | _ => false) ||
  leadDigitsThen List.isEmpty t ||
  leadDigitsThen (sexaThen List.isEmpty) t
where
  isHexDigit' (c : Char) : Bool :=
    isDecimal c || ('a' ≤ c && c ≤ 'f') || ('A' ≤ c && c ≤ 'F')

/-- Exactly `n` decimal digits, then the rest. -/
def fixedDigits : Nat → List Char → Option (List Char)
  | 0, s => some s
  | n + 1, c :: rest => if isDecimal c then fixedDigits n rest else none
  | _ + 1, [] => none

/-- One or two decimal digits, either way, then the rest. -/
def shortDigits (s : List Char) : List (List Char) :=
  match s with
  | a :: b :: rest => if isDecimal a then (if isDecimal b then [rest] else []) ++ [b :: rest] else []
  | [a] => if isDecimal a then [[]] else []
  | [] => []

/-- The time-zone tail of a timestamp: `[ \t]*(Z|[-+][0-9][0-9]?(:[0-9][0-9])?)`, or
nothing. -/
def zoneEnds (s : List Char) : Bool :=
  s.isEmpty ||
    (match dropRun (fun c => c = ' ' || c = '\t') s with
    | ['Z'] => true
    | c :: rest =>
      (c = '-' || c = '+') && (shortDigits rest).any fun r =>
        r.isEmpty || (match r with
          | ':' :: more => fixedDigits 2 more == some []
          | _ => false)
    | [] => false)

/-- The time part of a timestamp after the date. -/
def timeEnds (s : List Char) : Bool :=
  let afterSep : List (List Char) :=
    match s with
    | c :: rest =>
      if c = 'T' || c = 't' then [rest]
      else if c = ' ' || c = '\t' then
        let blanks := (rest.takeWhile fun c => c = ' ' || c = '\t').length
        (List.range (blanks + 1)).map fun k => rest.drop k
      else []
    | [] => []
  afterSep.any fun r =>
    (shortDigits r).any fun r =>
      match r with
      | ':' :: r =>
        match fixedDigits 2 r with
        | some (':' :: r) =>
          match fixedDigits 2 r with
          | some r =>
            let fracs : List (List Char) :=
              match r with
              | '.' :: more =>
                let n := (more.takeWhile isDecimal).length
                r :: (List.range (n + 1)).map fun k => more.drop k
              | _ => [r]
            fracs.any zoneEnds
          | none => false
        | _ => false
      | _ => false

/-- A timestamp of YAML 1.1: a date, or a date and a time. -/
def timestampPattern (s : List Char) : Bool :=
  (match fixedDigits 4 s with
    | some ('-' :: r) =>
      match fixedDigits 2 r with
      | some ('-' :: r) => fixedDigits 2 r == some []
      | _ => false
    | _ => false) ||
  (match fixedDigits 4 s with
    | some ('-' :: r) =>
      (shortDigits r).any fun r =>
        match r with
        | '-' :: r => (shortDigits r).any timeEnds
        | _ => false
    | _ => false)

/-- The candidate patterns for a scalar beginning with `c` (`none` for the
empty scalar), in the order they are tried. -/
def candidates (c : Option Char) : List (String × (List Char → Bool)) :=
  let boolWords := ["yes", "Yes", "YES", "no", "No", "NO", "true", "True", "TRUE", "false",
    "False", "FALSE", "on", "On", "ON", "off", "Off", "OFF"]
  let all : List (String × List (Option Char) × (List Char → Bool)) :=
    [("bool", "yYnNtTfFoO".toList.map some, fun s => boolWords.contains (String.ofList s)),
     ("float", "-+0123456789.".toList.map some, floatPattern),
     ("int", "-+0123456789".toList.map some, intPattern),
     ("merge", [some '<'], fun s => s == ['<', '<']),
     ("null", [some '~', some 'n', some 'N', none],
       fun s => ["~", "null", "Null", "NULL", ""].contains (String.ofList s)),
     ("timestamp", "0123456789".toList.map some, timestampPattern),
     ("value", [some '='], fun s => s == ['='])]
  (all.filter fun (_, firsts, _) => firsts.contains c).map fun (name, _, p) => (standardTag name, p)

/-- Whether a pattern matches the text, or the text without one final line break. -/
def matchesText (p : List Char → Bool) (s : List Char) : Bool :=
  p s || (s.getLast? == some '\n' && p s.dropLast)

/-- The tag of a scalar without a specific tag: from its text when implicit
typing applies (a plain scalar, or one tagged `!`), else string. -/
def implicitTag (value : String) (byText : Bool) : String :=
  if byText then
    let s := value.toList
    match (candidates s.head?).find? fun (_, p) => matchesText p s with
    | some (tag, _) => tag
    | none => standardTag "str"
  else standardTag "str"

end MaskedLog.Yaml

import MaskedLog.Unicode.CaseMap
import MaskedLog.Unicode.CaseContext
/-!
# Lowercasing text

Text is lowercased character by character with the full Unicode mapping, in
which U+0130 (capital I with dot above) becomes two characters, and with one
rule of context: a capital sigma that ends a word becomes the final form `ς`,
any other the medial form `σ`.

* `lowerFull` — the context-free lowercase form of one character.
* `sigmaIsFinal` — the final-sigma condition.
* `lower` — the lowercase form of a text.

## References

Python's `str.lower`, as `bodylog/redact/scanner.py` (`shadow_copy`),
`bodylog/redact/fields.py` and `bodylog/content.py` use it.
-/

namespace MaskedLog.Unicode

/-- The simple lowercase form of `c`: one character, `i` for U+0130. Matching
letters without regard to case compares simple lowercase forms. -/
def simpleLower (c : Char) : Char :=
  if c.toNat = 0x130 then 'i' else lowerChar c

/-- The capital sigma, the one character whose lowercase form depends on context. -/
def capitalSigma : Char := 'Σ'

/-- The lowercase form of `c` outside any context: `i` followed by a combining
dot for U+0130, `lowerChar c` for every other character. -/
def lowerFull (c : Char) : List Char :=
  if c.toNat = 0x130 then ['i', '\u0307'] else [lowerChar c]

/-- A sigma ends a word when, looking through case-ignorable characters, a
cased character stands before it and none after it. `before` is the text
before the sigma in reverse order, `after` the text after it. -/
def sigmaIsFinal (before after : List Char) : Bool :=
  (match before.dropWhile isCaseIgnorable with
    | c :: _ => isCasedSolid c
    | [] => false) &&
  (match after.dropWhile isCaseIgnorable with
    | c :: _ => !isCasedSolid c
    | [] => true)

/-- Lowercase `s`, where `before` is the text already passed, in reverse order. -/
def lowerAfter (before : List Char) : List Char → List Char
  | [] => []
  | c :: rest =>
    (if c = capitalSigma then [if sigmaIsFinal before rest then 'ς' else 'σ']
     else lowerFull c) ++ lowerAfter (c :: before) rest

/-- The lowercase form of a text. -/
def lower (s : List Char) : List Char := lowerAfter [] s

/-- The lowercase form of a string. -/
def lowerString (s : String) : String := String.ofList (lower s.toList)

@[simp] theorem lowerAfter_nil (before : List Char) : lowerAfter before [] = [] := rfl

@[simp] theorem lower_nil : lower [] = [] := rfl

end MaskedLog.Unicode

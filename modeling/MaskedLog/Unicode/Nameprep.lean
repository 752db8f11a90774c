import MaskedLog.Unicode.Normalize
import MaskedLog.Unicode.PrepData

/-!
# Preparing host names

The stringprep profile that internationalized host names are prepared with,
before they are compared or encoded:

1. characters mapped to nothing are dropped, and the others are mapped to
   lower case with compatibility forms folded;
2. the result is put in the composed normal form NFKC;
3. a prohibited character (spaces other than the plain one, controls,
   private use, non-characters, surrogates, and the like) refuses the name;
4. a name with a right-to-left character must hold no left-to-right one, and
   must begin and end with right-to-left characters.

## Main definitions

* `isSilent`, `caseFold`, `isProhibited`, `isRightToLeft`, `isLeftToRight`.
* `nameprep` — the prepared name, or nothing when the name is refused.

## References

Python's `encodings.idna.nameprep`.
-/

namespace MaskedLog.Unicode

/-- The characters mapped to nothing, as runs. -/
def silentRanges : Array (Nat × Nat × Nat) := readRanges silentText

/-- The characters that change in mapping, with what they become. -/
def caseFolds : Array (Nat × List Nat) := readCodeMap caseFoldText

/-- The prohibited characters, as runs. -/
def prohibitedRanges : Array (Nat × Nat × Nat) := readRanges prohibitedText

/-- The right-to-left characters, as runs. -/
def rightToLeftRanges : Array (Nat × Nat × Nat) := readRanges rightToLeftText

/-- The left-to-right characters, as runs. -/
def leftToRightRanges : Array (Nat × Nat × Nat) := readRanges leftToRightText

/-- Whether a character is mapped to nothing. -/
def isSilent (c : Nat) : Bool := (rangeValue? silentRanges c).isSome

/-- What a character is mapped to. -/
def caseFold (c : Nat) : List Nat := (codeMapGet? caseFolds c).getD [c]

/-- Whether a host name may not hold a character. -/
def isProhibited (c : Nat) : Bool := (rangeValue? prohibitedRanges c).isSome

/-- Whether a character is of right-to-left direction. -/
def isRightToLeft (c : Nat) : Bool := (rangeValue? rightToLeftRanges c).isSome

/-- Whether a character is of left-to-right direction. -/
def isLeftToRight (c : Nat) : Bool := (rangeValue? leftToRightRanges c).isSome

/-- The prepared form of a name, or nothing when a prohibited character or
the mixing of directions refuses it. -/
def nameprep (cs : List Nat) : Option (List Nat) :=
  let mapped := cs.flatMap fun c => if isSilent c then [] else caseFold c
  let p := nfkc mapped
  if p.any isProhibited then none
  else if p.any isRightToLeft then
    if p.any isLeftToRight then none
    else if (p.head?.map isRightToLeft).getD false && (p.getLast?.map isRightToLeft).getD false then
      some p
    else none
  else some p

end MaskedLog.Unicode

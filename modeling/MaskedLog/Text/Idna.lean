import MaskedLog.Text.Punycode
import MaskedLog.Unicode.Nameprep

/-!
# Internationalized host names

A host name travels in ASCII: each dot-separated label that is not ASCII is
prepared (`Unicode.nameprep`) and written as `xn--` followed by its punycode.

Decoding bytes reads a name that holds no `xn--` and is ASCII as it stands.
Otherwise it splits the name at the dots (a final empty label standing for a
trailing dot) and reads each label: a label without the `xn--` prefix must be
ASCII and is itself; a label with it is punycode after the prefix, and must
come back, letters lowercased, when the decoded text is encoded again.

## Main definitions

* `acePrefix`, `labelToAscii` — encoding one label.
* `labelToUnicode` — decoding one label.
* `decodeIdna` — decoding a host name.

## References

Python's `idna` codec.
-/

namespace MaskedLog.Text

/-- The prefix of encoded labels, `xn--`. -/
def acePrefix : List Nat := [120, 110, 45, 45]

/-- A label of 1 to 63 characters; longer or empty ones fail. -/
def fitLabel (l : List Nat) : Option (List Nat) :=
  if 0 < l.length && l.length < 64 then some l else none

/-- The ASCII form of a label: an ASCII label is itself; any other is
prepared, and then, unless that made it ASCII, must not start with `xn--` and
is written as `xn--` and its punycode. Nothing when the label fails. -/
def labelToAscii (label : List Nat) : Option (List Nat) :=
  if label.all (· < 128) then fitLabel label
  else do
    let p ← Unicode.nameprep label
    if p.all (· < 128) then fitLabel p
    else if acePrefix.isPrefixOf p then none
    else fitLabel (acePrefix ++ (encodePunycode p).map Char.toNat)

/-- An ASCII letter in lower case. -/
def asciiLower (c : Nat) : Nat := if 65 ≤ c && c ≤ 90 then c + 32 else c

/-- The text of one label of a host name. A label without the `xn--` prefix
must be ASCII (else it is rejected); one with it is decoded from punycode, and
fails unless encoding the result gives the label back in lower case. -/
def labelToUnicode (label : List UInt8) : Except DecodeFault (List Nat) := do
  let codes := label.map (·.toNat)
  if !acePrefix.isPrefixOf codes then
    if codes.all (· < 128) then return codes else throw .rejected
  let result ← decodePunycode (label.drop 4)
  match labelToAscii result with
  | some back => if codes.map asciiLower == back then return result else throw .broken
  | none => throw .broken

/-- Whether bytes hold `xn--` somewhere. -/
def hasAcePrefix : List UInt8 → Bool
  | 120 :: 110 :: 45 :: 45 :: _ => true
  | _ :: rest => hasAcePrefix rest
  | [] => false

/-- The pieces of bytes between dots. -/
def splitAtDots (bs : List UInt8) : List (List UInt8) :=
  let (cur, done) := bs.foldl (fun (cur, done) b =>
    if b = 46 then ([], cur.reverse :: done) else (b :: cur, done)) ([], [])
  (cur.reverse :: done).reverse

/-- IDNA decoding of a host name given as bytes. -/
def decodeIdna (bs : List UInt8) : Except DecodeFault (List Nat) :=
  if bs.isEmpty then .ok []
  else if !hasAcePrefix bs && bs.all (· < 128) then .ok (bs.map (·.toNat))
  else
    let labels := splitAtDots bs
    let (labels, trail) :=
      if labels.getLast? == some [] then (labels.dropLast, [46]) else (labels, [])
    (labels.mapM labelToUnicode).map fun parts => [46].intercalate parts ++ trail

end MaskedLog.Text

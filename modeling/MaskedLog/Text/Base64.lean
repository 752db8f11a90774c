/-!
# Lenient base64 decoding

Base64 text decoded the lenient way: characters outside the alphabet
(`A`–`Z`, `a`–`z`, `0`–`9`, `+`, `/`) are skipped, a `=` before the third
character of a quad is ignored, and padding that completes a quad ends the
input. Input that stops inside a quad is an error: one data character too
many, or missing padding.

* `decodeBase64` — the bytes of base64 text, or the error message.

## References

Python's `base64.decodebytes`, which PyYAML uses for binary scalars.
-/

namespace MaskedLog.Text

/-- The value of a base64 character, if it is one. -/
def base64Value (c : Char) : Option Nat :=
  if 'A' ≤ c && c ≤ 'Z' then some (c.toNat - 65)
  else if 'a' ≤ c && c ≤ 'z' then some (c.toNat - 71)
  else if '0' ≤ c && c ≤ '9' then some (c.toNat + 4)
  else if c = '+' then some 62
  else if c = '/' then some 63
  else none

/-- The state of decoding: position in the quad, the bits left over, pad
characters seen, and the bytes so far (newest first). -/
structure Base64State where
  quad : Nat := 0
  left : Nat := 0
  pads : Nat := 0
  out : List UInt8 := []

/-- Decode the characters from `cs` on, from a state. -/
def base64Go (st : Base64State) : List Char → Except String (List UInt8)
  | [] =>
    if st.quad = 0 then .ok st.out.reverse
    else if st.quad = 1 then
      .error s!"Invalid base64-encoded string: number of data characters ({st.out.length / 3 * 4 + 1}) cannot be 1 more than a multiple of 4"
    else .error "Incorrect padding"
  | c :: rest =>
    if c = '=' then
      if st.quad ≥ 2 then
        if st.quad + st.pads + 1 ≥ 4 then .ok st.out.reverse
        else base64Go { st with pads := st.pads + 1 } rest
      else base64Go st rest
    else
      match base64Value c with
      | none => base64Go st rest
      | some v =>
        let st := { st with pads := 0 }
        match st.quad with
        | 0 => base64Go { st with quad := 1, left := v } rest
        | 1 =>
          let b := UInt8.ofNat ((st.left * 4 + v / 16) % 256)
          base64Go { st with quad := 2, left := v % 16, out := b :: st.out } rest
        | 2 =>
          let b := UInt8.ofNat ((st.left * 16 + v / 4) % 256)
          base64Go { st with quad := 3, left := v % 4, out := b :: st.out } rest
        | _ =>
          let b := UInt8.ofNat ((st.left * 64 + v) % 256)
          base64Go { st with quad := 0, left := 0, out := b :: st.out } rest

/-- The bytes of base64 text, or the error message. -/
def decodeBase64 (s : String) : Except String (List UInt8) := base64Go {} s.toList

end MaskedLog.Text

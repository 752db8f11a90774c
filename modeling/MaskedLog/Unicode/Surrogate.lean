/-!
# Code points and lone surrogates

A text is a sequence of code points below U+110000. Most are characters; those
of the surrogate range U+D800 to U+DFFF are none, yet a text can hold one on
its own, read from an escape such as `\uD800`. Where what a function gives
turns on such surrogates (the bytes of a text with surrogates passed through,
and whether UTF-8 can write it at all), the function takes its text as a list
of `CodePoint`s, in which a surrogate is the number it is.

Everywhere else a text is a `String`, which holds characters only. A reader
that meets a surrogate escape there, and must give a character, gives U+E0800
plus the surrogate's offset in its range (`charOfCodePoint`): 2048 code points
that no version of Unicode assigns. No function of this library reads such a
character back as a surrogate; to all of them it is the character it is.

## Main definitions

* `isSurrogate` — whether a code point is a surrogate.
* `CodePoint`, `CodePoint.ofChar`, `CodePoint.toChar?` — code points, and the
  characters among them.
* `codePoints`, `stringOf` — a string as code points, and back.
* `charOfCodePoint` — the character a reader of escapes gives for a code point.

## References

Python's `str`, which may hold lone surrogates; `truncate` and `looks_binary`
of `bodylog/content.py` and `capture` of `bodylog/capture.py` turn on them.
-/

namespace MaskedLog.Unicode

/-- Whether a code point is a surrogate. -/
def isSurrogate (n : Nat) : Bool := 0xD800 ≤ n && n ≤ 0xDFFF

/-- A code point of a text: a number below U+110000, a surrogate included. -/
structure CodePoint where
  val : Nat
  lt : val < 0x110000
  deriving DecidableEq, Repr

namespace CodePoint

/-- The code point of a character. -/
def ofChar (c : Char) : CodePoint :=
  ⟨c.toNat, by
    show c.val.toNat < 0x110000
    rcases c.valid with h | h <;> omega⟩

/-- Whether a code point is a surrogate, which is no character. -/
def isSurrogate (p : CodePoint) : Bool := Unicode.isSurrogate p.val

/-- The character of a code point; a surrogate has none. -/
def toChar? (p : CodePoint) : Option Char :=
  if p.isSurrogate then none else some (Char.ofNat p.val)

end CodePoint

/-- The code points of a string. -/
def codePoints (s : String) : List CodePoint := s.toList.map CodePoint.ofChar

/-- The string of the characters among code points; a surrogate, which no
string holds, is left out. -/
def stringOf (ps : List CodePoint) : String := String.ofList (ps.filterMap CodePoint.toChar?)

/-- The character a reader of escapes gives for a code point up to U+10FFFF; a
surrogate gives U+E0800 plus its offset among the surrogates. -/
def charOfCodePoint (n : Nat) : Char :=
  if isSurrogate n then Char.ofNat (0xE0800 + (n - 0xD800)) else Char.ofNat n

end MaskedLog.Unicode

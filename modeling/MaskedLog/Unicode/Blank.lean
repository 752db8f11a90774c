import MaskedLog.Unicode.Ranges
/-!
# White space

The characters that count as white space when trimming text or matching a
blank in a pattern: the Unicode White_Space characters together with the
information separators U+001C to U+001F.

## References

Python's `str.strip` and `str.split`, with which `bodylog/redact/fields.py`,
`bodylog/size.py` and `bodylog/config.py` trim and split settings.
-/

namespace MaskedLog.Unicode

/-- Code points of white space. -/
def blankRanges : CodeRanges :=
#[
  (0x9, 0xD), (0x1C, 0x20), (0x85, 0x85), (0xA0, 0xA0), (0x1680, 0x1680), (0x2000, 0x200A),
  (0x2028, 0x2029), (0x202F, 0x202F), (0x205F, 0x205F), (0x3000, 0x3000)]

/-- Whether `c` is white space. -/
def isBlank (c : Char) : Bool := blankRanges.contains c.toNat

end MaskedLog.Unicode

namespace MaskedLog.Unicode

/-- The text without white space at either end. -/
def trim (s : List Char) : List Char :=
  ((s.dropWhile isBlank).reverse.dropWhile isBlank).reverse

/-- The string without white space at either end. -/
def trimString (s : String) : String := String.ofList (trim s.toList)

end MaskedLog.Unicode

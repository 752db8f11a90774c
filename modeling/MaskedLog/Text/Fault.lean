/-!
# Decoding faults

Why bytes did not decode: they lie outside the codec's encoding, which a
caller may answer by decoding them another way, or the codec failed for a
reason of its own.

* `DecodeFault`.

## References

The `UnicodeDecodeError` of Python's codecs.
-/

namespace MaskedLog.Text

/-- Why bytes did not decode. -/
inductive DecodeFault where
  /-- The bytes are not in the codec's encoding. -/
  | rejected
  /-- The codec failed for another reason. -/
  | broken
  deriving Repr, DecidableEq

end MaskedLog.Text

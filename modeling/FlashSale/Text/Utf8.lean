/-!
# Characters in bytes

Bytes are read as characters in UTF-8. A byte that is part of no character is kept
as a gap, so that it can be told later whether it matters.
-/

namespace FlashSale.Utf8

/-- The characters that bytes from `i` on encode, `none` for a byte that is part of none. -/
def decodeFrom (bytes : ByteArray) (i : Nat) (before : List (Option Char)) : List (Option Char) :=
  if i < bytes.size then
    match bytes.utf8DecodeChar? i with
    | some c =>
      have _ := c.utf8Size_pos
      decodeFrom bytes (i + c.utf8Size) (some c :: before)
    | none => decodeFrom bytes (i + 1) (none :: before)
  else before.reverse
termination_by bytes.size - i

def decode (bytes : ByteArray) : List (Option Char) := decodeFrom bytes 0 []

end FlashSale.Utf8

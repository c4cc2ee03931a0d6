/-!
# Bytes as text

The encoding of characters in one to four bytes. What is no such encoding is refused at its first
bytes, with the reason.
-/

namespace Taxonomy.Text

/-- **Why bytes are no text**: the first and the last byte at fault, by position, and what is wrong
with them. -/
structure DecodingFault where
  byte : Nat
  first : Nat
  last : Nat
  reason : String
  deriving DecidableEq, Repr

/-- The number of bytes that follow a first byte, and the bounds of the second one. -/
def sequenceShape? (b : Nat) : Option (Nat × Nat × Nat) :=
  if b < 0x80 then some (0, 0x80, 0xbf)
  else if 0xc2 ≤ b && b ≤ 0xdf then some (1, 0x80, 0xbf)
  else if b == 0xe0 then some (2, 0xa0, 0xbf)
  else if b == 0xed then some (2, 0x80, 0x9f)
  else if 0xe1 ≤ b && b ≤ 0xef then some (2, 0x80, 0xbf)
  else if b == 0xf0 then some (3, 0x90, 0xbf)
  else if 0xf1 ≤ b && b ≤ 0xf3 then some (3, 0x80, 0xbf)
  else if b == 0xf4 then some (3, 0x80, 0x8f)
  else none

/-- The bits of a first byte that belong to the code point. -/
def leadBits (b : Nat) : Nat :=
  if b < 0x80 then b else if b < 0xe0 then b % 0x20 else if b < 0xf0 then b % 0x10 else b % 8

/-- Reads the bytes behind a first one; `low` and `high` bound the next one. The number of bytes
that were right comes with a fault. -/
def continuation (low high : Nat) : Nat → Nat → List Nat → Except (Nat × String) (Nat × List Nat)
  | 0, n, bs => .ok (n, bs)
  | _ + 1, _, [] => .error (0, "unexpected end of data")
  | k + 1, n, b :: bs =>
    if low ≤ b && b ≤ high then
      match continuation 0x80 0xbf k (n * 0x40 + b % 0x40) bs with
      | .ok r => .ok r
      | .error (right, reason) => .error (right + 1, reason)
    else .error (0, "invalid continuation byte")

/-- Decodes bytes from a position on; `fuel` bounds their number. -/
def decodeFrom : Nat → Nat → List Nat → Except DecodingFault (List Char)
  | 0, _, _ => .ok []
  | _ + 1, _, [] => .ok []
  | fuel + 1, position, b :: bs =>
    match sequenceShape? b with
    | none => .error ⟨b, position, position, "invalid start byte"⟩
    | some (size, low, high) =>
      match continuation low high size (leadBits b) bs with
      | .error (right, reason) => .error ⟨b, position, position + right, reason⟩
      | .ok (n, rest) => (decodeFrom fuel (position + size + 1) rest).map (Char.ofNat n :: ·)

/-- **The text that bytes encode.** -/
def decode (bytes : List Nat) : Except DecodingFault String :=
  (decodeFrom bytes.length 0 bytes).map String.ofList

/-- Line ends of all kinds as single characters. -/
def unifyLineEnds : List Char → List Char
  | '\r' :: '\n' :: cs => '\n' :: unifyLineEnds cs
  | '\r' :: cs => '\n' :: unifyLineEnds cs
  | c :: cs => c :: unifyLineEnds cs
  | [] => []

end Taxonomy.Text

import NovelScript.Text.JisX0208
import NovelScript.Text.JisX0212
import NovelScript.Text.Utf8
/-!
# Shift_JIS and EUC-JP

Decoders from the two byte encodings of Japanese to UTF-8. Both read JIS X 0208 (with the
Windows extensions) through the same pointers; EUC-JP also reaches JIS X 0212 with the single
shift 0x8F and the half-width katakana with 0x8E. Decoding never fails: a byte sequence that
names no character becomes U+FFFD, and a byte that cannot continue a sequence starts the next
one.
-/

namespace NovelScript

open Utf8

namespace ShiftJis

/-- The character at `i` and the number of bytes it takes (at least 1). -/
def step (bs : ByteArray) (i : Nat) : Nat × Nat :=
  let c0 := (byteAt bs i).toNat
  if c0 < 0x80 then (c0, 1)
  else if 0xA1 ≤ c0 && c0 < 0xE0 then (c0 + 0xFF61 - 0xA1, 1)
  else if (0x81 ≤ c0 && c0 < 0xA0) || (0xE0 ≤ c0 && c0 < 0xFD) then
    let row := 2 * (if c0 ≤ 0x9F then c0 - 0x70 else c0 - 0xB0) - 0x21
    if i + 1 ≥ bs.size then (replacement, 1)
    else
      let c1 := (byteAt bs (i + 1)).toNat
      if c1 < 0x40 || c1 == 0x7F then (replacement, 1)
      else if c1 ≥ 0xFD then (replacement, 2)
      else
        let (row, cell) :=
          if c1 < 0x7F then (row - 1, c1 - 0x40)
          else if c1 < 0x9F then (row - 1, c1 - 0x41)
          else (row, c1 - 0x9F)
        (JisX0208.lookup (row * 94 + cell), 2)
  else if c0 == 0x80 then (0x80, 1)
  else (replacement, 1)

/-- Decodes from `i` on, appending to `out`. -/
def decodeFrom (bs : ByteArray) (i : Nat) (out : ByteArray) : ByteArray :=
  if i < bs.size then
    let (r, n) := step bs i
    decodeFrom bs (i + max n 1) (push out r)
  else out
termination_by bs.size - i

/-- The UTF-8 text of Shift_JIS bytes. -/
def decode (bs : ByteArray) : ByteArray := decodeFrom bs 0 .empty

end ShiftJis

namespace EucJp

/-- Whether a byte is a trail byte of a two-byte sequence. -/
def isTrail (b : Nat) : Bool := 0xA1 ≤ b && b ≤ 0xFE

/-- The character at `i` and the number of bytes it takes (at least 1). -/
def step (bs : ByteArray) (i : Nat) : Nat × Nat :=
  let c0 := (byteAt bs i).toNat
  let c1 := (byteAt bs (i + 1)).toNat
  if c0 < 0x80 then (c0, 1)
  else if c0 == 0x8E then
    if i + 1 ≥ bs.size || c1 < 0xA1 then (replacement, 1)
    else if c1 > 0xDF then (replacement, if c1 == 0xFF then 1 else 2)
    else (c1 + 0xFF61 - 0xA1, 2)
  else if c0 == 0x8F then
    if i + 2 ≥ bs.size then
      (replacement, if i + 1 < bs.size && 0xA1 ≤ c1 && c1 < 0xFE then 2 else 1)
    else
      let c2 := (byteAt bs (i + 2)).toNat
      if !isTrail c1 then (replacement, 1)
      else if !isTrail c2 then (replacement, 2)
      else (JisX0212.lookup ((c1 - 0xA1) * 94 + (c2 - 0xA1)), 3)
  else if isTrail c0 then
    if i + 1 ≥ bs.size || !isTrail c1 then (replacement, 1)
    else (JisX0208.lookup ((c0 - 0xA1) * 94 + (c1 - 0xA1)), 2)
  else (replacement, 1)

/-- Decodes from `i` on, appending to `out`. -/
def decodeFrom (bs : ByteArray) (i : Nat) (out : ByteArray) : ByteArray :=
  if i < bs.size then
    let (r, n) := step bs i
    decodeFrom bs (i + max n 1) (push out r)
  else out
termination_by bs.size - i

/-- The UTF-8 text of EUC-JP bytes. -/
def decode (bs : ByteArray) : ByteArray := decodeFrom bs 0 .empty

end EucJp

end NovelScript

import NovelScript.Text.Utf8
/-!
# UTF-16

A decoder from UTF-16 to UTF-8. A leading byte-order mark chooses the byte order and is
dropped; without one the text is little-endian. A surrogate pair gives one character; a
surrogate that is not the lead of a pair becomes U+FFFD (two trail surrogates in a row become
one), and so does an odd byte at the end.
-/

namespace NovelScript.Utf16

open Utf8

/-- Whether a code unit is a surrogate. -/
def isSurrogate (u : Nat) : Bool := 0xD800 ≤ u && u < 0xE000

/-- Whether a code unit is a trail surrogate. -/
def isTrail (u : Nat) : Bool := 0xDC00 ≤ u && u < 0xE000

/-- The code unit at `i` in the given byte order. -/
def unitAt (bs : ByteArray) (bigEndian : Bool) (i : Nat) : Nat :=
  let a := (byteAt bs i).toNat
  let b := (byteAt bs (i + 1)).toNat
  if bigEndian then a * 256 + b else b * 256 + a

/-- The character at `i` and the number of bytes it takes (at least 1). -/
def step (bs : ByteArray) (bigEndian : Bool) (i : Nat) : Nat × Nat :=
  if i + 1 < bs.size then
    let u := unitAt bs bigEndian i
    if isSurrogate u then
      if i + 3 < bs.size && isTrail (unitAt bs bigEndian (i + 2)) then
        let v := unitAt bs bigEndian (i + 2)
        if u < 0xDC00 then (0x10000 + (u - 0xD800) * 0x400 + (v - 0xDC00), 4)
        else (replacement, 4)
      else (replacement, 2)
    else (u, 2)
  else (replacement, 1)

/-- Decodes from `i` on, appending to `out`. -/
def decodeFrom (bs : ByteArray) (bigEndian : Bool) (i : Nat) (out : ByteArray) : ByteArray :=
  if i < bs.size then
    let (r, n) := step bs bigEndian i
    decodeFrom bs bigEndian (i + max n 1) (push out r)
  else out
termination_by bs.size - i

/-- The UTF-8 text of UTF-16 bytes. -/
def decode (bs : ByteArray) : ByteArray :=
  let b0 := byteAt bs 0
  let b1 := byteAt bs 1
  if bs.size ≥ 2 && b0 == 0xFE && b1 == 0xFF then decodeFrom bs true 2 .empty
  else if bs.size ≥ 2 && b0 == 0xFF && b1 == 0xFE then decodeFrom bs false 2 .empty
  else decodeFrom bs false 0 .empty

end NovelScript.Utf16

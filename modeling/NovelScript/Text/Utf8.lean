/-!
# UTF-8 over raw bytes

Script sources and decoded literals are byte strings that need not be well-formed UTF-8.
This module reads one code point at a byte offset and writes code points back as bytes.

Reading follows the Unicode well-formedness table: a lead byte fixes the sequence length, the
second byte has a range that excludes overlong forms, surrogates and values above U+10FFFF,
and every later byte is a continuation byte. A byte that starts no well-formed sequence reads
as U+FFFD of length one, so a scan over any input always moves forward; the end of the input
reads as U+FFFD of length zero.
-/

namespace NovelScript.Utf8

/-- The replacement character U+FFFD. -/
def replacement : Nat := 0xFFFD

/-- The largest Unicode code point. -/
def maxRune : Nat := 0x10FFFF

/-- The byte at `i`, or 0 past the end. -/
def byteAt (bs : ByteArray) (i : Nat) : UInt8 :=
  if h : i < bs.size then bs[i] else 0

/-- Whether `b` is a continuation byte `10xxxxxx`. -/
def isCont (b : UInt8) : Bool := b &&& 0xC0 == 0x80

/-- The range allowed for the second byte of a sequence that starts with `lead`. -/
def secondRange (lead : UInt8) : UInt8 × UInt8 :=
  if lead == 0xE0 then (0xA0, 0xBF)
  else if lead == 0xED then (0x80, 0x9F)
  else if lead == 0xF0 then (0x90, 0xBF)
  else if lead == 0xF4 then (0x80, 0x8F)
  else (0x80, 0xBF)

/-- The length of the sequence that `lead` starts, or 0 when it starts none. -/
def seqLength (lead : UInt8) : Nat :=
  if lead < 0x80 then 1
  else if lead < 0xC2 then 0
  else if lead < 0xE0 then 2
  else if lead < 0xF0 then 3
  else if lead < 0xF5 then 4
  else 0

/-- The code point at byte `i` of `bs` and the number of bytes it takes. -/
def decodeAt (bs : ByteArray) (i : Nat) : Nat × Nat :=
  if i ≥ bs.size then (replacement, 0) else
  let b0 := byteAt bs i
  let n := seqLength b0
  if n == 1 then (b0.toNat, 1)
  else if n == 0 || i + n > bs.size then (replacement, 1)
  else
    let b1 := byteAt bs (i + 1)
    let (lo, hi) := secondRange b0
    if b1 < lo || b1 > hi then (replacement, 1)
    else if n == 2 then ((b0.toNat &&& 0x1F) <<< 6 ||| (b1.toNat &&& 0x3F), 2)
    else
      let b2 := byteAt bs (i + 2)
      if !isCont b2 then (replacement, 1)
      else if n == 3 then
        ((b0.toNat &&& 0x0F) <<< 12 ||| (b1.toNat &&& 0x3F) <<< 6 ||| (b2.toNat &&& 0x3F), 3)
      else
        let b3 := byteAt bs (i + 3)
        if !isCont b3 then (replacement, 1)
        else
          ((b0.toNat &&& 0x07) <<< 18 ||| (b1.toNat &&& 0x3F) <<< 12 |||
            (b2.toNat &&& 0x3F) <<< 6 ||| (b3.toNat &&& 0x3F), 4)

/-- Whether `r` is a Unicode scalar value: at most U+10FFFF and no surrogate. -/
def isScalar (r : Nat) : Bool := r ≤ maxRune && !(0xD800 ≤ r && r ≤ 0xDFFF)

/-- Appends the UTF-8 form of `r`; a value that is no scalar value is written as U+FFFD. -/
def push (bs : ByteArray) (r : Nat) : ByteArray :=
  let r := if isScalar r then r else replacement
  if r < 0x80 then bs.push r.toUInt8
  else if r < 0x800 then
    (bs.push (0xC0 ||| (r >>> 6)).toUInt8).push (0x80 ||| (r &&& 0x3F)).toUInt8
  else if r < 0x10000 then
    ((bs.push (0xE0 ||| (r >>> 12)).toUInt8).push (0x80 ||| ((r >>> 6) &&& 0x3F)).toUInt8).push
      (0x80 ||| (r &&& 0x3F)).toUInt8
  else
    (((bs.push (0xF0 ||| (r >>> 18)).toUInt8).push (0x80 ||| ((r >>> 12) &&& 0x3F)).toUInt8).push
      (0x80 ||| ((r >>> 6) &&& 0x3F)).toUInt8).push (0x80 ||| (r &&& 0x3F)).toUInt8

/-- The UTF-8 form of one code point. -/
def encode (r : Nat) : ByteArray := push ByteArray.empty r

/-- Whether the bytes from `i` on are well-formed UTF-8. -/
def validFrom (bs : ByteArray) (i : Nat) : Bool :=
  if i < bs.size then
    let (r, n) := decodeAt bs i
    if r == replacement && n == 1 then false
    else validFrom bs (i + max n 1)
  else true
termination_by bs.size - i
decreasing_by omega

/-- Whether `bs` is well-formed UTF-8. -/
def valid (bs : ByteArray) : Bool := validFrom bs 0

/-- The code points of the bytes from `i` on, appended to `acc`; each byte that starts no
valid sequence reads as U+FFFD. -/
def runesFrom (bs : ByteArray) (i : Nat) (acc : Array Nat) : Array Nat :=
  if i < bs.size then
    let (r, n) := decodeAt bs i
    runesFrom bs (i + max n 1) (acc.push r)
  else acc
termination_by bs.size - i
decreasing_by omega

/-- The code points of `bs`. -/
def runes (bs : ByteArray) : List Nat := (runesFrom bs 0 #[]).toList

/-- The text of `bs` with each invalid byte read as U+FFFD. -/
def lossy (bs : ByteArray) : String := String.ofList ((runes bs).map Char.ofNat)

end NovelScript.Utf8

namespace NovelScript

/-- Byte strings are equal exactly when they compare equal byte by byte. -/
instance instLawfulBEqByteArray : LawfulBEq ByteArray where
  eq_of_beq {a b} h := ByteArray.ext (by simpa using (show (a.data == b.data) = true from h))
  rfl {a} := show (a.data == a.data) = true by simp

end NovelScript

import NovelScript.Text.Utf8
/-!
# xxHash64

The 64-bit xxHash of a byte string with seed 0: four lanes over 32-byte stripes for long
inputs, then 8-, 4- and 1-byte steps over the tail, and a final avalanche. All arithmetic is
modulo 2^64 and words are read little-endian.
-/

namespace NovelScript.XxHash64

def prime1 : UInt64 := 0x9E3779B185EBCA87
def prime2 : UInt64 := 0xC2B2AE3D27D4EB4F
def prime3 : UInt64 := 0x165667B19E3779F9
def prime4 : UInt64 := 0x85EBCA77C2B2AE63
def prime5 : UInt64 := 0x27D4EB2F165667C5

/-- Rotation to the left by `r` bits. -/
def rotl (x : UInt64) (r : UInt64) : UInt64 := (x <<< r) ||| (x >>> (64 - r))

/-- The little-endian word of `n` bytes at `i`. -/
def readLE (bs : ByteArray) (i n : Nat) : UInt64 :=
  (List.range n).foldr (fun k acc => (acc <<< 8) ||| (Utf8.byteAt bs (i + k)).toUInt64) 0

/-- One lane step. -/
def round (acc input : UInt64) : UInt64 := rotl (acc + input * prime2) 31 * prime1

/-- Folds a lane into the hash. -/
def mergeRound (acc v : UInt64) : UInt64 := (acc ^^^ round 0 v) * prime1 + prime4

/-- The four lanes after the stripes from `i` while 32 bytes remain. -/
def stripes (bs : ByteArray) (i : Nat) (v : UInt64 × UInt64 × UInt64 × UInt64) :
    Nat × (UInt64 × UInt64 × UInt64 × UInt64) :=
  if i + 32 ≤ bs.size then
    let (v1, v2, v3, v4) := v
    stripes bs (i + 32) (round v1 (readLE bs i 8), round v2 (readLE bs (i + 8) 8),
      round v3 (readLE bs (i + 16) 8), round v4 (readLE bs (i + 24) 8))
  else (i, v)
termination_by bs.size - i

/-- The hash after the tail from `i`. -/
def tail (bs : ByteArray) (i : Nat) (h : UInt64) : UInt64 :=
  if i + 8 ≤ bs.size then
    tail bs (i + 8) (rotl (h ^^^ round 0 (readLE bs i 8)) 27 * prime1 + prime4)
  else if i + 4 ≤ bs.size then
    tail bs (i + 4) (rotl (h ^^^ readLE bs i 4 * prime1) 23 * prime2 + prime3)
  else if i < bs.size then
    tail bs (i + 1) (rotl (h ^^^ (Utf8.byteAt bs i).toUInt64 * prime5) 11 * prime1)
  else h
termination_by bs.size - i

/-- The final mixing. -/
def avalanche (h : UInt64) : UInt64 :=
  let h := (h ^^^ (h >>> 33)) * prime2
  let h := (h ^^^ (h >>> 29)) * prime3
  h ^^^ (h >>> 32)

/-- The hash of the bytes. -/
def hash (bs : ByteArray) : UInt64 :=
  let (i, h) :=
    if bs.size ≥ 32 then
      let (i, (v1, v2, v3, v4)) := stripes bs 0 (prime1 + prime2, prime2, 0, 0 - prime1)
      let h := rotl v1 1 + rotl v2 7 + rotl v3 12 + rotl v4 18
      (i, mergeRound (mergeRound (mergeRound (mergeRound h v1) v2) v3) v4)
    else (0, prime5)
  avalanche (tail bs i (h + bs.size.toUInt64))

end NovelScript.XxHash64

import NovelScript.Text.Utf8
import NovelScript.Text.Hex
/-!
# SHA-256

The SHA-256 digest: the message padded with a one bit, zeros and its bit length to a
multiple of 64 bytes, each block expanded to 64 words and compressed into eight 32-bit
words, all arithmetic modulo 2^32 and words big-endian.
-/

namespace NovelScript.Sha256

/-- The round constants. -/
def k : Array UInt32 := #[
  0x428a2f98, 0x71374491, 0xb5c0fbcf, 0xe9b5dba5, 0x3956c25b, 0x59f111f1, 0x923f82a4, 0xab1c5ed5,
  0xd807aa98, 0x12835b01, 0x243185be, 0x550c7dc3, 0x72be5d74, 0x80deb1fe, 0x9bdc06a7, 0xc19bf174,
  0xe49b69c1, 0xefbe4786, 0x0fc19dc6, 0x240ca1cc, 0x2de92c6f, 0x4a7484aa, 0x5cb0a9dc, 0x76f988da,
  0x983e5152, 0xa831c66d, 0xb00327c8, 0xbf597fc7, 0xc6e00bf3, 0xd5a79147, 0x06ca6351, 0x14292967,
  0x27b70a85, 0x2e1b2138, 0x4d2c6dfc, 0x53380d13, 0x650a7354, 0x766a0abb, 0x81c2c92e, 0x92722c85,
  0xa2bfe8a1, 0xa81a664b, 0xc24b8b70, 0xc76c51a3, 0xd192e819, 0xd6990624, 0xf40e3585, 0x106aa070,
  0x19a4c116, 0x1e376c08, 0x2748774c, 0x34b0bcb5, 0x391c0cb3, 0x4ed8aa4a, 0x5b9cca4f, 0x682e6ff3,
  0x748f82ee, 0x78a5636f, 0x84c87814, 0x8cc70208, 0x90befffa, 0xa4506ceb, 0xbef9a3f7, 0xc67178f2]

/-- The initial hash words. -/
def initial : Array UInt32 :=
  #[0x6a09e667, 0xbb67ae85, 0x3c6ef372, 0xa54ff53a, 0x510e527f, 0x9b05688c, 0x1f83d9ab, 0x5be0cd19]

/-- Rotation to the right by `r` bits. -/
def rotr (x : UInt32) (r : UInt32) : UInt32 := (x >>> r) ||| (x <<< (32 - r))

/-- The message with its padding. -/
def pad (bs : ByteArray) : ByteArray :=
  let n := bs.size
  let zeros := (119 - n % 64) % 64
  let withOne := (bs.push 0x80) ++ ByteArray.mk (Array.replicate zeros 0)
  let bits := n * 8
  withOne ++ ByteArray.mk ((List.range 8).reverse.map fun i => (bits >>> (8 * i)).toUInt8).toArray

/-- The big-endian word at `i`. -/
def wordAt (bs : ByteArray) (i : Nat) : UInt32 :=
  (List.range 4).foldl (fun acc j => (acc <<< 8) ||| (Utf8.byteAt bs (i + j)).toUInt32) 0

/-- The 64 words of the block at `i`. -/
def schedule (bs : ByteArray) (i : Nat) : Array UInt32 :=
  let w0 := (Array.range 16).map fun j => wordAt bs (i + 4 * j)
  (List.range 48).foldl (fun w t =>
    let j := t + 16
    let w15 := w[j - 15]?.getD 0
    let w2 := w[j - 2]?.getD 0
    let s0 := rotr w15 7 ^^^ rotr w15 18 ^^^ (w15 >>> 3)
    let s1 := rotr w2 17 ^^^ rotr w2 19 ^^^ (w2 >>> 10)
    w.push (w[j - 16]?.getD 0 + s0 + (w[j - 7]?.getD 0) + s1)) w0

/-- The hash words after one block. -/
def compress (h : Array UInt32) (w : Array UInt32) : Array UInt32 :=
  let get (a : Array UInt32) (i : Nat) := a[i]?.getD 0
  let st := (List.range 64).foldl (fun (s : Array UInt32) t =>
    let a := get s 0; let b := get s 1; let c := get s 2; let d := get s 3
    let e := get s 4; let f := get s 5; let g := get s 6; let hh := get s 7
    let s1 := rotr e 6 ^^^ rotr e 11 ^^^ rotr e 25
    let ch := (e &&& f) ^^^ ((~~~ e) &&& g)
    let t1 := hh + s1 + ch + get k t + get w t
    let s0 := rotr a 2 ^^^ rotr a 13 ^^^ rotr a 22
    let maj := (a &&& b) ^^^ (a &&& c) ^^^ (b &&& c)
    let t2 := s0 + maj
    #[t1 + t2, a, b, c, d + t1, e, f, g]) h
  (Array.range 8).map fun i => get h i + get st i

/-- The digest of the bytes. -/
def digest (bs : ByteArray) : ByteArray :=
  let m := pad bs
  let h := (List.range (m.size / 64)).foldl (fun h b => compress h (schedule m (64 * b))) initial
  ByteArray.mk (h.toList.flatMap fun (x : UInt32) =>
    [(x >>> 24).toUInt8, (x >>> 16).toUInt8, (x >>> 8).toUInt8, x.toUInt8]).toArray

/-- The digest as lowercase hex. -/
def hexDigest (bs : ByteArray) : String := Hex.encode (digest bs)

end NovelScript.Sha256

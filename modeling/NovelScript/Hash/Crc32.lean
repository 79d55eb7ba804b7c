import NovelScript.Text.Utf8
/-!
# CRC-32

The IEEE 802.3 cyclic redundancy check: the reflected polynomial 0xEDB88320, the register
started at all ones and inverted at the end, one table lookup per byte.
-/

namespace NovelScript.Crc32

/-- The register after shifting one byte's worth of bits through it. -/
def shiftByte (c : UInt32) : UInt32 :=
  (List.range 8).foldl (fun (c : UInt32) _ => if c &&& 1 == 1 then (0xEDB88320 : UInt32) ^^^ (c >>> 1) else c >>> 1) c

/-- The table of the effect of each byte value. -/
def table : Array UInt32 := Array.ofFn (n := 256) fun i => shiftByte i.val.toUInt32

/-- The register after the bytes from `i` on. -/
def updateFrom (bs : ByteArray) (i : Nat) (c : UInt32) : UInt32 :=
  if i < bs.size then
    let b := Utf8.byteAt bs i
    let t := table[((c ^^^ b.toUInt32) &&& 0xFF).toNat]?.getD 0
    updateFrom bs (i + 1) (t ^^^ (c >>> 8))
  else c
termination_by bs.size - i

/-- The checksum of the bytes. -/
def checksum (bs : ByteArray) : UInt32 := updateFrom bs 0 0xFFFFFFFF ^^^ 0xFFFFFFFF

end NovelScript.Crc32

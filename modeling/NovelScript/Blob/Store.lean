import Std.Data.HashMap
import NovelScript.Hash.Crc32
import NovelScript.Hash.XxHash64
/-!
# The string store

Decoded literals are stored once per distinct content. Index 0 is the empty string; each new
content gets the next index, 1, 2, …, in the order it is first stored. The contents are kept one
after another in one byte string, with the offset where each starts, and found again through a
64-bit key of their bytes: the indices of the contents with one key share a bucket, and a lookup
compares the bytes of each, so keys that collide do no harm. The store holds at most `max` bytes
of payload; storing a new content beyond that fails and changes nothing, while storing content
already present always succeeds. Offsets and indices are 32-bit words, so a store whose capacity
reaches 2^32 bytes wraps them once its payload does.
-/

namespace NovelScript

/-- The default payload capacity: 256 MiB. -/
def defaultMaxBlobBytes : Nat := 256 * Nat.pow 2 20

/-- Storing `len` more bytes would pass the capacity. -/
structure BlobFull where
  len : Nat

/-- The message of a full store. -/
def BlobFull.message (e : BlobFull) : String := s!"intern {e.len} bytes: string blob full"

/-- Distinct contents by index. -/
structure BlobStore where
  /-- The contents of indices 1, 2, …, one after another. -/
  data : ByteArray := .empty
  /-- Index `i` spans `data[offsets[i]:offsets[i+1]]`; index 0 is the empty string. -/
  offsets : Array Nat := #[0, 0]
  /-- The indices of the stored contents under the key of each, in the order they were stored. -/
  byKey : Std.HashMap UInt64 (Array Nat) := {}
  max : Nat := defaultMaxBlobBytes

namespace BlobStore

/-- An empty store of capacity `max`, the default when `max` is not positive. -/
def create (max : Int) : BlobStore := { max := if max ≤ 0 then defaultMaxBlobBytes else max.toNat }

/-- The number of entries, the empty string included. -/
def count (s : BlobStore) : Nat := s.offsets.size - 1

/-- The total payload in bytes. -/
def size (s : BlobStore) : Nat := s.data.size

/-- The bytes of entry `i`. -/
def entry (s : BlobStore) (i : Nat) : ByteArray :=
  s.data.extract (s.offsets.getD i 0) (s.offsets.getD (i + 1) 0)

/-- The indices stored under key `k`. -/
def bucket (s : BlobStore) (k : UInt64) : Array Nat := s.byKey.getD k #[]

/-- The first index under the key of `b` whose bytes are those of `b`. -/
def find? (key : ByteArray → UInt64) (s : BlobStore) (b : ByteArray) : Option Nat :=
  (s.bucket (key b)).find? fun i => s.entry i == b

/-- `s` with `b` stored as its next entry, index `s.count`, listed under key `k`. Offsets and
indices are 32-bit words: the end of a payload past 2^32 bytes, and the index of an entry past
2^32 of them, wrap around. -/
def push (s : BlobStore) (k : UInt64) (b : ByteArray) : BlobStore :=
  { s with data := s.data ++ b, offsets := s.offsets.push ((s.data.size + b.size) % Nat.pow 2 32),
           byKey := s.byKey.insert k ((s.bucket k).push (s.count % Nat.pow 2 32)) }

/-- The index of `b`, storing it when new, with contents found again through `key`. -/
def internWith (key : ByteArray → UInt64) (s : BlobStore) (b : ByteArray) :
    Except BlobFull (Nat × BlobStore) :=
  if b.size = 0 then .ok (0, s) else
  match s.find? key b with
  | some i => .ok (i, s)
  | none =>
    if s.data.size + b.size > s.max then .error ⟨b.size⟩
    else .ok (s.count % Nat.pow 2 32, s.push (key b) b)

/-- The lookup key of a content: its CRC-32 in the high half and the low half of its
xxHash64. -/
def keyOf (b : ByteArray) : UInt64 :=
  ((Crc32.checksum b).toUInt64 <<< 32) ||| (XxHash64.hash b &&& 0xFFFFFFFF)

/-- The index of `b`, storing it when new. -/
def intern (s : BlobStore) (b : ByteArray) : Except BlobFull (Nat × BlobStore) :=
  s.internWith keyOf b

/-- The content at index `i`, if there is one. -/
def get? (s : BlobStore) (i : Nat) : Option ByteArray :=
  if i < s.count then some (s.entry i) else none

end BlobStore

end NovelScript

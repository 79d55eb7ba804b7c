import NovelScript.Source.Range
import NovelScript.Text.Utf8
import NovelScript.Text.Bytes
/-!
# Cursors

A cursor is a read position in a unit's text, up to an exclusive limit. Reading past the
limit gives 0 for a byte and U+FFFD of size 0 for a character; an invalid UTF-8 sequence reads
as U+FFFD of size 1. Moving never passes the limit.
-/

namespace NovelScript

/-- A read position in a text. -/
structure Cursor where
  unit : Nat
  /-- The text up to the limit. -/
  text : ByteArray
  off : Nat := 0

namespace Cursor

/-- A cursor at the start of `text`, limited to its first `limit` bytes. -/
def create (unit : Nat) (text : ByteArray) (limit : Nat) : Cursor :=
  ⟨unit, text.extract 0 (min limit text.size), 0⟩

/-- The exclusive limit. -/
def limit (c : Cursor) : Nat := c.text.size

/-- Whether the cursor is at the limit. -/
def eof (c : Cursor) : Bool := c.off ≥ c.limit

/-- The byte `n` after the cursor, 0 past the limit. -/
def peekAt (c : Cursor) (n : Nat) : UInt8 := Utf8.byteAt c.text (c.off + n)

/-- The byte at the cursor, 0 at the limit. -/
def peek (c : Cursor) : UInt8 := c.peekAt 0

/-- The byte at the cursor and the next one, when both are before the limit. -/
def peek2 (c : Cursor) : Option (UInt8 × UInt8) :=
  if c.off + 1 < c.limit then some (c.peek, c.peekAt 1) else none

/-- The character at `off` and its size; U+FFFD of size 0 at the limit. -/
def runeAt (c : Cursor) (off : Nat) : Nat × Nat :=
  if off ≥ c.limit then (Utf8.replacement, 0) else Utf8.decodeAt c.text off

/-- The character at the cursor and its size. -/
def peekRune (c : Cursor) : Nat × Nat := c.runeAt c.off

/-- Reads the byte at the cursor and moves past it; 0 and no move at the limit. -/
def bump (c : Cursor) : UInt8 × Cursor :=
  if c.eof then (0, c) else (c.peek, { c with off := c.off + 1 })

/-- Reads the character at the cursor and moves past it. -/
def bumpRune (c : Cursor) : Nat × Cursor :=
  let (r, n) := c.peekRune
  (r, { c with off := c.off + n })

/-- The range from offset `m` to the cursor. -/
def rangeFrom (c : Cursor) (m : Nat) : Range := Range.make c.unit m c.off

/-- Moves past the byte `b` if it is at the cursor. -/
def eat (c : Cursor) (b : UInt8) : Bool × Cursor :=
  if !c.eof && c.peek == b then (true, { c with off := c.off + 1 }) else (false, c)

/-- Whether the text at the cursor starts with `s`, within the limit. -/
def hasPrefix (c : Cursor) (s : ByteArray) : Bool :=
  c.off + s.size ≤ c.limit && Bytes.occursAt c.text s c.off

end Cursor

end NovelScript

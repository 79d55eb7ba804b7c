import NovelScript.Text.Utf8
import NovelScript.Text.Letter
/-!
# Byte-string operations

Searching, splitting and trimming of byte strings. Trimming white space reads code points:
a byte that starts no well-formed sequence is never space.
-/

namespace NovelScript.Bytes

/-- Whether `p` occurs in `b` at offset `i`. -/
def occursAt (b p : ByteArray) (i : Nat) : Bool :=
  i + p.size ≤ b.size && (List.range p.size).all fun k => Utf8.byteAt b (i + k) == Utf8.byteAt p k

/-- The first offset at or after `i` where `p` occurs in `b`. -/
def indexFrom (b p : ByteArray) (i : Nat) : Option Nat :=
  if i + p.size ≤ b.size then
    if occursAt b p i then some i else indexFrom b p (i + 1)
  else none
termination_by b.size + 1 - i

/-- The first offset where `p` occurs in `b`. -/
def indexOf (b p : ByteArray) : Option Nat := indexFrom b p 0

/-- Whether `b` starts with `p`. -/
def startsWith (b p : ByteArray) : Bool := occursAt b p 0

/-- The bytes from `i` on. -/
def drop (b : ByteArray) (i : Nat) : ByteArray := b.extract i b.size

/-- The first `n` bytes. -/
def take (b : ByteArray) (n : Nat) : ByteArray := b.extract 0 n

/-- The offset of the first byte at or after `i` that is not in `set`. -/
def skipSet (b : ByteArray) (set : List UInt8) (i : Nat) : Nat :=
  if h : i < b.size then
    if set.contains b[i] then skipSet b set (i + 1) else i
  else i
termination_by b.size - i

/-- `b` without its leading bytes from `set`. -/
def trimLeftSet (b : ByteArray) (set : List UInt8) : ByteArray := drop b (skipSet b set 0)

/-- The first offset at or after `i` holding a byte of `set`. -/
def findSet (b : ByteArray) (set : List UInt8) (i : Nat) : Option Nat :=
  if h : i < b.size then
    if set.contains b[i] then some i else findSet b set (i + 1)
  else none
termination_by b.size - i

/-- The offset of the first code point at or after `i` that is not white space. -/
def skipSpace (b : ByteArray) (i : Nat) : Nat :=
  if i < b.size then
    let (r, n) := Utf8.decodeAt b i
    if !(r == Utf8.replacement && n == 1) && Letter.isSpace r then skipSpace b (i + max n 1)
    else i
  else i
termination_by b.size - i

/-- The UTF-8 forms of the white-space code points above U+007F. -/
def wideSpaces : List ByteArray :=
  [0x85, 0xA0, 0x1680, 0x2000, 0x2001, 0x2002, 0x2003, 0x2004, 0x2005, 0x2006, 0x2007, 0x2008,
   0x2009, 0x200A, 0x2028, 0x2029, 0x202F, 0x205F, 0x3000].map Utf8.encode

/-- Whether `b` ends with `p`. -/
def endsWith (b p : ByteArray) : Bool := p.size ≤ b.size && occursAt b p (b.size - p.size)

/-- The length of `b` without its trailing white space, looking no further back than `lo`. -/
def trimEnd (b : ByteArray) (lo stop : Nat) : Nat :=
  if lo < stop then
    let c := Utf8.byteAt b (stop - 1)
    if c == 0x20 || (0x09 ≤ c && c ≤ 0x0D) then trimEnd b lo (stop - 1)
    else
      match wideSpaces.find? fun p => p.size ≤ stop - lo && occursAt b p (stop - p.size) with
      | some p => trimEnd b lo (stop - max p.size 1)
      | none => stop
  else stop
termination_by stop

/-- `b` without leading and trailing white space. -/
def trimSpace (b : ByteArray) : ByteArray :=
  let start := skipSpace b 0
  b.extract start (trimEnd b start b.size)

/-- ASCII letters folded to lower case. -/
def asciiLower (s : String) : String := s.map Char.toLower

/-- A text trimmed of white space. -/
def trimText (s : String) : String := (String.fromUTF8? (trimSpace s.toUTF8)).getD s

end NovelScript.Bytes

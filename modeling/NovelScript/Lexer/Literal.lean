import NovelScript.Lexer.Chars
import NovelScript.Diag.Message
import NovelScript.Source.Range
/-!
# Literal bodies

A string, speaker or message literal is decoded from just after its opener up to its closer.
Escapes: `\n \t \r \0 \a \b \f \v \\ \" \'` give their byte, `\xHH` the byte 0xHH,
`\u{H…}` the code point (U+FFFD when it is above U+10FFFF or a surrogate), a backslash before
a newline joins the lines and drops the next line's indentation, and a backslash before any
other character gives that character (warned about unless it is the closer). A bad escape
gives U+FFFD. Any other byte is copied as it is, invalid UTF-8 included.

A plain string ends, unterminated, at a newline. In speakers and messages a newline is kept
and the next line's indentation dropped; a message ends its current piece at a newline
followed by a line of blanks only, and the rest comes as a continuation.
-/

namespace NovelScript

/-- A diagnostic raised while reading a literal, over the bytes `[start, stop)`. -/
structure LiteralNote where
  start : Nat
  stop : Nat
  code : Code
  args : Array Arg

/-- The literal being read. -/
structure OpenLiteral where
  kind : TokenKind
  style : Style
  cjk : Bool
  closer : Nat
  /-- The range of the opener, where an unterminated literal is reported. -/
  opener : Range

/-- How a body ended. -/
inductive BodyEnd where
  /-- At its closer, which is consumed. -/
  | closed
  /-- Before a blank line inside a message. -/
  | split
  /-- At the end of the input, or at a newline of a plain string. -/
  | unterminated
  deriving DecidableEq, Repr

/-- A decoded body: where reading stopped, the text, how it ended and what to report. -/
structure Body where
  stop : Nat
  text : ByteArray
  ending : BodyEnd
  notes : Array LiteralNote

namespace Literal

open Utf8 Chars

/-- The end of the indentation (blanks and ideographic spaces) that starts at `i`. -/
def indentEnd (bs : ByteArray) (i : Nat) : Nat :=
  if i < bs.size then
    if isBlank (byteAt bs i) then indentEnd bs (i + 1)
    else if spaceAt bs i then indentEnd bs (i + 3)
    else i
  else i
termination_by bs.size - i

/-- Whether the line after the newline before `i` holds only blanks and ends in a newline. -/
def blankLineFrom (bs : ByteArray) (i : Nat) : Bool :=
  if i < bs.size then
    let b := byteAt bs i
    if b == 0x0A then true
    else if isBlank b then blankLineFrom bs (i + 1)
    else if spaceAt bs i then blankLineFrom bs (i + 3)
    else false
  else false
termination_by bs.size - i

/-- The byte of a one-letter escape. -/
def simpleEscape? (r : Nat) : Option UInt8 :=
  match r with
  | 0x6E => some 0x0A | 0x74 => some 0x09 | 0x72 => some 0x0D | 0x30 => some 0x00
  | 0x61 => some 0x07 | 0x62 => some 0x08 | 0x66 => some 0x0C | 0x76 => some 0x0B
  | 0x5C => some 0x5C | 0x22 => some 0x22 | 0x27 => some 0x27
  | _ => none

/-- Reads the hex digits of `\u{…}` from `i` up to the closing brace: the value (kept once it
passes U+10FFFF), the digit count, whether a non-hex character was seen, the notes, and either
the offset after the brace or, when the escape is cut off, the offset where it stopped. -/
def unicodeDigits (bs : ByteArray) (closer start i : Nat) (v count : Nat) (bad : Bool)
    (notes : Array LiteralNote) : Nat × Nat × Bool × Array LiteralNote × Except Nat Nat :=
  if i < bs.size then
    let (r, sz) := decodeAt bs i
    if r == 0x0A || r == closer then (v, count, bad, notes, .error i)
    else
      let j := i + max sz 1
      if r == 0x7D then (v, count, bad, notes, .ok j)
      else if r < 0x80 && isHex r.toUInt8 then
        let v := if v ≤ maxRune then v * 16 + digitVal r.toUInt8 else v
        unicodeDigits bs closer start j v (count + 1) bad notes
      else
        let notes := if bad then notes else notes.push ⟨i, j, Code.lexBadUnicodeHex, #[.codepoint r]⟩
        unicodeDigits bs closer start j v count true notes
  else (v, count, bad, notes, .error i)
termination_by bs.size - i

/-- Decodes `\u` followed by `{H…}` at `i`, the backslash being at `start`. -/
def unicodeEscape (bs : ByteArray) (closer start i : Nat) : Nat × ByteArray × Array LiteralNote :=
  let fffd := encode replacement
  if byteAt bs i != 0x7B || i ≥ bs.size then
    (i, fffd, #[⟨start, i, Code.lexUnicodeUnterminated, #[]⟩])
  else
    match unicodeDigits bs closer start (i + 1) 0 0 false #[] with
    | (_, _, _, notes, .error j) => (j, fffd, notes.push ⟨start, j, Code.lexUnicodeUnterminated, #[]⟩)
    | (v, count, bad, notes, .ok j) =>
      if bad then (j, fffd, notes)
      else if count = 0 then (j, fffd, notes.push ⟨start, j, Code.lexBadUnicodeHex, #[.codepoint 0x7D]⟩)
      else if v > maxRune then (j, fffd, notes.push ⟨start, j, Code.lexUnicodeOutOfRange, #[.codepoint v]⟩)
      else if 0xD800 ≤ v && v ≤ 0xDFFF then
        (j, fffd, notes.push ⟨start, j, Code.lexUnicodeSurrogate, #[.codepoint v]⟩)
      else (j, encode v, notes)

/-- Decodes the escape whose backslash is at `start`: where it ends, the bytes it stands for,
and its notes. -/
def escape (bs : ByteArray) (closer start : Nat) : Nat × ByteArray × Array LiteralNote :=
  let i := start + 1
  let (r, sz) := decodeAt bs i
  if sz = 0 then (i, .empty, #[]) else
  match simpleEscape? r with
  | some v => (i + 1, ByteArray.mk #[v], #[])
  | none =>
    if r == 0x78 then
      let j := i + 1
      if isHex (byteAt bs j) && isHex (byteAt bs (j + 1)) then
        (j + 2, ByteArray.mk #[(digitVal (byteAt bs j) * 16 + digitVal (byteAt bs (j + 1))).toUInt8], #[])
      else
        let k := if isHex (byteAt bs j) then j + 1 else j
        (k, encode replacement, #[⟨start, k, Code.lexBadHexEscape, #[]⟩])
    else if r == 0x75 then unicodeEscape bs closer start (i + 1)
    else if r == 0x0A then (indentEnd bs (i + 1), .empty, #[])
    else
      let k := i + sz
      let notes := if r == closer then #[] else
        #[⟨start, k, Code.lexUnknownEscape, #[.str (ByteArray.mk #[0x5C] ++ encode r)]⟩]
      (k, encode r, notes)

/-- Reads a literal body from `i`, appending to `text` and `notes`. -/
def body (bs : ByteArray) (lit : OpenLiteral) (i : Nat) (text : ByteArray)
    (notes : Array LiteralNote) : Body :=
  if i < bs.size then
    let (r, sz) := decodeAt bs i
    if r == lit.closer then ⟨i + sz, text, .closed, notes⟩
    else if r == 0x5C then
      let (j, piece, more) := escape bs lit.closer i
      body bs lit (max j (i + 1)) (text ++ piece) (notes ++ more)
    else if r == 0x0A then
      if lit.kind == .string then ⟨i, text, .unterminated, notes⟩
      else if lit.kind == .message && blankLineFrom bs (i + 1) then ⟨i, text, .split, notes⟩
      else body bs lit (max (indentEnd bs (i + 1)) (i + 1)) (text.push 0x0A) notes
    else body bs lit (i + max sz 1) (text ++ bs.extract i (i + sz)) notes
  else ⟨i, text, .unterminated, notes⟩
termination_by bs.size - i

end Literal

end NovelScript

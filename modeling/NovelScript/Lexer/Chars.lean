import NovelScript.Text.Utf8
import NovelScript.Text.Letter
import NovelScript.Token.Kind
/-!
# Character classes of the script language

Identifiers start with an ASCII letter, `_` or a Unicode letter, and continue with those,
ASCII digits, Unicode digits and nonspacing marks. Blanks are space, tab and carriage
return; the ideographic space U+3000 counts as a blank too. Reading past the end of the text
gives the byte 0, which belongs to no class.
-/

namespace NovelScript.Chars

open Utf8

/-- An ASCII decimal digit. -/
def isDec (b : UInt8) : Bool := 0x30 ≤ b && b ≤ 0x39

/-- An ASCII letter. -/
def isLetter (b : UInt8) : Bool := let l := b ||| 0x20; 0x61 ≤ l && l ≤ 0x7A

/-- An ASCII hex digit. -/
def isHex (b : UInt8) : Bool := isDec b || (let l := b ||| 0x20; 0x61 ≤ l && l ≤ 0x66)

/-- An ASCII byte that starts an identifier. -/
def isIdentStartByte (b : UInt8) : Bool := isLetter b || b == 0x5F

/-- An ASCII byte that continues an identifier. -/
def isIdentContinueByte (b : UInt8) : Bool := isIdentStartByte b || isDec b

/-- A code point that starts an identifier. -/
def isIdentStartRune (r : Nat) : Bool :=
  if r < 0x80 then isIdentStartByte r.toUInt8 else Letter.isLetter r

/-- A code point that continues an identifier. -/
def isIdentContinueRune (r : Nat) : Bool :=
  if r < 0x80 then isIdentContinueByte r.toUInt8
  else Letter.isLetter r || Letter.isDigit r || Letter.isMark r

/-- Space, tab or carriage return. -/
def isBlank (b : UInt8) : Bool := b == 0x20 || b == 0x09 || b == 0x0D

/-- The value of an alphanumeric digit (`a`-`z` are 10 to 35), 99 for anything else. -/
def digitVal (b : UInt8) : Nat :=
  if isDec b then (b - 0x30).toNat
  else if isLetter b then ((b ||| 0x20) - 0x61).toNat + 10
  else 99

/-- The ideographic space U+3000. -/
def ideographicSpace : ByteArray := ByteArray.mk #[0xE3, 0x80, 0x80]

/-- Whether the ideographic space starts at `i`. -/
def spaceAt (bs : ByteArray) (i : Nat) : Bool :=
  byteAt bs i == 0xE3 && byteAt bs (i + 1) == 0x80 && byteAt bs (i + 2) == 0x80 &&
    i + 3 ≤ bs.size

/-- Whether an identifier starts at `i`. -/
def identStartAt (bs : ByteArray) (i : Nat) : Bool :=
  let b := byteAt bs i
  if b < 0x80 then isIdentStartByte b else isIdentStartRune (decodeAt bs i).1

/-- Whether an identifier character sits at `i`. -/
def identContinueAt (bs : ByteArray) (i : Nat) : Bool :=
  let b := byteAt bs i
  if b < 0x80 then isIdentContinueByte b else isIdentContinueRune (decodeAt bs i).1

/-- The message style of an ASCII dialogue opener. -/
def asciiStyle (b : UInt8) : Style :=
  if b == 0x3E then .say else if b == 0x3C then .think
  else if b == 0x7E then .whisper else if b == 0x21 then .shout else .none

/-- The closer and style of a full-width message opener: 「 」 say, 『 』 think, （ ） whisper,
｛ ｝ shout. -/
def cjkMessage? (r : Nat) : Option (Nat × Style) :=
  if r == 0x300C then some (0x300D, .say)
  else if r == 0x300E then some (0x300F, .think)
  else if r == 0xFF08 then some (0xFF09, .whisper)
  else if r == 0xFF5B then some (0xFF5D, .shout)
  else none

/-- The opener of a full-width speaker name, 【. -/
def speakerOpen : Nat := 0x3010

/-- The closer of a full-width speaker name, 】. -/
def speakerClose : Nat := 0x3011

/-- The end of the identifier body that starts at `i`. -/
def identEnd (bs : ByteArray) (i : Nat) : Nat :=
  if i < bs.size then
    let b := byteAt bs i
    if b < 0x80 then
      if isIdentContinueByte b then identEnd bs (i + 1) else i
    else
      let (r, n) := decodeAt bs i
      if isIdentContinueRune r then identEnd bs (i + max n 1) else i
  else i
termination_by bs.size - i

/-- The end of the run of bytes satisfying `p` that starts at `i`. -/
def runEnd (bs : ByteArray) (p : UInt8 → Bool) (i : Nat) : Nat :=
  if h : i < bs.size then
    if p bs[i] then runEnd bs p (i + 1) else i
  else i
termination_by bs.size - i

end NovelScript.Chars

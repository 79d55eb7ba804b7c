import NovelScript.Text.Utf8
import NovelScript.Text.Printable
/-!
# Quoted literals

The double-quoted form of a byte string, as diagnostics and dumps print it: printable
characters stand for themselves, the quote and the backslash get a backslash, the seven
control characters with a one-letter escape use it, other bytes below U+0020 and U+007F
become `\xHH`, a byte that starts no well-formed UTF-8 sequence becomes `\xHH` of that byte,
and any other character becomes `\uHHHH` or, above U+FFFF, `\UHHHHHHHH` (lower-case hex).
The result is always well-formed text.
-/

namespace NovelScript.Quoted

/-- The lower-case hex digit of `n < 16`. -/
def hexDigit (n : Nat) : Char :=
  if n < 10 then Char.ofNat (0x30 + n) else Char.ofNat (0x57 + n)

/-- The `width` lower-case hex digits of `n`, most significant first. -/
def hexDigits (n width : Nat) : String :=
  String.ofList ((List.range width).reverse.map fun k => hexDigit ((n >>> (4 * k)) % 16))

/-- The escaped form of one scalar value `r` inside a literal closed by `quote`. -/
def escapeRune (r quote : Nat) : String :=
  if r == quote || r == 0x5C then "\\" ++ (Char.ofNat r).toString
  else if Printable.isPrint r then (Char.ofNat r).toString
  else if r == 0x07 then "\\a"
  else if r == 0x08 then "\\b"
  else if r == 0x0C then "\\f"
  else if r == 0x0A then "\\n"
  else if r == 0x0D then "\\r"
  else if r == 0x09 then "\\t"
  else if r == 0x0B then "\\v"
  else if r < 0x20 || r == 0x7F then "\\x" ++ hexDigits r 2
  else if r < 0x10000 then "\\u" ++ hexDigits r 4
  else "\\U" ++ hexDigits r 8

/-- The escaped form of the bytes of `bs` from `i` on, appended to `acc`. -/
def escapeFrom (bs : ByteArray) (quote : Nat) (i : Nat) (acc : String) : String :=
  if i < bs.size then
    let (r, n) := Utf8.decodeAt bs i
    let piece :=
      if r == Utf8.replacement && n == 1 then "\\x" ++ hexDigits (Utf8.byteAt bs i).toNat 2
      else escapeRune r quote
    escapeFrom bs quote (i + max n 1) (acc ++ piece)
  else acc
termination_by bs.size - i
decreasing_by omega

/-- The double-quoted literal of `bs`. -/
def quote (bs : ByteArray) : String := "\"" ++ escapeFrom bs 0x22 0 "" ++ "\""

/-- The double-quoted literal of a text. -/
def quoteText (s : String) : String := quote s.toUTF8

/-- The single-quoted literal of one code point. -/
def quoteRune (r : Nat) : String :=
  let r := if Utf8.isScalar r then r else Utf8.replacement
  "'" ++ escapeRune r 0x27 ++ "'"

end NovelScript.Quoted

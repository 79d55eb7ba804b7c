/-!
# Base64

Reading of the standard base64 alphabet (`A-Z a-z 0-9 + /`) with `=` padding to a multiple of
four characters. Any other character, or a misplaced pad, refuses the text.
-/

namespace NovelScript.Base64

/-- The value of a base64 character. -/
def value? (c : Char) : Option Nat :=
  if 'A' ≤ c && c ≤ 'Z' then some (c.toNat - 'A'.toNat)
  else if 'a' ≤ c && c ≤ 'z' then some (c.toNat - 'a'.toNat + 26)
  else if '0' ≤ c && c ≤ '9' then some (c.toNat - '0'.toNat + 52)
  else if c = '+' then some 62
  else if c = '/' then some 63
  else none

/-- Reads groups of four characters from `cs` into `out`. -/
def decodeList : List Char → ByteArray → Option ByteArray
  | [], out => some out
  | [a, b, '=', '='], out => do
    let n := (← value? a) * 64 + (← value? b)
    some (out.push (n / 16).toUInt8)
  | [a, b, c, '='], out => do
    let n := ((← value? a) * 64 + (← value? b)) * 64 + (← value? c)
    some ((out.push (n / 1024).toUInt8).push (n / 4 % 256).toUInt8)
  | a :: b :: c :: d :: rest, out => do
    let n := (((← value? a) * 64 + (← value? b)) * 64 + (← value? c)) * 64 + (← value? d)
    decodeList rest (((out.push (n / 65536).toUInt8).push (n / 256 % 256).toUInt8).push
      (n % 256).toUInt8)
  | _, _ => none

/-- The bytes of base64 text. -/
def decode? (s : String) : Option ByteArray := decodeList s.toList .empty

end NovelScript.Base64

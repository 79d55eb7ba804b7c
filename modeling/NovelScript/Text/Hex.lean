import NovelScript.Text.Quoted
/-!
# Hexadecimal text of bytes

Bytes are written as two lowercase hex digits each. Reading accepts either case and refuses
an odd number of digits or any other character.
-/

namespace NovelScript.Hex

/-- The lowercase hex text of the bytes. -/
def encode (b : ByteArray) : String :=
  b.foldl (fun s x => s ++ Quoted.hexDigits x.toNat 2) ""

/-- The value of a hex digit. -/
def digit? (c : Char) : Option Nat :=
  if '0' ≤ c && c ≤ '9' then some (c.toNat - '0'.toNat)
  else if 'a' ≤ c && c ≤ 'f' then some (c.toNat - 'a'.toNat + 10)
  else if 'A' ≤ c && c ≤ 'F' then some (c.toNat - 'A'.toNat + 10)
  else none

/-- Reads pairs of hex digits from `cs` into `out`. -/
def decodeList : List Char → ByteArray → Option ByteArray
  | [], out => some out
  | [_], _ => none
  | a :: b :: rest, out => do
    let x ← digit? a
    let y ← digit? b
    decodeList rest (out.push (x * 16 + y).toUInt8)

/-- The bytes of hex text. -/
def decode? (s : String) : Option ByteArray := decodeList s.toList .empty

end NovelScript.Hex

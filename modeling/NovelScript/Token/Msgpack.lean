import NovelScript.Token.Output
/-!
# Token dumps in MessagePack

A dump is written as a MessagePack array of maps, one a token, with the same keys as the JSON
form and the same entries left out. Texts use the shortest string header; the four position
numbers are always 32-bit (`0xce`), the flags 8-bit (`0xcc`).

Reading accepts what a general MessagePack reader accepts for that shape: `nil` for any
field, strings or binaries for texts, any integer for numbers (wrapped to the field's
width), maps with unknown keys (skipped) and structs written as nine-element arrays. The
errors name the offending code and what was being read.
-/

namespace NovelScript.Msgpack

/-- The big-endian bytes of `n`, `w` of them. -/
def beBytes (n w : Nat) : List UInt8 := (List.range w).reverse.map fun i => (n >>> (8 * i)).toUInt8

/-- The header of a string of `n` bytes. -/
def strHeader (n : Nat) : List UInt8 :=
  if n < 32 then [(0xA0 + n).toUInt8]
  else if n < 256 then [0xD9, n.toUInt8]
  else if n < 65536 then 0xDA :: beBytes n 2
  else 0xDB :: beBytes n 4

/-- A string. -/
def str (b : ByteArray) : ByteArray := ByteArray.mk (strHeader b.size).toArray ++ b

/-- The header of an array of `n` items. -/
def arrayHeader (n : Nat) : ByteArray :=
  if n < 16 then ByteArray.mk #[(0x90 + n).toUInt8]
  else if n < 65536 then ByteArray.mk (0xDC :: beBytes n 2).toArray
  else ByteArray.mk (0xDD :: beBytes n 4).toArray

/-- The header of a map of `n` entries. -/
def mapHeader (n : Nat) : ByteArray :=
  if n < 16 then ByteArray.mk #[(0x80 + n).toUInt8]
  else if n < 65536 then ByteArray.mk (0xDE :: beBytes n 2).toArray
  else ByteArray.mk (0xDF :: beBytes n 4).toArray

/-- A 32-bit unsigned number. -/
def uint32 (n : Nat) : ByteArray := ByteArray.mk (0xCE :: beBytes n 4).toArray

/-- One dump entry as a map. -/
def entry (o : TokenOutput) : ByteArray :=
  let key (k : String) := str k.toUTF8
  let fields : List ByteArray :=
    [key "type" ++ str o.type] ++
    (if o.lexan.isEmpty then [] else [key "lexan" ++ str o.lexan]) ++
    (if o.value.isEmpty then [] else [key "value" ++ str o.value]) ++
    [key "offset" ++ uint32 o.offset, key "len" ++ uint32 o.len, key "line" ++ uint32 o.line,
      key "col" ++ uint32 o.col] ++
    (if o.flags == 0 then [] else [key "flags" ++ ByteArray.mk #[0xCC, o.flags.toUInt8]]) ++
    (if o.lineStart then [key "line_start" ++ ByteArray.mk #[0xC3]] else [])
  fields.foldl (· ++ ·) (mapHeader fields.length)

/-- A dump as an array of maps. -/
def encode (os : List TokenOutput) : ByteArray := os.foldl (fun acc o => acc ++ entry o) (arrayHeader os.length)

/-- Why a dump cannot be read. -/
inductive DecodeError where
  /-- The input ended before a value. -/
  | eof
  /-- The input ended inside a value. -/
  | unexpectedEof
  /-- A code that cannot start what was expected. -/
  | invalid (code : UInt8) (what : String)
  /-- A code of the wrong kind where a map was expected. -/
  | unexpected (code : UInt8) (what : String)
  /-- A code that starts no value. -/
  | unknown (code : UInt8)
  /-- A struct written as an array of the wrong length. -/
  | arrayStruct

/-- The message of a decoding error. -/
def DecodeError.message : DecodeError → String
  | .eof => "EOF"
  | .unexpectedEof => "unexpected EOF"
  | .invalid c w => s!"msgpack: invalid code={String.ofList (Nat.toDigits 16 c.toNat)} decoding {w}"
  | .unexpected c w => s!"msgpack: unexpected code={String.ofList (Nat.toDigits 16 c.toNat)} decoding {w}"
  | .unknown c => s!"msgpack: unknown code {String.ofList (Nat.toDigits 16 c.toNat)}"
  | .arrayStruct => "msgpack: number of fields in array-encoded struct has changed"

/-- The byte at `i` and the offset after it; every reader answers its value and the offset
after it. -/
def code (bs : ByteArray) (i : Nat) : Except DecodeError (UInt8 × Nat) :=
  if h : i < bs.size then .ok (bs[i], i + 1) else .error .eof

/-- The `n` bytes at `i`. -/
def take (bs : ByteArray) (i n : Nat) : Except DecodeError (ByteArray × Nat) :=
  if n == 0 then .ok (.empty, i)
  else if i + n ≤ bs.size then .ok (bs.extract i (i + n), i + n)
  else if i ≥ bs.size then .error .eof
  else .error .unexpectedEof

/-- The big-endian number in the `n` bytes at `i`. -/
def number (bs : ByteArray) (i n : Nat) : Except DecodeError (Nat × Nat) := do
  let (b, j) ← take bs i n
  return (b.foldl (fun acc x => acc * 256 + x.toNat) 0, j)

/-- A two's-complement number of `bits` bits as a 64-bit pattern. -/
def widen (v bits : Nat) : Nat := if v ≥ Nat.pow 2 (bits - 1) then v + Nat.pow 2 64 - Nat.pow 2 bits else v

/-- An array length after its code; `none` for nil. -/
def arrayLen (bs : ByteArray) (c : UInt8) (i : Nat) : Except DecodeError ((Option Nat) × Nat) :=
  if c == 0xC0 then .ok (none, i)
  else if 0x90 ≤ c && c ≤ 0x9F then .ok (some (c - 0x90).toNat, i)
  else if c == 0xDC then (number bs i 2).map fun (n, j) => (some n, j)
  else if c == 0xDD then (number bs i 4).map fun (n, j) => (some n, j)
  else .error (.invalid c "array length")

/-- A map length after its code; `none` for nil. -/
def mapLen (bs : ByteArray) (c : UInt8) (i : Nat) : Except DecodeError ((Option Nat) × Nat) :=
  if c == 0xC0 then .ok (none, i)
  else if 0x80 ≤ c && c ≤ 0x8F then .ok (some (c - 0x80).toNat, i)
  else if c == 0xDE then (number bs i 2).map fun (n, j) => (some n, j)
  else if c == 0xDF then (number bs i 4).map fun (n, j) => (some n, j)
  else .error (.unexpected c "map length")

/-- A string or binary length after its code; 0 for nil. -/
def bytesLen (bs : ByteArray) (c : UInt8) (i : Nat) : Except DecodeError (Nat × Nat) :=
  if c == 0xC0 then .ok (0, i)
  else if 0xA0 ≤ c && c ≤ 0xBF then .ok ((c - 0xA0).toNat, i)
  else if c == 0xD9 || c == 0xC4 then number bs i 1
  else if c == 0xDA || c == 0xC5 then number bs i 2
  else if c == 0xDB || c == 0xC6 then number bs i 4
  else .error (.invalid c "string/bytes length")

/-- A string or binary. -/
def bytes (bs : ByteArray) (i : Nat) : Except DecodeError (ByteArray × Nat) := do
  let (c, i) ← code bs i
  let (n, i) ← bytesLen bs c i
  take bs i n

/-- An integer as a 64-bit pattern; 0 for nil. -/
def uint (bs : ByteArray) (i : Nat) : Except DecodeError (Nat × Nat) := do
  let (c, i) ← code bs i
  if c == 0xC0 then return (0, i)
  else if c ≤ 0x7F then return (c.toNat, i)
  else if c ≥ 0xE0 then return (widen c.toNat 8, i)
  else if c == 0xCC then number bs i 1
  else if c == 0xCD then number bs i 2
  else if c == 0xCE then number bs i 4
  else if c == 0xCF then number bs i 8
  else if c == 0xD0 then (number bs i 1).map fun (n, j) => (widen n 8, j)
  else if c == 0xD1 then (number bs i 2).map fun (n, j) => (widen n 16, j)
  else if c == 0xD2 then (number bs i 4).map fun (n, j) => (widen n 32, j)
  else if c == 0xD3 then number bs i 8
  else throw (.invalid c "uint64")

/-- A boolean; false for nil. -/
def bool (bs : ByteArray) (i : Nat) : Except DecodeError (Bool × Nat) := do
  let (c, i) ← code bs i
  if c == 0xC0 || c == 0xC2 then return (false, i)
  else if c == 0xC3 then return (true, i)
  else throw (.invalid c "bool")

mutual
/-- Skips one value of any kind, at most `fuel` levels deep. -/
def skip (bs : ByteArray) : Nat → Nat → Except DecodeError (Unit × Nat)
  | 0, _ => .error .unexpectedEof
  | fuel + 1, i => do
    let (c, i) ← code bs i
    if c ≤ 0x7F || c ≥ 0xE0 || c == 0xC0 || c == 0xC2 || c == 0xC3 then return ((), i)
    else if 0x80 ≤ c && c ≤ 0x8F then skipMany bs fuel (2 * (c - 0x80).toNat) i
    else if 0x90 ≤ c && c ≤ 0x9F then skipMany bs fuel (c - 0x90).toNat i
    else if 0xA0 ≤ c && c ≤ 0xBF then (take bs i (c - 0xA0).toNat).map fun (_, j) => ((), j)
    else if c == 0xCC || c == 0xD0 then (take bs i 1).map fun (_, j) => ((), j)
    else if c == 0xCD || c == 0xD1 then (take bs i 2).map fun (_, j) => ((), j)
    else if c == 0xCE || c == 0xD2 || c == 0xCA then (take bs i 4).map fun (_, j) => ((), j)
    else if c == 0xCF || c == 0xD3 || c == 0xCB then (take bs i 8).map fun (_, j) => ((), j)
    else if c == 0xC4 || c == 0xC5 || c == 0xC6 || c == 0xD9 || c == 0xDA || c == 0xDB then do
      let (n, i) ← bytesLen bs c i
      (take bs i n).map fun (_, j) => ((), j)
    else if c == 0xDC || c == 0xDD then do
      let (n, i) ← number bs i (if c == 0xDC then 2 else 4)
      skipMany bs fuel n i
    else if c == 0xDE || c == 0xDF then do
      let (n, i) ← number bs i (if c == 0xDE then 2 else 4)
      skipMany bs fuel (2 * n) i
    else if 0xD4 ≤ c && c ≤ 0xD8 then
      (take bs i (1 + Nat.pow 2 (c - 0xD4).toNat)).map fun (_, j) => ((), j)
    else if c == 0xC7 || c == 0xC8 || c == 0xC9 then do
      let (n, i) ← number bs i (if c == 0xC7 then 1 else if c == 0xC8 then 2 else 4)
      (take bs i (n + 1)).map fun (_, j) => ((), j)
    else throw (.unknown c)

/-- Skips `n` values. -/
def skipMany (bs : ByteArray) (fuel : Nat) : Nat → Nat → Except DecodeError (Unit × Nat)
  | 0, i => .ok ((), i)
  | n + 1, i => do
    let (_, i) ← skip bs fuel i
    skipMany bs fuel n i
end

/-- Reads the value of field `key` into an entry; unknown keys are skipped. -/
def field (bs : ByteArray) (fuel : Nat) (o : TokenOutput) (key : ByteArray) (i : Nat) :
    Except DecodeError (TokenOutput × Nat) :=
  match String.fromUTF8? key with
  | some "type" => (bytes bs i).map fun (v, j) => ({ o with type := v }, j)
  | some "lexan" => (bytes bs i).map fun (v, j) => ({ o with lexan := v }, j)
  | some "value" => (bytes bs i).map fun (v, j) => ({ o with value := v }, j)
  | some "offset" => (uint bs i).map fun (v, j) => ({ o with offset := v % Nat.pow 2 32 }, j)
  | some "len" => (uint bs i).map fun (v, j) => ({ o with len := v % Nat.pow 2 32 }, j)
  | some "line" => (uint bs i).map fun (v, j) => ({ o with line := v % Nat.pow 2 32 }, j)
  | some "col" => (uint bs i).map fun (v, j) => ({ o with col := v % Nat.pow 2 32 }, j)
  | some "flags" => (uint bs i).map fun (v, j) => ({ o with flags := v % 256 }, j)
  | some "line_start" => (bool bs i).map fun (v, j) => ({ o with lineStart := v }, j)
  | _ => (skip bs fuel i).map fun (_, j) => (o, j)

/-- The field names in their declared order. -/
def fieldOrder : List String :=
  ["type", "lexan", "value", "offset", "len", "line", "col", "flags", "line_start"]

/-- Reads `n` key and value pairs into an entry. -/
def members (bs : ByteArray) (fuel : Nat) : Nat → TokenOutput → Nat → Except DecodeError (TokenOutput × Nat)
  | 0, o, i => .ok (o, i)
  | n + 1, o, i => do
    let (k, i) ← bytes bs i
    let (o, i) ← field bs fuel o k i
    members bs fuel n o i

/-- Reads the fields in declared order. -/
def positional (bs : ByteArray) (fuel : Nat) : List String → TokenOutput → Nat → Except DecodeError (TokenOutput × Nat)
  | [], o, i => .ok (o, i)
  | k :: ks, o, i => do
    let (o, i) ← field bs fuel o k.toUTF8 i
    positional bs fuel ks o i

/-- The empty entry. -/
def blank : TokenOutput := ⟨.empty, .empty, .empty, 0, 0, 0, 0, 0, false⟩

/-- Reads one entry: a map, nil, or an array of all nine fields. -/
def entryAt (bs : ByteArray) (fuel : Nat) (i : Nat) : Except DecodeError (TokenOutput × Nat) := do
  let (c, i) ← code bs i
  match mapLen bs c i with
  | .ok (none, j) => return (blank, j)
  | .ok (some n, j) => members bs fuel n blank j
  | .error e =>
    match arrayLen bs c i with
    | .error _ => throw e
    | .ok (none, j) => return (blank, j)
    | .ok (some 0, j) => return (blank, j)
    | .ok (some n, j) =>
      if n != fieldOrder.length then throw .arrayStruct
      else positional bs fuel fieldOrder blank j

/-- Reads `n` entries. -/
def entries (bs : ByteArray) (fuel : Nat) : Nat → Array TokenOutput → Nat → Except DecodeError ((Array TokenOutput) × Nat)
  | 0, acc, i => .ok (acc, i)
  | n + 1, acc, i => do
    let (o, i) ← entryAt bs fuel i
    entries bs fuel n (acc.push o) i

/-- Reads a dump at offset `i`, and the offset after it. -/
def listAt (bs : ByteArray) (i : Nat) : Except DecodeError (List TokenOutput × Nat) := do
  let (c, i) ← code bs i
  match ← arrayLen bs c i with
  | (none, j) => return ([], j)
  | (some n, j) =>
    -- every entry takes at least one byte
    let (os, k) ← entries bs (bs.size + 1) (min n (bs.size + 1)) #[] j
    if n > bs.size + 1 then throw .unexpectedEof else return (os.toList, k)

/-- Reads a dump; bytes after it are ignored. -/
def decode (bs : ByteArray) : Except DecodeError (List TokenOutput) :=
  (listAt bs 0).map (·.1)

end NovelScript.Msgpack

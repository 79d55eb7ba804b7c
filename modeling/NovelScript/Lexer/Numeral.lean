import NovelScript.Lexer.Chars
import NovelScript.Number.Binary
import NovelScript.Text.Quoted
/-!
# Number literals

A number literal is read from its first byte to the end of its suffix:

* decimal digits with `_` separators, optionally a fraction `.d…` and an exponent `e±d…`,
  either of which makes it a float;
* a radix prefix `0x`, `0b`, `0o` or `0c` (the letter in either case), or an explicit radix
  `0(r)` or `#(r)`, followed by digits of that radix and `_` separators;
* then an identifier-like suffix.

Integer digits accumulate in a 64-bit word that wraps around, with a flag that sticks once a
digit carries the value out of 64 bits. A digit that is decimal but too large for the radix
spoils the literal; a letter that is too large starts the suffix instead.
-/

namespace NovelScript

/-- A 64-bit accumulator of digits: the value wraps around, and the flag sticks once a digit
carries the value out of 64 bits. -/
structure IntAcc where
  val : UInt64 := 0
  overflow : Bool := false
  deriving DecidableEq, Repr

/-- Appends digit `d` in radix `r`: the product `val * r` as a high and a low word, then `d`
added to the low word with its carry; a nonzero high word or a carry sets the flag. -/
def IntAcc.push (r d : Nat) (a : IntAcc) : IntAcc :=
  let prod := a.val.toNat * r
  let sum := prod % Nat.pow 2 64 + d
  ⟨sum.toUInt64, a.overflow || prod / Nat.pow 2 64 != 0 || decide (Nat.pow 2 64 ≤ sum)⟩

/-- What a number literal reads as, with the offset where it ends. -/
inductive Numeral where
  /-- A radix outside 2 to 36. -/
  | badRadix (stop : Nat) (radix : Nat)
  /-- A literal that cannot be read, and why. -/
  | malformed (stop : Nat) (why : String)
  /-- An integer as its 64-bit accumulator left it, whether a digit overflowed it, and its
  suffix. -/
  | int (stop : Nat) (value : Nat) (overflow : Bool) (suffix : ByteArray)
  /-- A float by its bits, whether it was out of range, and its suffix. -/
  | float (stop : Nat) (bits : UInt64) (outOfRange : Bool) (suffix : ByteArray)

namespace Numeral

open Utf8 Chars

/-- The end offset of a numeral. -/
def stop : Numeral → Nat
  | badRadix s _ | malformed s _ | int s .. | float s .. => s

/-- The value of the decimal digits `ds` (every byte a digit). -/
def decimalValue (ds : List UInt8) : Nat := ds.foldl (fun v c => v * 10 + (c - 0x30).toNat) 0

/-- Reads `r)` of an explicit radix starting at `i`: the radix (kept once it reaches 1000),
whether it is well-formed, and where reading stopped. -/
def radixSpec (bs : ByteArray) (i : Nat) : Nat × Bool × Nat :=
  let j := runEnd bs isDec i
  let digits := (bs.extract i j).toList
  let r := digits.foldl (fun r c => if r < 1000 then r * 10 + (c - 0x30).toNat else r) 0
  if j > i && byteAt bs j == 0x29 then (r, true, j + 1) else (0, false, j)

/-- Whether decimal digits and `)` follow at `i`. -/
def radixSpecAhead (bs : ByteArray) (i : Nat) : Bool :=
  let j := runEnd bs isDec i
  j > i && byteAt bs j == 0x29

/-- The suffix starting at `i` and where it ends. -/
def suffixAt (bs : ByteArray) (i : Nat) : ByteArray × Nat :=
  if isIdentStartByte (byteAt bs i) then
    let j := runEnd bs isIdentContinueByte i
    (bs.extract i j, j)
  else (.empty, i)

/-- The value of a float text: digits, an optional fraction and an optional exponent, with
separators already removed. The exponent saturates at 10000. -/
def floatValue (text : List UInt8) : UInt64 :=
  let isD (c : UInt8) := 0x30 ≤ c && c ≤ 0x39
  let intPart := text.takeWhile isD
  let rest := text.dropWhile isD
  let (frac, rest) := match rest with
    | 0x2E :: r => (r.takeWhile isD, r.dropWhile isD)
    | r => ([], r)
  let (neg, expDigits) : Bool × List UInt8 := match rest with
    | c :: r => if c == 0x65 || c == 0x45 then
        match r with
        | 0x2D :: ds => (true, ds)
        | 0x2B :: ds => (false, ds)
        | ds => (false, ds)
      else (false, [])
    | [] => (false, [])
  let e : Nat := expDigits.foldl (fun e c => if e < 10000 then e * 10 + (c - 0x30).toNat else e) 0
  let exp10 : Int := (if neg then -(e : Int) else (e : Int)) - (frac.length : Int)
  let digits := intPart ++ frac
  Binary.ofDecimal false (decimalValue digits) exp10 digits.length

/-- Reads a decimal literal from `start`. -/
def decimal (bs : ByteArray) (start : Nat) : Numeral :=
  let digitOrSep (c : UInt8) := isDec c || c == 0x5F
  let i := runEnd bs digitOrSep start
  let (isFloat, i) :=
    if byteAt bs i == 0x2E && isDec (byteAt bs (i + 1)) then (true, runEnd bs digitOrSep (i + 1))
    else (false, i)
  let (isFloat, i) :=
    if byteAt bs i ||| 0x20 == 0x65 then
      let s := byteAt bs (i + 1)
      if isDec s || ((s == 0x2B || s == 0x2D) && isDec (byteAt bs (i + 2))) then
        (true, runEnd bs digitOrSep (i + 2))
      else (isFloat, i)
    else (isFloat, i)
  let (suffix, stop) := suffixAt bs i
  let text := (bs.extract start i).toList.filter (· != 0x5F)
  if isFloat then
    let bits := floatValue text
    float stop bits (Binary.isInf bits) suffix
  else
    let acc := text.foldl (fun (a : IntAcc) c => a.push 10 (c - 0x30).toNat) {}
    int stop acc.val.toNat acc.overflow suffix

/-- Reads the digits of radix `radix` from `i`: their accumulated value, how many there were,
the first decimal digit that is too large for the radix (0 if none), and where they end. -/
def radixDigits (bs : ByteArray) (radix : Nat) (i : Nat) (acc : IntAcc) (count : Nat)
    (bad : UInt8) :
    IntAcc × Nat × UInt8 × Nat :=
  if i < bs.size then
    let b := byteAt bs i
    if b == 0x5F then radixDigits bs radix (i + 1) acc count bad
    else
      let d := digitVal b
      if d ≥ radix then
        if !isDec b then (acc, count, bad, i)
        else radixDigits bs radix (i + 1) acc count (if bad == 0 then b else bad)
      else radixDigits bs radix (i + 1) (acc.push radix d) (count + 1) bad
  else (acc, count, bad, i)
termination_by bs.size - i

/-- Reads radix digits and a suffix from `i`. -/
def radixNumber (bs : ByteArray) (radix i : Nat) : Numeral :=
  let (acc, count, bad, j) := radixDigits bs radix i {} 0 0
  let (suffix, stop) := suffixAt bs j
  if bad != 0 then
    malformed stop s!"digit {Quoted.quoteRune bad.toNat} is out of range for radix {radix}"
  else if count = 0 then malformed stop s!"missing digits after radix {radix} prefix"
  else int stop acc.val.toNat acc.overflow suffix

/-- Reads the number literal that starts at `start`. -/
def read (bs : ByteArray) (start : Nat) : Numeral :=
  let b0 := byteAt bs start
  let b1 := byteAt bs (start + 1) ||| 0x20
  let prefixed : Option (Nat × Nat) ⊕ Nat :=  -- (radix, digits start) or a failure offset
    if b0 == 0x23 then
      match radixSpec bs (start + 2) with
      | (r, true, j) => .inl (some (r, j))
      | (_, false, j) => .inr j
    else if b0 == 0x30 && b1 == 0x78 then .inl (some (16, start + 2))
    else if b0 == 0x30 && b1 == 0x62 then .inl (some (2, start + 2))
    else if b0 == 0x30 && (b1 == 0x6F || b1 == 0x63) then .inl (some (8, start + 2))
    else if b0 == 0x30 && byteAt bs (start + 1) == 0x28 && radixSpecAhead bs (start + 2) then
      let (r, _, j) := radixSpec bs (start + 2)
      .inl (some (r, j))
    else .inl none
  match prefixed with
  | .inr j => malformed j "expected radix digits and ')' after '#('"
  | .inl none => decimal bs start
  | .inl (some (radix, i)) =>
    if radix < 2 || radix > 36 then badRadix (runEnd bs isIdentContinueByte i) radix
    else radixNumber bs radix i

end Numeral

end NovelScript

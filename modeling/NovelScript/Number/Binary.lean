/-!
# Binary floating-point values by their bits

Numbers are kept as the bit patterns of IEEE 754 binary64 values (`UInt64`), so every
operation on them is exact arithmetic on naturals. The central operation rounds a positive
ratio `num / den` to the nearest value of a binary format, a tie going to the value with an
even significand; a ratio beyond the largest finite value becomes infinity. Reading decimal
text, widening an integer and narrowing to binary32 are all this one rounding.
-/

namespace NovelScript.Binary

/-- A binary interchange format: `precision` significand bits (the hidden one included) and
`expBits` exponent bits. -/
structure Format where
  precision : Nat
  expBits : Nat

/-- IEEE 754 binary64. -/
def double : Format := ⟨53, 11⟩

/-- IEEE 754 binary32. -/
def single : Format := ⟨24, 8⟩

namespace Format

/-- The exponent bias. -/
def bias (f : Format) : Int := Int.pow 2 (f.expBits - 1) - 1

/-- The exponent of the least significand bit of subnormal values. -/
def minExp (f : Format) : Int := 2 - f.bias - f.precision

/-- The exponent of the least significand bit of the largest finite values. -/
def maxExp (f : Format) : Int := f.bias + 1 - f.precision

/-- The bits of positive infinity. -/
def infBits (f : Format) : Nat := (Nat.pow 2 f.expBits - 1) * Nat.pow 2 (f.precision - 1)

/-- The bits of the positive value `q * 2^e`, where either `2^(precision-1) ≤ q < 2^precision`
or `e` is the subnormal exponent and `q` is smaller. -/
def pack (f : Format) (q : Nat) (e : Int) : Nat :=
  let half := Nat.pow 2 (f.precision - 1)
  if q < half then q
  else (e - f.minExp + 1).toNat * half + (q - half)

end Format

/-- `2^e` as a ratio, split into a numerator and a denominator. -/
def powTwo (e : Int) : Nat × Nat :=
  if e ≥ 0 then (Nat.pow 2 e.toNat, 1) else (1, Nat.pow 2 (-e).toNat)

/-- The exponent `l` with `2^l ≤ num / den < 2^(l+1)`, for positive `num` and `den`. -/
def floorLog2 (num den : Nat) : Int :=
  let l : Int := (Nat.log2 num : Int) - (Nat.log2 den : Int)
  let (a, b) := powTwo l
  -- `num / den < 2^l` exactly when `num * b < den * a`
  if num * b < den * a then l - 1 else l

/-- The bits of `num / den` rounded to the nearest value of `f`, ties to an even significand.
A zero numerator gives zero and a zero denominator infinity. -/
def roundRatio (f : Format) (num den : Nat) : Nat :=
  if num = 0 then 0 else if den = 0 then f.infBits else
  let l := floorLog2 num den
  let e := max (l - (f.precision - 1 : Nat)) f.minExp
  let (a, b) := powTwo e
  -- `num / den = (num * b) / (den * a) * 2^e`
  let n := num * b
  let d := den * a
  let q := n / d
  let r := n % d
  let q := if 2 * r > d || (2 * r == d && q % 2 == 1) then q + 1 else q
  let (q, e) := if q == Nat.pow 2 f.precision then (q / 2, e + 1) else (q, e)
  if e > f.maxExp then f.infBits else f.pack q e

/-- A binary64 value taken apart. -/
inductive Parts where
  /-- A finite value `(-1)^neg * mant * 2^exp`, zero when `mant = 0`. -/
  | finite (neg : Bool) (mant : Nat) (exp : Int)
  /-- An infinity. -/
  | inf (neg : Bool)
  /-- Not a number. -/
  | nan

/-- Takes the bits of a value of format `f` apart. -/
def Format.parts (f : Format) (bits : Nat) : Parts :=
  let fracBits := f.precision - 1
  let neg := (bits >>> (fracBits + f.expBits)) % 2 == 1
  let biased := (bits >>> fracBits) % Nat.pow 2 f.expBits
  let frac := bits % Nat.pow 2 fracBits
  if biased == Nat.pow 2 f.expBits - 1 then (if frac == 0 then .inf neg else .nan)
  else if biased == 0 then .finite neg frac f.minExp
  else .finite neg (frac + Nat.pow 2 fracBits) (f.minExp + biased - 1)

/-- The sign bit of format `f`. -/
def Format.signBit (f : Format) : Nat := Nat.pow 2 (f.precision + f.expBits - 1)

/-- The bits of a binary64 value. -/
abbrev Bits := UInt64

/-- The parts of a binary64 value. -/
def parts (x : Bits) : Parts := double.parts x.toNat

/-- The binary64 value nearest to `num / den`, with a sign. -/
def ofRatio (neg : Bool) (num den : Nat) : Bits :=
  let m := roundRatio double num den
  (if neg then m + double.signBit else m).toUInt64

/-- The binary64 value nearest to a natural number. -/
def ofNat (n : Nat) : Bits := ofRatio false n 1

/-- Whether `x` is an infinity. -/
def isInf (x : Bits) : Bool := match parts x with
  | .inf _ => true
  | _ => false

/-- The value of a binary64 number rounded to binary32, as a binary64 number again. -/
def toSingle (x : Bits) : Bits :=
  match parts x with
  | .nan => x
  | .inf _ => x
  | .finite neg m e =>
    let (a, b) := powTwo e
    let s := roundRatio single (m * a) b
    match single.parts s with
    | .finite _ m' e' =>
      let (a', b') := powTwo e'
      ofRatio neg (m' * a') b'
    | _ => (if neg then double.infBits + double.signBit else double.infBits).toUInt64

/-- The decimal value `digits * 10^exp10` rounded to binary64. A value that would need an
exponent far outside the format is decided without computing it: more than 10^350 is
infinity and less than 10^-400 is zero. `width` bounds the number of decimal digits of
`digits`. -/
def ofDecimal (neg : Bool) (digits : Nat) (exp10 : Int) (width : Nat) : Bits :=
  if digits = 0 then ofRatio neg 0 1
  else if exp10 > 350 then ofRatio neg 1 0
  else if exp10 + width < -400 then ofRatio neg 0 1
  else if exp10 ≥ 0 then ofRatio neg (digits * Nat.pow 10 exp10.toNat) 1
  else ofRatio neg digits (Nat.pow 10 (-exp10).toNat)

end NovelScript.Binary

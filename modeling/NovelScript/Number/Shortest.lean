import NovelScript.Number.Binary
/-!
# Shortest decimal text of a binary64 value

A finite nonzero value `v = m * 2^e` is the rounding of every real in its rounding interval:
half a unit of the last place on each side (a quarter below when `m` is the smallest normal
significand above the subnormal range), the ends included when `m` is even. The shortest
decimal text is the one with the fewest significant digits whose value lies in the interval;
of two candidates with that many digits, the one nearer to `v` (an exact tie takes the even
last digit). For `n` digits only the two neighbours of `v` on the grid of `n`-digit decimals
need testing: a grid point inside the interval implies that a neighbour is inside too.

The text itself is then written positionally or with an exponent, as `Layout` says.
-/

namespace NovelScript.Shortest

open Binary

/-- Compares `a / b` with `c / d` for positive denominators. -/
def ratioLt (a b c d : Nat) : Bool := a * d < c * b

/-- Whether `a / b ≤ c / d` for positive denominators. -/
def ratioLe (a b c d : Nat) : Bool := a * d ≤ c * b

/-- The integer `t` with `10^t ≤ num / den < 10^(t+1)`, for positive `num` and `den`. -/
def floorLog10 (num den : Nat) : Int :=
  -- an estimate from the binary exponents, off by at most one either way
  let est : Int := (((Nat.log2 num : Int) - (Nat.log2 den : Int)) * 30103) / 100000
  let below (t : Int) : Bool :=  -- `10^t ≤ num / den`
    if t ≥ 0 then ratioLe (Nat.pow 10 t.toNat) 1 num den else ratioLe 1 (Nat.pow 10 (-t).toNat) num den
  let t := if below est then est else est - 1
  let t := if below t then t else t - 1
  let t := if below (t + 1) then t + 1 else t
  if below (t + 1) then t + 1 else t

/-- A decimal value `digits * 10^exp`. -/
structure Decimal where
  digits : Nat
  exp : Int

/-- The number of decimal digits of `n` (one for zero). -/
def digitCount (n : Nat) : Nat := (Nat.toDigits 10 n).length

/-- The rounding interval of a positive finite value `m * 2^e`, as numerators over one
denominator: `(lo, v, hi, den)`. `narrowBelow` marks the quarter gap below. -/
def interval (m : Nat) (e : Int) (narrowBelow : Bool) : Nat × Nat × Nat × Nat :=
  let (a, b) := powTwo (e - 2)
  let lo := if narrowBelow then 4 * m - 1 else 4 * m - 2
  (lo * a, 4 * m * a, (4 * m + 2) * a, b)

/-- The candidate with `n` significant digits for the interval, if any lies in it. -/
def candidate (lo v hi den : Nat) (inclusive : Bool) (n : Nat) : Option Decimal :=
  let k := floorLog10 v den - n + 1
  -- the grid step `10^k` as a ratio `ga / gb`
  let (ga, gb) : Nat × Nat := if k ≥ 0 then (Nat.pow 10 k.toNat, 1) else (1, Nat.pow 10 (-k).toNat)
  -- `d1 = floor (v / 10^k)`
  let d1 := (v * gb) / (den * ga)
  let inside (d : Nat) : Bool :=
    -- `lo < d * 10^k < hi`, or with `≤` when the ends belong to the interval
    let x := d * ga
    if inclusive then ratioLe lo den x gb && ratioLe x gb hi den
    else ratioLt lo den x gb && ratioLt x gb hi den
  let d2 := d1 + 1
  let hit1 := d1 > 0 && inside d1
  let hit2 := inside d2
  let pick : Option Nat :=
    if hit1 && hit2 then
      -- distances to `v`, both over the denominator `den * gb`
      let below := v * gb - d1 * ga * den
      let above := d2 * ga * den - v * gb
      if below < above then some d1 else if above < below then some d2
      else if d1 % 2 == 0 then some d1 else some d2
    else if hit1 then some d1 else if hit2 then some d2 else none
  pick.map fun d =>
    if d == Nat.pow 10 n then ⟨1, k + n⟩ else ⟨d, k⟩

/-- The first candidate with `n`, `n + 1`, … digits, trying `fuel` lengths. -/
def search (lo v hi den : Nat) (inclusive : Bool) : Nat → Nat → Option Decimal
  | 0, _ => none
  | fuel + 1, n =>
    match candidate lo v hi den inclusive n with
    | some d => some d
    | none => search lo v hi den inclusive fuel (n + 1)

/-- The shortest decimal that rounds to the positive finite value `m * 2^e`. -/
def ofMantExp (m : Nat) (e : Int) : Decimal :=
  let narrowBelow := m == Nat.pow 2 52 && e > double.minExp
  let (lo, v, hi, den) := interval m e narrowBelow
  match search lo v hi den (m % 2 == 0) 17 1 with
  | some d => d
  | none => ⟨m, 0⟩

/-- How a value is laid out as text. -/
structure Layout where
  /-- Decimal exponents `x` with `lowExp ≤ x < highExp` are written positionally. -/
  lowExp : Int
  highExp : Int
  /-- The least number of exponent digits. -/
  expWidth : Nat
  posInf : String
  negInf : String
  nan : String

/-- The general layout: positional for exponents from -4 to 5, otherwise `d.ddde±XX`;
infinities are `+Inf` and `-Inf`. -/
def Layout.general : Layout := ⟨-4, 6, 2, "+Inf", "-Inf", "NaN"⟩

/-- The plain layout: always positional. -/
def Layout.plain : Layout := ⟨-100000, 100000, 2, "+Inf", "-Inf", "NaN"⟩

/-- `n` zeros. -/
def zeros (n : Nat) : String := String.ofList (List.replicate n '0')

/-- The text of `digits * 10^(point - |digits|)`, where `ds` are the digits. -/
def render (lay : Layout) (ds : String) (point : Int) : String :=
  let n := ds.length
  let x := point - 1
  if x < lay.lowExp || x ≥ lay.highExp then
    let first := String.ofList (ds.toList.take 1)
    let rest := String.ofList (ds.toList.drop 1)
    let mant := if n > 1 then first ++ "." ++ rest else first
    let ex := toString x.natAbs
    let ex := zeros (lay.expWidth - ex.length) ++ ex
    mant ++ "e" ++ (if x < 0 then "-" else "+") ++ ex
  else if point ≤ 0 then "0." ++ zeros (-point).toNat ++ ds
  else if point.toNat ≥ n then ds ++ zeros (point.toNat - n)
  else
    String.ofList (ds.toList.take point.toNat) ++ "." ++ String.ofList (ds.toList.drop point.toNat)

/-- The shortest text of a binary64 value in the given layout. -/
def format (lay : Layout) (x : Bits) : String :=
  match parts x with
  | .nan => lay.nan
  | .inf neg => if neg then lay.negInf else lay.posInf
  | .finite neg m e =>
    let sign := if neg then "-" else ""
    if m = 0 then sign ++ "0" else
    let d := ofMantExp m e
    let ds := toString d.digits
    sign ++ render lay ds (d.exp + ds.length)

/-- The shortest text in the general layout. -/
def general (x : Bits) : String := format Layout.general x

/-- The shortest text, always positional. -/
def plain (x : Bits) : String := format Layout.plain x

end NovelScript.Shortest

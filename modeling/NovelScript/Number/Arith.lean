import NovelScript.Number.Binary
import NovelScript.Text.Pad
/-!
# Binary64 sums and fixed-point text

The sum of two binary64 values is the exact sum rounded to nearest, ties to even: an
infinity wins over finite values, opposite infinities give NaN, NaN stays NaN, and an exact
zero is negative only when both terms are. The fixed-point text of a value has a given
number of decimals, rounded from the exact binary value with ties to even, and keeps the
sign of a negative value that rounds to zero.

Products, comparisons and rounding to an integer are exact in the same way: the exact
product is rounded once, and comparisons and rounding read the exact binary value.
-/

namespace NovelScript.Binary

/-- The quiet NaN that arithmetic produces. -/
def defaultNan : Bits := 0x7FF8000000000000

/-- Negative zero. -/
def negZero : Bits := 0x8000000000000000

/-- The exact value of a finite number as a signed integer times `2^e`. -/
def scaled (neg : Bool) (m : Nat) (e target : Int) : Int :=
  let v : Int := (m * Nat.pow 2 (e - target).toNat : Nat)
  if neg then -v else v

/-- The rounded sum of two values. -/
def add (x y : Bits) : Bits :=
  match parts x, parts y with
  | .nan, _ => x
  | _, .nan => y
  | .inf a, .inf b => if a == b then x else defaultNan
  | .inf _, _ => x
  | _, .inf _ => y
  | .finite sa ma ea, .finite sb mb eb =>
    let e := min ea eb
    let s := scaled sa ma ea e + scaled sb mb eb e
    if s == 0 then (if sa && sb then negZero else 0)
    else
      let (n, d) := powTwo e
      ofRatio (s < 0) (s.natAbs * n) d

/-- The sum of a list of values, from the left, starting at zero. -/
def sum (xs : List Bits) : Bits := xs.foldl add 0

/-- The text of `x` with `decimals` digits after the point. -/
def fixed (x : Bits) (decimals : Nat) : String :=
  match parts x with
  | .nan => "NaN"
  | .inf neg => if neg then "-Inf" else "+Inf"
  | .finite neg m e =>
    let (n, d) := powTwo e
    let num := m * n * Nat.pow 10 decimals
    let q := num / d
    let r := num % d
    let q := if 2 * r > d || (2 * r == d && q % 2 == 1) then q + 1 else q
    let digits := Pad.left (toString q) (decimals + 1) '0'
    let cut := digits.length - decimals
    let body := String.ofList (digits.toList.take cut) ++
      (if decimals == 0 then "" else "." ++ String.ofList (digits.toList.drop cut))
    (if neg then "-" else "") ++ body

/-- The bits of an infinity. -/
def infinity (neg : Bool) : Bits := if neg then 0xFFF0000000000000 else 0x7FF0000000000000

/-- The value with its sign flipped. -/
def neg (x : Bits) : Bits := x ^^^ 0x8000000000000000

/-- The rounded difference of two values. -/
def sub (x y : Bits) : Bits := add x (neg y)

/-- The rounded product of two values: the exact product rounded to nearest, ties to even;
zero times an infinity is NaN. -/
def mul (x y : Bits) : Bits :=
  match parts x, parts y with
  | .nan, _ => x
  | _, .nan => y
  | .inf a, .inf b => infinity (a != b)
  | .inf a, .finite b m _ => if m == 0 then defaultNan else infinity (a != b)
  | .finite a m _, .inf b => if m == 0 then defaultNan else infinity (a != b)
  | .finite sa ma ea, .finite sb mb eb =>
    let s := sa != sb
    if ma * mb == 0 then (if s then negZero else 0)
    else
      let (n, d) := powTwo (ea + eb)
      ofRatio s (ma * mb * n) d

/-- The rounded quotient of two natural numbers. -/
def ratio (n d : Nat) : Bits := ofRatio false n d

/-- The exact value of a finite value as a signed multiple of `2^e`, with `e`. -/
def exact : Parts → Option (Int × Int)
  | .finite s m e => some (scaled s m e e, e)
  | _ => none

/-- Whether `x` is less than `y`; false when either is NaN. -/
def lt (x y : Bits) : Bool :=
  match parts x, parts y with
  | .nan, _ | _, .nan => false
  | .inf a, .inf b => a && !b
  | .inf a, _ => a
  | _, .inf b => !b
  | .finite sa ma ea, .finite sb mb eb =>
    let e := min ea eb
    decide (scaled sa ma ea e < scaled sb mb eb e)

/-- The magnitude of a value. -/
def abs (x : Bits) : Bits := x &&& 0x7FFFFFFFFFFFFFFF

/-- The integer nearest to a finite value, halves away from zero; 0 for NaN and infinities. -/
def roundAway (x : Bits) : Int :=
  match parts x with
  | .finite s m e =>
    if e ≥ 0 then scaled s m e 0
    else
      let d := Nat.pow 2 (-e).toNat
      let q := m / d + (if 2 * (m % d) ≥ d then 1 else 0)
      if s then -(q : Int) else q
  | _ => 0

/-- `e^x` for a finite `x` of magnitude at most 1, rounded to nearest from the first forty
terms of its series, whose remainder is below `2^-150`. -/
def expSmall (x : Bits) : Bits :=
  match parts x with
  | .finite s m e =>
    -- `x = p / q`
    let (p, q) : Int × Nat :=
      if e ≥ 0 then (scaled s m e 0, 1) else (if s then -(m : Int) else m, Nat.pow 2 (-e).toNat)
    let terms := 40
    let factorial (n : Nat) : Nat := (List.range n).foldl (fun f i => f * (i + 1)) 1
    -- the terms `p^k / (q^k k!)` over the common denominator `q^terms terms!`
    let num : Int := (List.range (terms + 1)).foldl (fun acc k =>
      acc + Int.pow p k * ((Nat.pow q (terms - k) * (factorial terms / factorial k) : Nat) : Int)) 0
    ofRatio (num < 0) num.natAbs (Nat.pow q terms * factorial terms)
  | _ => defaultNan

/-- The greatest integer not above a finite value; 0 for NaN and infinities. -/
def floor (x : Bits) : Int :=
  match parts x with
  | .finite s m e =>
    if e ≥ 0 then scaled s m e 0
    else
      let d := Nat.pow 2 (-e).toNat
      if s then -(((m + d - 1) / d : Nat) : Int) else ((m / d : Nat) : Int)
  | _ => 0

end NovelScript.Binary

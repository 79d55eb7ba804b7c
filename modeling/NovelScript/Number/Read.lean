import NovelScript.Number.Binary
/-!
# Reading decimal numbers

The binary64 value of decimal text: an optional sign, digits with an optional fraction, and
an optional exponent, rounded to nearest with ties to even; or one of the words `inf`,
`infinity` and `nan` in any case, after an optional sign.
-/

namespace NovelScript.Binary

/-- The value of a run of decimal digits. -/
def digitsValue (ds : List Char) : Nat := ds.foldl (fun v c => v * 10 + (c.toNat - '0'.toNat)) 0

/-- The binary64 value of decimal text, if it is a number. -/
def read? (s : String) : Option Bits :=
  let (neg, rest) := match s.toList with
    | '-' :: r => (true, r)
    | '+' :: r => (false, r)
    | r => (false, r)
  let word := (String.ofList rest).toLower
  if word == "inf" || word == "infinity" then some (ofRatio neg 1 0)
  else if word == "nan" then some (double.infBits + Nat.pow 2 (double.precision - 2) + 1).toUInt64
  else
    let intPart := rest.takeWhile Char.isDigit
    let rest := rest.dropWhile Char.isDigit
    let (frac, rest) := match rest with
      | '.' :: r => (r.takeWhile Char.isDigit, r.dropWhile Char.isDigit)
      | r => ([], r)
    if intPart.isEmpty && frac.isEmpty then none
    else
      let exp? : Option Int := match rest with
        | [] => some 0
        | e :: r =>
          if e == 'e' || e == 'E' then
            let (sgn, ds) : Int × List Char := match r with
              | '-' :: d => (-1, d)
              | '+' :: d => (1, d)
              | d => (1, d)
            if ds.isEmpty || !ds.all Char.isDigit then none
            else some (sgn * (min (digitsValue ds) 100000 : Nat))
          else none
      exp?.map fun e =>
        let digits := intPart ++ frac
        ofDecimal neg (digitsValue digits) (e - frac.length) digits.length

end NovelScript.Binary

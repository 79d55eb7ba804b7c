import NovelScript.Number.Arith
/-!
# Sizes in words

A byte count is written for people in decimal units: below ten bytes as `n B`, otherwise in
the largest of `B`, `kB`, `MB`, `GB`, `TB`, `PB` and `EB` that the count reaches (powers of
1000), rounded to one decimal by binary64 arithmetic (`(n / 1000^e * 10 + 0.5)` rounded down,
over ten) and written with that decimal below ten units and without it from ten on
(`1.5 kB`, `17 MB`).
-/

namespace NovelScript.Size

open Binary

/-- The unit names, by power of 1000. -/
def units : List String := ["B", "kB", "MB", "GB", "TB", "PB", "EB"]

/-- The largest power of 1000 that `n` reaches, at most 6. -/
def magnitude (n : Nat) : Nat := ((List.range 6).filter fun k => n ≥ Nat.pow 1000 (k + 1)).length

/-- The text of a size of `n` bytes. -/
def bytesText (n : Nat) : String :=
  if n < 10 then toString n ++ " B"
  else
    let e := magnitude n
    let scaled := floor (add (mul (ratio n (Nat.pow 1000 e)) (ofNat 10)) (ratio 1 2))
    let val := ratio scaled.toNat 10
    let digits := if lt val (ofNat 10) then 1 else 0
    fixed val digits ++ " " ++ (units[e]?.getD "B")

end NovelScript.Size

/-!
# Padding to a width

Fixed-width fields as terminal tables print them: a text shorter than the width is filled
with spaces (or another character) on the left or on the right, and a longer one is kept
whole. Widths count characters.
-/

namespace NovelScript.Pad

/-- `s` filled on the left with `c` to `w` characters. -/
def left (s : String) (w : Nat) (c : Char := ' ') : String :=
  String.ofList (List.replicate (w - s.length) c) ++ s

/-- `s` filled on the right with spaces to `w` characters. -/
def right (s : String) (w : Nat) : String :=
  s ++ String.ofList (List.replicate (w - s.length) ' ')

/-- `n` spaces. -/
def spaces (n : Nat) : String := String.ofList (List.replicate n ' ')

/-- The binary digits of `n`, at least `w` of them. -/
def binary (n w : Nat) : String := left (String.ofList (Nat.toDigits 2 n)) w '0'

end NovelScript.Pad

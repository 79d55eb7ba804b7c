/-!
# Terminal colors

A colored text is wrapped in a select-graphic-rendition sequence of its attributes and a
reset sequence that undoes each attribute: bold is undone by 22, every color by a full
reset 0.
-/

namespace NovelScript.Ansi

/-- Bold. -/
def bold : Nat := 1
/-- Red text. -/
def red : Nat := 31
/-- Green text. -/
def green : Nat := 32
/-- Yellow text. -/
def yellow : Nat := 33
/-- Blue text. -/
def blue : Nat := 34
/-- Cyan text. -/
def cyan : Nat := 36
/-- Bright black (grey) text. -/
def brightBlack : Nat := 90
/-- Bright red text. -/
def brightRed : Nat := 91

/-- The code that undoes attribute `a`. -/
def undo (a : Nat) : Nat := if a == bold then 22 else 0

/-- The sequence that selects the codes. -/
def sequence (codes : List Nat) : String :=
  "\x1b[" ++ ";".intercalate (codes.map toString) ++ "m"

/-- `s` shown with the attributes. -/
def paint (attrs : List Nat) (s : String) : String :=
  sequence attrs ++ s ++ sequence (attrs.map undo)

/-- `s` shown with the attributes when `on` holds, plain otherwise. -/
def paintIf (on : Bool) (attrs : List Nat) (s : String) : String :=
  if on then paint attrs s else s

end NovelScript.Ansi

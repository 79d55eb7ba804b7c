/-!
# How paths are shown

Diagnostic output shows a unit's path absolute, relative to a base directory, as its last
element only, or automatically: as it is unless it is an absolute path of 40 bytes or more,
which is shortened to its last element.
-/

namespace NovelScript

/-- How a unit's path is shown in diagnostic output. -/
inductive PathMode where
  | auto | absolute | relative | basename
  deriving DecidableEq, Repr

namespace PathMode

/-- The code of a mode. -/
def code : PathMode → Nat
  | auto => 0 | absolute => 1 | relative => 2 | basename => 3

/-- The name of a mode. -/
def name : PathMode → String
  | auto => "auto" | absolute => "absolute" | relative => "relative" | basename => "basename"

/-- The mode of a flag value; `none` for an unknown one. -/
def parse? (s : String) : Option PathMode :=
  match s with
  | "" | "auto" => some auto
  | "absolute" | "abs" => some absolute
  | "relative" | "rel" => some relative
  | "basename" | "base" => some basename
  | _ => none

end PathMode

end NovelScript

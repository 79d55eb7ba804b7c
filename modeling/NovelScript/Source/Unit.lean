import NovelScript.Source.Range
import NovelScript.Source.Path
/-!
# Source units

A unit is one loaded script: its index, its cleaned path, its normalized text and the offsets
of its newline bytes. A position is a 1-based line (one more than the newlines before the
offset) and a 1-based byte column. Units larger than 2^24 - 1 bytes are refused, so every
offset up to the end of the text fits a token.
-/

namespace NovelScript

/-- The largest text a unit may hold. -/
def maxUnitSize : Nat := Nat.pow 2 24 - 1

/-- Unit flag bits. -/
structure UnitFlags where
  bits : Nat := 0
  deriving DecidableEq, Repr

namespace UnitFlags
/-- The text came from memory rather than a file. -/
def isVirtual : Nat := 1
/-- A byte-order mark was removed. -/
def hadBom : Nat := 2
/-- CRLF line ends were folded. -/
def foldedCrlf : Nat := 4
/-- The text was decoded from a legacy encoding. -/
def transcoded : Nat := 8

/-- Whether bit `b` is set. -/
def has (f : UnitFlags) (b : Nat) : Bool := f.bits &&& b != 0

/-- The flag names in bit order. -/
def names (f : UnitFlags) : List String :=
  [(isVirtual, "virtual"), (hadBom, "bom"), (foldedCrlf, "crlf"), (transcoded, "transcoded")].filterMap
    fun (b, n) => if f.has b then some n else none

/-- Both sets of flags. -/
def union (f g : UnitFlags) : UnitFlags := ⟨f.bits ||| g.bits⟩

end UnitFlags

/-- A text too large for a unit. -/
structure SizeError where
  path : String
  size : Nat

/-- The message of a size error. -/
def SizeError.message (e : SizeError) : String :=
  s!"{e.path}: {e.size} bytes exceeds the {maxUnitSize} byte limit"

/-- Why a unit cannot be built. -/
inductive UnitError where
  /-- The unit index is 4096 or more. -/
  | badIndex (id : Nat)
  /-- The text is larger than the unit limit. -/
  | tooLarge (e : SizeError)

/-- The message of a unit error. -/
def UnitError.message : UnitError → String
  | .badIndex id => s!"unit index {id} out of range [0,{maxUnits})"
  | .tooLarge e => e.message

/-- A 1-based line and byte column. -/
structure LineCol where
  line : Nat
  col : Nat
  deriving DecidableEq, Repr

/-- The offsets of the newline bytes of `b` from `i` on, appended to `acc`. -/
def newlineOffsets (b : ByteArray) (i : Nat) (acc : Array Nat) : Array Nat :=
  if h : i < b.size then
    newlineOffsets b (i + 1) (if b[i] == 0x0A then acc.push i else acc)
  else acc
termination_by b.size - i

/-- The number of entries of the sorted array `a` below `x`, searched in `[lo, hi)`. -/
def countBelow (a : Array Nat) (x lo hi : Nat) : Nat :=
  if lo < hi then
    let mid := (lo + hi) / 2
    if a.getD mid 0 < x then countBelow a x (mid + 1) hi else countBelow a x lo mid
  else lo
termination_by hi - lo

/-- One loaded script. -/
structure SourceUnit where
  id : Nat
  path : String
  content : ByteArray
  lines : Array Nat
  flags : UnitFlags

namespace SourceUnit

/-- A unit built from normalized text: the index must be below 4096 and the text no larger
than the unit limit. -/
def create (id : Nat) (path : String) (content : ByteArray) (flags : UnitFlags) :
    Except UnitError SourceUnit :=
  if id ≥ maxUnits then .error (.badIndex id)
  else if content.size > maxUnitSize then .error (.tooLarge ⟨path, content.size⟩)
  else .ok ⟨id, Path.clean path, content, newlineOffsets content 0 #[], flags⟩

/-- The length of the text. -/
def size (u : SourceUnit) : Nat := u.content.size

/-- The line and column of an offset. -/
def position (u : SourceUnit) (off : Nat) : LineCol :=
  let n := countBelow u.lines off 0 u.lines.size
  let start := if n = 0 then 0 else u.lines.getD (n - 1) 0 + 1
  ⟨n + 1, off - start + 1⟩

/-- The bytes of a range, clamped to the text. -/
def slice (u : SourceUnit) (r : Range) : ByteArray :=
  let n := u.size
  u.content.extract (min r.off n) (min r.endOff n)

/-- The text of 1-based line `n` without its newline; empty outside the unit. -/
def line (u : SourceUnit) (n : Nat) : ByteArray :=
  if n = 0 then .empty else
  let k := u.lines.size
  let start? : Option Nat :=
    if n = 1 then some 0 else if n - 2 < k then some (u.lines.getD (n - 2) 0 + 1) else none
  match start? with
  | none => .empty
  | some start =>
    let stop := if n - 1 < k then u.lines.getD (n - 1) 0 else u.size
    if start ≥ u.size then .empty else u.content.extract start (min stop u.size)

/-- The path as a diagnostic shows it: `absolute`, `relative` (to `base`, or to the working
directory when `base` is empty), `basename`, or `auto` (the path itself when shorter than 40
bytes or relative, its last element otherwise); any other mode keeps the path. -/
def formatPath (u : SourceUnit) (cwd mode base : String) : String :=
  if mode == "absolute" then Path.abs cwd u.path
  else if mode == "relative" then Path.relative cwd u.path (if base == "" then cwd else base)
  else if mode == "basename" then Path.base u.path
  else if mode == "auto" then
    if u.path.utf8ByteSize < 40 || !Path.isAbs u.path then u.path else Path.base u.path
  else u.path

end SourceUnit

end NovelScript

/-!
# Source ranges

A range names a unit by index and a byte span in it. Unit index 4096 and above belong to no
unit; `Range.none` is the range of a diagnostic that points nowhere.
-/

namespace NovelScript

/-- The number of units that can be loaded at once. -/
def maxUnits : Nat := 4096

/-- A byte span of one unit. -/
structure Range where
  unit : Nat
  off : Nat
  len : Nat
  deriving DecidableEq, Repr, Hashable

namespace Range

/-- The range of no unit. -/
def none : Range := ⟨maxUnits, 0, 0⟩

/-- The span from `start` to `stop` of `unit`; a `stop` before `start` gives an empty span. -/
def make (unit start stop : Nat) : Range := ⟨unit, start, stop - start⟩

/-- The exclusive end offset. -/
def endOff (r : Range) : Nat := r.off + r.len

/-- Whether the range covers no bytes. -/
def isEmpty (r : Range) : Bool := r.len == 0

/-- Whether the range belongs to a unit. -/
def valid (r : Range) : Bool := r.unit < maxUnits

/-- The smallest range covering both, when both belong to the same unit; otherwise `r`. -/
def cover (r o : Range) : Range :=
  if r.unit != o.unit then r else make r.unit (min r.off o.off) (max r.endOff o.endOff)

/-- The text `unit:off+len`, or `-` for a range of no unit. -/
def render (r : Range) : String :=
  if r.valid then s!"{r.unit}:{r.off}+{r.len}" else "-"

end Range

end NovelScript

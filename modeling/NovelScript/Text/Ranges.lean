/-!
# Sorted code point ranges

A character class from the Unicode tables is stored as an array of inclusive ranges, sorted
and disjoint. Membership is a binary search over the ranges.
-/

namespace NovelScript

/-- A character class: sorted, disjoint, inclusive code point ranges. -/
structure RangeTable where
  ranges : Array (Nat × Nat)

namespace RangeTable

/-- Whether `r` lies in one of the ranges with index in `[lo, hi)`. -/
def searchIn (t : RangeTable) (r lo hi : Nat) : Bool :=
  if lo < hi then
    let mid := (lo + hi) / 2
    let (a, b) := t.ranges.getD mid (0, 0)
    if r < a then searchIn t r lo mid
    else if b < r then searchIn t r (mid + 1) hi
    else true
  else false
termination_by hi - lo

/-- Whether `r` lies in the class. -/
def contains (t : RangeTable) (r : Nat) : Bool := t.searchIn r 0 t.ranges.size

/-- The class as a predicate, read range by range: the specification of `contains`. -/
def Mem (t : RangeTable) (r : Nat) : Prop := ∃ p ∈ t.ranges.toList, p.1 ≤ r ∧ r ≤ p.2

end RangeTable

end NovelScript

import NovelScript.Directive.Run
/-!
# The scenario registry

A registry collects the scenarios checked in many units, in the order they are added, and keeps
beside them, for each kind of expectation, the positions of that kind's scenarios. A filter by
kinds goes through the kinds asked for, in their order, and reads each kind's scenarios through
its positions; asking for no kind gives every scenario. The summary lists the filtered scenarios
that failed (and, when verbose, the passed ones) and ends with the totals.
-/

namespace NovelScript

/-- Scenarios from many units and, for each kind, the positions of its scenarios. -/
structure Registry where
  scenarios : Array Scenario := #[]
  byKind : ExpectKind → Array Nat := fun _ => #[]

namespace Registry

/-- The registry after one more scenario. -/
def addOne (r : Registry) (s : Scenario) : Registry :=
  { scenarios := r.scenarios.push s,
    byKind := fun k => if k = s.kind then (r.byKind k).push r.scenarios.size else r.byKind k }

/-- The registry after the scenarios of one check. -/
def add (r : Registry) (res : CheckResult) : Registry := res.scenarios.foldl addOne r

/-- Every scenario, in the order added. -/
def all (r : Registry) : List Scenario := r.scenarios.toList

/-- The number of scenarios. -/
def len (r : Registry) : Nat := r.scenarios.size

/-- The scenarios of the kinds asked for, kind by kind; every scenario when no kind is asked
for. -/
def filterByKind (r : Registry) (kinds : List ExpectKind) : List Scenario :=
  if kinds.isEmpty then r.all
  else kinds.flatMap fun k => (r.byKind k).toList.filterMap (r.scenarios[·]?)

/-- The summary of the scenarios of the kinds asked for, with its total, passed and failed
counts: every filtered scenario is listed as it would be with no kind chosen. -/
def summarize (r : Registry) (kinds : List ExpectKind) (verbose : Bool) :
    ByteArray × Nat × Nat × Nat :=
  Directive.summarize (r.filterByKind kinds) [] verbose

end Registry

end NovelScript

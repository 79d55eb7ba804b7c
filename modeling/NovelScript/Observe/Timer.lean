import NovelScript.Number.Arith
import NovelScript.Json.Value
/-!
# Phase timings

A timer records named phases in the order they begin; ending or annotating a phase names it
by index, and an index out of range is ignored. Here time does not pass, so every phase
takes zero milliseconds; reports built elsewhere carry their own durations.

A report lists its phases with durations in milliseconds and their total. Merging reports
sums the durations of same-named phases, keeping first-seen order, and sums the totals;
notes describe a single run and are dropped. A summary is a table: `timings:`, a line
`  %-12s %9.2f ms` per phase (with `  // note` when there is one) and a total line.
-/

namespace NovelScript

/-- One timed phase. -/
structure Phase where
  name : String
  /-- The duration in milliseconds, as a binary64 value. -/
  ms : Binary.Bits := 0
  note : String := ""

/-- The phases of one run. -/
structure Timer where
  phases : Array Phase := #[]

namespace Timer

/-- Starts a phase; gives its index. -/
def begin (t : Timer) (name : String) : Nat × Timer :=
  (t.phases.size, { phases := t.phases.push ⟨name, 0, ""⟩ })

/-- Ends phase `i` with a note. -/
def finish (t : Timer) (i : Int) (note : String) : Timer :=
  if i < 0 then t else { phases := t.phases.modify i.toNat fun p => { p with ms := 0, note := note } }

/-- Replaces the note of phase `i`. -/
def annotate (t : Timer) (i : Int) (note : String) : Timer :=
  if i < 0 then t else { phases := t.phases.modify i.toNat fun p => { p with note := note } }

end Timer

/-- Phases with their total duration. -/
structure Report where
  totalMs : Binary.Bits := 0
  phases : List Phase := []

namespace Report

/-- The report of a timer. -/
def ofTimer (t : Timer) : Report := ⟨Binary.sum (t.phases.toList.map (·.ms)), t.phases.toList⟩

/-- Adds one phase into merged phases by name. -/
def mergePhase (acc : List Phase) (p : Phase) : List Phase :=
  if acc.any (·.name == p.name) then
    acc.map fun q => if q.name == p.name then { q with ms := Binary.add q.ms p.ms } else q
  else acc ++ [⟨p.name, Binary.add 0 p.ms, ""⟩]

/-- The merge of reports. -/
def merge (rs : List Report) : Report :=
  rs.foldl (fun out r => ⟨Binary.add out.totalMs r.totalMs, r.phases.foldl mergePhase out.phases⟩) {}

/-- One table line. -/
def line (name : String) (ms : Binary.Bits) : String :=
  "  " ++ Pad.right name 12 ++ " " ++ Pad.left (Binary.fixed ms 2) 9 ++ " ms"

/-- The summary table. -/
def summary (r : Report) : String :=
  "timings:\n" ++
  String.join (r.phases.map fun p =>
    line p.name p.ms ++ (if p.note.isEmpty then "" else "  // " ++ p.note) ++ "\n") ++
  line "total" r.totalMs ++ "\n"

end Report

end NovelScript

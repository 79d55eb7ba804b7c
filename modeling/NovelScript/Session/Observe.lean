import NovelScript.Session.Request
import NovelScript.Observe.Timer
import NovelScript.Number.Read
import NovelScript.Number.Shortest
/-!
# Driving timers and reports

A timer request begins, ends and annotates phases and answers the resulting report without
durations. A report request merges the given reports and answers the merge and every
summary table.
-/

namespace NovelScript.Session

/-- A binary64 value as a JSON number. -/
def floatJson (x : Binary.Bits) : Json := .num (Shortest.general x)

/-- The binary64 value of a JSON number; 0 when absent. -/
def floatOf (j : Json) : Binary.Bits :=
  match j with
  | .num t => (Binary.read? t).getD 0
  | _ => 0

/-- Answers a timer request. -/
def timerSession (j : Json) : Json :=
  let (t, outs) := (j.get "steps").items.foldl (fun (t, acc) s =>
    if s.has "begin" then
      let (i, t) := t.begin (s.getStr "begin")
      (t, acc.push (Json.nat i))
    else if s.has "end" then (t.finish (s.getInt "end") (s.getStr "note"), acc.push .null)
    else if s.has "annotate" then (t.annotate (s.getInt "annotate") (s.getStr "note"), acc.push .null)
    else (t, acc.push .null)) (({} : Timer), #[])
  let r := Report.ofTimer t
  let phases := if r.phases.isEmpty then Json.null
    else .arr (r.phases.map fun p => .obj [("name", .str p.name), ("note", .str p.note)])
  .obj [("steps", if outs.isEmpty then .null else .arr outs.toList),
    ("report", .obj [("phases", phases)]), ("non_negative", .bool true),
    ("summary_lines", .nat ((r.summary.toList.filter (· == '\n')).length))]

/-- A report given as JSON. -/
def reportOf (j : Json) : Report :=
  ⟨floatOf (j.get "total_ms"), (j.get "phases").items.map fun p =>
    ⟨p.getStr "name", floatOf (p.get "duration_ms"), p.getStr "note"⟩⟩

/-- A report as JSON, every phase with its note. -/
def reportView (r : Report) : Json :=
  .obj [("phases", if r.phases.isEmpty then .null else .arr (r.phases.map fun p =>
      .obj [("name", .str p.name), ("duration_ms", floatJson p.ms), ("note", .str p.note)])),
    ("total_ms", floatJson r.totalMs)]

/-- Answers a report request. -/
def reportSession (j : Json) : Json :=
  let rs := (j.get "reports").items.map reportOf
  let merged := Report.merge rs
  .obj [("merged", reportView merged), ("merged_summary", .str merged.summary),
    ("summaries", if rs.isEmpty then .null else .arr (rs.map fun r => .str r.summary))]

end NovelScript.Session

import NovelScript.Batch.SelfTest
import NovelScript.Batch.Inputs
import NovelScript.Session.Tokenize
import NovelScript.Session.Scratch
import NovelScript.Session.Scripts
import NovelScript.Session.Log
/-!
# Tokenizing and checking many scripts

A files request runs a batch over scripts of its scratch directory, once or several times
over the same token cache: tokenizing them, or checking their self-tests. The arguments may
first be expanded, each directory replaced by the scripts inside it.

Each run answers its progress events, the result of each script and a summary. Events come
in the order they were sent when one script is worked on at a time; with more at once only
the set of events is fixed, so they are sorted by file, stage and status. Timing notes keep
only their shape: their measured numbers are written `N` or `0`.

With a log level or format the scripts' contexts and the batch log into a buffer; the
answer holds its lines, clock times and record times fixed and the lines sorted, since
scripts worked on at once log in any order.
-/

namespace NovelScript.Session

open Batch

/-- The batch options of a files request, or the answer for a bad mode or encoding. -/
def batchOptions (j : Json) : Except Json Batch.Options := do
  let opts ← contextOptions (LexRequest.ofJson j)
  return { compile := { opts with maxIncludeDepth := (j.getInt "max_include_depth").toNat },
           maxDiags := (j.getInt "max_diagnostics").toNat, timings := j.getBool "timings" }

/-- A diagnostic argument, its measured parts fixed when it belongs to a timing note. -/
def timingArg : Arg → Json
  | .float _ => .obj [("float", .str "N")]
  | .str s => .obj [("str", .ofBytes (Scrub.totals s))]
  | a => View.arg a

/-- A diagnostic as a files answer shows it: a timing note with its measured parts fixed. -/
def batchDiagnostic (d : Diagnostic) : Json :=
  if d.code != Code.obsTimings then View.diagnostic d
  else
    .obj [("code", .str (Code.id d.code)), ("severity", .str d.severity.label),
      ("category", .str d.category.name), ("message", .ofBytes (Scrub.totals d.message)),
      ("range", View.range d.range), ("args", .arr (d.args.toList.map timingArg))]

/-- The diagnostics a context collected. -/
def bagView (c : Context) : Json := .arr (c.engine.bag.items.toList.map batchDiagnostic)

/-- A progress event. -/
def eventView (e : Event) : Json :=
  .obj ((match e.err with | some m => [("err", .str (showScratch m))] | none => []) ++
    [("file", .str e.file), ("stage", .str e.stage), ("status", .str e.status)])

/-- Whether event `a` sorts before or with event `b`: by file, stage and status. -/
def eventLe (a b : Event) : Bool :=
  decide (a.file < b.file) || (a.file == b.file &&
    (decide (a.stage < b.stage) || (a.stage == b.stage && decide (a.status ≤ b.status))))

/-- The events of a run as answered: in order for one script at a time, sorted otherwise. -/
def eventsView (jobs : Int) (es : List Event) : Json :=
  .arr ((if jobs == 1 then es else es.mergeSort eventLe).map eventView)

/-- A list of texts; `null` when it is empty. -/
def textList (xs : List String) : Json := if xs.isEmpty then .null else .arr (xs.map .str)

/-- The timer phases of a report, each as `name:note`. -/
def phaseNotes (r : Report) : Json := textList (r.phases.map fun p => p.name ++ ":" ++ p.note)

/-- What tokenizing one script gave. -/
def fileRunView (r : FileRun) : Json :=
  .obj ([("path", .str r.path), ("loaded", .bool r.result.unit.isSome)] ++
    (match r.result.unit with | some u => [("bytes", .nat u.content.size)] | none => []) ++
    [("cached", .bool r.cached), ("has_errors", .bool r.result.hasErrors),
     ("tokens", .nat r.dump.length), ("diags", bagView r.result.ctx),
     ("phases", phaseNotes r.report)])

/-- The totals of a tokenizing run, without the measured times. -/
def summaryView (s : Summary) : Json :=
  .obj [("files", .nat s.files), ("failed", .nat s.failed), ("cached", .nat s.cached),
    ("tokens", .nat s.tokens), ("bytes", .nat s.bytes), ("errors", .nat s.errors),
    ("warnings", .nat s.warnings), ("phases", textList (s.timing.phases.map (·.name)))]

/-- What checking one script's self-tests gave. -/
def checkRunView (r : CheckRun) : Json :=
  .obj ([("path", .str r.path), ("passed", .nat r.result.passed), ("failed", .nat r.result.failed),
    ("total", .nat r.result.scenarios.size), ("diags", bagView r.ctx)] ++
    (match r.error with | some e => [("err", runErrorView e)] | none => []))

/-- The members every run answers: its failure, and its events unless no one listened. -/
def runHead {α : Type} (j : Json) (r : BatchRun α) : List (String × Json) :=
  (match r.error with | some e => [("error", View.failure e)] | none => []) ++
  (if j.getBool "no_sink" then [] else [("events", eventsView (j.getInt "jobs") r.events)])

/-- A script's answer, `null` for one that never started. -/
def startedView {α : Type} (view : α → Json) : Option α → Json
  | some r => view r
  | none => .null

/-- The answer of a tokenizing run. -/
def tokenizeRunView (j : Json) (r : BatchRun FileRun) : Json :=
  .obj (runHead j r ++ [("results", .arr (r.runs.map (startedView fileRunView))),
    ("summary", summaryView (summarize r.runs))])

/-- The answer of a self-test run, with the summary of its registry for the chosen kinds. -/
def selfTestRunView (j : Json) (r : BatchRun CheckRun) : Json :=
  let reg := fillRegistry {} r.runs
  let kinds := (j.get "kinds").items.filterMap fun k => ExpectKind.parse? (k.str?.getD "")
  let (text, total, passed, failed) := reg.summarize kinds (j.getBool "verbose")
  .obj (runHead j r ++ [("results", .arr (r.runs.map (startedView checkRunView))),
    ("summary", .ofBytes text), ("summary_counts", .arr [.nat total, .nat passed, .nat failed]),
    ("registry_len", .nat reg.len), ("registry_all", .nat reg.all.length)])

/-- Runs the batch once: the tree after it, its answer and its log entries. -/
def batchOnce (j : Json) (o : Batch.Options) (paths : List String) (t : FileTree) :
    FileTree × Json × List Log.Entry :=
  let cancelled := j.getBool "cancel"
  if j.getStr "mode" == "selftest" then
    let r := selfTestFiles o t paths cancelled
    (r.tree, selfTestRunView j r, r.log)
  else
    let r := tokenizeFiles o t paths (j.getInt "jobs") cancelled
    (r.tree, tokenizeRunView j r, r.log)

/-- The logger a files request asks for: none without a level or format. -/
def batchLogger (j : Json) : Except String (Option Log.Logger) :=
  if j.getStr "log_level" == "" && j.getStr "log_format" == "" then .ok none
  else (Log.Logger.make { level := j.getStr "log_level", format := j.getStr "log_format" }).map
    (some ·.1)

/-- The lines a logger wrote for entries, with clock and record times fixed and measured
totals written `N`, sorted. -/
def logLines (lg : Log.Logger) (es : List Log.Entry) : Json :=
  let out := (lg.replay recordMoment {} es).screen
  let text := String.fromUTF8? (Scrub.totals (Scrub.times (Scrub.clock out))) |>.getD ""
  let lines := (text.splitOn "\n").filter (· != "")
  .arr ((lines.mergeSort fun a b => decide (a ≤ b)).map .str)

/-- Answers a files request. -/
def filesSession (j : Json) : Json :=
  match batchOptions j, batchLogger j with
  | .error answer, _ => answer
  | _, .error msg => View.failure msg
  | .ok o, .ok logger =>
    let t := scratchTree (j.get "files")
    let given := (j.get "paths").items.filterMap (·.str?)
    let (paths, expanded) : List String × List (String × Json) :=
      if !j.getBool "expand" then (given, [])
      else match expandInputs t given with
        | .ok ps => (ps, [("expanded", pathList ps)])
        | .error e => (given, [("expand_error", View.failure (showScratch e.message))])
    let (t, o) := if !j.getBool "cache" then (t, o)
      else match TokenCache.openAt t (Path.join scratchRoot ".cache/novelc") with
        | .ok (t, c) => (t, { o with cache := some c })
        | .error _ => (t, o)
    let (_, runs, log) := (List.range (max 1 (j.getInt "repeat").toNat)).foldl
      (fun (t, runs, log) _ =>
        let (t, run, entries) := batchOnce j o paths t
        (t, runs ++ [run], log ++ entries)) (t, [], [])
    .obj ([("runs", .arr runs)] ++ expanded ++
      (match logger with | some lg => [("log", logLines lg log)] | none => []))

end NovelScript.Session

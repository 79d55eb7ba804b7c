import NovelScript.Batch.Tokenize
import NovelScript.Directive.Run
import NovelScript.Directive.Registry
/-!
# Checking the self-tests of many scripts

A script's self-tests are checked in a context of its own, with test directives kept whatever
mode was asked for: the built-ins are registered, the script is opened and lexed to its end,
and each expectation is checked against what followed it. A failure to register or to open the
script ends the check with no scenario; a lexing error ends it with the scenarios settled so
far. A finished or stopped pass keeps a debug entry with the scenario counts.

A run over many scripts reports each one as being checked, then as done or, when the check
stopped early or a scenario failed, as failed. Its registry holds the scenarios of every
script, the scripts taken in the order given, so the summary does not depend on which script
finished first.
-/

namespace NovelScript.Batch

/-- What checking one script's self-tests gave. -/
structure CheckRun where
  path : String
  result : CheckResult
  ctx : Context
  error : Option RunError
  /-- The run's own log entries, after the context's. -/
  notes : List Log.Entry := []

namespace CheckRun

/-- Every log entry of the check: the context's, then the check's own. -/
def log (r : CheckRun) : List Log.Entry := r.ctx.notes.toList ++ r.notes

/-- Whether the check failed: it stopped early or a scenario failed. -/
def failed (r : CheckRun) : Bool := r.error.isSome || r.result.failed > 0

/-- The message of the failure that stopped the check, if any. -/
def errorMessage (r : CheckRun) : Option String :=
  r.error.map fun
    | .context e => String.fromUTF8? e.message |>.getD ""
    | .lex e => String.fromUTF8? e.message |>.getD ""

end CheckRun

/-- Checks the self-tests of the script at `path` in the file tree. -/
def selfTestFile (o : Options) (t : FileTree) (path : String) : CheckRun :=
  let c := Context.single { o.compile with mode := .tests } o.maxDiags (FileReader.ofTree t)
  let stopped (c : Context) (e : ContextError) : CheckRun := ⟨path, {}, c, some (.context e), []⟩
  match step ContextM.init c with
  | (.error e, c) => stopped c e
  | (.ok (), c) =>
    match step (ContextM.openSource path) c with
    | (.error e, c) => stopped c e
    | (.ok u, c) =>
      match step (Directive.check u (tokenBudget u.content.size) [] {}) c with
      | (.error e, c) => stopped c e
      | (.ok (res, err), c) =>
        let counts := Log.Entry.debug "self-test" [("path", .text u.path.toUTF8),
          ("total", .nat res.scenarios.size), ("passed", .nat res.passed), ("failed", .nat res.failed)]
        ⟨path, res, c, err.map .lex, [counts]⟩

/-- Checks the self-tests of every script of `paths` in order; a cancelled run starts none. -/
def selfTestFiles (o : Options) (t : FileTree) (paths : List String) (cancelled : Bool) :
    BatchRun CheckRun :=
  if paths.isEmpty then ⟨[], [], t, none, []⟩
  else if cancelled then ⟨[], paths.map fun _ => none, t, some "context canceled", []⟩
  else
    let runs := paths.map (selfTestFile o t)
    let events := runs.flatMap fun r =>
      [{ file := r.path, stage := "selftest", status := "working" },
       { file := r.path, stage := "selftest", status := if r.failed then "error" else "done",
         err := r.errorMessage }]
    ⟨events, runs.map some, t, none, runs.flatMap (·.log)⟩

/-- The scenarios of a run's registry: every script's, in the order of the scripts. -/
def registry (runs : List (Option CheckRun)) : List Scenario :=
  (runs.filterMap id).flatMap (·.result.scenarios.toList)

/-- The registry `reg` after a run adds to it every checked script's scenarios, in the order of
the scripts, once all of them have been checked. -/
def fillRegistry (reg : Registry) (runs : List (Option CheckRun)) : Registry :=
  (runs.filterMap id).foldl (fun reg r => reg.add r.result) reg

end NovelScript.Batch

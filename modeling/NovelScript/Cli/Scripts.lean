import NovelScript.Cli.Setup
import NovelScript.Batch.SelfTest
import NovelScript.Batch.Inputs
import NovelScript.Token.Msgpack
import NovelScript.Text.Size
/-!
# The commands that work on scripts

* `tokenize` lexes one script, or standard input for `-`, and prints its tokens as aligned
  lines, JSON or MessagePack, its diagnostics on standard error, and with `--timings` the
  table of its phases.
* `check` lexes every script it is given (a directory stands for the scripts below it) and
  prints their diagnostics, as console text, JSON or one short line each, and a summary line.
* `selftest` checks the self-tests of every script it is given and prints what failed (with
  `-v`, also what passed) and a summary.

With `--cache`, `tokenize` and `check` keep the dumps of clean scripts in the user's cache, and
read them back while the script is unchanged; a cache that cannot be opened is logged and
the command goes on without it. A command fails when a script could not be read or its
diagnostics hold errors.
-/

namespace NovelScript.Cli

open Batch

/-- The count of a thing, the word plural unless there is exactly one. -/
def plural (n : Nat) (word : String) : String :=
  if n == 1 then "1 " ++ word else toString n ++ " " ++ word ++ "s"

/-- A number with commas between groups of three digits. -/
def commaText (n : Nat) : String :=
  let ds := (toString n).toList.reverse
  let rec group : List Char → List Char
    | a :: b :: c :: rest@(_ :: _) => a :: b :: c :: ',' :: group rest
    | cs => cs
  String.ofList (group ds).reverse

/-- Opens the user's token cache into the options, or logs why it cannot be opened. -/
def withCache (a : App) (o : Options) : ProcM Options := do
  match TokenCache.openApp (← ProcM.tree) (a.getenv "XDG_CACHE_HOME") (a.getenv "HOME") "novelc" with
  | .ok (t, c) =>
    ProcM.setTree t
    return { o with cache := some c }
  | .error e =>
    ProcM.log a.logger [⟨.warn, "token cache unavailable", [("err", .failure e.toUTF8)]⟩]
    return o

/-- Prints the diagnostics of a context on standard error, sorted. -/
def showDiagnostics (a : App) (c : Context) : ProcM Unit := do
  let cwd := (← ProcM.tree).cwd
  let ds := c.engine.bag.sorted.toList
  if !ds.isEmpty then ProcM.shout (Console.reports (a.console cwd) (fun i => c.unit? i) ds)

/-- The message of a failure that stopped a run. -/
def failureText : RunError → String
  | .context e => String.fromUTF8? e.message |>.getD ""
  | .lex e => String.fromUTF8? e.message |>.getD ""

/-- Runs `tokenize`. -/
def runTokenize (a : App) (p : Parsed) (stdin : ByteArray) (file : String) : ProcM Unit := do
  let format := p.text "format" "pretty"
  unless ["pretty", "json", "msgpack"].contains format do ProcM.fail ("unknown format: " ++ format)
  let mut o := a.options
  if p.changed "directives" then
    let mode ← ProcM.lift (DirectiveMode.parse (p.text "directives" ""))
    o := { o with compile := { o.compile with mode := mode } }
  if p.bool "cache" then o ← withCache a o
  let t ← ProcM.tree
  let (r, t) := if file == "-" then tokenizeText o t "<stdin>" stdin else tokenizeFile o t file
  ProcM.setTree t
  ProcM.log a.compileLogger r.log
  showDiagnostics a r.result.ctx
  if let some e := r.result.error then
    if r.result.unit.isNone then throw .diagnosed
    ProcM.fail ("tokenization failed: " ++ (failureText e))
  let dump := r.dump
  ProcM.say (match format with
    | "json" => (TokenOutput.json dump).toUTF8
    | "msgpack" => Msgpack.encode dump
    | _ => TokenOutput.pretty dump)
  if a.timings then ProcM.shout r.report.summary.toUTF8
  if r.result.hasErrors then throw .diagnosed

/-- The scripts that arguments name, or the problem. -/
def scriptsOf (args : List String) : ProcM (List String) := do
  let files ← match expandInputs (← ProcM.tree) args with
    | .ok fs => pure fs
    | .error e => ProcM.fail e.message
  if files.isEmpty then
    ProcM.fail ("no " ++ scriptExt ++ " scripts found in [" ++ " ".intercalate args ++ "]")
  return files

/-- Checks the `--ui` flag: `auto`, `on` or `off` in any case, blank meaning `auto`. -/
def checkUi (p : Parsed) : ProcM Unit := do
  let v := p.text "ui" "auto"
  match Bytes.asciiLower (Bytes.trimText v) with
  | "" | "auto" | "on" | "off" => pure ()
  | _ => ProcM.fail ("invalid --ui value " ++ Quoted.quoteText v ++ " (expected auto|on|off)")

/-- The summary line of a check. -/
def checkSummary (s : Summary) : String :=
  "checked " ++ plural s.files "file" ++ " (" ++ Size.bytesText s.bytes ++ ", " ++ commaText s.tokens ++
    " tokens" ++ (if s.cached > 0 then ", " ++ toString s.cached ++ " cached" else "") ++ "): " ++
    plural s.errors "error" ++ ", " ++ plural s.warnings "warning" ++ "\n"

/-- The JSON report of a check. -/
def checkReport (a : App) (cwd : String) (runs : List FileRun) (s : Summary) : Json :=
  let style : JsonStyle := ⟨true, a.settings.pathMode, "", 0, true, cwd⟩
  .obj [("files", .arr (runs.map fun r =>
      .obj ([("path", .str r.path)] ++ (if r.cached then [("cached", .bool true)] else []) ++
        [("tokens", .nat r.dump.length)] ++
        (DiagnosticsJson.build style r.result.resolver r.result.ctx.engine.bag.sorted.toList).members))),
    ("errors", .nat s.errors), ("warnings", .nat s.warnings)]

/-- The short lines of a check's diagnostics, script by script. -/
def checkLines (cwd : String) (runs : List FileRun) : ByteArray :=
  runs.foldl (fun acc r =>
    let out := Golden.format r.result.ctx.engine.bag.items.toList r.result.resolver cwd cwd
    if out.isEmpty then acc else acc ++ out ++ "\n".toUTF8) .empty

/-- Runs `check`. -/
def runCheck (a : App) (p : Parsed) (args : List String) : ProcM Unit := do
  let format := p.text "format" "pretty"
  unless ["pretty", "json", "short"].contains format do ProcM.fail ("unknown format: " ++ format)
  let files ← scriptsOf args
  let o ← if p.bool "cache" then withCache a a.options else pure a.options
  if format == "pretty" then checkUi p
  let run := tokenizeFiles o (← ProcM.tree) files (p.int "jobs" 0) false
  ProcM.setTree run.tree
  ProcM.log a.compileLogger run.log
  let runs := run.runs.filterMap id
  let s := summarize run.runs
  ProcM.log a.logger [Log.Entry.debug "check finished"
    [("files", .nat s.files), ("failed", .nat s.failed), ("cached", .nat s.cached)]]
  let cwd := (← ProcM.tree).cwd
  match format with
  | "json" => ProcM.say (checkReport a cwd runs s).renderDocument.toUTF8
  | "short" =>
    ProcM.say (checkLines cwd runs)
    ProcM.shout (checkSummary s).toUTF8
  | _ =>
    for r in runs do showDiagnostics a r.result.ctx
    ProcM.shout (checkSummary s).toUTF8
  if a.timings then ProcM.shout s.timing.summary.toUTF8
  if s.failed > 0 then throw .diagnosed

/-- The kinds of checks `--kind` names, or the first name that is none. -/
def checkKinds (names : List String) : ProcM (List ExpectKind) :=
  names.mapM fun n =>
    match ExpectKind.parse? (Bytes.trimText n) with
    | some k => pure k
    | none => ProcM.fail ("unknown check kind " ++ Quoted.quoteText n)

/-- Runs `selftest`. -/
def runSelfTest (a : App) (p : Parsed) (args : List String) : ProcM Unit := do
  let kinds ← checkKinds (p.list "kind")
  let files ← scriptsOf args
  checkUi p
  let run := selfTestFiles a.options (← ProcM.tree) files false
  ProcM.log a.compileLogger run.log
  let runs := run.runs.filterMap id
  let mut broken := 0
  for r in runs do
    showDiagnostics a r.ctx
    if let some e := r.error then
      broken := broken + 1
      ProcM.log a.logger [Log.Entry.debug "self-test aborted"
        [("path", .text r.path.toUTF8), ("err", .failure (failureText e).toUTF8)]]
  let (text, _, _, failed) := Directive.summarize (registry run.runs) kinds (p.bool "verbose")
  ProcM.say text
  if broken > 0 then ProcM.shout (plural broken "file" ++ " could not be checked\n").toUTF8
  if failed > 0 || broken > 0 then throw .diagnosed

end NovelScript.Cli

import NovelScript.Cli.Process
import NovelScript.Cli.Flags
import NovelScript.Batch.Tokenize
import NovelScript.Diag.Render
/-!
# Setting the program up

Before a command runs, the program loads its settings, from the file named with `--config` or
else the file found upward from the working directory, and the environment. The global flags
that were given override them: the color, the error limit, the two warning switches (which
may not both be on), the encoding, the log level and the log file. The merged settings are
checked, the logger is made, and the profiler started when a profile was asked for.

After the command, whether it succeeded or not, the profiler is stopped, its failure reported
as a warning, and the records written to the log file are added to the file.
-/

namespace NovelScript.Cli

open Config

/-- The settings and services every command works with. -/
structure App where
  settings : Settings
  /-- The program's logger. -/
  logger : Log.Logger
  /-- The most diagnostics kept per script; 0 or less for no limit. -/
  maxDiags : Int
  timings : Bool
  env : Environment

/-- Whether diagnostics are painted: only when the color setting says `on`, since the outputs
are not terminals. -/
def paints (c : Settings) : Bool := Bytes.asciiLower c.output.color == "on"

namespace App

/-- The logger of the compiler's own work. -/
def compileLogger (a : App) : Log.Logger := a.logger.withAttrs [("component", .text "compile".toUTF8)]

/-- How scripts are tokenized. -/
def options (a : App) : Batch.Options :=
  { compile := { policy := a.settings.policy, mode := a.settings.mode, encoding := a.settings.encoding },
    maxDiags := a.maxDiags.toNat, timings := a.timings }

/-- How diagnostics are shown on standard error, for a run in `cwd`. -/
def console (a : App) (cwd : String) : ConsoleStyle :=
  ⟨paints a.settings, a.settings.pathMode, "", a.settings.output.context, cwd⟩

/-- The value of an environment variable; empty when it is not set. -/
def getenv (a : App) (name : String) : String := (a.env.lookup name).getD ""

end App

/-- The settings with the global flags that were given applied. -/
def applyFlags (p : Parsed) (c : Settings) : Except String Settings := do
  let c := if p.changed "color" then c.set .color (.text (p.text "color" "")) else c
  let c := if p.changed "max-errors" then c.set .maxErrors (.count (p.int "max-errors" 0)) else c
  let c := if p.changed "warnings-as-errors" then c.set .warningsAsErrors (.flag (p.bool "warnings-as-errors"))
    else c
  let c := if p.changed "no-warnings" then c.set .noWarnings (.flag (p.bool "no-warnings")) else c
  if c.diagnostics.noWarnings && c.diagnostics.warningsAsErrors then
    throw "no-warnings and warnings-as-errors cannot be used together"
  let c := if p.changed "encoding" then c.set .encoding (.text (p.text "encoding" "")) else c
  let c := if p.changed "log-level" then c.set .level (.text (p.text "log-level" "")) else c
  let c := if p.changed "log-file" then c.set .file (.text (p.text "log-file" "")) else c
  return c

/-- The settings a run loads. -/
def loadSettings (t : FileTree) (p : Parsed) (env : Environment) : Loaded :=
  let path := p.text "config" ""
  if path.isEmpty then loadFrom t "." env else loadFile t path env

/-- Sets the program up for a command. -/
def setup (env : Environment) (p : Parsed) : ProcM App := do
  let loaded := loadSettings (← ProcM.tree) p env
  if let some e := loaded.error then ProcM.fail e
  let c ← ProcM.lift (applyFlags p loaded.settings)
  ProcM.lift c.validate
  let (lg, file) ← match Log.Logger.make
      { level := c.log.level, format := c.log.format, source := c.log.source, color := paints c,
        terminal := false, file := c.log.file } with
    | .ok r => pure r
    | .error e => ProcM.fail ("init logging: " ++ e)
  modify fun s => { s with written := { s.written with file := file }, started := true }
  let lg := lg.withAttrs [("component", .text "novelc".toUTF8)]
  if !c.path.isEmpty then ProcM.log lg [Log.Entry.debug "loaded config" [("path", .text c.path.toUTF8)]]
  let app : App := ⟨c, lg, p.int "max-diagnostics" 100, p.bool "timings", env⟩
  let popts : ProfileOptions :=
    ⟨p.text "cpu-profile" "", p.text "mem-profile" "", p.text "runtime-trace" ""⟩
  if popts.enabled then
    let s ← get
    let (w, r) := ProfileWorld.start ⟨s.tree, s.cpuBusy, s.tracing⟩ popts
    set { s with tree := w.tree, cpuBusy := w.cpuBusy, tracing := w.tracing }
    match r with
    | .ok prof => modify fun s => { s with profiler := some prof }
    | .error e => ProcM.fail e
  return app

/-- The files with a log file's records added to its end, its directory made; unchanged when
the file cannot be written. -/
def flushLog (t : FileTree) (name : String) (records : ByteArray) : FileTree :=
  let old := (t.readFile name).toOption.getD .empty
  match t.mkdirAll (Path.dir name) with
  | .error _ => t
  | .ok t => (t.writeFile name (.bytes (old ++ records))).toOption.getD t

/-- Stops the program's services after a command: the profiler, whose failure is reported as a
warning, and the log file. -/
def teardown : StateM Proc Unit := do
  let s ← get
  if s.started then
    let s ← match s.profiler with
      | none => pure s
      | some prof =>
        let (w, prof, err) := ProfileWorld.stop ⟨s.tree, s.cpuBusy, s.tracing⟩ prof
        let s := { s with tree := w.tree, cpuBusy := w.cpuBusy, tracing := w.tracing, profiler := some prof }
        pure (match err with
          | some e => { s with written := { s.written with
              screen := s.written.screen ++ ("warning: " ++ e ++ "\n").toUTF8 } }
          | none => s)
    let s := match s.written.file with
      | some f => match f.content with
        | some records => { s with tree := flushLog s.tree f.name records }
        | none => s
      | none => s
    set s

end NovelScript.Cli

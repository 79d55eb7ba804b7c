import NovelScript.Config.Load
import NovelScript.Log.Logger
import NovelScript.Observe.Profiler
/-!
# A run of the program

A run starts from a command line, an environment, the bytes on standard input and the files
it can see, the working directory among them. It ends with an exit status, what it wrote to
standard output and standard error, and its files as it left them.

While it runs, the program writes to its two outputs in order; log records go to standard
error as they are made, between the other text written there, and to the log file when one is
named. A command stops early with a problem to report, or with the note that the diagnostics
it already showed held errors.
-/

namespace NovelScript.Cli

/-- What a run of the program starts from. -/
structure Invocation where
  args : List String
  env : Config.Environment
  stdin : ByteArray := .empty
  tree : FileTree

/-- What a run of the program leaves. -/
structure Outcome where
  exit : Nat
  stdout : ByteArray
  stderr : ByteArray
  tree : FileTree

/-- Why a command stopped early. -/
inductive Stop where
  /-- A problem, reported after `error: `. -/
  | problem (message : String)
  /-- Diagnostics with errors, already shown. -/
  | diagnosed

/-- The state of a running program: its files, what it wrote (standard error is the screen of
its log), whether its services were set up, and its profiler. -/
structure Proc where
  tree : FileTree
  stdout : ByteArray := .empty
  written : Log.Written := {}
  started : Bool := false
  profiler : Option Profiler := none
  cpuBusy : Bool := false
  tracing : Bool := false

/-- A step of a run. -/
abbrev ProcM := ExceptT Stop (StateM Proc)

namespace ProcM

/-- Writes bytes to standard output. -/
def say (b : ByteArray) : ProcM Unit := modify fun s => { s with stdout := s.stdout ++ b }

/-- Writes bytes to standard error. -/
def shout (b : ByteArray) : ProcM Unit :=
  modify fun s => { s with written := { s.written with screen := s.written.screen ++ b } }

/-- Stops with a problem. -/
def fail {α : Type} (message : String) : ProcM α := throw (.problem message)

/-- The value of a step that may fail with a problem. -/
def lift {α : Type} (r : Except String α) : ProcM α :=
  match r with
  | .ok a => pure a
  | .error e => fail e

/-- The moment log records carry. Its clock is fixed; answers write clock times in a fixed
form anyway. -/
def logMoment : Log.Moment := ⟨2024, 1, 2, 3, 4, 5, 6000000, 0⟩

/-- Hands entries to a logger in order. -/
def log (lg : Log.Logger) (es : List Log.Entry) : ProcM Unit :=
  modify fun s =>
    { s with written := es.foldl (fun w e =>
        (lg.handle w (Log.Record.make logMoment e.level e.message.toUTF8 e.attrs true)).1) s.written }

/-- The files of the run. -/
def tree : ProcM FileTree := do return (← get).tree

/-- Replaces the files of the run. -/
def setTree (t : FileTree) : ProcM Unit := modify fun s => { s with tree := t }

end ProcM

end NovelScript.Cli

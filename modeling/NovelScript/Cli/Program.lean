import NovelScript.Cli.Scripts
import NovelScript.Cli.Command
/-!
# The program

A run finds the command its line names and reads the command's flags. A line that asks for
help (`-h`, `--help`, or a command that does nothing of its own) prints the command's help; the
program's `--version` prints its version. Otherwise the command's arguments are checked, the
program is set up, the command runs, and the program's services are stopped.

A problem ends the run with status 1 and `error: ` and the problem on standard error;
diagnostics with errors end it with status 1 and nothing more.
-/

namespace NovelScript.Cli

/-- The program's version. -/
def programVersion : String := "0.1.0-dev"

/-- What `version` says after the program's name and version. -/
def tagline : String := "every route starts at *start"

/-- Runs `version`: the version, and with `--hash`, `--message`, `--date` or `--full` the
build's commit, message and date, none of which this build records. -/
def runVersion (p : Parsed) : ProcM Unit := do
  let given := p.text "format" "pretty"
  let full := p.bool "full"
  let hash := p.bool "hash" || full
  let message := p.bool "message" || full
  let date := p.bool "date" || full
  match Bytes.asciiLower given with
  | "pretty" =>
    ProcM.say (programName ++ " " ++ programVersion ++ ": " ++ tagline ++ "\n" ++
      (if hash then "commit:  unknown\n" else "") ++ (if message then "message: unknown\n" else "") ++
      (if date then "built:   unknown\n" else "")).toUTF8
  | "json" =>
    ProcM.say (Json.obj ([("tool", .str programName), ("version", .str programVersion),
      ("tagline", .str tagline)] ++ (if hash then [("git_commit", .str "unknown")] else []) ++
      (if message then [("git_message", .str "unknown")] else []) ++
      (if date then [("build_date", .str "unknown")] else [])) |>.renderDocument.toUTF8)
  | _ => ProcM.fail ("unsupported format " ++ Quoted.quoteText given ++ " (must be pretty or json)")

/-- A list of words as Go prints it with `%#q`: each in backquotes when it can be, otherwise
double-quoted, between brackets. -/
def quotedWords (ws : List String) : String :=
  let one (w : String) : String :=
    if w.toList.all (fun c => c != '`' && c.toNat ≥ 0x20 && c.toNat != 0x7F && c != '﻿') then
      "`" ++ w ++ "`"
    else Quoted.quoteText w
  "[" ++ " ".intercalate (ws.map one) ++ "]"

/-- Runs `help`: the help of the command the words name, or the program's usage after a note
that they name none. -/
def runHelp (words : List String) : ProcM Unit := do
  match findCommand words with
  | .ok (c, _) => ProcM.say (helpText c).toUTF8
  | .error _ =>
    ProcM.shout ("Unknown help topic " ++ quotedWords words ++ "\n").toUTF8
    ProcM.shout (usageWith globalFlags .root).toUTF8

/-- Checks the number of a command's arguments. -/
def checkArgs (c : Command) (args : List String) : ProcM Unit :=
  match c with
  | .tokenize =>
    if args.length != 1 then ProcM.fail s!"accepts 1 arg(s), received {args.length}" else pure ()
  | .check | .selftest =>
    if args.isEmpty then ProcM.fail s!"requires at least 1 arg(s), only received {args.length}" else pure ()
  | _ => pure ()

/-- Runs a command that was set up. -/
def runCommand (inv : Invocation) (c : Command) (a : App) (p : Parsed) : ProcM Unit :=
  match c with
  | .tokenize => runTokenize a p inv.stdin (p.args.headD "")
  | .check => runCheck a p p.args
  | .selftest => runSelfTest a p p.args
  | .version => runVersion p
  | .help => runHelp p.args
  | .root | .completion => pure ()

/-- A run up to its command's end. -/
def execute (inv : Invocation) : ProcM Unit := do
  let (c, rest) ← ProcM.lift (findCommand inv.args)
  let p ← ProcM.lift (parseFlags c.allFlags rest)
  if p.bool "help" || !c.runnable && !(c == .root && p.bool "version") then
    ProcM.say (helpText c).toUTF8
  else if c == .root then
    ProcM.say (programName ++ " version " ++ programVersion ++ "\n").toUTF8
  else
    checkArgs c p.args
    let a ← setup inv.env p
    runCommand inv c a p

/-- Runs the program. -/
def run (inv : Invocation) : Outcome :=
  let (r, s) := (execute inv).run.run { tree := inv.tree }
  let s := (teardown.run s).2
  let (exit, last) : Nat × String := match r with
    | .ok () => (0, "")
    | .error .diagnosed => (1, "")
    | .error (.problem m) => (1, "error: " ++ m ++ "\n")
  ⟨exit, s.stdout, s.written.screen ++ last.toUTF8, s.tree⟩

end NovelScript.Cli

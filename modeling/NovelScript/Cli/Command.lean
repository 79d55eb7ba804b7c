import NovelScript.Cli.Flags
import NovelScript.Text.Pad
/-!
# The commands of the compiler

The compiler's command line names a command after the program: `tokenize`, `check`,
`selftest`, `version`, `help` or `completion`. Flags the program itself takes (the global
flags) may come before or after the command's name; a command's own flags come after it.

Finding the command looks only at the words of the line that are not flags: the first such
word names the command when it is one, and a word that names none is an unknown command. A
flag the finder does not know, and a flag that takes a value, are taken to swallow the word
after them.

Every command has a help text: its description, how it is used, its subcommands, its own
flags and the global flags, each list of flags sorted by name and aligned in two columns.
-/

namespace NovelScript.Cli

/-- A command. -/
inductive Command where
  | root | tokenize | check | selftest | version | help | completion
  deriving DecidableEq, Repr

/-- The subcommands of the completion command, which name shells. -/
def shells : List String := ["bash", "fish", "powershell", "zsh"]

/-- The name of the program. -/
def programName : String := "novelc"

/-- The flags every command takes. -/
def globalFlags : List Flag :=
  [{ name := "config", kind := .text,
     usage := "config file (default: novel.toml or novel.yaml found upward from the working directory)" },
   { name := "color", kind := .text, usage := "colorize output (auto|on|off)" },
   { name := "timings", kind := .bool, default := "false", usage := "show timing information" },
   { name := "max-diagnostics", kind := .int, default := "100",
     usage := "maximum number of diagnostics kept per file" },
   { name := "max-errors", kind := .int, default := "0",
     usage := "stop reporting after this many errors (0 = no limit)" },
   { name := "warnings-as-errors", kind := .bool, default := "false", usage := "treat warnings as errors" },
   { name := "no-warnings", kind := .bool, default := "false", usage := "suppress warnings" },
   { name := "encoding", kind := .text, usage := "source encoding (utf-8|shift-jis|euc-jp|utf-16)" },
   { name := "log-level", kind := .text, usage := "log level (debug|info|warn|error)" },
   { name := "log-file", kind := .text, usage := "also write JSON logs to this rotating file" },
   { name := "cpu-profile", kind := .text, usage := "write a CPU profile to this file" },
   { name := "mem-profile", kind := .text, usage := "write a heap profile to this file on exit" },
   { name := "runtime-trace", kind := .text, usage := "write a runtime trace to this file" }]

/-- The parallelism and progress flags of the commands that work through many scripts. -/
def workerFlags : List Flag :=
  [{ name := "jobs", kind := .int, default := "0", usage := "max parallel workers (0=auto)" },
   { name := "ui", kind := .text, default := "auto", usage := "progress view (auto|on|off)" }]

namespace Command

/-- The subcommands of the program, in the order they were added. -/
def subcommands : List Command := [.tokenize, .check, .selftest, .version, .help, .completion]

/-- A command's name. -/
def name : Command → String
  | .root => programName
  | .tokenize => "tokenize"
  | .check => "check"
  | .selftest => "selftest"
  | .version => "version"
  | .help => "help"
  | .completion => "completion"

/-- How a command is used, after the program's name. -/
def use : Command → String
  | .root => programName
  | .tokenize => "tokenize [flags] <file.nvl|->"
  | .check => "check [flags] <file.nvl|directory>..."
  | .selftest => "selftest [flags] <file.nvl|directory>..."
  | .version => "version"
  | .help => "help [command]"
  | .completion => "completion"

/-- A command's line in a list of commands. -/
def short : Command → String
  | .root => "Narrative script front end"
  | .tokenize => "Tokenize a script file"
  | .check => "Tokenize scripts and report diagnostics"
  | .selftest => "Run the //:: expectations embedded in scripts"
  | .version => "Show novelc build information"
  | .help => "Help about any command"
  | .completion => "Generate the autocompletion script for the specified shell"

/-- A command's description; empty when its short line says it all. -/
def long : Command → String
  | .root => "novelc tokenizes and checks visual-novel scripts and runs their //:: self-tests"
  | .tokenize => "Tokenize breaks a script into tokens and prints them. Use - to read from stdin."
  | .check => "Check tokenizes every given script (directories are searched for *.nvl) in parallel " ++
      "and reports lexical and structural problems"
  | .selftest => "Selftest lexes scripts with test directives enabled and checks every\n" ++
      "//:: expectation against the token that follows it"
  | .version => ""
  | .help => "Help provides help for any command in the application.\n" ++
      "Simply type novelc help [path to command] for full details."
  | .completion => "Generate the autocompletion script for novelc for the specified shell.\n" ++
      "See each sub-command's help for details on how to use the generated script."

/-- Whether a command does something of its own; the others show their help. -/
def runnable : Command → Bool
  | .root | .completion => false
  | _ => true

/-- The names and lines of a command's subcommands. -/
def children : Command → List (String × String)
  | .root => subcommands.map fun c => (c.name, c.short)
  | .completion => shells.map fun s => (s, "Generate the autocompletion script for " ++ s)
  | _ => []

/-- The flag that asks for a command's help. -/
def helpFlag (c : Command) : Flag :=
  { name := "help", shorthand := some 'h', kind := .bool, default := "false",
    usage := "help for " ++ c.name }

/-- The flag that asks for the program's version. -/
def versionFlag : Flag :=
  { name := "version", shorthand := some 'v', kind := .bool, default := "false",
    usage := "version for " ++ programName }

/-- The flags a command defines itself, its help flag aside. -/
def ownFlags : Command → List Flag
  | .root => globalFlags
  | .tokenize =>
    [{ name := "format", kind := .text, default := "pretty", usage := "output format (pretty|json|msgpack)" },
     { name := "directives", kind := .text, usage := "//:: comment handling (ignore|emit|tests|keep-last)" },
     { name := "cache", kind := .bool, default := "false",
       usage := "reuse token dumps of unchanged clean files from the user cache" }]
  | .check =>
    [{ name := "format", kind := .text, default := "pretty", usage := "output format (pretty|json|short)" }] ++
    workerFlags ++
    [{ name := "cache", kind := .bool, default := "false", usage := "skip unchanged clean files using the user cache" }]
  | .selftest =>
    workerFlags ++
    [{ name := "verbose", shorthand := some 'v', kind := .bool, default := "false",
       usage := "list passing checks too" },
     { name := "kind", kind := .list, default := "[]",
       usage := "only report checks of these kinds (comma separated)" }]
  | .version =>
    [{ name := "hash", kind := .bool, default := "false", usage := "include git commit hash" },
     { name := "message", kind := .bool, default := "false", usage := "include git commit message" },
     { name := "date", kind := .bool, default := "false", usage := "include build timestamp" },
     { name := "full", kind := .bool, default := "false", usage := "show every recorded bit of build metadata" },
     { name := "format", kind := .text, default := "pretty", usage := "output format (pretty|json)" }]
  | .help | .completion => []

/-- The flags a command shows as its own: its own, its help flag, and for the program its
version flag. -/
def localFlags (c : Command) : List Flag :=
  c.ownFlags ++ [c.helpFlag] ++ (if c == .root then [versionFlag] else [])

/-- The flags a command takes from the program. -/
def inheritedFlags (c : Command) : List Flag := if c == .root then [] else globalFlags

/-- Every flag a command reads. -/
def allFlags (c : Command) : List Flag := c.localFlags ++ c.inheritedFlags

/-- The flags the finder knows while it looks for a command below `c`: its own and those it
takes, but not yet the help and version flags. -/
def findFlags (c : Command) : List Flag := c.ownFlags ++ c.inheritedFlags

/-- The command's path from the program. -/
def path (c : Command) : String := if c == .root then programName else programName ++ " " ++ c.name

/-- The subcommand of a name. -/
def child? (c : Command) (word : String) : Option Command :=
  if c == .root then subcommands.find? (·.name == word) else none

end Command

/-- Whether a flag of `flags` named by the text after `--` takes no value. -/
def takesNoValue (flags : List Flag) (name : String) : Bool :=
  match findLong flags name with
  | some f => f.kind == .bool
  | none => false

/-- Whether a shorthand of `flags` takes no value. -/
def shortTakesNoValue (flags : List Flag) (name : String) : Bool :=
  match name.toList with
  | [c] => match findShort flags c with
    | some f => f.kind == .bool
    | none => false
  | _ => false

/-- Whether a word is a flag that swallows the word after it: a long or two-character flag
written without `=` that takes a value or is not known. -/
def swallows (flags : List Flag) (s : String) : Bool :=
  (s.startsWith "--" && !s.contains '=' && !takesNoValue flags (s.drop 2).toString) ||
  (s.startsWith "-" && !s.contains '=' && s.length == 2 && !shortTakesNoValue flags (s.drop 1).toString)

/-- The words of a line that are not flags or flag values. -/
def nonFlags (flags : List Flag) : List String → List String
  | [] => []
  | s :: rest =>
    if s == "--" then []
    else if swallows flags s then
      match rest with
      | [] | [_] => []
      | _ :: more => nonFlags flags more
    else if s != "" && !s.startsWith "-" then s :: nonFlags flags rest
    else nonFlags flags rest

/-- The line without the first word `x` that is not a flag or a flag value. -/
def withoutWord (flags : List Flag) (x : String) : List String → List String
  | [] => []
  | s :: rest =>
    if s == "--" then s :: rest
    else if swallows flags s then
      match rest with
      | v :: more => s :: v :: withoutWord flags x more
      | [] => [s]
    else if !s.startsWith "-" && s == x then rest
    else s :: withoutWord flags x rest

/-- The edit distance of two words, ignoring case. -/
def editDistance (a b : String) : Nat :=
  let s := a.toLower.toList
  let t := b.toLower.toList
  let first := List.range (t.length + 1)
  let last := s.zipIdx.foldl (fun (prev : List Nat) (c, i) =>
    let row := t.zipIdx.foldl (fun (row : List Nat) (d, j) =>
      let above := prev.getD (j + 1) 0
      let diag := prev.getD j 0
      let left := row.getD j 0
      row ++ [min (min (above + 1) (left + 1)) (diag + if c == d then 0 else 1)]) [i + 1]
    row) first
  last.getD t.length 0

/-- The suggestions for a word that names no command: commands within two edits of it, or
that it starts. -/
def suggestions (word : String) : String :=
  let near := (Command.subcommands.filter (· != .help)).filter fun c =>
    editDistance word c.name ≤ 2 || c.name.toLower.startsWith word.toLower
  if near.isEmpty then ""
  else "\n\nDid you mean this?\n" ++ String.join (near.map fun c => "\t" ++ c.name ++ "\n")

/-- The command a line names and the rest of the line, or why the line names none. -/
def findCommand (args : List String) : Except String (Command × List String) :=
  match nonFlags (Command.findFlags .root) args with
  | [] => .ok (.root, args)
  | word :: _ =>
    match Command.child? .root word with
    | some c => .ok (c, withoutWord (Command.findFlags .root) word args)
    | none =>
      .error ("unknown command " ++ Quoted.quoteText word ++ " for " ++ Quoted.quoteText programName ++
        suggestions word)

/-- The name column of a flag, as help shows it. -/
def flagColumn (f : Flag) : String :=
  let head := match f.shorthand with
    | some c => "  -" ++ c.toString ++ ", --" ++ f.name
    | none => "      --" ++ f.name
  let kind := match f.kind with
    | .bool => ""
    | .int => " int"
    | .text => " string"
    | .list => " strings"
  head ++ kind

/-- The usage column of a flag: its usage and its default unless that is the zero value. -/
def usageColumn (f : Flag) : String :=
  match f.kind with
  | .text => if f.default.isEmpty then f.usage else f.usage ++ " (default " ++ Quoted.quoteText f.default ++ ")"
  | .int => if f.default == "0" then f.usage else f.usage ++ " (default " ++ f.default ++ ")"
  | _ => f.usage

/-- The lines of a list of flags, sorted by name and aligned in two columns. -/
def flagUsages (flags : List Flag) : String :=
  let sorted := flags.mergeSort fun a b => decide (a.name ≤ b.name)
  let width := (sorted.map fun f => (flagColumn f).length).foldl max 0
  String.join (sorted.map fun f =>
    let col := flagColumn f
    col ++ String.ofList (List.replicate (width - col.length + 3) ' ') ++ usageColumn f ++ "\n")

/-- A text without blanks and line breaks at its end. -/
def trimTrailing (s : String) : String :=
  String.ofList (s.toList.reverse.dropWhile (fun c => c == ' ' || c == '\n' || c == '\t')).reverse

/-- How a command is used, its own flags listed as given. -/
def usageWith (flags : List Flag) (c : Command) : String :=
  let useLine :=
    let line := if c == .root then c.use else programName ++ " " ++ c.use
    if (line.splitOn "[flags]").length > 1 then line else line ++ " [flags]"
  let kids := c.children
  let pad := max 11 ((kids.map (·.1.length)).foldl max 0)
  "Usage:" ++
  (if c.runnable then "\n  " ++ useLine else "") ++
  (if kids.isEmpty then "" else "\n  " ++ c.path ++ " [command]") ++
  (if kids.isEmpty then "" else
    "\n\nAvailable Commands:" ++ String.join ((kids.mergeSort fun a b => decide (a.1 ≤ b.1)).map
      fun (n, s) => "\n  " ++ Pad.right n pad ++ " " ++ s)) ++
  "\n\nFlags:\n" ++ trimTrailing (flagUsages flags) ++
  (if c.inheritedFlags.isEmpty then "" else "\n\nGlobal Flags:\n" ++ trimTrailing (flagUsages c.inheritedFlags)) ++
  (if kids.isEmpty then "" else
    "\n\nUse \"" ++ c.path ++ " [command] --help\" for more information about a command.") ++
  "\n"

/-- How a command is used. -/
def usageText (c : Command) : String := usageWith c.localFlags c

/-- A command's help: its description, then how it is used. -/
def helpText (c : Command) : String :=
  let about := if c.long.isEmpty then c.short else c.long
  trimTrailing about ++ "\n\n" ++ usageText c

end NovelScript.Cli

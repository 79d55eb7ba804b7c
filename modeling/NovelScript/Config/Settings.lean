import NovelScript.Lexer.Trivia
import NovelScript.Source.Encoding
import NovelScript.Diag.PathMode
import NovelScript.Diag.Engine
/-!
# Compiler settings

The settings a compiler run takes from its configuration file and environment, in four
sections: how diagnostics are counted and escalated, how the lexer treats test directives and
which encoding sources use, how the run logs, and how diagnostics are printed. Enumerated
settings are kept as the text that was given and checked as a whole, so that one check can
report every bad setting at once, each on a line of its own and all of them after the path of
the file they came from.
-/

namespace NovelScript.Config

/-- How diagnostics are counted and escalated. -/
structure Diagnostics where
  warningsAsErrors : Bool := false
  noWarnings : Bool := false
  noNotes : Bool := false
  maxErrors : Int := 0
  errorsFatal : Bool := false

/-- How the lexer treats test directives, and the encoding of sources. -/
structure LexerSettings where
  commentTests : String := "ignore"
  encoding : String := "utf-8"

/-- How a run logs. -/
structure LogSettings where
  level : String := "warn"
  format : String := "console"
  source : Bool := false
  file : String := ""

/-- How diagnostics are printed. -/
structure OutputSettings where
  color : String := "auto"
  pathMode : String := "auto"
  context : Bool := true

/-- The merged settings and the file they were read from, empty when none was. -/
structure Settings where
  diagnostics : Diagnostics := {}
  lexer : LexerSettings := {}
  log : LogSettings := {}
  output : OutputSettings := {}
  path : String := ""

namespace Settings

/-- The problems of the enumerated settings, in section order. -/
def problems (c : Settings) : List String :=
  (if c.diagnostics.maxErrors < 0 then
    ["diagnostics.max_errors must be >= 0, got " ++ toString c.diagnostics.maxErrors] else []) ++
  (match DirectiveMode.parse c.lexer.commentTests with
    | .error e => ["lexer.comment_tests: " ++ e]
    | .ok _ => []) ++
  (match Encoding.parse c.lexer.encoding with
    | .error e => ["lexer.encoding: " ++ e]
    | .ok _ => []) ++
  (match PathMode.parse? c.output.pathMode with
    | none => ["output.path_mode: unknown mode " ++ Quoted.quoteText c.output.pathMode]
    | some _ => []) ++
  (match Bytes.asciiLower c.output.color with
    | "" | "auto" | "on" | "off" => []
    | _ => ["output.color: expected auto|on|off, got " ++ Quoted.quoteText c.output.color])

/-- Checks the enumerated settings: every problem on a line of its own, after the path of the
file the settings came from when there is one. -/
def validate (c : Settings) : Except String Unit :=
  match c.problems with
  | [] => .ok ()
  | ps =>
    let text := "\n".intercalate ps
    .error (if c.path.isEmpty then text else c.path ++ ": " ++ text)

/-- The diagnostics policy. -/
def policy (c : Settings) : Policy :=
  { warningsAsErrors := c.diagnostics.warningsAsErrors, suppressWarnings := c.diagnostics.noWarnings,
    suppressNotes := c.diagnostics.noNotes, maxErrors := c.diagnostics.maxErrors,
    errorsFatal := c.diagnostics.errorsFatal }

/-- The directive mode; the default for a setting that does not name one. -/
def mode (c : Settings) : DirectiveMode := (DirectiveMode.parse c.lexer.commentTests).toOption.getD .ignore

/-- The source encoding; the default for a setting that does not name one. -/
def encoding (c : Settings) : Encoding := (Encoding.parse c.lexer.encoding).toOption.getD .utf8

/-- The path mode of printed diagnostics; the default for a setting that does not name one. -/
def pathMode (c : Settings) : PathMode := (PathMode.parse? c.output.pathMode).getD .auto

end Settings

end NovelScript.Config

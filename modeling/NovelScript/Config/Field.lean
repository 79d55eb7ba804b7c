import NovelScript.Config.Settings
/-!
# The settings a file or the environment can name

Every setting lives in one of four sections and has one of three kinds: a flag, a count or a
text. A section and a setting each have the key a file writes (`diagnostics`, `max_errors`),
the name the environment uses (`DIAG_`, `MAX_ERRORS`), and the name a decoder reports when a
value does not fit (`config.DiagnosticsConfig`, `MaxErrors`).

Setting a value of the wrong kind leaves the settings as they are, so `Settings.set` is total
and decoders only need to check kinds where they report them.
-/

namespace NovelScript.Config

/-- A section of the settings. -/
inductive Section where
  | diagnostics | lexer | log | output
  deriving DecidableEq, Repr

/-- What a setting holds. -/
inductive Kind where
  | flag | count | text
  deriving DecidableEq, Repr

/-- A value for a setting. -/
inductive Value where
  | flag (b : Bool)
  | count (n : Int)
  | text (s : String)
  deriving DecidableEq, Repr

/-- A setting. -/
inductive Field where
  | warningsAsErrors | noWarnings | noNotes | maxErrors | errorsFatal
  | commentTests | encoding
  | level | format | source | file
  | color | pathMode | context
  deriving DecidableEq, Repr

/-- The name of a kind as decoders report it. -/
def Kind.typeName : Kind → String
  | .flag => "bool"
  | .count => "int"
  | .text => "string"

namespace Section

/-- Every section, in the order they are decoded. -/
def all : List Section := [.diagnostics, .lexer, .log, .output]

/-- The key a file writes for the section. -/
def key : Section → String
  | .diagnostics => "diagnostics"
  | .lexer => "lexer"
  | .log => "log"
  | .output => "output"

/-- The name of the section's type, as decoders report it. -/
def typeName : Section → String
  | .diagnostics => "config.DiagnosticsConfig"
  | .lexer => "config.LexerConfig"
  | .log => "config.LogConfig"
  | .output => "config.OutputConfig"

/-- The part the section adds to the names of its environment variables. -/
def envPrefix : Section → String
  | .diagnostics => "DIAG_"
  | .lexer => "LEXER_"
  | .log => "LOG_"
  | .output => "OUTPUT_"

/-- The settings of the section, in order. -/
def fields : Section → List Field
  | .diagnostics => [.warningsAsErrors, .noWarnings, .noNotes, .maxErrors, .errorsFatal]
  | .lexer => [.commentTests, .encoding]
  | .log => [.level, .format, .source, .file]
  | .output => [.color, .pathMode, .context]

end Section

namespace Field

/-- The key a file writes for the setting. -/
def key : Field → String
  | .warningsAsErrors => "warnings_as_errors"
  | .noWarnings => "no_warnings"
  | .noNotes => "no_notes"
  | .maxErrors => "max_errors"
  | .errorsFatal => "errors_fatal"
  | .commentTests => "comment_tests"
  | .encoding => "encoding"
  | .level => "level"
  | .format => "format"
  | .source => "source"
  | .file => "file"
  | .color => "color"
  | .pathMode => "path_mode"
  | .context => "context"

/-- The name a decoder reports for the setting. -/
def title : Field → String
  | .warningsAsErrors => "WarningsAsErrors"
  | .noWarnings => "NoWarnings"
  | .noNotes => "NoNotes"
  | .maxErrors => "MaxErrors"
  | .errorsFatal => "ErrorsFatal"
  | .commentTests => "CommentTests"
  | .encoding => "Encoding"
  | .level => "Level"
  | .format => "Format"
  | .source => "Source"
  | .file => "File"
  | .color => "Color"
  | .pathMode => "PathMode"
  | .context => "Context"

/-- What the setting holds. -/
def kind : Field → Kind
  | .maxErrors => .count
  | .commentTests | .encoding | .level | .format | .file | .color | .pathMode => .text
  | .warningsAsErrors | .noWarnings | .noNotes | .errorsFatal | .source | .context => .flag

/-- The name of the environment variable for the setting, after the prefixes. -/
def envName (f : Field) : String := f.key.toUpper

end Field

/-- The settings with `f` set to `v`; unchanged when `v` is not of the setting's kind. -/
def Settings.set (c : Settings) (f : Field) (v : Value) : Settings :=
  match f, v with
  | .warningsAsErrors, .flag b => { c with diagnostics := { c.diagnostics with warningsAsErrors := b } }
  | .noWarnings, .flag b => { c with diagnostics := { c.diagnostics with noWarnings := b } }
  | .noNotes, .flag b => { c with diagnostics := { c.diagnostics with noNotes := b } }
  | .maxErrors, .count n => { c with diagnostics := { c.diagnostics with maxErrors := n } }
  | .errorsFatal, .flag b => { c with diagnostics := { c.diagnostics with errorsFatal := b } }
  | .commentTests, .text s => { c with lexer := { c.lexer with commentTests := s } }
  | .encoding, .text s => { c with lexer := { c.lexer with encoding := s } }
  | .level, .text s => { c with log := { c.log with level := s } }
  | .format, .text s => { c with log := { c.log with format := s } }
  | .source, .flag b => { c with log := { c.log with source := b } }
  | .file, .text s => { c with log := { c.log with file := s } }
  | .color, .text s => { c with output := { c.output with color := s } }
  | .pathMode, .text s => { c with output := { c.output with pathMode := s } }
  | .context, .flag b => { c with output := { c.output with context := b } }
  | _, _ => c

/-- The value of a setting. -/
def Settings.get (c : Settings) : Field → Value
  | .warningsAsErrors => .flag c.diagnostics.warningsAsErrors
  | .noWarnings => .flag c.diagnostics.noWarnings
  | .noNotes => .flag c.diagnostics.noNotes
  | .maxErrors => .count c.diagnostics.maxErrors
  | .errorsFatal => .flag c.diagnostics.errorsFatal
  | .commentTests => .text c.lexer.commentTests
  | .encoding => .text c.lexer.encoding
  | .level => .text c.log.level
  | .format => .text c.log.format
  | .source => .flag c.log.source
  | .file => .text c.log.file
  | .color => .text c.output.color
  | .pathMode => .text c.output.pathMode
  | .context => .flag c.output.context

end NovelScript.Config

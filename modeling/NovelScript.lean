import NovelScript.Batch.Cache
import NovelScript.Batch.Inputs
import NovelScript.Batch.SelfTest
import NovelScript.Batch.Tokenize
import NovelScript.Blob.Store
import NovelScript.Cli.Command
import NovelScript.Cli.Disk
import NovelScript.Cli.Flags
import NovelScript.Cli.Process
import NovelScript.Cli.Program
import NovelScript.Cli.Scripts
import NovelScript.Cli.Setup
import NovelScript.Compile.Context
import NovelScript.Compile.Tokenize
import NovelScript.Config.Env
import NovelScript.Config.Field
import NovelScript.Config.FromToml
import NovelScript.Config.FromYaml
import NovelScript.Config.Load
import NovelScript.Config.Settings
import NovelScript.Config.Toml
import NovelScript.Config.Yaml
import NovelScript.Diag.Code
import NovelScript.Diag.Engine
import NovelScript.Diag.Message
import NovelScript.Diag.PathMode
import NovelScript.Diag.Render
import NovelScript.Directive.Expect
import NovelScript.Directive.Registry
import NovelScript.Directive.Run
import NovelScript.Fs.Reader
import NovelScript.Fs.Tree
import NovelScript.Hash.Crc32
import NovelScript.Hash.Sha256
import NovelScript.Hash.XxHash64
import NovelScript.Ident.Dict
import NovelScript.Json.Parse
import NovelScript.Json.Value
import NovelScript.Lexer.Chars
import NovelScript.Lexer.Invariants
import NovelScript.Lexer.Literal
import NovelScript.Lexer.Numeral
import NovelScript.Lexer.Scan
import NovelScript.Lexer.State
import NovelScript.Lexer.Stream
import NovelScript.Lexer.Trivia
import NovelScript.Log.Handler
import NovelScript.Log.Level
import NovelScript.Log.Logger
import NovelScript.Log.Value
import NovelScript.Number.Arith
import NovelScript.Number.Binary
import NovelScript.Number.Read
import NovelScript.Number.Shortest
import NovelScript.Observe.Profiler
import NovelScript.Observe.Timer
import NovelScript.Progress.Bar
import NovelScript.Progress.Board
import NovelScript.Session.Answer
import NovelScript.Session.Cache
import NovelScript.Session.Cli
import NovelScript.Session.Config
import NovelScript.Session.ConsoleOps
import NovelScript.Session.ContextOps
import NovelScript.Session.Diagnose
import NovelScript.Session.Errors
import NovelScript.Session.Files
import NovelScript.Session.Lex
import NovelScript.Session.LexOps
import NovelScript.Session.Log
import NovelScript.Session.Misc
import NovelScript.Session.Observe
import NovelScript.Session.Probe
import NovelScript.Session.Prof
import NovelScript.Session.Progress
import NovelScript.Session.Request
import NovelScript.Session.Scratch
import NovelScript.Session.Scripts
import NovelScript.Session.Scrub
import NovelScript.Session.SelfTest
import NovelScript.Session.Sources
import NovelScript.Session.Stores
import NovelScript.Session.Tokenize
import NovelScript.Session.View
import NovelScript.Source.Cursor
import NovelScript.Source.Encoding
import NovelScript.Source.Path
import NovelScript.Source.Range
import NovelScript.Source.Reader
import NovelScript.Source.Unit
import NovelScript.Text.Ansi
import NovelScript.Text.Base64
import NovelScript.Text.Bytes
import NovelScript.Text.Hex
import NovelScript.Text.Japanese
import NovelScript.Text.JisX0208
import NovelScript.Text.JisX0212
import NovelScript.Text.Letter
import NovelScript.Text.Pad
import NovelScript.Text.Printable
import NovelScript.Text.Quoted
import NovelScript.Text.Ranges
import NovelScript.Text.Size
import NovelScript.Text.Utf16
import NovelScript.Text.Utf8
import NovelScript.Text.Width
import NovelScript.Token.Basic
import NovelScript.Token.Kind
import NovelScript.Token.Msgpack
import NovelScript.Token.Output
import NovelScript.Version
import NovelScript.Main
import NovelScript.Proofs.Diag.Policy
import NovelScript.Proofs.Lexer.Effects
import NovelScript.Proofs.Lexer.Extent
import NovelScript.Proofs.Lexer.Step
import NovelScript.Proofs.Lexer.Run
import NovelScript.Proofs.Lexer.Lookahead
import NovelScript.Proofs.Lexer.Balance
import NovelScript.Proofs.Lexer.Cover
import NovelScript.Proofs.Lexer.Core
import NovelScript.Proofs.Lexer.Modes
import NovelScript.Proofs.Context.Tables
import NovelScript.Proofs.Lexer.Directives
import NovelScript.Proofs.Directive.Runner
import NovelScript.Proofs.Directive.Checks
import NovelScript.Proofs.Cli.SelfTestStatus
import NovelScript.Proofs.Batch.Timings
import NovelScript.Proofs.Lexer.IntLiteral
import NovelScript.Proofs.Lexer.Grammar
import NovelScript.Proofs.Lexer.Menus
import NovelScript.Proofs.Lexer.Operators
import NovelScript.Proofs.Lexer.Escapes
import NovelScript.Proofs.Lexer.Runes
import NovelScript.Proofs.Lexer.Decoding
import NovelScript.Proofs.Lexer.LiteralStore
import NovelScript.Proofs.Lexer.Position
import NovelScript.Proofs.Directive.Spelling
import NovelScript.Proofs.Ident.Dictionary
import NovelScript.Proofs.Lexer.LineStart
import NovelScript.Proofs.Ident.Names
import NovelScript.Proofs.Source.Lines
import NovelScript.Proofs.Ident.Calls
import NovelScript.Proofs.FirstSeen
import NovelScript.Proofs.Blob.Interning
import NovelScript.Proofs.Batch.Verdict
import NovelScript.Proofs.Lexer.Restart
import NovelScript.Proofs.Lexer.Capacity
import NovelScript.Proofs.Source.Normalize
import NovelScript.Proofs.Progress.Counts
import NovelScript.Proofs.Directive.Registry
import NovelScript.Proofs.Diag.Golden
import NovelScript.Proofs.Lexer.Messages

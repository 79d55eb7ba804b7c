import NovelScript.Diag.Engine
import NovelScript.Diag.PathMode
import NovelScript.Source.Unit
import NovelScript.Json.Value
import NovelScript.Text.Width
import NovelScript.Text.Ansi
import NovelScript.Text.Pad
import NovelScript.Text.Bytes
/-!
# Showing diagnostics

Three renderings of a list of diagnostics, each resolving a diagnostic's unit index to the
loaded unit when there is one:

* the golden form, one line `<severity> <CODE> <path>:<line>:<col> <message>` per
  diagnostic, sorted by path, line, column, severity label, code id and message, with paths
  relative to a base directory and `-:0:0` when the unit is not resolved;
* the console form, `<path>:<line>:<col>: <severity> <CODE>: <message>` and optionally the
  source line with a caret underline as wide on screen as the range;
* the JSON document `{diagnostics, count}`.
-/

namespace NovelScript

/-- Finds a loaded unit by its index. -/
abbrev Resolver := Nat → Option SourceUnit

namespace Resolver

/-- The resolver that finds nothing. -/
def none : Resolver := fun _ => Option.none

/-- The resolver of a list of units. -/
def ofUnits (us : List SourceUnit) : Resolver := fun i => us.find? (·.id == i)

/-- The unit of a range, when the range names one that is loaded. -/
def unitOf (res : Resolver) (r : Range) : Option SourceUnit :=
  if r.valid then res r.unit else Option.none

end Resolver

/-- A unit's path in display mode `m`. -/
def SourceUnit.displayPath (u : SourceUnit) (cwd : String) (m : PathMode) (base : String) :
    String :=
  u.formatPath cwd m.name base

namespace Golden

/-- One diagnostic as the golden form sorts and prints it. -/
structure Line where
  severity : String
  code : String
  path : String
  line : Nat
  col : Nat
  message : ByteArray

/-- A message on one line: line breaks become spaces, and surrounding white space goes. -/
def flatten (msg : ByteArray) : ByteArray :=
  let rec fold : List UInt8 → List UInt8
    | 0x0D :: 0x0A :: rest => 0x20 :: fold rest
    | 0x0D :: rest => 0x20 :: fold rest
    | 0x0A :: rest => 0x20 :: fold rest
    | b :: rest => b :: fold rest
    | [] => []
  Bytes.trimSpace (ByteArray.mk (fold msg.toList).toArray)

/-- The golden line of a diagnostic; paths are relative to `base` against `cwd`. -/
def ofDiagnostic (res : Resolver) (cwd base : String) (d : Diagnostic) : Line :=
  let g : Line := ⟨d.severity.label, d.code.id, "-", 0, 0, flatten d.message⟩
  match res.unitOf d.range with
  | some u =>
    let p := u.position d.range.off
    { g with path := Path.relative cwd u.path base, line := p.line, col := p.col }
  | Option.none => g

/-- Byte-wise order of byte strings. -/
def bytesLt (a b : ByteArray) : Bool :=
  let rec go : List UInt8 → List UInt8 → Bool
    | [], [] => false
    | [], _ :: _ => true
    | _ :: _, [] => false
    | x :: xs, y :: ys => if x == y then go xs ys else x < y
  go a.toList b.toList

/-- The golden order: path, line, column, severity label, code id, message. -/
def Line.before (a b : Line) : Bool :=
  if a.path != b.path then a.path < b.path
  else if a.line != b.line then a.line < b.line
  else if a.col != b.col then a.col < b.col
  else if a.severity != b.severity then a.severity < b.severity
  else if a.code != b.code then a.code < b.code
  else bytesLt a.message b.message

/-- The printed golden line. -/
def Line.render (g : Line) : ByteArray :=
  s!"{g.severity} {g.code} {g.path}:{g.line}:{g.col} ".toUTF8 ++ g.message

/-- The golden form of diagnostics: sorted lines joined by newlines, no final newline. -/
def format (ds : List Diagnostic) (res : Resolver) (cwd base : String) : ByteArray :=
  let lines := (ds.map (ofDiagnostic res cwd base)).mergeSort fun x y => !y.before x
  match lines.map Line.render with
  | [] => .empty
  | l :: ls => ls.foldl (fun acc x => acc ++ "\n".toUTF8 ++ x) l

end Golden

/-- How the console shows diagnostics. -/
structure ConsoleStyle where
  color : Bool := false
  pathMode : PathMode := .auto
  baseDir : String := ""
  /-- Show the source line with a caret underline. -/
  context : Bool := false
  cwd : String := "/"

namespace Console

/-- The color of a severity label; an unnamed severity looks like an error. -/
def severityColor : Severity → List Nat
  | .note => [Ansi.cyan, Ansi.bold]
  | .warning => [Ansi.yellow, Ansi.bold]
  | .fatal => [Ansi.brightRed, Ansi.bold]
  | _ => [Ansi.red, Ansi.bold]

/-- Blanks as wide on screen as `prefix`, keeping its tabs. -/
def caretPadding (pre : ByteArray) : String :=
  String.join ((Utf8.runes pre).map fun r => if r == 9 then "\t" else Pad.spaces (Width.rune r))

/-- The source line of a range and its caret line. -/
def context (o : ConsoleStyle) (u : SourceUnit) (r : Range) : ByteArray :=
  let pos := u.position r.off
  let line := u.line pos.line
  let gutter := Pad.left (toString pos.line) 4 ++ " | "
  let col := min (pos.col - 1) line.size
  let stop := min (col + r.len) line.size
  let width := max 1 (Width.ofRunes (Utf8.runes (line.extract col stop)))
  let underline := "^" ++ String.ofList (List.replicate (width - 1) '~')
  gutter.toUTF8 ++ line ++ "\n".toUTF8 ++
    (Pad.spaces (gutter.length - 2) ++ "| " ++ caretPadding (line.extract 0 col) ++
      Ansi.paintIf o.color [Ansi.green, Ansi.bold] underline ++ "\n").toUTF8

/-- The console text of one diagnostic. -/
def report (o : ConsoleStyle) (res : Resolver) (d : Diagnostic) : ByteArray :=
  let unit := res.unitOf d.range
  let head := match unit with
    | some u =>
      let p := u.position d.range.off
      Ansi.paintIf o.color [Ansi.bold]
        s!"{u.displayPath o.cwd o.pathMode o.baseDir}:{p.line}:{p.col}:" ++ " "
    | Option.none => ""
  let first := (head ++ Ansi.paintIf o.color (severityColor d.severity) d.severity.label ++ " " ++
    d.code.id ++ ": ").toUTF8 ++ d.message ++ "\n".toUTF8
  match unit with
  | some u => if o.context then first ++ context o u d.range else first
  | Option.none => first

/-- The console text of diagnostics in order. -/
def reports (o : ConsoleStyle) (res : Resolver) (ds : List Diagnostic) : ByteArray :=
  ds.foldl (fun acc d => acc ++ report o res d) .empty

end Console

/-- How the JSON document shows diagnostics. -/
structure JsonStyle where
  positions : Bool := true
  pathMode : PathMode := .auto
  baseDir : String := ""
  /-- Show at most this many; 0 shows all. -/
  max : Int := 0
  args : Bool := true
  cwd : String := "/"

namespace DiagnosticsJson

/-- The location of a range. -/
def location (o : JsonStyle) (res : Resolver) (r : Range) : Json :=
  let bytes := [("start_byte", Json.nat r.off), ("end_byte", Json.nat r.endOff)]
  match res.unitOf r with
  | Option.none => .obj ([("file", .str "-")] ++ bytes)
  | some u =>
    let file := ("file", Json.str (u.displayPath o.cwd o.pathMode o.baseDir))
    if o.positions then
      let s := u.position r.off
      let e := u.position r.endOff
      .obj ([file] ++ bytes ++ [("start_line", .nat s.line), ("start_col", .nat s.col),
        ("end_line", .nat e.line), ("end_col", .nat e.col)])
    else .obj ([file] ++ bytes)

/-- One diagnostic. -/
def entry (o : JsonStyle) (res : Resolver) (d : Diagnostic) : Json :=
  let args := if o.args then d.args.toList.map fun a => Json.str (Utf8.lossy a.render) else []
  .obj ([("severity", .str d.severity.label), ("code", .str d.code.id),
    ("category", .str d.category.name), ("message", .str (Utf8.lossy d.message)),
    ("location", location o res d.range)] ++
    (if args.isEmpty then [] else [("args", .arr args)]))

/-- The document of diagnostics, cut to the maximum. -/
def build (o : JsonStyle) (res : Resolver) (ds : List Diagnostic) : Json :=
  let shown := if o.max > 0 then ds.take o.max.toNat else ds
  .obj [("diagnostics", .arr (shown.map (entry o res))), ("count", .nat shown.length)]

end DiagnosticsJson

end NovelScript

import NovelScript.Log.Handler
import NovelScript.Text.Bytes
/-!
# Loggers

A logger sends each record to every handler that passes its level. The screen handler writes
to the screen; with a log file named, a JSON handler writes the same records to the file too.
Adding attributes or a group to a logger adds them to each of its handlers.

The log file is opened at the first record written to it, so a file that no record reached
does not exist. A name holding a NUL byte cannot be opened: every record written to it fails,
and the failure is reported while the screen still gets its line.

The discarding logger passes only levels above error and writes nowhere.
-/

namespace NovelScript.Log

/-- Where a handler's lines go. -/
inductive Target where
  | screen
  | file
  | nowhere
  deriving DecidableEq

/-- How a logger is made: level and format names, whether records name the place of their
call, whether level names may be painted and whether painting reaches a terminal, and the log
file's name (blank for none). -/
structure Options where
  level : String := ""
  format : String := ""
  source : Bool := false
  color : Bool := false
  terminal : Bool := false
  file : String := ""

/-- A log file: its name and its content, `none` until it is first written. -/
structure LogFile where
  name : String
  content : Option ByteArray := none

namespace LogFile

/-- Whether the file's name can be opened at all. -/
def openable (f : LogFile) : Bool := !f.name.toList.contains '\x00'

/-- The file after a line is written to it, or why the write failed. -/
def write (f : LogFile) (line : ByteArray) : Except String LogFile :=
  if f.openable then .ok { f with content := some ((f.content.getD .empty) ++ line) }
  else .error ("error getting log file info: stat " ++ f.name ++ ": invalid argument")

/-- The file's content as read back afterwards, or why it cannot be read. -/
def read (f : LogFile) : Except String ByteArray :=
  if !f.openable then .error ("open " ++ f.name ++ ": invalid argument")
  else match f.content with
    | some c => .ok c
    | none => .error ("open " ++ f.name ++ ": no such file or directory")

end LogFile

/-- A logger: its handlers, each with the place its lines go. -/
structure Logger where
  handlers : List (Handler × Target)

/-- What the loggers of one program have written: the screen's text and the log file. -/
structure Written where
  screen : ByteArray := .empty
  file : Option LogFile := none

namespace Logger

/-- The logger that passes only levels above error and writes nowhere. -/
def discard : Logger := ⟨[(.json ⟨Level.error + 1, false, "", [], 0⟩, .nowhere)]⟩

/-- The logger that `opts` describe and the log file it writes, or the message that rejects a
level or format name. -/
def make (opts : Options) : Except String (Logger × Option LogFile) := do
  let level ← Level.parse opts.level
  let screen ← match Bytes.asciiLower (Bytes.trimText opts.format) with
    | "" | "console" | "text" =>
      .ok (Handler.console ⟨level, opts.source, opts.color && opts.terminal, [], ""⟩)
    | "json" => .ok (Handler.json ⟨level, opts.source, "", [], 0⟩)
    | _ => .error ("unknown log format " ++ Quoted.quoteText opts.format ++
        " (expected console|json)")
  let name := Bytes.trimText opts.file
  if name.isEmpty then return (⟨[(screen, .screen)]⟩, none)
  return (⟨[(screen, .screen), (.json ⟨level, opts.source, "", [], 0⟩, .file)]⟩, some ⟨name, none⟩)

/-- Whether some handler passes level `l`. -/
def enabled (lg : Logger) (l : Level) : Bool := lg.handlers.any (·.1.enabled l)

/-- The logger with attributes added; no attributes leave it as it is. -/
def withAttrs (lg : Logger) (as : List Attr) : Logger :=
  if as.isEmpty then lg else ⟨lg.handlers.map fun (h, t) => (h.withAttrs as, t)⟩

/-- The logger inside one more group; the empty name opens none. -/
def withGroup (lg : Logger) (name : String) : Logger :=
  if name == "" then lg else ⟨lg.handlers.map fun (h, t) => (h.withGroup name, t)⟩

/-- Every handler inside one more group, each by its own rule for the empty name. -/
def withHandlerGroup (lg : Logger) (name : String) : Logger :=
  ⟨lg.handlers.map fun (h, t) => (h.withGroup name, t)⟩

/-- The logger of a component: the given logger, or the discarding one, with the component's
name added. -/
def component (lg : Option Logger) (name : String) : Logger :=
  (lg.getD discard).withAttrs [("component", .text name.toUTF8)]

/-- Writes one line to a target. -/
def deliver (w : Written) (t : Target) (line : ByteArray) : Written × Option String :=
  match t with
  | .screen => ({ w with screen := w.screen ++ line }, none)
  | .nowhere => (w, none)
  | .file =>
    match w.file with
    | none => (w, none)
    | some f =>
      match f.write line with
      | .ok f => ({ w with file := some f }, none)
      | .error e => (w, some e)

/-- Hands a record to every handler that passes its level: what was written, and the
failures joined by line breaks, if any. -/
def handle (lg : Logger) (w : Written) (r : Record) : Written × Option String :=
  let (w, errs) := lg.handlers.foldl (fun (w, errs) (h, t) =>
    if h.enabled r.level then
      let (w, e) := deliver w t (h.line r)
      (w, errs ++ e.toList)
    else (w, errs)) (w, [])
  (w, if errs.isEmpty then none else some ("\n".intercalate errs))

/-- Hands kept entries to the logger in order, each as a record made at `time`: what was
written. -/
def replay (lg : Logger) (time : Moment) (w : Written) (es : List Entry) : Written :=
  es.foldl (fun w e => (lg.handle w (Record.make time e.level e.message.toUTF8 e.attrs false)).1) w

end Logger

end NovelScript.Log

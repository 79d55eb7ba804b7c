import NovelScript.Progress.Bar
import NovelScript.Text.Width
/-!
# Progress boards

A progress board follows a run over a list of files: a header with a spinner, the title and
the count of finished files, one line per file with its status, and an animated bar of the
finished fraction.

A file's status follows the events sent for it: `queued`, `done` and `error` stand for
themselves, and a file being worked on shows its stage (`loading`, `lexing`, `checking`, or
`working` for any other stage). Events for files not on the board, and of other kinds, change
nothing. A file counts as finished when its status goes from one that is not final to `done`
or `error`, and as failed too for `error`; a file sent back to `queued` can count again. Every
event that changes a status sets the bar's target to the finished fraction and leaves one
animation frame pending.

The board closes when the events end: the header then starts with `done:` and the bar shows
the whole. The spinner turns one of its eight frames per tick while the board is open.
-/

namespace NovelScript.Progress

/-- A file on the board and the status it shows. -/
structure Item where
  path : String
  status : String

/-- What an event reports about a file: its stage and its status. -/
structure Event where
  file : String
  stage : String
  status : String

/-- The status an event shows: the stage's label while a file is worked on, nothing for an
unknown status. -/
def Event.label (ev : Event) : Option String :=
  match ev.status with
  | "queued" => some "queued"
  | "done" => some "done"
  | "error" => some "error"
  | "working" => some (match ev.stage with
      | "load" => "loading"
      | "lex" => "lexing"
      | "selftest" => "checking"
      | _ => "working")
  | _ => none

/-- Whether a status is final. -/
def isFinal (status : String) : Bool := status == "done" || status == "error"

/-- The frames of the spinner, each followed by a blank. -/
def spinnerFrames : List String := ["⣾ ", "⣽ ", "⣻ ", "⢿ ", "⡿ ", "⣟ ", "⣯ ", "⣷ "]

/-- A progress board. -/
structure Board where
  title : String
  items : List Item
  finished : Nat := 0
  failed : Nat := 0
  width : Int := 80
  closed : Bool := false
  spinner : Nat := 0
  bar : Bar := {}
  /-- Whether an animation frame is waiting to run. -/
  framePending : Bool := false

namespace Board

/-- A new board of the given title and files, all queued. -/
def make (title : String) (files : List String) : Board :=
  ⟨title, files.map (⟨·, "queued"⟩), 0, 0, 80, false, 0, {}, false⟩

/-- The position of the last item of a path. -/
def find (b : Board) (path : String) : Option Nat :=
  (b.items.zipIdx.filter (·.1.path == path)).getLast?.map (·.2)

/-- The board after an event. -/
def apply (b : Board) (ev : Event) : Board :=
  match b.find ev.file, ev.label with
  | some i, some label =>
    let prev := (b.items[i]?.map (·.status)).getD ""
    let items := b.items.set i ⟨ev.file, label⟩
    let counts := !isFinal prev && isFinal label
    let finished := if counts then b.finished + 1 else b.finished
    let failed := if counts && label == "error" then b.failed + 1 else b.failed
    { b with items := items, finished := finished, failed := failed,
             bar := b.bar.setTarget (Binary.ratio finished b.items.length), framePending := true }
  | _, _ => b

/-- The board after its events end. -/
def close (b : Board) : Board := { b with closed := true }

/-- The board after a spinner tick. -/
def tick (b : Board) : Board :=
  if b.closed then b else { b with spinner := (b.spinner + 1) % spinnerFrames.length }

/-- The board in a window `w` columns wide; widths that are not positive are ignored. -/
def resize (b : Board) (w : Int) : Board :=
  if w > 0 then { b with width := w, bar := { b.bar with width := w - 4 } } else b

/-- Runs up to `n` pending animation frames: the board after them and how many ran. A frame
that finds the bar at rest leaves no frame after it. -/
def runFrames (b : Board) : Nat → Board × Nat
  | 0 => (b, 0)
  | n + 1 =>
    if !b.framePending then (b, 0)
    else
      let b := if b.bar.animating then { b with bar := b.bar.frame }
        else { b with framePending := false }
      let (b, ran) := b.runFrames n
      (b, ran + 1)

/-- What a board is sent: an event, the end of the events, a spinner tick, a window width, a
key, one pending animation frame, or a message of another kind. -/
inductive Msg where
  | event (ev : Event)
  | done
  | tick
  | resize (w : Int)
  | key (name : String)
  | frame
  | other

/-- The board after a message. A key, whatever it is, and a message of another kind leave the
board as it is: a key can only ask the program to stop. -/
def update (b : Board) : Msg → Board
  | .event ev => b.apply ev
  | .done => b.close
  | .tick => b.tick
  | .resize w => b.resize w
  | .key _ => b
  | .frame => (b.runFrames 1).1
  | .other => b

/-- A text with each tab widened to four blanks and each CR LF made a line feed; text of
several lines has every line padded with blanks to the width of the widest. -/
def block (s : String) : String :=
  let s := (s.replace "\t" "    ").replace "\r\n" "\n"
  let lines := s.splitOn "\n"
  if lines.length ≤ 1 then s
  else
    let width (l : String) := Width.ofRunes (l.toList.map Char.toNat)
    let widest := (lines.map width).foldl max 0
    "\n".intercalate (lines.map fun l => l ++ String.ofList (List.replicate (widest - width l) ' '))

/-- A path cut to `w` columns, with `...` in place of what was cut. -/
def cutPath (path : String) (w : Int) : String :=
  if w ≤ 0 || (Width.ofRunes (path.toList.map Char.toNat) : Int) ≤ w then path
  else if w ≤ 3 then Width.truncate path w ""
  else Width.truncate path w "..."

/-- The header: spinner or `done:`, title, and counts. -/
def header (b : Board) : String :=
  let counts := b.title ++ " (" ++ toString b.finished ++ "/" ++ toString b.items.length ++
    (if b.failed > 0 then ", " ++ toString b.failed ++ " with errors" else "") ++ ")"
  if b.closed then "done: " ++ counts
  else (spinnerFrames[b.spinner]?.getD "") ++ " " ++ counts

/-- The text of the board; an empty board shows nothing. -/
def view (b : Board) : String :=
  if b.items.isEmpty then ""
  else
    let nameWidth := max (b.width - 16) 20
    let lines := b.items.map fun it =>
      "  " ++ Pad.left it.status 12 ++ " " ++ cutPath it.path nameWidth ++ "\n"
    block b.header ++ "\n\n" ++ String.join lines ++ "\n" ++
      (if b.closed then b.bar.viewAt (Binary.ofNat 1) else b.bar.view) ++ "\n"

end Board

end NovelScript.Progress

import NovelScript.Progress.Board
import NovelScript.Json.Value
/-!
# Driving progress boards

A progress request makes a board of its title and files and runs its steps: events, the end
of the events, spinner ticks, window sizes, keys, focus changes and animation frames. A step
answers what the board asked for in reply (`quit` when it asks to stop, `nil_cmd` when it asks
for nothing, `frames` for the frames that ran), `skipped` for events after the end, and the
board's text when the step or the request asks for it.
-/

namespace NovelScript.Session

open Progress

/-- Runs one step: the board after it and the members of its answer. -/
def progressStep (b : Board) (s : Json) : Board × List (String × Json) :=
  if s.has "event" then
    if b.closed then (b, [("skipped", .bool true)])
    else
      let e := s.get "event"
      (b.update (.event ⟨e.getStr "file", e.getStr "stage", e.getStr "status"⟩), [])
  else if s.getBool "close" then
    if b.closed then (b, [("skipped", .bool true)]) else (b.update .done, [("quit", .bool true)])
  else if s.getBool "tick" then (b.update .tick, [])
  else if s.has "resize" then (b.update (.resize (s.getInt "resize")), [])
  else if s.has "key" then
    (b.update (.key (s.getStr "key")), if s.getStr "key" == "ctrl+c" then [("quit", .bool true)] else [])
  else if s.getBool "focus" then (b.update .other, [("nil_cmd", .bool true)])
  else if s.has "frames" then
    let (b, ran) := b.runFrames (s.getInt "frames").toNat
    (b, [("frames", .nat ran)])
  else (b, [])

/-- Answers a progress request. -/
def progressSession (j : Json) : Json :=
  let board := Board.make (j.getStr "title") ((j.get "files").items.filterMap (·.str?))
  let viewAll := j.getBool "view_all"
  let (_, outs) := (j.get "steps").items.foldl (fun (b, acc) s =>
    let (b, members) := progressStep b s
    let shown := if viewAll || s.getBool "view" then [("view", Json.str b.view)] else []
    (b, acc ++ [Json.obj (members ++ shown)])) (board, [])
  .obj [("steps", .arr outs)]

end NovelScript.Session

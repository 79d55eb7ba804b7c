import NovelScript.Log.Logger
import NovelScript.Session.Errors
import NovelScript.Session.Request
import NovelScript.Session.Observe
import NovelScript.Session.Scrub
import NovelScript.Session.Probe
/-!
# Driving loggers

A log request makes a logger from its options and runs its steps: adding attributes or a
group, making a component's logger, and handing records to the logger. Every record is made
at the same moment, 2024-01-02T03:04:05.006Z. The answer holds each step's answer, what the
screen received and, when a log file was named, the file's content or why it cannot be read,
all with the places of log calls scrubbed.
-/

namespace NovelScript.Session

open Log

/-- The moment of every record. -/
def recordMoment : Moment := ⟨2024, 1, 2, 3, 4, 5, 6000000, 0⟩

/-- The value of a decimal text, 0 when it is not one. -/
def decimalOf (t : String) : Nat := t.toNat?.getD 0

/-- The attribute an attribute object describes, nested groups read to depth `fuel`. -/
def attrOf : Nat → Json → Attr
  | 0, _ => Attr.empty
  | fuel + 1, a =>
    let v : Value :=
      if ["s", "s_hex", "s_b64", "s_parts"].any a.has then .text (Request.bytesAt a "s")
      else if a.has "i" then .int (a.getInt "i")
      else if a.has "u" then .nat (decimalOf (numberText a "u"))
      else if a.has "f" then .float (floatOf (a.get "f"))
      else if a.has "b" then .bool (a.getBool "b")
      else if a.has "t" then .time ((Moment.parse? (a.getStr "t")).getD Moment.zero)
      else if a.has "d" then .duration (a.getInt "d")
      else if a.has "g" then Value.groupOf ((a.get "g").items.map (attrOf fuel))
      else if a.has "any" then Value.ofJson (a.get "any")
      else .json .null
    (a.getStr "k", v)

/-- The attributes of a list of attribute objects. -/
def attrsOf (j : Json) : List Attr := j.items.map (attrOf (j.depth + 1))

/-- The level a step names: an integer, or a name to read. -/
def stepLevel (s : Json) : Except String Level :=
  match s.get "level" with
  | .num t => .ok ((Json.num t).int?.getD 0)
  | .str name => Level.parse name
  | _ => Level.parse ""

/-- A logger being driven and what its loggers have written. -/
structure LogRun where
  logger : Logger
  written : Written

/-- Runs one step: the run after it and the step's answer. -/
def logStep (run : LogRun) (s : Json) : LogRun × Json :=
  if s.has "with" then ({ run with logger := run.logger.withAttrs (attrsOf (s.get "with")) }, .obj [])
  else if s.has "group" then ({ run with logger := run.logger.withGroup (s.getStr "group") }, .obj [])
  else if s.has "handler_group" then
    ({ run with logger := run.logger.withHandlerGroup (s.getStr "handler_group") }, .obj [])
  else if s.has "component" then
    let base := if s.getBool "nil_logger" then none else some run.logger
    ({ run with logger := Logger.component base (s.getStr "component") }, .obj [])
  else
    match stepLevel s with
    | .error e => (run, .obj [("result", View.failure e)])
    | .ok level =>
      let on := run.logger.enabled level
      if !on then (run, .obj [("enabled", .bool false)])
      else
        let r := Record.make recordMoment level (Request.bytesAt s "msg") (attrsOf (s.get "attrs"))
          (s.getBool "pc")
        let (written, err) := run.logger.handle run.written r
        let result := match err with
          | some e => [("result", View.failure e)]
          | none => []
        ({ run with written := written }, .obj ([("enabled", .bool true)] ++ result))

/-- The options a log request gives. -/
def logOptions (j : Json) : Options :=
  { level := j.getStr "level", format := j.getStr "format", source := j.getBool "source",
    color := j.getBool "color", terminal := j.getBool "force_color", file := j.getStr "file" }

/-- Answers a log request. -/
def logSession (j : Json) : Json :=
  if j.getBool "discard" then
    .obj [("enabled", .arr ([Level.debug, Level.error, Level.error + 1].map fun l =>
      .bool (Logger.discard.enabled l)))]
  else
    match Logger.make (logOptions j) with
    | .error e => View.failure e
    | .ok (logger, file) =>
      let (run, outs) := (j.get "steps").items.foldl (fun (run, acc) s =>
        let (run, out) := logStep run s
        (run, acc ++ [out])) (⟨logger, { file := file }⟩, [])
      let fileMembers := match run.written.file with
        | none => []
        | some f => match f.read with
          | .ok c => [("file_output", Json.ofBytes (Scrub.source c))]
          | .error e => [("file_error", View.failure e)]
      .obj ([("steps", .arr outs), ("output", Json.ofBytes (Scrub.source run.written.screen))] ++
        fileMembers)

end NovelScript.Session

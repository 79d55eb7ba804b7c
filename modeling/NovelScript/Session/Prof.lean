import NovelScript.Observe.Profiler
import NovelScript.Session.Scratch
import NovelScript.Session.Errors
/-!
# Driving profilers

A prof request starts and stops profilers in the scratch directory and reports which of the
named files hold anything; a file that does not exist reports `null`.
-/

namespace NovelScript.Session

/-- The profile options of a step. -/
def profileOptions (s : Json) : ProfileOptions := ⟨s.getStr "cpu", s.getStr "mem", s.getStr "trace"⟩

/-- Runs one step against the world and the profilers started so far (`none` for a start
that failed). -/
def profStep (w : ProfileWorld) (ps : List (Option Profiler)) (s : Json) :
    ProfileWorld × List (Option Profiler) × Json :=
  match s.getStr "op" with
  | "start" =>
    let o := profileOptions s
    match w.start o with
    | (w, .ok p) => (w, ps ++ [some p], .obj [("enabled", .bool o.enabled), ("nil", .bool false)])
    | (w, .error e) => (w, ps ++ [none],
        .obj [("enabled", .bool o.enabled), ("nil", .bool true), ("result", View.failure e)])
  | "stop" =>
    let i := (s.getInt "index").toNat
    match ps[i]? with
    | some (some p) =>
      let (w, p, err) := w.stop p
      (w, ps.set i (some p), .obj (err.toList.map fun e => ("result", View.failure e)))
    | _ => (w, ps, .obj [])
  | "enabled" => (w, ps, .obj [("enabled", .bool (profileOptions s).enabled)])
  | "files" =>
    let names := (s.get "names").items.filterMap (·.str?)
    (w, ps, .obj [("non_empty", .obj (names.map fun n =>
      (n, match w.tree.stat "stat" n with
        | .ok (.file d) => .bool (d.size > 0)
        | .ok .dir => .bool true
        | .error _ => .null)))])
  | _ => (w, ps, .obj [])

/-- Answers a prof request. -/
def profSession (j : Json) : Json :=
  let w : ProfileWorld := ⟨scratchTree (j.get "files"), false, false⟩
  let (_, _, outs) := (j.get "steps").items.foldl (fun (w, ps, acc) s =>
    let (w, ps, out) := profStep w ps s
    (w, ps, acc ++ [out])) (w, [], [])
  .obj [("steps", .arr outs)]

end NovelScript.Session

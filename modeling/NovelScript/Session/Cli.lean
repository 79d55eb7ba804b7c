import NovelScript.Cli.Program
import NovelScript.Session.Config
import NovelScript.Session.Scrub
/-!
# Running the program in a scratch directory

A cli request writes its files into a scratch directory, with an empty `novel.toml` when it
gives no configuration file, so that the upward search for one stops there. Each of its runs
starts the program in that directory with a small fixed environment (home and cache under the
directory, the log level `error`, a dumb terminal) and the run's own variables over it. The
runs share the directory, and so share the token cache and every file a run left behind.

A run is answered with its exit status, its two outputs and the files it asks to read (their
bytes, whether they are non-empty, or `null` when they are missing). The scratch directory's
path is written `<tmp>` and the scrubbers a run names are applied to all of them.
-/

namespace NovelScript.Session

/-- The configuration files the program looks for. -/
def configNames : List String := ["novel.toml", "novel.yaml", "novel.yml"]

/-- The scratch directory of a cli request, with an empty configuration file when the request
gives none. -/
def cliTree (files : Json) : FileTree :=
  let t := scratchTree files
  if configNames.any files.has then t else (t.writeFile "novel.toml" (.bytes .empty)).toOption.getD t

/-- The variables every run sees unless it sets them itself. -/
def baseEnvironment : Config.Environment :=
  [("HOME", scratchRoot), ("XDG_CACHE_HOME", scratchRoot ++ "/.cache"), ("NOVEL_LOG_LEVEL", "error"),
    ("PATH", "/usr/local/bin:/usr/bin:/bin"), ("TERM", "dumb")]

/-- Bytes with every occurrence of `pat` from `i` on replaced by `rep`, appended to `acc`. -/
def replaceFrom (b pat rep : ByteArray) (i : Nat) (acc : ByteArray) : ByteArray :=
  if i < b.size then
    if pat.size > 0 && Bytes.occursAt b pat i then replaceFrom b pat rep (max (i + pat.size) (i + 1)) (acc ++ rep)
    else replaceFrom b pat rep (i + 1) (acc.push (Utf8.byteAt b i))
  else acc
termination_by b.size - i

/-- Bytes with the scratch directory's path written `<tmp>`, whether or not they are text. -/
def hideScratchBytes (b : ByteArray) : ByteArray := replaceFrom b scratchRoot.toUTF8 "<tmp>".toUTF8 0 .empty

/-- Bytes after the scrubbers of the names, in order; unknown names do nothing. -/
def scrubWith (names : List String) (b : ByteArray) : ByteArray :=
  names.foldl (fun b n => match n with
    | "timings" => Scrub.timings b
    | "clock" => Scrub.clock b
    | "time" => Scrub.times b
    | "source" => Scrub.source b
    | _ => b) b

/-- The files a run asks to read, as the answer shows them. -/
def readFiles (r : Json) (t : FileTree) (shown : ByteArray → ByteArray) : List (String × Json) :=
  if !r.has "read" then [] else
  let nonempty := r.getBool "read_nonempty"
  [("files", .obj ((r.get "read").items.filterMap Json.str? |>.map fun p =>
    (p, match t.readFile p with
      | .ok b => if nonempty then .bool (b.size > 0) else Json.ofBytes (shown b)
      | .error _ => .null)))]

/-- One run of a cli request in the files left by the runs before it. -/
def cliRun (t : FileTree) (r : Json) : Json × FileTree :=
  let inv : Cli.Invocation :=
    ⟨(r.get "args").items.filterMap Json.str?, requestEnvironment r ++ baseEnvironment,
      Request.bytesAt r "stdin", t⟩
  let o := Cli.run inv
  let scrubs := (r.get "scrub").items.filterMap Json.str?
  let shown (b : ByteArray) : ByteArray := scrubWith scrubs (hideScratchBytes b)
  (.obj ([("exit", .nat o.exit), ("stdout", Json.ofBytes (shown o.stdout)),
      ("stderr", Json.ofBytes (shown o.stderr))] ++ readFiles r o.tree shown), o.tree)

/-- Answers a cli request. -/
def cliSession (j : Json) : Json :=
  let (runs, _) := (j.get "runs").items.foldl (fun (acc, t) r =>
    let (a, t) := cliRun t r
    (acc ++ [a], t)) (([] : List Json), cliTree (j.get "files"))
  .obj [("runs", .arr runs)]

end NovelScript.Session

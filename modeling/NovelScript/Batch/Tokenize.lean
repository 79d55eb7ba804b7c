import NovelScript.Batch.Cache
import NovelScript.Fs.Reader
import NovelScript.Compile.Tokenize
import NovelScript.Observe.Timer
import NovelScript.Text.Size
/-!
# Tokenizing many scripts

Each script of a run is tokenized in a context of its own, timed in two phases: `load`, noted
with the script's size, and `lex`, noted with the number of tokens. With a token cache, a
script whose dump is cached stops after loading; a script lexed without any diagnostic has its
dump stored. With timings on, a note of the phases is diagnosed after lexing. Besides the
context's own debug entries, a run keeps one for a cache hit, one for a finished lexing pass
(its tokens, diagnostics and the repeats the filter dropped), and a warning when the cache
could not take the dump.

A run queues every script first, then works through them in order: each is reported as being
lexed, then as done or, when it failed to load or collected an error, as failed. A run that
was cancelled before it began starts no script. The summary of a run counts its scripts,
failures, cache hits, tokens, bytes, errors and warnings, and merges the phase timings.
-/

namespace NovelScript.Batch

/-- How the scripts of a run are tokenized. -/
structure Options where
  compile : ContextOptions := {}
  /-- The most diagnostics a script's bag holds; 0 for no limit. -/
  maxDiags : Nat := 0
  timings : Bool := false
  cache : Option TokenCache := none

/-- What tokenizing one script gave: the run itself, its timings, and the cached dump when the
cache had one. -/
structure FileRun where
  path : String
  result : TokenizeResult
  report : Report
  cachedDump : Option (List TokenOutput) := none
  /-- The run's own log entries, after the context's. -/
  notes : List Log.Entry := []

namespace FileRun

/-- Whether the dump came from the cache. -/
def cached (r : FileRun) : Bool := r.cachedDump.isSome

/-- The script's dump: the cached one, or the lexed tokens'; empty when it was not loaded. -/
def dump (r : FileRun) : List TokenOutput :=
  match r.cachedDump with
  | some d => d
  | none => (r.result.dump r.result.env).getD []

/-- Every log entry of the run: the context's, then the run's own. -/
def log (r : FileRun) : List Log.Entry := r.result.ctx.notes.toList ++ r.notes

/-- Whether the script failed: it was not loaded or collected an error. -/
def failed (r : FileRun) : Bool := r.result.unit.isNone || r.result.hasErrors

/-- The message of the failure that stopped the run early, if any. -/
def errorMessage (r : FileRun) : Option String :=
  r.result.error.map fun
    | .context e => String.fromUTF8? e.message |>.getD ""
    | .lex e => String.fromUTF8? e.message |>.getD ""

end FileRun

/-- The JSON payload of a timings note: the path (left out when empty), the total and the
phases with their notes (left out when empty). -/
def timingPayload (path : String) (r : Report) : Json :=
  .obj ((if path.isEmpty then [] else [("path", .str path)]) ++
    [("total_ms", .num (Shortest.general r.totalMs)),
     ("phases", .arr (r.phases.map fun p => .obj ([("name", .str p.name),
        ("duration_ms", .num (Shortest.general p.ms))] ++
        (if p.note.isEmpty then [] else [("note", .str p.note)]))))])

/-- Runs a context step on a context. -/
def step {α : Type} (m : ContextM α) (c : Context) : Except ContextError α × Context :=
  (m.run).run c

/-- Tokenizes the script that `open` loads into a fresh context, with the cache and the file
tree it lives in: the run and the tree after it. -/
def tokenizeWith (o : Options) (t : FileTree) (reader : FileReader) (path : String)
    (openUnit : ContextM SourceUnit) : FileRun × FileTree :=
  let c := Context.single o.compile o.maxDiags reader
  let stopped (c : Context) (u : Option SourceUnit) (ts : Array Token) (e : Option RunError)
      (timer : Timer) : FileRun :=
    ⟨path, ⟨u, ts, c, e⟩, Report.ofTimer timer, none, []⟩
  match step ContextM.init c with
  | (.error e, c) => (stopped c none #[] (some (.context e)) {}, t)
  | (.ok (), c) =>
    let (load, timer) := ({} : Timer).begin "load"
    match step openUnit c with
    | (.error e, c) => (stopped c none #[] (some (.context e)) (timer.finish load ""), t)
    | (.ok u, c) =>
      let timer := (timer.finish load "").annotate load (Size.bytesText u.content.size)
      let key := cacheKey (Sha256.digest u.content) o.compile.mode o.compile.policy
      let hit := o.cache.bind fun cache => TokenCache.lookup t cache key (Sha256.digest u.content)
      match hit with
      | some dump =>
        let hitNote := Log.Entry.debug "token cache hit"
          [("path", .text u.path.toUTF8), ("tokens", .nat dump.length)]
        (⟨path, ⟨some u, #[], c, none⟩, Report.ofTimer timer, some dump, [hitNote]⟩, t)
      | none =>
        let (lex, timer) := timer.begin "lex"
        match step (ContextM.drain (tokenBudget u.content.size) #[]) c with
        | (.error e, c) => (stopped c (some u) #[] (some (.context e)) timer, t)
        | (.ok (ts, err), c) =>
          let timer := timer.finish lex (toString ts.size ++ " tokens")
          match err with
          | some e => (stopped c (some u) ts (some (.lex e)) timer, t)
          | none =>
            let r : TokenizeResult := ⟨some u, ts, c, none⟩
            let lexNote := Log.Entry.debug "tokenized" [("path", .text u.path.toUTF8),
              ("tokens", .nat ts.size), ("diagnostics", .nat c.engine.bag.items.size),
              ("repeats", .nat c.engine.dedup.dropped)]
            let (t, storeNotes) := match o.cache with
              | some cache =>
                if c.engine.bag.items.isEmpty then
                  let entry : CacheEntry :=
                    ⟨cacheSchema, u.path.toUTF8, Sha256.digest u.content, (r.dump r.env).getD []⟩
                  match TokenCache.put t cache key entry with
                  | .ok t => (t, [])
                  | .error e => (t, [⟨Log.Level.warn, "token cache write failed",
                      [("path", .text u.path.toUTF8), ("err", .text e.toUTF8)]⟩])
                else (t, [])
              | none => (t, [])
            let c := if o.timings then
                let report := Report.ofTimer timer
                (step (ContextM.diagnose ⟨u.id, 0, 0⟩ Code.obsTimings
                  #[.str u.path.toUTF8, .float 0, .str (timingPayload u.path report).render.toUTF8]) c).2
              else c
            (⟨path, ⟨some u, ts, c, none⟩, Report.ofTimer timer, none, lexNote :: storeNotes⟩, t)

/-- Tokenizes the script at `path` in the file tree. -/
def tokenizeFile (o : Options) (t : FileTree) (path : String) : FileRun × FileTree :=
  tokenizeWith o t (FileReader.ofTree t) path (ContextM.openSource path)

/-- Tokenizes in-memory text as a script named `name`. -/
def tokenizeText (o : Options) (t : FileTree) (name : String) (content : ByteArray) :
    FileRun × FileTree :=
  tokenizeWith o t FileReader.empty name (ContextM.openSourceBytes name content)

/-- A progress event: a script, the stage it is in, its status there, and the failure that
made it fail. -/
structure Event where
  file : String
  stage : String
  status : String
  err : Option String := none

/-- What a run over many scripts gave: its events, each script's run (none for a script that
never started), the tree after it, the failure of the whole run, and its log entries. -/
structure BatchRun (α : Type) where
  events : List Event
  runs : List (Option α)
  tree : FileTree
  error : Option String
  log : List Log.Entry := []

/-- The number of scripts worked on at once when the caller leaves it open. -/
def defaultJobs : Nat := 8

/-- The number of scripts worked on at once for a request of `jobs`: the default when it is not
positive, and never more than there are scripts. -/
def jobsFor (jobs : Int) (n : Nat) : Nat := min (if jobs ≤ 0 then defaultJobs else jobs.toNat) n

/-- The text of a run's failure in a log entry. -/
def errorValue : Option String → Log.Value
  | some e => .failure e.toUTF8
  | none => .json .null

/-- Tokenizes every script of `paths` in order; a cancelled run starts none. -/
def tokenizeFiles (o : Options) (t : FileTree) (paths : List String) (jobs : Int)
    (cancelled : Bool) : BatchRun FileRun :=
  let queued := paths.map fun p => ({ file := p, stage := "load", status := "queued" } : Event)
  let files : Log.Attr := ("files", .nat paths.length)
  let opening := Log.Entry.debug "tokenizing files" [files, ("jobs", .nat (jobsFor jobs paths.length))]
  let closing (e : Option String) := Log.Entry.debug "tokenized files" [files, ("err", errorValue e)]
  if paths.isEmpty then ⟨[], [], t, none, []⟩
  else if cancelled then
    ⟨queued, paths.map fun _ => none, t, some "context canceled",
      [opening, closing (some "context canceled")]⟩
  else
    let (events, runs, t) := paths.foldl (fun (evs, runs, t) p =>
      let (r, t) := tokenizeFile o t p
      let status := if r.result.error.isSome || r.result.hasErrors then "error" else "done"
      (evs ++ [{ file := p, stage := "lex", status := "working" },
               { file := p, stage := "lex", status := status, err := r.errorMessage }],
       runs ++ [some r], t)) (queued, [], t)
    ⟨events, runs, t, none, opening :: (runs.filterMap id).flatMap (·.log) ++ [closing none]⟩

/-- The totals of a run. -/
structure Summary where
  files : Nat := 0
  failed : Nat := 0
  cached : Nat := 0
  tokens : Nat := 0
  bytes : Nat := 0
  errors : Nat := 0
  warnings : Nat := 0
  timing : Report := {}

/-- The totals of the scripts that started. -/
def summarize (runs : List (Option FileRun)) : Summary :=
  let started := runs.filterMap id
  { files := started.length,
    failed := (started.filter (·.failed)).length,
    cached := (started.filter (·.cached)).length,
    tokens := (started.map (·.dump.length)).foldl (· + ·) 0,
    bytes := (started.map fun r => (r.result.unit.map (·.content.size)).getD 0).foldl (· + ·) 0,
    errors := (started.map (·.result.ctx.engine.errors)).foldl (· + ·) 0,
    warnings := (started.map (·.result.ctx.engine.warnings)).foldl (· + ·) 0,
    timing := Report.merge (started.map (·.report)) }

end NovelScript.Batch

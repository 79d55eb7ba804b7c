import NovelScript.Fs.Tree
/-!
# Profilers

A profiler records a CPU profile, an execution trace and, when it stops, a heap profile, each
into its own file. The program has one CPU profile and one trace at most at a time: starting a
second fails, and a profiler that fails to start its trace stops the CPU profile it had
started.

A profile file is created when its recording starts and gets its content when the recording
stops, so it is empty while recording. Stopping twice does nothing the second time.
-/

namespace NovelScript

/-- Where a profiler writes: an empty path records nothing of that kind. -/
structure ProfileOptions where
  cpu : String := ""
  mem : String := ""
  trace : String := ""

/-- Whether a profiler records anything. -/
def ProfileOptions.enabled (o : ProfileOptions) : Bool := o.cpu != "" || o.mem != "" || o.trace != ""

/-- A started profiler: its options, the files it is recording into, and whether it stopped. -/
structure Profiler where
  opts : ProfileOptions
  cpuFile : Option String := none
  traceFile : Option String := none
  stopped : Bool := false

/-- The program's files and whether a CPU profile and a trace are being recorded. -/
structure ProfileWorld where
  tree : FileTree
  cpuBusy : Bool := false
  tracing : Bool := false

namespace ProfileWorld

/-- What a finished recording leaves in its file. -/
def recorded : FileData := .bytes "profile".toUTF8

/-- Creates an empty file, or fails as opening it for writing does. -/
def create (w : ProfileWorld) (p : String) : Except FsError ProfileWorld :=
  (w.tree.writeFile p (.bytes .empty)).map fun t => { w with tree := t }

/-- Fills a file with what its recording produced. -/
def fill (w : ProfileWorld) (p : String) : ProfileWorld :=
  { w with tree := (w.tree.writeFile p recorded).toOption.getD w.tree }

/-- Stops a profiler's CPU profile, if it records one. -/
def stopCpu (w : ProfileWorld) (p : Profiler) : ProfileWorld × Profiler :=
  match p.cpuFile with
  | some f => ({ w.fill f with cpuBusy := false }, { p with cpuFile := none })
  | none => (w, p)

/-- Starts a profiler: the world after it, and the profiler or why it could not start. -/
def start (w : ProfileWorld) (o : ProfileOptions) : ProfileWorld × Except String Profiler :=
  let p : Profiler := ⟨o, none, none, false⟩
  let afterCpu : ProfileWorld × Except String Profiler :=
    if o.cpu == "" then (w, .ok p)
    else match w.create o.cpu with
      | .error e => (w, .error ("cpu profile: " ++ e.message))
      | .ok w =>
        if w.cpuBusy then (w, .error "cpu profile: cpu profiling already in use")
        else ({ w with cpuBusy := true }, .ok { p with cpuFile := some o.cpu })
  match afterCpu with
  | (w, .error e) => (w, .error e)
  | (w, .ok p) =>
    if o.trace == "" then (w, .ok p)
    else
      let failed (w : ProfileWorld) (msg : String) : ProfileWorld × Except String Profiler :=
        ((w.stopCpu p).1, .error ("runtime trace: " ++ msg))
      match w.create o.trace with
      | .error e => failed w e.message
      | .ok w =>
        if w.tracing then failed w "execution tracer already enabled"
        else ({ w with tracing := true }, .ok { p with traceFile := some o.trace })

/-- Stops a profiler: the world and profiler after it, and the failures joined by line
breaks. -/
def stop (w : ProfileWorld) (p : Profiler) : ProfileWorld × Profiler × Option String :=
  if p.stopped then (w, p, none)
  else
    let p := { p with stopped := true }
    let (w, p) := match p.traceFile with
      | some f => ({ w.fill f with tracing := false }, { p with traceFile := none })
      | none => (w, p)
    let (w, p) := w.stopCpu p
    if p.opts.mem == "" then (w, p, none)
    else match w.create p.opts.mem with
      | .error e => (w, p, some ("heap profile: " ++ e.message))
      | .ok w => (w.fill p.opts.mem, p, none)

end ProfileWorld

end NovelScript

import NovelScript.Cli.Program
import NovelScript.Cli.Disk
/-!
# The command line

Runs the program on the real disk: the files the run may read are gathered into a tree, the
run's outputs are written to standard output and standard error, the files it made or changed
are written back, and its status is the process's exit status.
-/

namespace NovelScript.Cli

/-- What is at a path on disk: a file's bytes, a directory (which opens but does not read),
or nothing. -/
def probe (p : String) : IO (Option Node) := do
  let .ok h ← (IO.FS.Handle.mk p .read).toBaseIO | return none
  match ← h.readBinToEnd.toBaseIO with
  | .ok b => return some (.file (.bytes b))
  | .error _ => return some .dir

/-- Everything left on a stream. -/
partial def drain (s : IO.FS.Stream) (acc : ByteArray) : IO ByteArray := do
  let b ← s.read 65536
  if b.isEmpty then return acc else drain s (acc ++ b)

/-- Writes back one entry a run made or changed. -/
def store (e : String × Node) : IO Unit :=
  match e.2 with
  | .dir => IO.FS.createDirAll e.1
  | .file d => do
    IO.FS.createDirAll (Path.dir e.1)
    IO.FS.writeBinFile e.1 d.toBytes

end NovelScript.Cli

/-- Runs the program with the command line's arguments. -/
def main (args : List String) : IO UInt32 := do
  let cwd := (← IO.currentDir).toString
  let mut env : NovelScript.Config.Environment := []
  for name in NovelScript.Cli.consulted do
    if let some v ← IO.getEnv name then env := env ++ [(name, v)]
  let mut found : List (String × NovelScript.Node) := []
  for p in NovelScript.Cli.candidates cwd args do
    if let some n ← NovelScript.Cli.probe p then found := found ++ [(p, n)]
  let stdin ← if args.contains "-" then NovelScript.Cli.drain (← IO.getStdin) .empty else pure .empty
  let before := NovelScript.Cli.gathered cwd found
  let o := NovelScript.Cli.run ⟨args, env, stdin, before⟩
  for e in NovelScript.Cli.changed before o.tree do
    try NovelScript.Cli.store e catch err => IO.eprintln s!"warning: {err}"
  let out ← IO.getStdout
  out.write o.stdout
  out.flush
  let errs ← IO.getStderr
  errs.write o.stderr
  errs.flush
  return o.exit.toUInt32

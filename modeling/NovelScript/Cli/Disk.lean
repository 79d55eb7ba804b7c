import NovelScript.Cli.Process
import NovelScript.Config.Load
/-!
# A run and the disk

A run works on a file tree, so a command line that runs the program on a real disk gathers
the files the run may read before it starts, and afterwards writes back what the run changed.

The run may read the scripts and files its arguments name and the configuration files of the
working directory and every directory above it; it consults the home and cache directories
and the settings variables of its environment. A directory is gathered as a directory only:
a file below it is in the tree when an argument names that file. After it, every directory it made and every
file it wrote or changed goes back to the disk; a file it did not touch is left alone.
-/

namespace NovelScript.Cli

/-- The environment variables a run consults. -/
def consulted : List String :=
  ["HOME", "XDG_CACHE_HOME"] ++ Config.Section.all.flatMap fun s => s.fields.map (Config.envVariable s)

/-- The absolute paths a run may read before it writes anything: each argument taken as a
path, and the configuration files of the working directory and its ancestors. -/
def candidates (cwd : String) (args : List String) : List String :=
  let cwd := Path.clean cwd
  let named := args.filter (fun a => !a.isEmpty && a != "-") |>.map (Path.abs cwd)
  let configs := (Config.upward cwd).flatMap fun d => Config.fileNames.map (Path.abs d)
  (named ++ configs).eraseDups

/-- The tree of a working directory holding the entries found on disk, directories first. -/
def gathered (cwd : String) (found : List (String × Node)) : FileTree :=
  let put (t : FileTree) (e : String × Node) : FileTree :=
    match e.2 with
    | .dir => (t.mkdirAll e.1).toOption.getD t
    | .file d =>
      let t := (t.mkdirAll (Path.dir e.1)).toOption.getD t
      (t.writeFile e.1 d).toOption.getD t
  let dirs := found.filter (·.2.isDir)
  let files := found.filter (!·.2.isDir)
  (dirs ++ files).foldl put (FileTree.rooted cwd)

/-- Whether two entries hold the same thing. -/
def Node.same : Node → Node → Bool
  | .dir, .dir => true
  | .file a, .file b => a.size == b.size && a.toBytes.data == b.toBytes.data
  | _, _ => false

/-- The entries of `after` that `before` does not hold alike, directories first: what a run
made or changed. -/
def changed (before after : FileTree) : List (String × Node) :=
  let fresh := after.entries.filter fun (p, n) => match before.node? p with
    | some m => !Node.same m n
    | none => true
  fresh.filter (·.2.isDir) ++ fresh.filter (!·.2.isDir)

end NovelScript.Cli

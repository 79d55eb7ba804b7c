import NovelScript.Fs.Tree
/-!
# Script inputs

The scripts of a directory are the regular files at or below it whose path ends in `.nvl`
(case and hidden files alike), each written as the directory's path joined to its place
below it, sorted in byte order. A regular file named instead of a directory is its own
single script when its name ends in `.nvl`.

Expanding the inputs of a run keeps every argument that is not a directory as it was
written, missing ones included, so that loading reports them, and replaces each directory by
its scripts.
-/

namespace NovelScript.Batch

/-- The extension of script files. -/
def scriptExt : String := ".nvl"

/-- The scripts at or below `root`, or why `root` cannot be walked. -/
def listScripts (t : FileTree) (root : String) : Except FsError (List String) :=
  match t.stat "lstat" root with
  | .error e => .error e
  | .ok (.file _) => .ok (if root.endsWith scriptExt then [root] else [])
  | .ok .dir =>
    let abs := t.resolve root
    let below := t.entries.filter fun (q, n) =>
      !n.isDir && q != abs && FileTree.within abs q && q.endsWith scriptExt
    let shown := below.map fun (q, _) =>
      Path.join root (String.ofList (q.toList.drop (if abs == "/" then 1 else abs.length + 1)))
    .ok (shown.mergeSort fun a b => decide (a ≤ b))

/-- The arguments with each directory replaced by its scripts. -/
def expandInputs (t : FileTree) (args : List String) : Except FsError (List String) :=
  args.foldlM (fun out arg =>
    match t.stat "stat" arg with
    | .ok .dir => (listScripts t arg).map (out ++ ·)
    | _ => .ok (out ++ [arg])) []

end NovelScript.Batch

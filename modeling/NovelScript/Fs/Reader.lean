import NovelScript.Fs.Tree
import NovelScript.Source.Reader
/-!
# Reading scripts from a file tree

A script is read from a file tree the way a system reads it: the file is looked up first, a
regular file larger than a unit may be is refused before its bytes are read, and a directory
fails when its content is read.
-/

namespace NovelScript

/-- The reader of a file tree. -/
def FileReader.ofTree (t : FileTree) : FileReader :=
  ⟨fun path => match t.stat "stat" path with
    | .error e => .error (.failed e.message)
    | .ok .dir => .error (.failed ("read " ++ path ++ ": " ++ Errno.isDir.text))
    | .ok (.file d) =>
      if d.size > maxUnitSize then .error (.tooLarge ⟨path, d.size⟩) else .ok d.toBytes⟩

end NovelScript

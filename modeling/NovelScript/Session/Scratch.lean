import NovelScript.Fs.Tree
import NovelScript.Session.Request
/-!
# Scratch directories

Requests that touch files run in a fresh scratch directory, which is also the working
directory. Its files come from the request's files map: each name is a slash path below the
directory, parent directories are made as needed, and a value is the file's text, its bytes in
one of the four forms, `{"dir":true}` for a directory, or `{"sparse":n}` for a file of `n`
zero bytes.

Answers write the scratch directory's path as `<tmp>`.
-/

namespace NovelScript.Session

/-- The path of the scratch directory. -/
def scratchRoot : String := "/tmp/novel-scratch"

/-- A text with the scratch directory's path written `<tmp>`. -/
def showScratch (s : String) : String := s.replace scratchRoot "<tmp>"

/-- Bytes with the scratch directory's path written `<tmp>`. -/
def showScratchBytes (b : ByteArray) : ByteArray :=
  match String.fromUTF8? b with
  | some s => (showScratch s).toUTF8
  | none => b

/-- The tree after one entry of a files map is written. -/
def writeEntry (t : FileTree) (name : String) (v : Json) : FileTree :=
  if (v.get "dir").bool? == some true then (t.mkdirAll name).toOption.getD t
  else
    let t := (t.mkdirAll (Path.dir name)).toOption.getD t
    let data : FileData := match v with
      | .str s => .bytes s.toUTF8
      | _ => if v.has "sparse" then .zeros (v.getInt "sparse").toNat else .bytes (Request.bytes v)
    (t.writeFile name data).toOption.getD t

/-- The scratch directory holding a files map. -/
def scratchTree (files : Json) : FileTree :=
  files.members.foldl (fun t (k, v) => writeEntry t k v) (FileTree.rooted scratchRoot)

end NovelScript.Session

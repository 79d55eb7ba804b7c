import NovelScript.Source.Unit
/-!
# Reading script files

Units are loaded through a reader: a function from a path to the file's bytes. A reader
may refuse a file above the unit limit before reading it. The in-memory reader serves a fixed
table of files; an entry may claim a size of its own, which is checked before its content is
handed out.
-/

namespace NovelScript

/-- Why a file could not be read. -/
inductive ReadError where
  /-- No file has this path. -/
  | missing (path : String)
  /-- The file is larger than a unit may be. -/
  | tooLarge (e : SizeError)
  /-- Another failure, by its message. -/
  | failed (msg : String)

/-- The message of a read error. -/
def ReadError.message : ReadError → String
  | .missing p => s!"read {p}: no such file"
  | .tooLarge e => e.message
  | .failed m => m

/-- A source of file contents. -/
structure FileReader where
  read : String → Except ReadError ByteArray

/-- A file of the in-memory reader: its bytes and, optionally, the size it claims. -/
structure MemoryFile where
  content : ByteArray
  size : Option Nat := none

namespace FileReader

/-- The reader of a table of files; the first entry of a path wins. -/
def ofList (files : List (String × MemoryFile)) : FileReader :=
  ⟨fun path => match files.find? (·.1 == path) with
    | none => .error (.missing path)
    | some (_, f) => match f.size with
      | some n => if n > maxUnitSize then .error (.tooLarge ⟨path, n⟩) else .ok f.content
      | none => .ok f.content⟩

/-- The reader with no files. -/
def empty : FileReader := ofList []

end FileReader

end NovelScript

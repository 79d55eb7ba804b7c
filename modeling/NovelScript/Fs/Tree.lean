import NovelScript.Source.Path
/-!
# File trees

The files a run sees: a tree of directories and regular files under the root `/`, every
entry kept by its cleaned absolute path, and a working directory against which relative paths
are resolved. The root and the ancestors of the working directory are always directories.

Operations fail the way a POSIX system fails them, and report the operation, the path as the
caller wrote it, and the condition:

* a missing entry, or one below a missing directory, is `no such file or directory`;
* an entry below a regular file is `not a directory`;
* reading a directory as a file is `is a directory`;
* removing a directory that still holds entries is `directory not empty`.

A regular file holds bytes, or a run of zero bytes known by its length alone, so that a very
large empty file costs nothing until it is read.
-/

namespace NovelScript

/-- A condition that makes a file operation fail. -/
inductive Errno where
  | noEntry
  | notDir
  | isDir
  | exist
  | notEmpty
  | invalid
  deriving DecidableEq

/-- The text of a condition. -/
def Errno.text : Errno → String
  | .noEntry => "no such file or directory"
  | .notDir => "not a directory"
  | .isDir => "is a directory"
  | .exist => "file exists"
  | .notEmpty => "directory not empty"
  | .invalid => "invalid argument"

/-- A failed file operation: the operation, the path as given, and the condition. -/
structure FsError where
  op : String
  path : String
  errno : Errno

/-- The message of a failed file operation, `op path: condition`. -/
def FsError.message (e : FsError) : String := e.op ++ " " ++ e.path ++ ": " ++ e.errno.text

/-- The content of a regular file. -/
inductive FileData where
  | bytes (b : ByteArray)
  /-- `n` zero bytes. -/
  | zeros (n : Nat)

namespace FileData

/-- The length of a file's content. -/
def size : FileData → Nat
  | bytes b => b.size
  | zeros n => n

/-- The bytes of a file's content. -/
def toBytes : FileData → ByteArray
  | bytes b => b
  | zeros n => ⟨Array.replicate n 0⟩

end FileData

/-- An entry of a file tree. -/
inductive Node where
  | file (d : FileData)
  | dir

/-- Whether an entry is a directory. -/
def Node.isDir : Node → Bool
  | .dir => true
  | .file _ => false

/-- A tree of files: entries by cleaned absolute path, and the working directory. -/
structure FileTree where
  entries : List (String × Node) := []
  cwd : String := "/"

namespace FileTree

/-- The tree holding only the working directory `cwd` and its ancestors. -/
def rooted (cwd : String) : FileTree := ⟨[], Path.clean cwd⟩

/-- The absolute form of a path. -/
def resolve (t : FileTree) (p : String) : String := Path.abs t.cwd p

/-- The directories that are always there: the root and the ancestors of the working
directory, itself included. -/
def fixedDirs (t : FileTree) : List String :=
  let elems := Path.elems t.cwd
  "/" :: ((List.range elems.length).map fun k => "/" ++ "/".intercalate (elems.take (k + 1)))

/-- The entry at an absolute path. -/
def node? (t : FileTree) (abs : String) : Option Node :=
  if t.fixedDirs.contains abs then some .dir
  else (t.entries.find? (·.1 == abs)).map (·.2)

/-- The ancestors of an absolute path, nearest last, the root first. -/
def ancestors (abs : String) : List String :=
  let elems := Path.elems abs
  "/" :: ((List.range (elems.length - 1)).map fun k => "/" ++ "/".intercalate (elems.take (k + 1)))

/-- What is at an absolute path, or why nothing is: an ancestor that is a regular file makes it
`not a directory`, otherwise a missing entry is `no such file or directory`. -/
def lookup (t : FileTree) (abs : String) : Except Errno Node :=
  match t.node? abs with
  | some n => .ok n
  | none =>
    if (ancestors abs).any fun a => match t.node? a with
        | some (.file _) => true
        | _ => false then .error .notDir
    else .error .noEntry

/-- What is at a path, failing as `op` does. The empty path names nothing, and a path ending
in `/` names only a directory. -/
def stat (t : FileTree) (op p : String) : Except FsError Node :=
  if p.isEmpty then .error ⟨op, p, .noEntry⟩ else
  match t.lookup (t.resolve p) with
  | .ok (.file d) => if p.endsWith "/" then .error ⟨op, p, .notDir⟩ else .ok (.file d)
  | .ok n => .ok n
  | .error e => .error ⟨op, p, e⟩

/-- Whether something is at a path. -/
def exists? (t : FileTree) (p : String) : Bool :=
  match t.stat "stat" p with
  | .ok _ => true
  | .error _ => false

/-- The tree with an entry set at an absolute path. -/
def put (t : FileTree) (abs : String) (n : Node) : FileTree :=
  { t with entries := t.entries.filter (·.1 != abs) ++ [(abs, n)] }

/-- The directories to make for a path, outermost first, and the first existing ancestor that
is not a directory, if any. -/
def missingDirs (t : FileTree) (abs : String) : List String × Option String :=
  (ancestors abs ++ [abs]).foldl (fun (make, bad) a =>
    match bad with
    | some _ => (make, bad)
    | none => match t.node? a with
      | some .dir => (make, none)
      | some (.file _) => (make, some a)
      | none => (make ++ [a], none)) ([], none)

/-- The caller's spelling of a path's parent: trailing slashes, the last element and the
slash before it cut off. -/
def rawParent (s : String) : String :=
  let cs := (s.toList.reverse.dropWhile (· == '/')).dropWhile (· != '/')
  String.ofList (cs.drop 1).reverse

/-- Makes a directory and every missing ancestor. A regular file on the way fails with `not a
directory`, reported at that file's path in the caller's spelling. -/
def mkdirAll (t : FileTree) (p : String) : Except FsError FileTree :=
  let abs := t.resolve p
  match t.missingDirs abs with
  | (_, some bad) =>
    let shown := (List.range (Path.elems abs).length).foldl
      (fun q _ => if t.resolve q == bad then q else rawParent q) p
    .error ⟨"mkdir", shown, .notDir⟩
  | (make, none) => .ok (make.foldl (fun t d => t.put d .dir) t)

/-- Writes a regular file, replacing one that is there; its directory must exist. -/
def writeFile (t : FileTree) (p : String) (d : FileData) : Except FsError FileTree :=
  let abs := t.resolve p
  match t.node? abs with
  | some .dir => .error ⟨"open", p, .isDir⟩
  | _ =>
    match t.lookup (Path.dir abs) with
    | .ok .dir => .ok (t.put abs (.file d))
    | .ok (.file _) => .error ⟨"open", p, .notDir⟩
    | .error e => .error ⟨"open", p, e⟩

/-- The content of a regular file. -/
def readFile (t : FileTree) (p : String) : Except FsError ByteArray :=
  match t.stat "open" p with
  | .ok (.file d) => .ok d.toBytes
  | .ok .dir => .error ⟨"read", p, .isDir⟩
  | .error e => .error e

/-- The entries directly inside a directory, by name in byte order. -/
def children (t : FileTree) (abs : String) : List (String × Node) :=
  let inside := t.entries.filter fun (q, _) => q != abs && Path.dir q == abs
  let fixed := (t.fixedDirs.filter fun q => q != abs && q != "/" && Path.dir q == abs).map (·, Node.dir)
  let all := (inside ++ fixed).map fun (q, n) => (Path.base q, n)
  all.mergeSort fun a b => decide (a.1 ≤ b.1)

/-- Removes one entry: a regular file, or a directory that holds nothing. -/
def remove (t : FileTree) (p : String) : Except FsError FileTree :=
  let abs := t.resolve p
  match t.lookup abs with
  | .error e => .error ⟨"remove", p, e⟩
  | .ok (.file _) => .ok { t with entries := t.entries.filter (·.1 != abs) }
  | .ok .dir =>
    if !(t.children abs).isEmpty then .error ⟨"remove", p, .notEmpty⟩
    else .ok { t with entries := t.entries.filter (·.1 != abs) }

/-- Whether `q` is `abs` or lies below it. -/
def within (abs q : String) : Bool := q == abs || q.startsWith (if abs == "/" then "/" else abs ++ "/")

/-- Removes an entry and everything below it; a missing entry is no failure. -/
def removeAll (t : FileTree) (p : String) : FileTree :=
  let abs := t.resolve p
  { t with entries := t.entries.filter fun (q, _) => !within abs q }

/-- Every entry at or below `a` moved to the same place below `b`. -/
def move (t : FileTree) (a b : String) : FileTree :=
  let kept := t.entries.filter fun (q, _) => !within a q && !within b q
  let moved := (t.entries.filter fun (q, _) => within a q).map fun (q, n) =>
    (b ++ String.ofList (q.toList.drop a.length), n)
  { t with entries := kept ++ moved }

/-- Moves an entry, with everything below it, to a new path whose directory exists; an existing
directory at the new path is never replaced. -/
def rename (t : FileTree) (src dst : String) : Except FsError FileTree :=
  let a := t.resolve src
  let b := t.resolve dst
  let fail (e : Errno) : FsError := ⟨"rename", src ++ " " ++ dst, e⟩
  match t.lookup a, t.lookup (Path.dir b) with
  | .error e, _ => .error (fail e)
  | _, .error e => .error (fail e)
  | _, .ok (.file _) => .error (fail .notDir)
  | .ok n, .ok .dir =>
    match t.node? b, n with
    | some .dir, _ => if a == b then .ok t else .error (fail .exist)
    | some (.file _), .dir => .error (fail .notDir)
    | _, _ => .ok (t.move a b)

end FileTree

end NovelScript

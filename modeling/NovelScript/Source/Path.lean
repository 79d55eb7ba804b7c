/-!
# Slash-separated paths

Paths are cleaned lexically: repeated slashes collapse, `.` elements go, a `..` removes the
element before it (and stays at the front of a relative path, vanishes at the root of an
absolute one), and the empty path is `.`. A relative path is resolved against a working
directory. The relative form of a path against a base walks up with `..` from the base to the
common prefix and down to the path.
-/

namespace NovelScript.Path

/-- Whether the path starts at the root. -/
def isAbs (p : String) : Bool := p.startsWith "/"

/-- The elements of a path that survive cleaning, front to back. -/
def cleanElems (rooted : Bool) (elems : List String) : List String :=
  (elems.foldl (fun acc e =>
    if e == "" || e == "." then acc
    else if e == ".." then
      match acc with
      | top :: rest => if top == ".." then e :: acc else rest
      | [] => if rooted then [] else [e]
    else e :: acc) []).reverse

/-- The cleaned form of a path. -/
def clean (p : String) : String :=
  let rooted := isAbs p
  let body := "/".intercalate (cleanElems rooted (p.splitOn "/"))
  if rooted then "/" ++ body else if body == "" then "." else body

/-- `p` joined to `dir` and cleaned. -/
def join (dir p : String) : String := clean (dir ++ "/" ++ p)

/-- The absolute form of `p` against the working directory `cwd`. -/
def abs (cwd p : String) : String := if isAbs p then clean p else join cwd p

/-- The last element of a path: `.` for the empty path, `/` for the root. -/
def base (p : String) : String :=
  if p == "" then "." else
  let elems := (p.splitOn "/").filter (· != "")
  match elems.getLast? with
  | some e => e
  | none => "/"

/-- The elements of a cleaned absolute path. -/
def elems (p : String) : List String := (p.splitOn "/").filter (· != "")

/-- `targ` relative to `base`, both absolute; `none` when a `..` of the base cannot be
matched. -/
def rel (base targ : String) : Option String :=
  let b := clean base
  let t := clean targ
  if b == t then some "." else
  let rec strip : List String → List String → List String × List String
    | x :: xs, y :: ys => if x == y then strip xs ys else (x :: xs, y :: ys)
    | xs, ys => (xs, ys)
  let (bs, ts) := strip (elems b) (elems t)
  if bs.head? == some ".." then none
  else
    let ups := bs.map fun _ => ".."
    some ("/".intercalate (ups ++ ts) |> fun s => if s == "" then "." else s)

/-- The form of `p` relative to `base`, against working directory `cwd`; a path that would
leave the base stays absolute. -/
def relative (cwd p base : String) : String :=
  let a := abs cwd p
  match rel (abs cwd base) a with
  | some r => if r == ".." || r.startsWith "../" then clean a else clean r
  | none => clean a

/-- Everything before the last element of a path, cleaned: `.` when there is nothing before
it. -/
def dir (p : String) : String :=
  let cs := p.toList
  let front := (cs.reverse.dropWhile (· != '/')).reverse
  clean (String.ofList front)

/-- The extension of the last element of a path: from its last `.` on, or nothing. -/
def ext (p : String) : String :=
  let last := (p.toList.reverse.takeWhile (· != '/')).reverse
  if last.contains '.' then
    "." ++ String.ofList (last.reverse.takeWhile (· != '.')).reverse
  else ""

end NovelScript.Path

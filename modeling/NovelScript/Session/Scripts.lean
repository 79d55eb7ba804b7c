import NovelScript.Batch.Inputs
import NovelScript.Session.Scratch
import NovelScript.Session.Errors
/-!
# Listing and expanding scripts

A scripts request lists the scripts of one directory and expands a list of arguments, both in
the scratch directory of its files. An empty list is answered as `null`.
-/

namespace NovelScript.Session

/-- A list of paths; `null` when it is empty. -/
def pathList (ps : List String) : Json :=
  if ps.isEmpty then .null else .arr (ps.map fun p => .str (showScratch p))

/-- An answer member for a listing and, when it failed, its error member. -/
def listingMembers (key : String) (r : Except FsError (List String)) : List (String × Json) :=
  match r with
  | .ok ps => [(key, pathList ps)]
  | .error e => [(key, .null), (key ++ "_error", View.failure (showScratch e.message))]

/-- Answers a scripts request. -/
def scriptsSession (j : Json) : Json :=
  let t := scratchTree (j.get "files")
  let paths := (j.get "paths").items.filterMap (·.str?)
  .obj (listingMembers "list" (Batch.listScripts t (j.getStr "list")) ++
    listingMembers "expand" (Batch.expandInputs t paths))

end NovelScript.Session

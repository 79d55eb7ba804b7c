import NovelScript.Config.Env
import NovelScript.Config.FromToml
import NovelScript.Config.FromYaml
import NovelScript.Fs.Tree
/-!
# Loading the settings

Settings start from their defaults, take what a configuration file gives, then what the
environment gives, and are checked last. Loading stops at the first step that fails, and the
settings are answered as far as they got, so that a caller can still show them.

The file is read by its extension, in any case: `.toml`, or `.yaml` and `.yml`. The path of
the file is recorded in the settings only once the file has been decoded without a problem.

Without a named file, the file is searched for: in the start directory and then in each
directory above it, the first of `novel.toml`, `novel.yaml` and `novel.yml` that exists. A
directory that cannot be looked into ends the search with a problem.
-/

namespace NovelScript.Config

/-- The names a configuration file may have, in the order they are tried. -/
def fileNames : List String := ["novel.toml", "novel.yaml", "novel.yml"]

/-- Settings and, when loading failed, why. -/
structure Loaded where
  settings : Settings
  error : Option String := none

/-- Reads and decodes a configuration file into the settings. -/
def decodeFile (t : FileTree) (path : String) (c : Settings) : Except (String × Settings) Settings :=
  match Bytes.asciiLower (Path.ext path) with
  | ".toml" =>
    let decoded : Except (String × Settings) (Settings × Option String) :=
      match t.readFile path with
      | .error e => .error (e.message, c)
      | .ok bytes => decodeToml bytes c
    match decoded with
    | .error (e, c) => .error (path ++ ": failed to parse TOML: " ++ e, c)
    | .ok (c, none) => .ok c
    | .ok (c, some key) => .error (path ++ ": unknown key " ++ key, c)
  | ".yaml" | ".yml" =>
    match t.readFile path with
    | .error e => .error (path ++ ": " ++ e.message, c)
    | .ok bytes =>
      match decodeYaml bytes c with
      | .error (e, c) => .error (path ++ ": failed to parse YAML: " ++ e, c)
      | .ok c => .ok c
  | _ => .error (path ++ ": unsupported config format (expected .toml or .yaml)", c)

/-- The settings after the environment, checked. -/
def finish (env : Environment) (c : Settings) : Loaded :=
  match applyEnv env c with
  | (c, some e) => ⟨c, some e⟩
  | (c, none) =>
    match c.validate with
    | .ok () => ⟨c, none⟩
    | .error e => ⟨c, some e⟩

/-- Loads the settings from a named file and the environment. -/
def loadFile (t : FileTree) (path : String) (env : Environment) : Loaded :=
  match decodeFile t path {} with
  | .error (e, c) => ⟨c, some e⟩
  | .ok c => finish env { c with path := path }

/-- The configuration file in directory `dir`, if there is one, or the problem of a name that
cannot be looked up. -/
def findIn (t : FileTree) (dir : String) : Except String (Option String) :=
  fileNames.foldlM (fun found name =>
    match found with
    | some p => .ok (some p)
    | none =>
      let candidate := Path.join dir name
      match t.lookup candidate with
      | .ok _ => .ok (some candidate)
      | .error .noEntry => .ok none
      | .error e => .error ("failed to stat " ++ Quoted.quoteText candidate ++ ": " ++
          (FsError.message ⟨"stat", candidate, e⟩))) none

/-- The configuration file in `dir` or the nearest directory above it, if there is one. -/
def findFrom (t : FileTree) : List String → Except String (Option String)
  | [] => .ok none
  | dir :: above => do
    match ← findIn t dir with
    | some p => return some p
    | none => findFrom t above

/-- The directories from `abs` up to the root, nearest first. -/
def upward (abs : String) : List String :=
  abs :: (FileTree.ancestors abs).reverse |>.filter (· != "") |>.eraseDups

/-- The configuration file for a start directory, searched upward; `""` starts at the working
directory. -/
def find (t : FileTree) (start : String) : Except String (Option String) :=
  findFrom t (upward (t.resolve (if start.isEmpty then "." else start)))

/-- Loads the settings from the file found for a start directory, if any, and the
environment. -/
def loadFrom (t : FileTree) (start : String) (env : Environment) : Loaded :=
  match find t start with
  | .error e => ⟨{}, some e⟩
  | .ok none => finish env {}
  | .ok (some path) =>
    match decodeFile t path {} with
    | .error (e, c) => ⟨c, some e⟩
    | .ok c => finish env { c with path := path }

/-- Loads the settings from the environment alone. -/
def loadEnvOnly (env : Environment) : Loaded := finish env {}

end NovelScript.Config

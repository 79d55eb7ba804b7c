import NovelScript.Batch.Tokenize
import NovelScript.Session.Tokenize
import NovelScript.Session.Scratch
/-!
# Driving the token cache

A cache request opens a token cache at `cache` in its scratch directory and runs its steps
against it. Each step names a script by its text and name and the options its key depends on:
it tokenizes the script through the cache, shows its key, stores or reads an entry by hand,
spoils the entry in one of three ways, drops the whole cache, or opens other caches.

Every step answers its own name; a step that fails answers the failure as `result`. Paths
are shown with the scratch directory written `<tmp>`.
-/

namespace NovelScript.Session

/-- The root of the request's token cache. -/
def cacheRoot : String := Path.join scratchRoot "cache"

/-- The key of the entry a step names: the key of its text under its directive mode and
policy. -/
def stepKey (s : Json) : Except Json ByteArray := do
  let req := LexRequest.ofJson s
  let opts ← contextOptions req
  return cacheKey (Sha256.digest req.content) opts.mode opts.policy

/-- A dump entry as `type:value`. -/
def dumpLine (o : TokenOutput) : Json := .ofBytes (o.type ++ ":".toUTF8 ++ o.value)

/-- A failed step's members. -/
def failedStep (message : String) : List (String × Json) :=
  [("result", View.failure (showScratch message))]

/-- Tokenizes a step's script through the cache. -/
def cacheTokenize (c : TokenCache) (t : FileTree) (s : Json) : FileTree × List (String × Json) :=
  let req := LexRequest.ofJson s
  match contextOptions req with
  | .error answer => (t, [("result", answer)])
  | .ok opts =>
    let o : Batch.Options :=
      { compile := opts, maxDiags := (s.getInt "max_diagnostics").toNat,
        timings := s.getBool "timings", cache := some c }
    let (r, t) := Batch.tokenizeText o t req.name req.content
    let dump := r.dump
    (t, [("cached", .bool r.cached), ("tokens", .nat dump.length),
      ("diags", .nat r.result.ctx.engine.bag.items.size),
      ("dump", if r.result.unit.isNone then .null else .arr (dump.map dumpLine))] ++
      (match r.errorMessage with | some e => failedStep e | none => []))

/-- Stores a hand-made entry for a step's script: its schema, path and token types, and its
content digest, spoiled in its first byte when asked. -/
def cachePut (c : TokenCache) (t : FileTree) (s : Json) (key : ByteArray) :
    FileTree × List (String × Json) :=
  let digest := Sha256.digest (LexRequest.ofJson s).content
  let digest := if s.getBool "wrong_hash" then digest.set! 0 (digest.get! 0 ^^^ 0xFF) else digest
  let tokens := (s.get "tokens").items.filterMap fun n => n.str?.map fun ty => { type := ty.toUTF8 }
  let schema := if s.has "schema" then (s.getInt "schema").toNat else cacheSchema
  match TokenCache.put t c key ⟨schema, (s.getStr "path").toUTF8, digest, tokens⟩ with
  | .ok t => (t, [])
  | .error e => (t, failedStep e)

/-- Reads the entry of a step's script. -/
def cacheGet (c : TokenCache) (t : FileTree) (s : Json) (key : ByteArray) : List (String × Json) :=
  match TokenCache.get t c key with
  | .error e => [("ok", .bool false)] ++ failedStep e
  | .ok none => [("ok", .bool false)]
  | .ok (some e) =>
    [("ok", .bool true), ("payload", .obj [("schema", .nat e.schema), ("path", .ofBytes e.path),
      ("hash_ok", .bool (e.digest == Sha256.digest (LexRequest.ofJson s).content)),
      ("tokens", .nat e.tokens.length)])]

/-- The tree with `bytes` written where the entry of `key` lives, its directory made. -/
def writeAtEntry (c : TokenCache) (t : FileTree) (key : ByteArray) (d : FileData) : FileTree :=
  let p := c.pathFor key
  let t := (t.removeAll p).mkdirAll (Path.dir p) |>.toOption.getD t
  (t.writeFile p d).toOption.getD t

/-- The tree with the entry's directory replaced by a regular file. -/
def blockEntry (c : TokenCache) (t : FileTree) (key : ByteArray) : FileTree :=
  let dir := Path.dir (c.pathFor key)
  let t := (t.removeAll dir).mkdirAll (Path.dir dir) |>.toOption.getD t
  (t.writeFile dir (.bytes "x".toUTF8)).toOption.getD t

/-- The tree with a directory where the entry of `key` lives. -/
def dirAtEntry (c : TokenCache) (t : FileTree) (key : ByteArray) : FileTree :=
  let p := c.pathFor key
  (t.removeAll p).mkdirAll p |>.toOption.getD t

/-- The tree after opening another cache, and the step's members. -/
def openedMembers (t : FileTree) (r : Except String (FileTree × TokenCache)) :
    FileTree × List (String × Json) :=
  match r with
  | .ok (t, c) => (t, [("dir", .str (showScratch c.dir))])
  | .error e => (t, failedStep e)

/-- The directory a step names below the scratch directory; empty when it names none. -/
def scratchPath (s : Json) (key : String) : String :=
  if s.has key then Path.join scratchRoot (s.getStr key) else ""

/-- Runs a step that names a script's entry. -/
def entryStep (c : TokenCache) (t : FileTree) (s : Json) (op : String) :
    Option (FileTree × List (String × Json)) :=
  match stepKey s with
  | .error answer => some (t, [("result", answer)])
  | .ok key =>
    match op with
    | "key" => some (t, [("key", .str (Hex.encode key))])
    | "put" => some (cachePut c t s key)
    | "get" => some (t, cacheGet c t s key)
    | "corrupt" => some (writeAtEntry c t key (.bytes (ByteArray.mk #[0xC1, 0x00, 0xFF])), [])
    | "block" => some (blockEntry c t key, [])
    | "dir_entry" => some (dirAtEntry c t key, [])
    | _ => none

/-- Runs one step: the tree after it and the step's members. -/
def cacheStep (c : TokenCache) (t : FileTree) (s : Json) : FileTree × List (String × Json) :=
  let op := s.getStr "op"
  match op with
  | "tokenize" => cacheTokenize c t s
  | "drop" =>
    match TokenCache.dropAll t c with
    | .ok t => (t, [("scratch", .arr ((t.children scratchRoot).map fun (n, _) => .str n))])
    | .error e => (t, failedStep e)
  | "drop_missing" =>
    let t := t.removeAll c.dir
    match TokenCache.dropAll t c with
    | .ok t => (t, [("root_exists", .bool (t.exists? c.dir))])
    | .error e => (t, failedStep e)
  | "nil" => (t, [("put", .bool true), ("get", .bool false), ("get_err", .bool true),
      ("drop", .bool true)])
  | "open_app" =>
    openedMembers t (TokenCache.openApp t (scratchPath s "xdg") (scratchPath s "home") (s.getStr "app"))
  | "open_dir" => openedMembers t (TokenCache.openAt t (Path.join scratchRoot (s.getStr "path")))
  | _ =>
    match entryStep c t s op with
    | some r => r
    | none => (t, [("result", View.error "BadOp" ("unknown op " ++ op).toUTF8)])

/-- Answers a cache request. -/
def cacheSession (j : Json) : Json :=
  let t := scratchTree (j.get "files")
  match TokenCache.openAt t cacheRoot with
  | .error e => View.failure (showScratch e)
  | .ok (t, c) =>
    let (_, steps) := (j.get "ops").items.foldl (fun (t, acc) s =>
      let (t, members) := cacheStep c t s
      (t, acc ++ [Json.obj ([("op", .str (s.getStr "op"))] ++ members)])) (t, [])
    .obj [("steps", .arr steps)]

end NovelScript.Session

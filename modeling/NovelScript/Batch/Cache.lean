import NovelScript.Fs.Tree
import NovelScript.Token.Msgpack
import NovelScript.Hash.Sha256
import NovelScript.Lexer.Trivia
import NovelScript.Diag.Engine
import NovelScript.Text.Hex
/-!
# The token cache

The token cache keeps the token dumps of clean scripts on disk, so that a script seen before
is not lexed again. An entry is found by a key: the SHA-256 digest of the script's content
digest, the schema version as two little-endian bytes, the directive mode, and the policy
bits that decide which diagnostics a clean run could have hidden (notes suppressed,
warnings suppressed, warnings as errors). The encoding is not part of the key.

An entry lives at `tokens/<first two hex digits>/<key in hex>.mp` below the cache's root. It is
a MessagePack map of the schema version, the script's path, its content digest and its dump.
Writing goes to a temporary file beside the entry that then replaces it. A lookup counts a
missing entry, an unreadable one, another schema and another digest alike as a miss.

Dropping the cache moves its root aside, removes it, and makes an empty root again; a root
that is already gone is no failure.
-/

namespace NovelScript

/-- The schema version of cache entries. -/
def cacheSchema : Nat := 1

/-- The number of a directive mode in a cache key. -/
def DirectiveMode.index : DirectiveMode → Nat
  | .ignore => 0
  | .emit => 1
  | .tests => 2
  | .keepLast => 3

/-- The policy bits of a cache key. -/
def Policy.cacheBits (p : Policy) : Nat :=
  (if p.suppressNotes then 1 else 0) + (if p.suppressWarnings then 2 else 0) +
    (if p.warningsAsErrors then 4 else 0)

/-- The key of a script's dump: its content digest mixed with the schema, the directive mode
and the policy bits. -/
def cacheKey (digest : ByteArray) (mode : DirectiveMode) (p : Policy) : ByteArray :=
  Sha256.digest (digest ++ ByteArray.mk #[cacheSchema.toUInt8, 0, mode.index.toUInt8,
    p.cacheBits.toUInt8])

/-- A cache entry: schema version, the script's path, its content digest and its dump. -/
structure CacheEntry where
  schema : Nat
  path : ByteArray
  digest : ByteArray
  tokens : List TokenOutput

namespace CacheEntry

open Msgpack

/-- A binary of `n` bytes. -/
def binary (b : ByteArray) : ByteArray :=
  (if b.size < 256 then ByteArray.mk #[0xC4, b.size.toUInt8]
   else ByteArray.mk (0xC5 :: beBytes b.size 2).toArray) ++ b

/-- The MessagePack form of an entry. -/
def encode (e : CacheEntry) : ByteArray :=
  mapHeader 4 ++ str "Schema".toUTF8 ++ ByteArray.mk (0xCD :: beBytes e.schema 2).toArray ++
    str "Path".toUTF8 ++ str e.path ++ str "Hash".toUTF8 ++ binary e.digest ++
    str "Tokens".toUTF8 ++ Msgpack.encode e.tokens

/-- Reads the value of field `key` into an entry; other keys are skipped. -/
def field (bs : ByteArray) (e : CacheEntry) (key : ByteArray) (i : Nat) :
    Except DecodeError (CacheEntry × Nat) :=
  match String.fromUTF8? key with
  | some "Schema" => (uint bs i).map fun (n, j) => ({ e with schema := n % 65536 }, j)
  | some "Path" => (bytes bs i).map fun (b, j) => ({ e with path := b }, j)
  | some "Hash" => (bytes bs i).map fun (b, j) => ({ e with digest := b }, j)
  | some "Tokens" => (listAt bs i).map fun (ts, j) => ({ e with tokens := ts }, j)
  | _ => (skip bs (bs.size + 1) i).map fun (_, j) => (e, j)

/-- Reads `n` key and value pairs into an entry. -/
def fields (bs : ByteArray) : Nat → CacheEntry → Nat → Except DecodeError (CacheEntry × Nat)
  | 0, e, i => .ok (e, i)
  | n + 1, e, i => do
    let (k, i) ← bytes bs i
    let (e, i) ← field bs e k i
    fields bs n e i

/-- The entry with nothing in it. -/
def blank : CacheEntry := ⟨0, .empty, .empty, []⟩

/-- Reads an entry from the front of `bs`. -/
def decode (bs : ByteArray) : Except DecodeError CacheEntry := do
  let (c, i) ← code bs 0
  match mapLen bs c i with
  | .ok (none, _) => return blank
  | .ok (some n, j) => return (← fields bs (min n (bs.size + 1)) blank j).1
  | .error e =>
    match arrayLen bs c i with
    | .error _ => throw e
    | .ok (none, _) => return blank
    | .ok (some 0, _) => return blank
    | .ok (some n, j) =>
      if n != 4 then throw .arrayStruct
      else
        let (schema, j) ← uint bs j
        let (path, j) ← bytes bs j
        let (digest, j) ← bytes bs j
        let (tokens, _) ← listAt bs j
        return ⟨schema % 65536, path, digest, tokens⟩

end CacheEntry

/-- A token cache by its root directory. -/
structure TokenCache where
  dir : String

namespace TokenCache

/-- Opens the cache rooted at `dir`, making the directory. -/
def openAt (t : FileTree) (dir : String) : Except String (FileTree × TokenCache) :=
  match t.mkdirAll dir with
  | .ok t => .ok (t, ⟨dir⟩)
  | .error e => .error ("open token cache: " ++ e.message)

/-- Opens the cache of an application below the user's cache directory: `xdg` when it is set,
else `.cache` in the home directory `home`; an empty text counts as unset. -/
def openApp (t : FileTree) (xdg home app : String) : Except String (FileTree × TokenCache) :=
  if xdg.isEmpty && home.isEmpty then .error "$HOME is not defined"
  else openAt t (Path.join (if xdg.isEmpty then Path.join home ".cache" else xdg) app)

/-- Where the entry of a key lives. -/
def pathFor (c : TokenCache) (key : ByteArray) : String :=
  let h := Hex.encode key
  Path.join c.dir ("tokens/" ++ String.ofList (h.toList.take 2) ++ "/" ++ h ++ ".mp")

/-- Writes an entry through a temporary file that then takes its place. -/
def put (t : FileTree) (c : TokenCache) (key : ByteArray) (e : CacheEntry) :
    Except String FileTree := do
  let p := c.pathFor key
  let dir := Path.dir p
  let t ← (t.mkdirAll dir).mapError (·.message)
  let tmp := Path.join dir "tmp-N"
  let t ← (t.writeFile tmp (.bytes e.encode)).mapError (·.message)
  match t.rename tmp p with
  | .ok t => return t
  | .error err => throw err.message

/-- Reads the entry of a key: `none` when there is none. -/
def get (t : FileTree) (c : TokenCache) (key : ByteArray) : Except String (Option CacheEntry) :=
  match t.readFile (c.pathFor key) with
  | .error e => if e.errno == .noEntry then .ok none else .error e.message
  | .ok bs => (CacheEntry.decode bs).map some |>.mapError (·.message)

/-- Empties the cache: its root is moved aside, removed and made again. -/
def dropAll (t : FileTree) (c : TokenCache) : Except String FileTree := do
  let old := c.dir ++ ".old-20240102030405"
  match t.rename c.dir old with
  | .error e => if e.errno == .noEntry then return t else throw e.message
  | .ok t => (t.removeAll old |>.mkdirAll c.dir).mapError (·.message)

/-- The cached dump of a script with this content digest, key and path; a miss for anything
that is not an entry of this schema and digest. -/
def lookup (t : FileTree) (c : TokenCache) (key digest : ByteArray) : Option (List TokenOutput) :=
  match get t c key with
  | .ok (some e) => if e.schema == cacheSchema && e.digest == digest then some e.tokens else none
  | _ => none

end TokenCache

end NovelScript

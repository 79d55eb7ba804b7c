import NovelScript.Session.Request
import NovelScript.Session.Errors
import NovelScript.Session.View
/-!
# Driving the dictionary and the string store

A request runs a list of operations on one fresh dictionary or string store and answers each
step with what it returned and the size afterwards.
-/

namespace NovelScript.Session

/-- A dictionary entry. -/
def entryView (e : DictEntry) : Json :=
  .obj [("text", .ofBytes e.text), ("kind", .str (slotKindName e.tag.kindCode)),
    ("keyword", .str (keywordName e.tag.keywordCode)), ("type", .nat e.tag.typeRef)]

/-- The entry of no slot. -/
def emptyEntry : DictEntry := ⟨.empty, .unresolved⟩

/-- One dictionary step and its answer members. -/
def dictStep (d : Dict) (s : Json) : Dict × List (String × Json) :=
  let slot := (s.getInt "slot" % Int.pow 2 32).toNat
  match s.getStr "op" with
  | "lookup" | "lookup_bytes" =>
    match d.lookup (Request.bytes s) with
    | .ok (k, d) => (d, [("slot", .nat k)])
    | .error e => (d, [("slot", .nat 0), ("result", View.error "DictFull" e.message)])
  | "find" => match d.find? (Request.bytes s) with
    | some k => (d, [("slot", .nat k), ("ok", .bool true)])
    | none => (d, [("slot", .nat 0), ("ok", .bool false)])
  | "entry" => match d.slot? slot with
    | some e => (d, [("entry", entryView e), ("ok", .bool true)])
    | none => (d, [("entry", entryView emptyEntry), ("ok", .bool false)])
  | "resolve" =>
    let (e, d) := d.resolve slot
    (d, [("entry", entryView (e.getD emptyEntry))])
  | "text" => (d, [("text", .ofBytes (d.text slot))])
  | "has" => (d, [("has", .bool (d.has slot))])
  | "set_keyword" => (d.setTag slot (.keyword (s.getInt "kw" % 256).toNat), [])
  | "set_type" => (d.setTag slot (.type (s.getInt "ref" % 65536).toNat), [])
  | "register_builtins" =>
    match d.registerBuiltins with
    | (d, none) => (d, [])
    | (d, some e) => (d, [("result", View.error "DictFull" e.message)])
  | op => (d, [("result", View.error "BadOp" s!"unknown op {op}".toUTF8)])

/-- Runs dictionary operations. -/
def dictSession (j : Json) : Json :=
  let (_, steps) := (j.get "ops").items.foldl (fun (d, acc) s =>
    let (d, out) := dictStep d s
    (d, acc.push (Json.obj ([("op", .str (s.getStr "op"))] ++ out ++ [("len", .nat d.size)]))))
    (Dict.create (j.getInt "max"), #[])
  .obj [("steps", .arr steps.toList)]

/-- One string store step and its answer members. -/
def blobStep (b : BlobStore) (s : Json) : BlobStore × List (String × Json) :=
  match s.getStr "op" with
  | "intern" => match b.intern (Request.bytes s) with
    | .ok (i, b) => (b, [("index", .nat i)])
    | .error e => (b, [("index", .nat 0), ("result", View.error "BlobFull" e.message.toUTF8)])
  | "get" =>
    let i := s.getInt "index"
    match if i < 0 then none else b.get? i.toNat with
    | some v => (b, [("value", .ofBytes v), ("ok", .bool true)])
    | none => (b, [("value", .str ""), ("ok", .bool false)])
  | "key" => (b, [("key", .str (Quoted.hexDigits (BlobStore.keyOf (Request.bytes s)).toNat 16))])
  | op => (b, [("result", View.error "BadOp" s!"unknown op {op}".toUTF8)])

/-- Runs string store operations. -/
def blobSession (j : Json) : Json :=
  let (_, steps) := (j.get "ops").items.foldl (fun (b, acc) s =>
    let (b, out) := blobStep b s
    (b, acc.push (Json.obj ([("op", .str (s.getStr "op"))] ++ out ++
      [("len", .nat b.count), ("size", .nat b.size)]))))
    (BlobStore.create (j.getInt "max"), #[])
  .obj [("steps", .arr steps.toList)]

end NovelScript.Session

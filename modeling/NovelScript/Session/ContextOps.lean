import NovelScript.Session.Tokenize
import NovelScript.Hash.Sha256
/-!
# Driving a compilation context

A context request builds a context over an in-memory file set and runs a list of steps on
it: loading and queueing units, pushing and popping includes, moving to the next queued
unit, freeing and closing, lexing the active unit, and reading back units, the dictionary
and the diagnostics in golden and console form. Each step answers the context's active unit,
stack depth, queue length, loaded units, the diagnostics reported during the step and the
counters.
-/

namespace NovelScript.Session

/-- An entry of a file set: a text, or bytes with an optional claimed size. -/
def memoryFile (v : Json) : MemoryFile :=
  match v with
  | .str s => ⟨s.toUTF8, none⟩
  | _ => ⟨Request.bytes v, if v.has "size" then some (v.getInt "size").toNat else none⟩

/-- The reader of a request's file set. -/
def fileSet (j : Json) : FileReader :=
  FileReader.ofList ((j.get "files").members.map fun (k, v) => (k, memoryFile v))

/-- The tokens of the active unit, up to `fuel` of them or past the end token when `toEnd`
holds; stops at a lexing error. -/
def lexActive (toEnd : Bool) : Nat → Array Json → ContextM (Array Json × Option LexError)
  | 0, acc => return (acc, none)
  | fuel + 1, acc => do
    match ← ContextM.withLexer Lexer.lex with
    | .error e => return (acc, some e)
    | .ok t =>
      let lx ← ContextM.lexer
      let acc := acc.push (View.lexToken lx t)
      if toEnd && t.kind == .eof then return (acc, none) else lexActive toEnd fuel acc

/-- The answer members of a lexing step. -/
def lexStep (toEnd : Bool) (n : Nat) : ContextM (List (String × Json)) := do
  let (ts, err) ← lexActive toEnd n #[]
  let lx ← ContextM.lexer
  return [("tokens", .arr ts.toList), ("lexer", View.lexState lx)] ++
    (match err with | some e => [("result", View.lexError e)] | none => [])

/-- The answer members of a loaded unit. -/
def loadedView (u : SourceUnit) : List (String × Json) := [("unit", .nat u.id), ("path", .str u.path)]

/-- Opens `fill<i>` for each `i` below `n`, stopping at the first failure; gives how many
opened and the failure. -/
def fill (n : Nat) : StateM Context (Nat × Option ContextError) :=
  let rec go : Nat → Nat → StateM Context (Nat × Option ContextError)
    | 0, k => return (k, none)
    | left + 1, k => do
      match ← (ContextM.openSourceBytes s!"fill{k}" .empty).run with
      | .ok _ => go left (k + 1)
      | .error e => return (k, some e)
  go n 0

/-- One context step and its answer members. -/
def contextStep (s : Json) : StateM Context (List (String × Json)) := do
  let attempt (m : ContextM (List (String × Json))) : StateM Context (List (String × Json)) := do
    match ← m.run with
    | .ok out => return out
    | .error e => return [("result", View.contextError e)]
  match s.getStr "op" with
  | "init" => attempt (do ContextM.init; return [])
  | "open" => attempt (loadedView <$> ContextM.openSource (s.getStr "path"))
  | "open_bytes" =>
    attempt (loadedView <$> ContextM.openSourceBytes (s.getStr "name") (Request.bytes s))
  | "push" => attempt (loadedView <$> ContextM.pushSource (s.getStr "path"))
  | "push_bytes" =>
    attempt (loadedView <$> ContextM.pushSourceBytes (s.getStr "name") (Request.bytes s))
  | "pop" => attempt (do
      let u ← ContextM.popSource
      return [("unit", match u with | some u => .nat u.id | none => .null)])
  | "next" => return [("ok", .bool (← ContextM.nextSource))]
  | "free" => attempt (do ContextM.freeSource (s.getInt "unit").toNat; return [])
  | "close" => do ContextM.close; return []
  | "fill" =>
    let (k, err) ← fill (s.getInt "n").toNat
    return [("opened", .nat k)] ++ (match err with | some e => [("result", View.contextError e)] | none => [])
  | "lex" => attempt (lexStep false (s.getInt "n").toNat)
  | "drain" => attempt (lexStep true maxLexTokens)
  | "unit" =>
    let c ← get
    match c.unit? (s.getInt "unit").toNat with
    | some u => return [("found", .bool true), ("path", .str u.path), ("content", .ofBytes u.content),
        ("flags", .arr (u.flags.names.map .str)), ("hash", .str (Sha256.hexDigest u.content))]
    | none => return [("found", .bool false)]
  | "golden" =>
    let c ← get
    return [("golden", .ofBytes (Golden.format c.engine.bag.items.toList c.unit? "/" "/"))]
  | "pretty" =>
    let c ← get
    let style : ConsoleStyle := ⟨false, .auto, "", true, "/"⟩
    return [("pretty", .ofBytes (Console.reports style c.unit? c.engine.bag.sorted.toList))]
  | "dict" =>
    let c ← get
    return [("len", .nat c.dict.size), ("blobs", .nat c.blobs.count)]
  | op => return [("result", View.error "BadOp" s!"unknown op {op}".toUTF8)]

/-- The members every context step ends with. -/
def contextState (c : Context) (fresh : List Diagnostic) : List (String × Json) :=
  let ids := c.loaded.map (·.id)
  [("active", match c.active? with | some u => .nat u.id | none => .null),
    ("depth", .nat c.depth), ("pending", .nat c.pending)] ++
  (if ids.length > 64 then [("units_count", .nat ids.length)]
   else [("units", .arr (ids.map .nat))]) ++
  [("diags", View.diagnostics fresh), ("counts", View.counts c.engine)]

/-- Answers a context request. -/
def contextSession (j : Json) : Json :=
  let req := LexRequest.ofJson j
  match contextOptions req with
  | .error answer => answer
  | .ok opts =>
    let opts := { opts with maxIncludeDepth := (j.getInt "max_include_depth").toNat }
    let c := Context.create opts (fileSet j) [.bag]
    let (_, steps) := (j.get "ops").items.foldl (fun (c, acc) s =>
      let before := c.engine.bag.items.size
      let (out, c) := (contextStep s).run c
      let fresh := (c.engine.bag.items.extract before c.engine.bag.items.size).toList
      (c, acc.push (Json.obj ([("op", .str (s.getStr "op"))] ++ out ++ contextState c fresh))))
      (c, #[])
    .obj [("steps", .arr steps.toList)]

end NovelScript.Session

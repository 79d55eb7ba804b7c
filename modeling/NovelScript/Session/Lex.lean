import NovelScript.Session.View
import NovelScript.Session.Errors
import NovelScript.Session.Request
/-!
# Lexing a script

A lexing request loads one in-memory script into a fresh context, registers the built-in
types unless asked not to, and lexes the unit to its end (at most 50000 tokens), answering
each token with the tokenizer state right after it, the diagnostics in report order, the
counters and a summary of the unit. A full dictionary or store stops lexing; the tokens
before it are kept.

In raw mode the unit is built from the bytes as they are and lexed by a lone tokenizer with a
private dictionary and store and no engine, so problems go unreported.
-/

namespace NovelScript

/-- A lexing request. -/
structure LexRequest where
  content : ByteArray := .empty
  name : String := "input.nvl"
  directives : String := ""
  encoding : String := ""
  policy : Policy := {}
  maxIdents : Int := 0
  maxBlobBytes : Int := 0
  noInit : Bool := false

/-- The lexing request of a request object. -/
def LexRequest.ofJson (j : Json) : LexRequest :=
  { content := Request.bytes j, name := j.getStr "name" "input.nvl",
    directives := j.getStr "directives", encoding := j.getStr "encoding",
    policy := Request.policy j, maxIdents := j.getInt "max_idents",
    maxBlobBytes := j.getInt "max_blob_bytes", noInit := j.getBool "no_init" }

/-- The most tokens one request lexes. -/
def maxLexTokens : Nat := 50000

namespace Session

/-- Lexes the active unit until the end token, at most `fuel` tokens, collecting each token
with the state after it; stops at a lexing error. -/
def lexTokens (view : Lexer → Token → Json) :
    Nat → Array Json → ContextM (Array Json × Option LexError)
  | 0, acc => return (acc, none)
  | fuel + 1, acc => do
    match ← ContextM.withLexer Lexer.lex with
    | .error e => return (acc, some e)
    | .ok t =>
      let lx ← ContextM.lexer
      let acc := acc.push ((view lx t).merge (.obj [("state", View.lexState lx)]))
      if t.kind == .eof then return (acc, none) else lexTokens view fuel acc

/-- The tokens of an answer: `null` when there are none. -/
def tokenList (ts : Array Json) : Json := if ts.isEmpty then .null else .arr ts.toList

/-- Answers a lexing request. -/
def lex (req : LexRequest) : Json := Id.run do
  let mode ← match DirectiveMode.parse req.directives with
    | .ok m => pure m
    | .error msg => return View.failure msg
  let enc ← match Encoding.parse req.encoding with
    | .ok e => pure e
    | .error msg => return View.failure msg
  let opts : ContextOptions :=
    ⟨req.policy, mode, enc, 0, req.maxIdents, req.maxBlobBytes⟩
  let c := Context.create opts FileReader.empty [.bag]
  let run : ContextM (Option SourceUnit × Array Json × Option LexError) := do
    if !req.noInit then ContextM.init
    let u ← ContextM.openSourceBytes req.name req.content
    let (ts, err) ← lexTokens View.lexToken maxLexTokens #[]
    return (some u, ts, err)
  let (r, c) := (run.run).run c
  let tail : List (String × Json) :=
    [("diags", View.diagnostics c.engine.bag.items.toList), ("counts", View.counts c.engine)]
  match r with
  | .error (.builtins e) => View.contextError (.builtins e)
  | .error e => (View.contextError e).merge (.obj tail)
  | .ok (u, ts, err) =>
    let lastDir := match (c.stack.back?.bind (·.lexer)).bind (·.lastDir) with
      | some d => [("last_directive", View.range d)]
      | none => []
    let lexErr := match err with
      | some e => [("lex_error", View.lexError e)]
      | none => []
    .obj ([("tokens", tokenList ts)] ++ tail ++
      [("unit", (u.map View.unitSummary).getD .null)] ++ lastDir ++ lexErr)

/-- Lexes a lone tokenizer to the end token, at most `fuel` tokens. -/
def rawTokens (view : Lexer → Token → Json) :
    Nat → Array Json → StateM Lexer (Except LexError (Array Json))
  | 0, acc => return .ok acc
  | fuel + 1, acc => do
    match ← Lexer.lex with
    | .error e => return .error e
    | .ok t =>
      let lx ← get
      let acc := acc.push ((view lx t).merge (.obj [("state", View.lexState lx)]))
      if t.kind == .eof then return .ok acc else rawTokens view fuel acc

/-- A token of a lone tokenizer, with its text and unit. -/
def rawToken (lx : Lexer) (t : Token) : Json :=
  (View.lexToken lx t).merge (.obj [("lexan", .ofBytes (lx.lexan t)), ("unit", .nat t.unit)])

/-- Answers a raw lexing request for unit index `id`. -/
def lexRaw (req : LexRequest) (id : Nat) : Json := Id.run do
  let mode ← match DirectiveMode.parse req.directives with
    | .ok m => pure m
    | .error msg => return View.failure msg
  let u ← match SourceUnit.create id req.name req.content ⟨UnitFlags.isVirtual⟩ with
    | .ok u => pure u
    | .error (.badIndex i) => return View.failure (UnitError.badIndex i).message
    | .error (.tooLarge e) => return View.error "TooLarge" e.message.toUTF8
  let lx := Lexer.create u mode { dict := Dict.create 0, blobs := BlobStore.create 0 }
  match (rawTokens rawToken maxLexTokens #[]).run lx with
  | (.error e, _) => View.lexError e
  | (.ok ts, lx) =>
    .obj [("tokens", tokenList ts), ("dict_len", .nat lx.env.dict.size),
      ("blobs", .nat lx.env.blobs.count)]

end Session

end NovelScript

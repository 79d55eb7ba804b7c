import NovelScript.Session.Lex
import NovelScript.Compile.Tokenize
import NovelScript.Token.Msgpack
/-!
# Tokenizing a script and rendering the result

A tokenize request runs the single-script pipeline and answers the collected diagnostics,
the token dump and each requested rendering: the dump as aligned lines, JSON or MessagePack,
and the diagnostics in console form (sorted), as a JSON document or in golden form. A
token-dump request renders the dump every way and reads a MessagePack dump back.
-/

namespace NovelScript.Session

/-- The context options of a lexing request, or the answer for a bad mode or encoding. -/
def contextOptions (req : LexRequest) : Except Json ContextOptions := do
  let mode ← match DirectiveMode.parse req.directives with
    | .ok m => pure m
    | .error msg => throw (View.failure msg)
  let enc ← match Encoding.parse req.encoding with
    | .ok e => pure e
    | .error msg => throw (View.failure msg)
  return ⟨req.policy, mode, enc, 0, req.maxIdents, req.maxBlobBytes⟩

/-- The answer for a run that stopped early. -/
def runErrorView : RunError → Json
  | .context e => View.contextError e
  | .lex e => View.lexError e

/-- A dump entry. -/
def dumpEntry (o : TokenOutput) : Json :=
  .obj [("type", .ofBytes o.type), ("lexan", .ofBytes o.lexan), ("value", .ofBytes o.value),
    ("off", .nat o.offset), ("len", .nat o.len), ("line", .nat o.line), ("col", .nat o.col),
    ("flags", .nat o.flags), ("ls", .bool o.lineStart)]

/-- One requested rendering of a run. -/
def rendering (j : Json) (r : TokenizeResult) (dump : List TokenOutput) (name : String) :
    Option (String × Json) :=
  let mode := (PathMode.parse? (j.getStr "path_mode")).getD .auto
  let ds := r.ctx.engine.bag.items.toList
  match name with
  | "tokens_pretty" => some (name, .ofBytes (TokenOutput.pretty dump))
  | "tokens_json" => some (name, .str (TokenOutput.json dump))
  | "tokens_msgpack" => some (name, .str (Hex.encode (Msgpack.encode dump)))
  | "diags_pretty" =>
    let style : ConsoleStyle := ⟨j.getBool "color", mode, "/", !j.getBool "no_context", "/"⟩
    some (name, .ofBytes (Console.reports style r.resolver r.ctx.engine.bag.sorted.toList))
  | "diags_json" =>
    let style : JsonStyle := ⟨true, mode, "/", j.getInt "json_max", true, "/"⟩
    some (name, .str (DiagnosticsJson.build style r.resolver ds).renderDocument)
  | "golden" => some (name, .ofBytes (Golden.format ds r.resolver "/" "/"))
  | _ => none

/-- Answers a tokenize request. -/
def tokenize (j : Json) : Json :=
  let req := LexRequest.ofJson j
  match contextOptions req with
  | .error answer => answer
  | .ok opts =>
    let r := tokenizeBytes opts (j.getInt "max_diagnostics").toNat req.name req.content
    let dump := r.dump r.env
    let renders := match dump with
      | some d => (j.get "render").items.filterMap fun n => rendering j r d (n.str?.getD "")
      | none => []
    .obj ([("has_errors", .bool r.hasErrors),
      ("diags", View.diagnostics r.ctx.engine.bag.items.toList)] ++
      (match r.error with | some e => [("run_error", runErrorView e)] | none => []) ++
      [("dump", match dump with | some d => .arr (d.map dumpEntry) | none => .null)] ++ renders)

/-- The dump written in `format`, or the answer for an unknown format. -/
def writeDump (os : List TokenOutput) (format : String) : Except Json ByteArray :=
  match format with
  | "" | "pretty" => .ok (TokenOutput.pretty os)
  | "json" => .ok (TokenOutput.json os).toUTF8
  | "msgpack" => .ok (Msgpack.encode os)
  | f => .error (View.failure s!"unknown token format {Quoted.quoteText f} (expected pretty|json|msgpack)")

/-- Answers a token-dump request. -/
def tokenDump (j : Json) : Json :=
  let req := LexRequest.ofJson j
  match contextOptions req with
  | .error answer => answer
  | .ok opts =>
    let r := tokenizeBytes opts 0 req.name req.content
    let env : TokenEnv := if j.getBool "raw" then ⟨r.unit, none, none⟩ else r.env
    let dump := (r.dump env).getD []
    let packed := Msgpack.encode dump
    let rewritten : List (String × Json) :=
      match Msgpack.decode packed with
      | .error e => [("rewritten", .str ""), ("write_error", View.failure e.message)]
      | .ok os =>
        match writeDump os (j.getStr "format") with
        | .ok b => [("rewritten", .ofBytes b)]
        | .error answer => [("rewritten", .str ""), ("write_error", answer)]
    let decoded : List (String × Json) :=
      if j.has "decode_hex" then
        match Msgpack.decode ((Hex.decode? (j.getStr "decode_hex")).getD .empty) with
        | .ok os => [("decoded", .ofBytes (TokenOutput.pretty os))]
        | .error e => [("decode_hex_error", View.failure ("decode token dump: " ++ e.message))]
      else []
    let refused : List (String × Json) :=
      if j.getBool "failing_writer" && !dump.isEmpty then
        [("pretty_write_error", View.failure "write refused")]
      else []
    .obj ([("pretty", .ofBytes (TokenOutput.pretty dump)), ("json", .str (TokenOutput.json dump)),
      ("msgpack", .str (Hex.encode packed))] ++ rewritten ++ decoded ++ refused)

end NovelScript.Session

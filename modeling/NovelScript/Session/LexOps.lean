import NovelScript.Session.Tokenize
/-!
# Driving a tokenizer step by step

A lex-ops request opens one script in a fresh context and runs a list of tokenizer calls on
it: look at or take the next token, skip it, start over, and read back the last token, the
last directive, the menu state and the bracket counters. Each step answers with the
tokenizer state after it and the diagnostics it produced.
-/

namespace NovelScript.Session

/-- One tokenizer call and its answer members. -/
def lexOp (op : String) : ContextM (List (String × Json)) := do
  let tokenOf (r : Except LexError Token) : ContextM (List (String × Json)) := do
    match r with
    | .error e => return [("result", View.lexError e)]
    | .ok t =>
      let lx ← ContextM.lexer
      return [("token", View.lexToken lx t)]
  match op with
  | "peek" => tokenOf (← ContextM.withLexer Lexer.peek)
  | "lex" => tokenOf (← ContextM.withLexer Lexer.lex)
  | "skip" =>
    match ← ContextM.withLexer Lexer.lex with
    | .error e => return [("result", View.lexError e)]
    | .ok _ => return []
  | "reset" => ContextM.withLexer (modify Lexer.reset); return []
  | "last" =>
    let lx ← ContextM.lexer
    return [("token", match lx.last with | some t => View.lexToken lx t | none => .null)]
  | "last_directive" =>
    let lx ← ContextM.lexer
    return [("range", match lx.lastDir with | some r => View.range r | none => .null)]
  | "in_menu" =>
    let lx ← ContextM.lexer
    return [("in_menu", .bool lx.flags.inMenu)]
  | "balance" =>
    let lx ← ContextM.lexer
    return [("paren", .nat lx.bal.paren), ("bracket", .nat lx.bal.bracket),
      ("brace", .nat lx.bal.brace), ("other", .nat 0)]
  | op => return [("result", View.error "BadOp" s!"unknown op {op}".toUTF8)]

/-- Runs the calls, each answered with its state and new diagnostics. -/
def lexOps (ops : List String) : ContextM (List Json) :=
  ops.mapM fun op => do
    let before := (← get).engine.bag.items.size
    let out ← lexOp op
    let lx ← ContextM.lexer
    let c ← get
    let fresh := c.engine.bag.items.extract before c.engine.bag.items.size
    return .obj ([("op", .str op)] ++ out ++
      [("state", View.lexState lx), ("diags", View.diagnostics fresh.toList)])

/-- Answers a lex-ops request. -/
def lexOpsSession (j : Json) : Json :=
  let req := LexRequest.ofJson j
  match contextOptions req with
  | .error answer => answer
  | .ok opts =>
    let c := Context.create opts FileReader.empty [.bag]
    let run : ContextM (List Json) := do
      ContextM.init
      let _ ← ContextM.openSourceBytes req.name req.content
      lexOps ((j.get "ops").items.map fun o => o.str?.getD "")
    match (run.run).run c with
    | (.ok steps, c) => .obj [("steps", .arr steps), ("counts", View.counts c.engine)]
    | (.error e, c) =>
      (View.contextError e).merge (.obj [("diags", View.diagnostics c.engine.bag.items.toList),
        ("counts", View.counts c.engine)])

end NovelScript.Session

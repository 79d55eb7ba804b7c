import NovelScript.Compile.Context
import NovelScript.Diag.Render
import NovelScript.Token.Output
/-!
# Tokenizing one script

The single-script pipeline: a fresh context whose diagnostics pass a repeat filter into a
bag (holding at most a given number, 0 for no limit), the built-in types registered, the
script opened from memory and lexed to its end token. A failure to register, to open or to
lex ends the run; what was produced before it is kept.
-/

namespace NovelScript

/-- Why a tokenizing run stopped early. -/
inductive RunError where
  /-- Registering the built-ins or opening the script failed. -/
  | context (e : ContextError)
  /-- Lexing ran out of room. -/
  | lex (e : LexError)

/-- What a tokenizing run produced. -/
structure TokenizeResult where
  /-- The script's unit, when it was opened. -/
  unit : Option SourceUnit
  /-- The tokens lexed, the end token included when lexing finished. -/
  tokens : Array Token
  /-- The context after the run. -/
  ctx : Context
  error : Option RunError

namespace ContextM

/-- Lexes the active unit to its end token, at most `fuel` tokens; stops at a lexing
error. -/
def drain : Nat → Array Token → ContextM (Array Token × Option LexError)
  | 0, acc => return (acc, none)
  | fuel + 1, acc => do
    match ← withLexer Lexer.lex with
    | .error e => return (acc, some e)
    | .ok t => if t.kind == .eof then return (acc.push t, none) else drain fuel (acc.push t)

end ContextM

/-- The most tokens a script of `n` bytes can lex into: each token but the last takes a
byte, and a split literal adds one token a line. -/
def tokenBudget (n : Nat) : Nat := 4 * n + 64

/-- A fresh context for one script, its bag holding at most `maxDiags` diagnostics. -/
def Context.single (opts : ContextOptions) (maxDiags : Nat) (reader : FileReader) : Context :=
  let c := Context.create opts reader [.dedupBag]
  { c with engine := { c.engine with bag := { c.engine.bag with max := maxDiags } } }

/-- Tokenizes one in-memory script. -/
def tokenizeBytes (opts : ContextOptions) (maxDiags : Nat) (name : String) (content : ByteArray) :
    TokenizeResult :=
  let c := Context.single opts maxDiags FileReader.empty
  match (ContextM.init.run).run c with
  | (.error e, c) => ⟨none, #[], c, some (.context e)⟩
  | (.ok (), c) =>
    match ((ContextM.openSourceBytes name content).run).run c with
    | (.error e, c) => ⟨none, #[], c, some (.context e)⟩
    | (.ok u, c) =>
      match ((ContextM.drain (tokenBudget content.size) #[]).run).run c with
      | (.ok (ts, err), c) => ⟨some u, ts, c, err.map .lex⟩
      | (.error e, c) => ⟨some u, #[], c, some (.context e)⟩

namespace TokenizeResult

/-- Whether an error diagnostic was collected. -/
def hasErrors (r : TokenizeResult) : Bool := r.ctx.engine.bag.hasErrors

/-- The resolver of the run's units. -/
def resolver (r : TokenizeResult) : Resolver := fun i => r.ctx.unit? i

/-- The payload decoder of the run. -/
def env (r : TokenizeResult) : TokenEnv := ⟨r.unit, some r.ctx.dict, some r.ctx.blobs⟩

/-- The dump of the tokens; none when the script was not opened. -/
def dump (r : TokenizeResult) (env : TokenEnv) : Option (List TokenOutput) :=
  r.unit.map fun _ => TokenOutput.build env r.tokens.toList

end TokenizeResult

end NovelScript

import NovelScript.Lexer.Literal
import NovelScript.Lexer.Trivia
import NovelScript.Ident.Dict
import NovelScript.Blob.Store
import NovelScript.Diag.Engine
import NovelScript.Source.Unit
/-!
# Tokenizer state

A tokenizer walks one unit with a cursor and one token of lookahead. Beside the cursor it
keeps what the grammar needs from the past: flags that allow labels and ASCII dialogue (at a
line start, after `goto`, after a speaker), the menu state, the three bracket counters, an
open message split by a blank line, whether a newline was crossed since the last token, and
a sticky error once the dictionary or the string store is full. The dictionary, the store and
the diagnostics engine are shared with the other tokenizers of a compilation (`LexEnv`).
-/

namespace NovelScript

/-- The grammar flags carried from token to token. -/
structure LexFlags where
  /-- A `*name` label may follow: at a line start and after `goto`. -/
  acceptLabel : Bool := false
  /-- An ASCII dialogue opener may follow: at a line start and after a speaker. -/
  acceptDialogue : Bool := false
  /-- A `menu` keyword waits for its `{`. -/
  awaitMenu : Bool := false
  /-- Inside the braces of a menu body. -/
  inMenu : Bool := false
  /-- A blank token of a split message was just produced. -/
  wasBlank : Bool := false
  deriving DecidableEq, Repr

namespace LexFlags

/-- The flags as bits, `acceptLabel` lowest. -/
def bits (f : LexFlags) : Nat :=
  (if f.acceptLabel then 1 else 0) + (if f.acceptDialogue then 2 else 0) +
  (if f.awaitMenu then 4 else 0) + (if f.inMenu then 8 else 0) + (if f.wasBlank then 16 else 0)

/-- The names of the set bits of `n`, joined by `|`, or `0` when none is set. -/
def renderBits (n : Nat) : String :=
  let names := ["AcceptLabel", "AcceptDialogue", "AwaitMenu", "InMenu", "WasBlank"]
  let set := (names.zip (List.range 5)).filterMap fun (nm, i) =>
    if (n >>> i) % 2 == 1 then some nm else none
  if set.isEmpty then "0" else "|".intercalate set

/-- The printed form of the flags. -/
def render (f : LexFlags) : String := renderBits f.bits

end LexFlags

/-- The open-bracket counters. -/
structure Balances where
  paren : Nat := 0
  bracket : Nat := 0
  brace : Nat := 0
  deriving DecidableEq, Repr

/-- The dictionary or the string store is full. -/
inductive CapacityError where
  | dict (e : DictFull)
  | blob (e : BlobFull)

/-- The message of a capacity error. -/
def CapacityError.message : CapacityError → ByteArray
  | .dict e => e.message
  | .blob e => e.message.toUTF8

/-- The error that stops a tokenizer: a capacity error while lexing the unit at `path`. -/
structure LexError where
  path : String
  cause : CapacityError

/-- The message of a lexing error. -/
def LexError.message (e : LexError) : ByteArray :=
  ("lex ".toUTF8 ++ e.path.toUTF8) ++ (": ".toUTF8 ++ e.cause.message)

/-- What the tokenizers of one compilation share. -/
structure LexEnv where
  dict : Dict := {}
  blobs : BlobStore := {}
  /-- The engine problems are reported to; without one they are dropped. -/
  engine : Option Engine := none

/-- A tokenizer over one unit. -/
structure Lexer where
  unit : SourceUnit
  mode : DirectiveMode
  env : LexEnv
  off : Nat := 0
  look : Option Token := none
  last : Option Token := none
  err : Option LexError := none
  done : Bool := false
  flags : LexFlags := {}
  bal : Balances := {}
  menuDepth : Nat := 0
  menuKw : Range := Range.none
  newline : Bool := true
  lit : Option OpenLiteral := none
  lastDir : Option Range := none

/-- The span of a token. -/
def Token.range (t : Token) : Range := ⟨t.unit, t.off, t.len⟩

/-- Tokenizer steps. -/
abbrev LexM := StateM Lexer

/-- Tokenizer steps that may stop on a capacity error. -/
abbrev ScanM := ExceptT LexError LexM

namespace Lexer

/-- A tokenizer at the start of `unit`. -/
def create (unit : SourceUnit) (mode : DirectiveMode) (env : LexEnv) : Lexer :=
  { unit := unit, mode := mode, env := env }

/-- The tokenizer moved back to the start, every piece of state fresh; the shared
dictionary, store and engine keep their contents. -/
def reset (lx : Lexer) : Lexer := create lx.unit lx.mode lx.env

/-- The text being read. -/
def text (lx : Lexer) : ByteArray := lx.unit.content

/-- The counter of the pair opened by a bracket kind; 0 for other kinds. -/
def balance (lx : Lexer) (k : TokenKind) : Nat :=
  match k with
  | .lParen => lx.bal.paren | .lBracket => lx.bal.bracket | .lBrace => lx.bal.brace
  | _ => 0

/-- The bytes of a token. -/
def lexan (lx : Lexer) (t : Token) : ByteArray := lx.unit.slice t.range

end Lexer

namespace LexM

open Utf8

/-- The byte at the cursor, 0 at the end. -/
def peek : LexM UInt8 := do return byteAt (← get).text (← get).off

/-- The byte `n` past the cursor, 0 past the end. -/
def peekAt (n : Nat) : LexM UInt8 := do return byteAt (← get).text ((← get).off + n)

/-- The cursor offset. -/
def pos : LexM Nat := do return (← get).off

/-- Moves the cursor to `i`. -/
def seek (i : Nat) : LexM Unit := modify fun lx => { lx with off := i }

/-- Moves the cursor `n` bytes on. -/
def advance (n : Nat) : LexM Unit := modify fun lx => { lx with off := lx.off + n }

/-- The span from `start` to `stop` of this unit. -/
def rangeOf (start stop : Nat) : LexM Range := do return Range.make (← get).unit.id start stop

/-- Reports `code` at `r`, when the tokenizer has an engine. -/
def report (r : Range) (code : Code) (args : Array Arg := #[]) : LexM Unit :=
  modify fun lx => match lx.env.engine with
    | some e => { lx with env := { lx.env with engine := some (e.diagnose r code args) } }
    | none => lx

/-- Reports `code` over the bytes from `start` to `stop`. -/
def reportSpan (start stop : Nat) (code : Code) (args : Array Arg := #[]) : LexM Unit := do
  report (← rangeOf start stop) code args

/-- Replaces the flags. -/
def setFlags (f : LexFlags → LexFlags) : LexM Unit := modify fun lx => { lx with flags := f lx.flags }

/-- A token of `kind` from `start` to the cursor. One longer than the length ceiling is
reported (unless it is already an error token) and becomes an error token clamped to the
ceiling; the flag says whether the token kept its kind. -/
def emit (kind : TokenKind) (start : Nat) : LexM (Token × Bool) := do
  let stop ← pos
  let len := stop - start
  if len > maxTokenLen then
    if kind != .error then
      reportSpan start stop Code.lexTokenTooLong #[.int maxTokenLen]
    return (⟨.error, (← get).unit.id, start, maxTokenLen, false, 0, 0⟩, false)
  return (⟨kind, (← get).unit.id, start, len, false, 0, 0⟩, true)

/-- An error token from `start` to the cursor. -/
def emitError (start : Nat) : LexM Token := do return (← emit .error start).1

/-- Reports a full dictionary or store over `r` and gives the error that stops lexing. -/
def outOfMemory (r : Range) (cause : CapacityError) : LexM LexError := do
  report r Code.resOutOfMemory #[.str cause.message]
  return ⟨(← get).unit.path, cause⟩

/-- The slot of `text` in the shared dictionary, interning it. -/
def intern (text : ByteArray) : LexM (Except DictFull Nat) := do
  let lx ← get
  match lx.env.dict.lookup text with
  | .ok (s, d) => set { lx with env := { lx.env with dict := d } }; return .ok s
  | .error e => return .error e

/-- The entry of a slot, tagging keyword spellings. -/
def resolve (slot : Nat) : LexM (Option DictEntry) := do
  let lx ← get
  let (e, d) := lx.env.dict.resolve slot
  set { lx with env := { lx.env with dict := d } }
  return e

/-- The index of `text` in the shared string store, storing it. -/
def store (text : ByteArray) : LexM (Except BlobFull Nat) := do
  let lx ← get
  match lx.env.blobs.intern text with
  | .ok (i, s) => set { lx with env := { lx.env with blobs := s } }; return .ok i
  | .error e => return .error e

end LexM

end NovelScript

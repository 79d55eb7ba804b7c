import NovelScript.Lexer.Scan
/-!
# The token stream

`Lexer.peek` computes the token at the cursor once and keeps it; `Lexer.lex` hands it out and
moves on. Between two significant tokens the stream skips trivia, turns directive comments
into tokens where the mode asks, and updates the grammar state: labels after `goto` and at a
line start, dialogue after a speaker, menu bodies, the bracket counters. At the end it
reports a menu that never got its body and brackets left open, once, and then keeps giving
the end token.
-/

namespace NovelScript

namespace LexM

open Utf8 Chars

/-- Reports a closer whose counter is zero at `place`, or lowers the counter. -/
def close (n : Nat) (place : Range) (spelling : String) : LexM Nat := do
  if n == 0 then
    report place Code.lexUnbalancedClose #[.str spelling.toUTF8]
    return 0
  return n - 1

/-- Updates the grammar state after a significant token and gives the token with its menu
flags. -/
def after (tok : Token) : LexM Token := do
  let lx ← get
  if lx.flags.awaitMenu && tok.kind != .lBrace then
    report lx.menuKw Code.strMissingMenuBody
    setFlags fun f => { f with awaitMenu := false }
  setFlags fun f => { f with acceptLabel := false, acceptDialogue := false }
  let lx ← get
  match tok.kind with
  | .keyword =>
    if tok.keyword == keywordGoto then setFlags fun f => { f with acceptLabel := true }
    else if tok.keyword == keywordMenu then
      if lx.flags.inMenu then report tok.range Code.strNestedMenu
      else
        setFlags fun f => { f with awaitMenu := true }
        modify fun lx => { lx with menuKw := tok.range }
    return tok
  | .speaker | .character =>
    setFlags fun f => { f with acceptDialogue := true }
    return tok
  | .lParen =>
    modify fun lx => { lx with bal := { lx.bal with paren := lx.bal.paren + 1 } }
    return tok
  | .rParen =>
    let n ← close lx.bal.paren tok.range ")"
    modify fun lx => { lx with bal := { lx.bal with paren := n } }
    return tok
  | .lBracket =>
    modify fun lx => { lx with bal := { lx.bal with bracket := lx.bal.bracket + 1 } }
    return tok
  | .rBracket =>
    let n ← close lx.bal.bracket tok.range "]"
    modify fun lx => { lx with bal := { lx.bal with bracket := n } }
    return tok
  | .lBrace =>
    let depth := lx.bal.brace + 1
    modify fun lx => { lx with bal := { lx.bal with brace := depth } }
    if lx.flags.awaitMenu then
      setFlags fun f => { f with awaitMenu := false, inMenu := true }
      modify fun lx => { lx with menuDepth := depth }
      return { tok with flags := TokenFlag.menuOpen }
    return tok
  | .rBrace =>
    let tok ← if lx.flags.inMenu && lx.bal.brace == lx.menuDepth then do
        setFlags fun f => { f with inMenu := false }
        modify fun lx => { lx with menuDepth := 0 }
        pure { tok with flags := TokenFlag.menuClose }
      else pure tok
    let n ← close lx.bal.brace tok.range "\x7d"
    modify fun lx => { lx with bal := { lx.bal with brace := n } }
    return tok
  | _ => return tok

/-- The end token; the first time, the checks of the end of the unit. -/
def eof : LexM Token := do
  let lx ← get
  let size := lx.text.size
  if !lx.done then
    modify fun lx => { lx with done := true }
    if lx.flags.awaitMenu then
      report lx.menuKw Code.strMissingMenuBody
      setFlags fun f => { f with awaitMenu := false }
    let place ← rangeOf size size
    for (n, spelling) in [(lx.bal.paren, "("), (lx.bal.bracket, "["), (lx.bal.brace, "\x7b")] do
      if n > 0 then report place Code.lexUnbalancedOpen #[.str spelling.toUTF8, .int n]
  return ⟨.eof, lx.unit.id, size, 0, lx.newline, 0, 0⟩

/-- The end of the whitespace between two pieces of a split message. -/
def gapEnd (bs : ByteArray) (i : Nat) : Nat :=
  if i < bs.size then
    let b := byteAt bs i
    if b == 0x0A || isBlank b then gapEnd bs (i + 1)
    else if spaceAt bs i then gapEnd bs (i + 3)
    else i
  else i
termination_by bs.size - i

/-- Resumes a message split by a blank line: first a blank token over the whitespace between
the pieces, then the next piece. Whitespace beyond the length ceiling stays outside the
blank token; a message that ends with the input is unterminated. -/
def continueMessage (lit : OpenLiteral) : ScanM Token := do
  let lx ← get
  if lx.flags.wasBlank then
    setFlags fun f => { f with wasBlank := false }
    return (← scanLiteral lx.off lit true)
  let start := lx.off
  let stop := gapEnd lx.text start
  seek stop
  setFlags fun f => { f with wasBlank := true }
  if stop ≥ lx.text.size then
    modify fun lx => { lx with lit := none }
    setFlags fun f => { f with wasBlank := false }
    report lit.opener Code.lexUnterminatedString
  return ⟨.blank, lx.unit.id, start, min (stop - start) maxTokenLen, false, 0, 0⟩

/-- Applies what the trivia scan found, in order. -/
def applyTrivia (t : Trivia) : LexM Unit := do
  modify fun lx => { lx with off := t.stop, newline := lx.newline || t.newline }
  for n in t.notes do
    match n with
    | .unterminatedComment s => reportSpan s (s + 2) Code.lexUnterminatedComment
    | .malformedDirective s e msg => reportSpan s e Code.lexMalformedDirective #[.str msg]
    | .keptDirective s e => do
      let r ← rangeOf s e
      modify fun lx => { lx with lastDir := some r }

/-- The next token of the stream. -/
def next : ScanM Token := do
  let lx ← get
  if let some lit := lx.lit then return (← continueMessage lit)
  let t := Trivia.skip lx.text lx.mode lx.off false #[]
  applyTrivia t
  if let some hit := t.directive then
    seek hit.stop
    let (tok, ok) ← emit .directive hit.start
    let tok := if ok && hit.test then { tok with flags := TokenFlag.testDirective } else tok
    return { tok with lineStart := (← get).newline }
  let lx ← get
  if lx.off ≥ lx.text.size then return (← eof)
  let lineStart := lx.newline
  modify fun lx => { lx with newline := false }
  if lineStart then setFlags fun f => { f with acceptLabel := true, acceptDialogue := true }
  let tok ← scan
  after { tok with lineStart := lineStart }

end LexM

namespace Lexer

/-- The token at the cursor, computed once; a stopped tokenizer keeps giving its error. -/
def peek : StateM Lexer (Except LexError Token) := do
  let lx ← get
  if let some e := lx.err then return .error e
  if let some t := lx.look then return .ok t
  match ← LexM.next.run with
  | .ok t =>
    modify fun lx => { lx with look := some t }
    return .ok t
  | .error e =>
    modify fun lx => { lx with err := some e }
    return .error e

/-- The token at the cursor, moving past it. After the end it keeps giving the end token. -/
def lex : StateM Lexer (Except LexError Token) := do
  let r ← peek
  if let .ok t := r then modify fun lx => { lx with look := none, last := some t }
  return r

end Lexer

end NovelScript

import NovelScript.Lexer.State
/-!
# Well-formed token streams

A drained token stream is well formed for its unit when it ends with exactly one end token
at the end of the text with length 0, every token belongs to the unit and lies inside its
text, and tokens come in text order without overlapping. The check names the first rule that
fails, in that order.
-/

namespace NovelScript

/-- The first rule a token stream breaks. -/
inductive StreamViolation where
  | empty
  /-- The last token is not the end token. -/
  | lastNotEof (kind : TokenKind)
  /-- The end token is not an empty token at the end of the text. -/
  | eofMisplaced (off len size : Nat)
  /-- Token `i` belongs to another unit. -/
  | foreignUnit (i unit id : Nat)
  /-- Token `i` is an end token before the last one. -/
  | earlyEof (i : Nat)
  /-- Token `i` ends past the text. -/
  | pastEnd (i : Nat) (kind : TokenKind) (stop size : Nat)
  /-- Token `i` starts before the previous one ends. -/
  | overlap (i : Nat) (kind : TokenKind) (off prevEnd : Nat)

/-- The message of a violation. -/
def StreamViolation.message : StreamViolation → String
  | .empty => "empty token stream"
  | .lastNotEof k => s!"stream ends with {k.print}, want EOF"
  | .eofMisplaced off len n => s!"EOF at {off}+{len}, want {n}+0"
  | .foreignUnit i u id => s!"token {i}: unit {u}, want {id}"
  | .earlyEof i => s!"token {i}: EOF before the end of the stream"
  | .pastEnd i k e n => s!"token {i} ({k.print}): end {e} beyond content {n}"
  | .overlap i k off e => s!"token {i} ({k.print}) at {off} overlaps previous token ending at {e}"

/-- Checks tokens `i, i+1, …` of a stream of `count` tokens, the previous one ending at
`prevEnd`. -/
def checkTokens (u : SourceUnit) (count : Nat) : List Token → Nat → Nat → Option StreamViolation
  | [], _, _ => none
  | t :: rest, i, prevEnd =>
    if t.unit != u.id then some (.foreignUnit i t.unit u.id)
    else if t.kind == .eof && i + 1 != count then some (.earlyEof i)
    else if t.endOff > u.size then some (.pastEnd i t.kind t.endOff u.size)
    else if t.off < prevEnd then some (.overlap i t.kind t.off prevEnd)
    else checkTokens u count rest (i + 1) t.endOff

/-- The first rule the stream breaks for unit `u`, if any. -/
def checkStream (u : SourceUnit) (ts : List Token) : Option StreamViolation :=
  match ts.getLast? with
  | none => some .empty
  | some last =>
    if last.kind != .eof then some (.lastNotEof last.kind)
    else if last.off != u.size || last.len != 0 then some (.eofMisplaced last.off last.len u.size)
    else checkTokens u ts.length ts 0 0

end NovelScript

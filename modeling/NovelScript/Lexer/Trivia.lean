import NovelScript.Lexer.Chars
import NovelScript.Directive.Expect
import NovelScript.Text.Bytes
/-!
# Trivia

Between tokens the tokenizer skips blanks, newlines, the ideographic space, `//` comments up
to (not including) their newline, and `/* */` comments, which nest; an unterminated block
comment runs to the end of the input. A `//::` comment runs to the end of its line, or to
just after the first `://` on it. What becomes of it depends on the directive mode: it is
skipped (ignore), remembered (keep-last), or handed back as a directive token (emit, and in
tests mode only when its body parses as an expectation).

`skip` reads the trivia from an offset and says where it stops, whether a newline was
crossed, what it has to report, and the directive comment it stopped at, if any.
-/

namespace NovelScript

/-- What happens to `//::` comments. -/
inductive DirectiveMode where
  /-- They are plain comments. -/
  | ignore
  /-- Each becomes a directive token. -/
  | emit
  /-- Only well-formed expectations become directive tokens. -/
  | tests
  /-- None becomes a token; the last one is remembered. -/
  | keepLast
  deriving DecidableEq, Repr

namespace DirectiveMode

/-- The code of a mode. -/
def code : DirectiveMode → Nat
  | ignore => 0 | emit => 1 | tests => 2 | keepLast => 3

/-- The printed name of mode code `n`; unknown codes read as `ignore`. -/
def nameOfCode (n : Nat) : String :=
  match n with
  | 1 => "emit" | 2 => "tests" | 3 => "keep-last" | _ => "ignore"

/-- The printed name of a mode. -/
def name (m : DirectiveMode) : String := nameOfCode m.code

/-- The mode spelled `s`, ignoring case and surrounding white space. -/
def parse (s : String) : Except String DirectiveMode :=
  match Bytes.asciiLower (Bytes.trimText s) with
  | "" | "ignore" | "off" => .ok ignore
  | "emit" | "all" => .ok emit
  | "tests" | "emit-tests" => .ok tests
  | "keep-last" | "last" => .ok keepLast
  | _ => .error s!"unknown directive mode {Quoted.quoteText s} (expected ignore|emit|tests|keep-last)"

end DirectiveMode

/-- Something the trivia scan reports. -/
inductive TriviaNote where
  /-- A block comment opened at `start` never closes. -/
  | unterminatedComment (start : Nat)
  /-- A `//::` comment claims to be an expectation but does not parse. -/
  | malformedDirective (start stop : Nat) (msg : ByteArray)
  /-- A `//::` comment seen in keep-last mode. -/
  | keptDirective (start stop : Nat)

/-- A directive comment that becomes a token. -/
structure DirectiveHit where
  start : Nat
  stop : Nat
  /-- Whether its body parsed as an expectation. -/
  test : Bool

/-- The outcome of skipping trivia. -/
structure Trivia where
  stop : Nat
  newline : Bool
  notes : Array TriviaNote
  directive : Option DirectiveHit

namespace Trivia

open Utf8 Chars

/-- The offset of the first newline at or after `i`, or the end. -/
def lineEnd (bs : ByteArray) (i : Nat) : Nat := runEnd bs (· != 0x0A) i

/-- The end of a block comment whose body starts at `i`, nested `depth` deep: where it ends,
whether it closed, and whether a newline was inside. -/
def blockEnd (bs : ByteArray) (i depth : Nat) (nl : Bool) : Nat × Bool × Bool :=
  if i < bs.size then
    let b := byteAt bs i
    let b1 := byteAt bs (i + 1)
    if b == 0x2F && b1 == 0x2A then blockEnd bs (i + 2) (depth + 1) nl
    else if b == 0x2A && b1 == 0x2F then
      if depth ≤ 1 then (i + 2, true, nl) else blockEnd bs (i + 2) (depth - 1) nl
    else blockEnd bs (i + 1) depth (nl || b == 0x0A)
  else (i, false, nl)
termination_by bs.size - i

/-- The end of the `//::` comment at `start`: just after the first `://` of its line, or the
end of the line. -/
def directiveEnd (bs : ByteArray) (start : Nat) : Nat :=
  let bodyStart := start + 4
  let stop := lineEnd bs bodyStart
  match Bytes.indexOf (bs.extract bodyStart stop) Directive.terminator with
  | some k => bodyStart + k + 3
  | none => stop

/-- Whether the text of a directive comment is a well-formed expectation, or the parse error
of a body that claims to be one. -/
def classify (text : ByteArray) : Bool × Option ByteArray :=
  let body := Directive.body text
  if Directive.isExpect body then
    match Directive.parse body with
    | .ok _ => (true, none)
    | .error e => (false, some e.message)
  else (false, none)

/-- Skips trivia from `i` on. -/
def skip (bs : ByteArray) (mode : DirectiveMode) (i : Nat) (nl : Bool)
    (notes : Array TriviaNote) : Trivia :=
  if i < bs.size then
    let b := byteAt bs i
    let b1 := byteAt bs (i + 1)
    if isBlank b then skip bs mode (i + 1) nl notes
    else if b == 0x0A then skip bs mode (i + 1) true notes
    else if spaceAt bs i then skip bs mode (i + 3) nl notes
    else if b == 0x2F && b1 == 0x2F then
      if Bytes.occursAt bs Directive.prefixText i then
        let stop := max (directiveEnd bs i) (i + 1)
        match mode with
        | .ignore => skip bs mode stop nl notes
        | .keepLast => skip bs mode stop nl (notes.push (.keptDirective i stop))
        | _ =>
          let (test, err) := classify (bs.extract i stop)
          let notes := match err with
            | some m => notes.push (.malformedDirective i stop m)
            | none => notes
          if mode == .tests && !test then skip bs mode stop nl notes
          else ⟨i, nl, notes, some ⟨i, stop, test⟩⟩
      else skip bs mode (max (lineEnd bs i) (i + 1)) nl notes
    else if b == 0x2F && b1 == 0x2A then
      let (stop, closed, nl2) := blockEnd bs (i + 2) 1 false
      let notes := if closed then notes else notes.push (.unterminatedComment i)
      skip bs mode (max stop (i + 1)) (nl || nl2) notes
    else ⟨i, nl, notes, none⟩
  else ⟨i, nl, notes, none⟩
termination_by bs.size - i

end Trivia

end NovelScript

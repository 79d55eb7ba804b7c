import NovelScript.Text.Bytes
import NovelScript.Text.Quoted
import NovelScript.Token.Kind
/-!
# Self-test expectations

A directive comment starts with `//::` and may end early at `://`; its body is what lies
between, trimmed. A body starting with `EXPECT-` is an expectation about the token stream:

* `EXPECT-EOF`: the next token ends the input;
* `EXPECT-()BAL:n` (also `[]` and `{}`): that bracket counter is `n`, a non-negative integer;
* `EXPECT-TOKEN:[+L] Kind literal`: the next token has that kind, starts a line when `+L` is
  given, and has that text; the literal may be left out for `EOF` and `Blank`.
-/

namespace NovelScript

/-- A parsed expectation. -/
inductive Expect where
  /-- The next token's kind, line start and (when not empty) text. -/
  | token (lineStart : Bool) (kind : TokenKind) (literal : ByteArray)
  /-- The counter of the pair opened by `opener`. -/
  | balance (opener : TokenKind) (count : Nat)
  /-- The next token ends the input. -/
  | eof

/-- The kinds of expectation, with `none` for no expectation. -/
inductive ExpectKind where
  | none | token | balance | eof
  deriving DecidableEq, Repr

namespace ExpectKind

/-- The code of a kind. -/
def code : ExpectKind → Nat
  | none => 0 | token => 1 | balance => 2 | eof => 3

/-- The printed name of a kind. -/
def name : ExpectKind → String
  | none => "none" | token => "token" | balance => "balance" | eof => "eof"

/-- The kind printed as `s`; `none` is not a name that parses. -/
def parse? (s : String) : Option ExpectKind :=
  [token, balance, eof].find? (·.name == s)

end ExpectKind

/-- The bracket pairs of balance expectations. -/
def balancePairs : List (String × TokenKind) :=
  [("()", .lParen), ("[]", .lBracket), ("\x7b\x7d", .lBrace)]

/-- The pair spelling of an opener kind, `??` for other kinds. -/
def pairOf (k : TokenKind) : String :=
  ((balancePairs.find? (·.2 == k)).map (·.1)).getD "??"

namespace Expect

/-- The kind of an expectation. -/
def kind : Expect → ExpectKind
  | token .. => .token | balance .. => .balance | eof => .eof

/-- The text of an expectation, as failure reports show it. -/
def describe : Expect → ByteArray
  | token ls k lit =>
    let s := k.print.toUTF8
    let s := if lit.size > 0 then (s ++ " `".toUTF8 ++ lit) ++ "`".toUTF8 else s
    if ls then s ++ " at line start".toUTF8 else s
  | balance o n => s!"{pairOf o} balance {n}".toUTF8
  | eof => "EOF".toUTF8

end Expect

/-- Why a body is no valid expectation. -/
inductive ExpectError where
  /-- The body does not start with `EXPECT-`. -/
  | notExpect
  /-- The word after `EXPECT-` names no expectation. -/
  | unknownDirective (word : ByteArray)
  /-- A balance count is missing, not an integer, or negative. -/
  | badCount (pair : String)
  | missingType
  | unknownType (name : ByteArray)
  | missingLiteral (name : ByteArray)

/-- The message of a parse error. -/
def ExpectError.message : ExpectError → ByteArray
  | .notExpect => "not an EXPECT directive".toUTF8
  | .unknownDirective w => "unknown directive EXPECT-".toUTF8 ++ w
  | .badCount p => s!"EXPECT-{p}BAL: needs a non-negative count".toUTF8
  | .missingType => "EXPECT-TOKEN needs a token type".toUTF8
  | .unknownType n => s!"unknown token type {Quoted.quote n}".toUTF8
  | .missingLiteral n => ("EXPECT-TOKEN ".toUTF8 ++ n) ++ " needs a literal".toUTF8

namespace Directive

/-- The opening of a directive comment. -/
def prefixText : ByteArray := "//::".toUTF8

/-- The optional early end of a directive comment. -/
def terminator : ByteArray := "://".toUTF8

/-- The opening of an expectation body. -/
def expectText : ByteArray := "EXPECT-".toUTF8

/-- The body of a directive comment: without the opening, cut at the first terminator, and
trimmed. -/
def body (comment : ByteArray) : ByteArray :=
  let b := if Bytes.startsWith comment prefixText then Bytes.drop comment prefixText.size else comment
  let b := match Bytes.indexOf b terminator with
    | some i => Bytes.take b i
    | none => b
  Bytes.trimSpace b

/-- Whether a body claims to be an expectation. -/
def isExpect (b : ByteArray) : Bool := Bytes.startsWith b expectText

/-- The value of decimal digits `ds`, or `none` if one is not a digit. -/
def digitsValue (ds : List UInt8) : Option Nat :=
  ds.foldl (fun acc c => acc.bind fun v =>
    if 0x30 ≤ c && c ≤ 0x39 then some (v * 10 + (c - 0x30).toNat) else none) (some 0)

/-- A signed decimal integer that fits 64 bits: an optional sign and at least one digit. -/
def parseInt? (b : ByteArray) : Option Int :=
  let cs := b.toList
  let (neg, ds) := match cs with
    | 0x2D :: r => (true, r)
    | 0x2B :: r => (false, r)
    | r => (false, r)
  if ds.isEmpty then none else
  (digitsValue ds).bind fun v =>
    let x : Int := if neg then -(v : Int) else v
    if x < -(Int.pow 2 63 : Int) || x ≥ Int.pow 2 63 then none else some x

/-- Parses the part after `EXPECT-TOKEN:`. -/
def parseToken (rest : ByteArray) : Except ExpectError Expect := do
  let blanks : List UInt8 := [0x20, 0x09]
  let rest := Bytes.trimLeftSet rest blanks
  let (ls, rest) :=
    if Bytes.startsWith rest "+L".toUTF8 then (true, Bytes.trimLeftSet (Bytes.drop rest 2) blanks)
    else (false, rest)
  let (name, lit) := match Bytes.findSet rest blanks 0 with
    | some i => (Bytes.take rest i, Bytes.trimSpace (Bytes.drop rest (i + 1)))
    | none => (rest, ByteArray.empty)
  if name.size = 0 then throw .missingType
  let some k := (String.fromUTF8? name).bind TokenKind.parse? | throw (.unknownType name)
  if lit.size = 0 && k != .eof && k != .blank then throw (.missingLiteral name)
  return .token ls k lit

/-- Parses a directive body. -/
def parse (b : ByteArray) : Except ExpectError Expect :=
  if !isExpect b then .error .notExpect else
  let rest := Bytes.drop b expectText.size
  if rest == "EOF".toUTF8 then .ok .eof
  else if Bytes.startsWith rest "TOKEN:".toUTF8 then parseToken (Bytes.drop rest 6)
  else
    let forms := balancePairs.filter fun (p, _) => Bytes.startsWith rest (p ++ "BAL:").toUTF8
    match forms with
    | (p, o) :: _ =>
      let head := (p ++ "BAL:").toUTF8
      match parseInt? (Bytes.trimSpace (Bytes.drop rest head.size)) with
      | some n => if n < 0 then .error (.badCount p) else .ok (.balance o n.toNat)
      | none => .error (.badCount p)
    | [] =>
      let word := match Bytes.findSet rest [0x20, 0x09, 0x3A] 0 with
        | some i => Bytes.take rest i
        | none => rest
      .error (.unknownDirective word)

end Directive

end NovelScript

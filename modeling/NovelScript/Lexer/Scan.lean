import NovelScript.Lexer.State
import NovelScript.Lexer.Numeral
/-!
# Scanning one significant token

The scanner looks at the first byte (or character) at the cursor and reads one token: an
identifier or keyword, a number, a string, speaker or message literal, a sigil name
(`*label`, `@character`, `$sys`, `#cfg`, and the bracketed `$<a.b>`), a bracket or an
operator. Every path consumes at least one byte. Problems are reported to the engine and
give error tokens; only a full dictionary or string store stops the scan.
-/

namespace NovelScript

namespace LexM

open Utf8 Chars

/-- The text under the cursor. -/
def content : LexM ByteArray := do return (← get).text

/-- The slot of `text`, or the stop after reporting a full dictionary over `[start, stop)`. -/
def internName (text : ByteArray) (start stop : Nat) : ScanM Nat := do
  match ← intern text with
  | .ok s => return s
  | .error e => throw (← outOfMemory (← rangeOf start stop) (.dict e))

/-- An identifier, keyword or type name from `start`. A dictionary entry tagged as a keyword
or a built-in type decides the kind; otherwise an uppercase first letter makes a type name. -/
def scanIdent (start : Nat) : ScanM Token := do
  let bs ← content
  let first := (decodeAt bs start).1
  let stop := identEnd bs start
  seek stop
  if stop - start > maxTokenLen then return (← emit .name start).1
  let slot ← internName (bs.extract start stop) start stop
  let entry ← resolve slot
  let tag : Option SlotTag := entry.map (·.tag)
  let (kind, flags) : TokenKind × UInt8 := match tag with
    | some (.keyword k) => (.keyword, k.toUInt8)
    | some (.type _) => (.typeName, TokenFlag.builtin)
    | _ => if Letter.isUpper first then (.typeName, 0) else (.name, 0)
  let (tok, _) ← emit kind start
  return { tok with flags := flags, value := slot.toUInt64 }

/-- The name after a sigil that is already consumed; the sigil is not part of the interned
text. -/
def scanSigilName (start : Nat) (kind : TokenKind) : ScanM Token := do
  let bs ← content
  let nameStart ← pos
  let stop := identEnd bs nameStart
  seek stop
  if stop - start > maxTokenLen then return (← emit kind start).1
  let slot ← internName (bs.extract nameStart stop) start stop
  let (tok, _) ← emit kind start
  return { tok with value := slot.toUInt64 }

/-- A sigil with nothing after it that could be named. -/
def loneSigil (start : Nat) : LexM Token := do
  let b ← peek
  advance 1
  reportSpan start (start + 1) Code.lexLoneSigil #[.str (encode b.toNat)]
  emitError start

/-- Whether a byte may stand in the body of a bracketed name. -/
def isBracketedNameByte (b : UInt8) : Bool := isIdentContinueByte b || b == 0x2E || b == 0x2D

/-- The body of `$<name>` or `#<name>`, the sigil and `<` consumed. Without a `>` right after
the body, reading resumes after the next `>` of the word, or stops at its end. -/
def scanBracketed (start : Nat) (kind : TokenKind) : ScanM Token := do
  let bs ← content
  let bodyStart ← pos
  let bodyEnd := runEnd bs isBracketedNameByte bodyStart
  if bodyEnd < bs.size && byteAt bs bodyEnd == 0x3E then
    seek (bodyEnd + 1)
    if bodyEnd == bodyStart then
      reportSpan start (bodyEnd + 1) Code.lexBracketedNameMalformed #[.str .empty]
      return (← emitError start)
    if bodyEnd + 1 - start > maxTokenLen then return (← emit kind start).1
    let slot ← internName (bs.extract bodyStart bodyEnd) start (bodyEnd + 1)
    let (tok, _) ← emit kind start
    return { tok with flags := TokenFlag.bracketed, value := slot.toUInt64 }
  let stop := runEnd bs (fun b => !(b == 0x3E || isBlank b || b == 0x0A)) bodyEnd
  if stop < bs.size && byteAt bs stop == 0x3E then
    seek (stop + 1)
    reportSpan start (stop + 1) Code.lexBracketedNameMalformed #[.str (bs.extract bodyStart stop)]
  else
    seek stop
    reportSpan start stop Code.lexBracketedNameUnclosed
  emitError start

/-- A literal body from the cursor, then its token. A closed speaker or message may carry a
flow letter right after its closer; an unterminated literal is reported at its opener. -/
def scanLiteral (start : Nat) (lit : OpenLiteral) (continuation : Bool) : ScanM Token := do
  let bs ← content
  let b := Literal.body bs lit (← pos) .empty #[]
  seek b.stop
  for n in b.notes do
    reportSpan n.start n.stop n.code n.args
  let flow ← match b.ending with
    | .closed => do
      modify fun lx => { lx with lit := none }
      match Flow.ofByte? (byteAt bs b.stop) with
      | some f =>
        if lit.kind != .string && !identContinueAt bs (b.stop + 1) then
          advance 1; pure f
        else pure Flow.none
      | none => pure Flow.none
    | .split => do
      modify fun lx => { lx with lit := some lit }
      pure Flow.none
    | .unterminated => do
      modify fun lx => { lx with lit := none }
      report lit.opener Code.lexUnterminatedString
      pure Flow.none
  let (tok, ok) ← emit lit.kind start
  if !ok then return tok
  let idx ← match ← store b.text with
    | .ok i => pure i
    | .error e => throw (← outOfMemory tok.range (.blob e))
  let flags := literalFlags lit.style.code lit.cjk flow.code |||
    (if b.ending == .split then TokenFlag.continued else 0) |||
    (if continuation then TokenFlag.continuation else 0)
  return { tok with flags := flags, value := idx.toUInt64 }

/-- Opens a literal whose opener spans from `start` to `stop`, and reads it. -/
def openLiteral (start stop : Nat) (kind : TokenKind) (style : Style) (cjk : Bool)
    (closer : Nat) : ScanM Token := do
  seek stop
  scanLiteral start ⟨kind, style, cjk, closer, ← rangeOf start stop⟩ false

/-- `@name` characters and `@"…"` speakers. -/
def scanAt (start : Nat) : ScanM Token := do
  let bs ← content
  if byteAt bs (start + 1) == 0x22 then openLiteral start (start + 2) .speaker .none false 0x22
  else if identStartAt bs (start + 1) then do seek (start + 1); scanSigilName start .character
  else loneSigil start

/-- `$x`, `#x` and their bracketed forms. -/
def scanVar (start : Nat) (kind : TokenKind) : ScanM Token := do
  let bs ← content
  if byteAt bs (start + 1) == 0x3C then do seek (start + 2); scanBracketed start kind
  else if identStartAt bs (start + 1) then do seek (start + 1); scanSigilName start kind
  else loneSigil start

/-- The bracket kind of a byte. -/
def bracketKind? (b : UInt8) : Option TokenKind :=
  if b == 0x28 then some .lParen else if b == 0x29 then some .rParen
  else if b == 0x5B then some .lBracket else if b == 0x5D then some .rBracket
  else if b == 0x7B then some .lBrace else if b == 0x7D then some .rBrace
  else none

/-- A bracket, or the longest operator spelling at the cursor. -/
def scanPunct (start : Nat) : LexM Token := do
  let bs ← content
  let b := byteAt bs start
  if let some k := bracketKind? b then
    advance 1
    return (← emit k start).1
  match opTable.find? (fun f => Bytes.occursAt bs f.text.toUTF8 start) with
  | some f =>
    advance f.text.utf8ByteSize
    let (tok, _) ← emit .punct start
    return { tok with flags := if f.compound then TokenFlag.compound else 0,
                      value := f.op.code.toUInt64 }
  | none =>
    advance 1
    reportSpan start (start + 1) Code.lexUnknownChar #[.codepoint b.toNat]
    emitError start

/-- The suffix of a number: an explicit class, a bare `u`, or a unit. -/
structure NumSuffix where
  kind : NumKind := .none
  unsigned : Bool := false
  unit : NumUnit := .none

/-- The suffixes that fix a number's class. -/
def classSuffix? (s : String) : Option NumKind :=
  match s with
  | "s8" => some .s1 | "s16" => some .s2 | "s32" => some .s4 | "s64" => some .s8
  | "u8" => some .u1 | "u16" => some .u2 | "u32" => some .u4 | "u64" => some .u8
  | "f" | "f32" => some .f4 | "f64" => some .f8
  | _ => none

/-- Reads a suffix; `none` for one that is not known. -/
def NumSuffix.parse? (s : String) : Option NumSuffix :=
  if s == "" then some {}
  else if s == "u" then some { unsigned := true }
  else match classSuffix? s with
    | some k => some { kind := k }
    | none => (NumUnit.lookup? s).map fun u => { unit := u }

/-- The suffix of the number from `start`, reporting one that is not known. -/
def suffixInfo (start : Nat) (suffix : ByteArray) : LexM NumSuffix := do
  let s := (String.fromUTF8? suffix).getD ""
  match NumSuffix.parse? s with
  | some info => return info
  | none =>
    reportSpan start (← pos) Code.lexUnknownSuffix #[.ident suffix]
    return {}

/-- The number of bits needed for `v`. -/
def bitLen (v : Nat) : Nat := Nat.log2 v + (if v = 0 then 0 else 1)

/-- The narrowest of 1, 2, 4 and 8 bytes that holds `v`. -/
def magnitudeBytes (v : Nat) : Nat :=
  let n := bitLen v
  if n ≤ 8 then 1 else if n ≤ 16 then 2 else if n ≤ 32 then 4 else 8

/-- An integer token. Without an explicit class the narrowest width that holds the magnitude
is chosen, unsigned when asked or when the top bit of 8 bytes is set; an explicit class too
narrow for the value truncates it. -/
def finishInt (start : Nat) (val : Nat) (overflow : Bool) (suffix : ByteArray) : LexM Token := do
  let (tok, ok) ← emit .number start
  if !ok then return tok
  if overflow then report tok.range Code.lexIntOverflow
  let info ← suffixInfo start suffix
  let withNum (k : NumKind) (v : UInt64) : Token :=
    { tok with flags := numberFlags k.code info.unit.code, value := v }
  if info.kind.isFloat then
    let f := Binary.ofNat val
    return withNum info.kind (if info.kind == .f4 then Binary.toSingle f else f)
  if info.kind == .none then
    return withNum (NumKind.ofWidth (magnitudeBytes val) (info.unsigned || bitLen val == 64))
      val.toUInt64
  if info.kind == .s8 && bitLen val == 64 then
    report tok.range Code.lexTruncatedLiteral #[.uint val, .ident suffix]
    return withNum info.kind val.toUInt64
  if magnitudeBytes val > info.kind.bytes then
    report tok.range Code.lexTruncatedLiteral #[.uint val, .ident suffix]
    return withNum info.kind (val % Nat.pow 2 (8 * info.kind.bytes)).toUInt64
  return withNum info.kind val.toUInt64

/-- A float token; an integer suffix on it is reported and ignored. -/
def finishFloat (start : Nat) (bits : UInt64) (suffix : ByteArray) : LexM Token := do
  let (tok, ok) ← emit .number start
  if !ok then return tok
  let info ← suffixInfo start suffix
  let kind := if info.kind.isFloat then info.kind else NumKind.f8
  if !info.kind.isFloat && (info.kind != .none || info.unsigned) then
    report tok.range Code.lexFloatIntSuffix #[.ident suffix]
  let v := if kind == .f4 then Binary.toSingle bits else bits
  return { tok with flags := numberFlags kind.code info.unit.code, value := v }

/-- A number literal from `start`. -/
def scanNumber (start : Nat) : LexM Token := do
  let bs ← content
  let n := Numeral.read bs start
  seek (max n.stop (start + 1))
  match n with
  | .badRadix stop radix =>
    reportSpan start stop Code.lexUnknownRadix #[.int radix]
    emitError start
  | .malformed stop why =>
    reportSpan start stop Code.lexBadNumber #[.str why.toUTF8]
    emitError start
  | .float stop bits outOfRange suffix =>
    if outOfRange then
      reportSpan start stop Code.lexBadNumber #[.str "floating-point value out of range".toUTF8]
    finishFloat start bits suffix
  | .int _ val overflow suffix => finishInt start val overflow suffix

/-- A character outside ASCII: a full-width message or speaker opener, a letter starting an
identifier, or an unknown or invalid character. -/
def scanUnicode (start : Nat) : ScanM Token := do
  let bs ← content
  let (r, sz) := decodeAt bs start
  if r == replacement && sz ≤ 1 then
    advance 1
    reportSpan start (start + 1) Code.lexInvalidUtf8 #[.str (bs.extract start (start + 1))]
    return (← emitError start)
  if let some (closer, style) := cjkMessage? r then
    return (← openLiteral start (start + sz) .message style true closer)
  if r == speakerOpen then
    return (← openLiteral start (start + sz) .speaker .none true speakerClose)
  if isIdentStartRune r then return (← scanIdent start)
  advance sz
  reportSpan start (start + sz) Code.lexUnknownChar #[.codepoint r]
  emitError start

/-- One significant token from the cursor, which is not at the end. -/
def scan : ScanM Token := do
  let lx ← get
  let bs := lx.text
  let start := lx.off
  let b := byteAt bs start
  let next := byteAt bs (start + 1)
  if isIdentStartByte b then scanIdent start
  else if isDec b || (b == 0x2E && isDec next) || (b == 0x23 && next == 0x28) then scanNumber start
  else if b == 0x22 then openLiteral start (start + 1) .string .none false 0x22
  else if b == 0x40 then scanAt start
  else if b == 0x24 then scanVar start .sysVar
  else if b == 0x23 then scanVar start .cfgVar
  else if b == 0x2A && lx.flags.acceptLabel && identStartAt bs (start + 1) then do
    seek (start + 1); scanSigilName start .label
  else if next == 0x22 && lx.flags.acceptDialogue && asciiStyle b != .none then
    openLiteral start (start + 2) .message (asciiStyle b) false 0x22
  else if b ≥ 0x80 then scanUnicode start
  else scanPunct start

end LexM

end NovelScript

import NovelScript.Token.Kind
import NovelScript.Number.Shortest
/-!
# Tokens

A token is a packed record: a kind, a unit index, a byte offset and a length into that
unit's text, a line-start bit, a flag byte whose meaning depends on the kind, and a 64-bit
payload (a dictionary slot, a string-store index, an operator code or the bits of a number).
The offset, length and unit fields have fixed widths; `Token.new` refuses a value that does
not fit, naming the field, the value and the ceiling.
-/

namespace NovelScript

/-- The largest byte offset a token can hold. -/
def maxOffset : Nat := Nat.pow 2 24 - 1

/-- The largest token length. -/
def maxTokenLen : Nat := Nat.pow 2 12 - 1

/-- The largest unit index a token can hold. -/
def maxTokenUnit : Nat := Nat.pow 2 12 - 1

/-- A value that does not fit a token field. -/
structure LimitError where
  field : String
  value : Int
  max : Nat
  deriving DecidableEq, Repr

/-- The text of a limit error. -/
def LimitError.message (e : LimitError) : String :=
  s!"token {e.field} {e.value} exceeds {e.max}"

/-! Flag bits, by the kinds that carry them. -/
namespace TokenFlag
/-- A punctuation token in its `op=` form. -/
def compound : UInt8 := 0x80
/-- A `$<x>` or `#<x>` variable. -/
def bracketed : UInt8 := 0x01
/-- A type name that names a registered built-in type. -/
def builtin : UInt8 := 0x02
/-- The brace that opens a menu body. -/
def menuOpen : UInt8 := 0x01
/-- The brace that closes a menu body. -/
def menuClose : UInt8 := 0x02
/-- A directive comment that parsed as a self-test expectation. -/
def testDirective : UInt8 := 0x01
/-- A literal opened by a full-width delimiter. -/
def cjk : UInt8 := 0x04
/-- A message piece that a blank line splits from the next. -/
def continued : UInt8 := 0x20
/-- A message piece that resumes after a blank line. -/
def continuation : UInt8 := 0x40
end TokenFlag

/-- The flags of a number token: the class in the low nibble, the unit in the high one. -/
def numberFlags (kind unit : Nat) : UInt8 := (kind % 16 + (unit % 16) * 16).toUInt8

/-- The flags of a literal token: the style less one in bits 0-1 (for a message), the
full-width bit 2 and the flow in bits 3-4. -/
def literalFlags (style : Nat) (cjk : Bool) (flow : Nat) : UInt8 :=
  let s := if style > 0 then (style - 1) % 4 else 0
  (s + (if cjk then 4 else 0) + (flow % 4) * 8).toUInt8

/-- One classified piece of a unit's text. -/
structure Token where
  kind : TokenKind
  unit : Nat
  off : Nat
  len : Nat
  lineStart : Bool := false
  flags : UInt8 := 0
  value : UInt64 := 0
  deriving DecidableEq, Repr

namespace Token

/-- The token every failed read answers with: an end of input at offset 0 of unit 0. -/
def zero : Token := ⟨.eof, 0, 0, 0, false, 0, 0⟩

/-- Checks one field against its ceiling. -/
def checkField (field : String) (v : Int) (max : Nat) : Except LimitError Unit :=
  if v < 0 || v > max then .error ⟨field, v, max⟩ else .ok ()

/-- A token of kind code `kind` covering `[off, off + len)` of `unit`, if every field fits:
the kind is checked first, then the offset, the length and the unit. -/
def new (kind : Nat) (unit : Nat) (off len : Int) : Except LimitError Token := do
  if kind > TokenKind.maxCode then throw ⟨"type", kind, TokenKind.maxCode⟩
  checkField "offset" off maxOffset
  checkField "length" len maxTokenLen
  checkField "unit" unit maxTokenUnit
  return ⟨TokenKind.ofCode kind, unit, off.toNat, len.toNat, false, 0, 0⟩

/-- The exclusive end offset. -/
def endOff (t : Token) : Nat := t.off + t.len

/-- Whether every bit of `f` is set. -/
def has (t : Token) (f : UInt8) : Bool := t.flags &&& f == f

/-- The token with a new length, if it fits. -/
def withLen (t : Token) (n : Int) : Except LimitError Token :=
  match checkField "length" n maxTokenLen with
  | .ok () => .ok { t with len := n.toNat }
  | .error e => .error e

/-- The payload read as a signed 64-bit value. -/
def int (t : Token) : Int := t.value.toInt64.toInt

/-- The payload as a 32-bit index, or 0 when it does not fit. -/
def index32 (t : Token) : Nat := if t.value.toNat < Nat.pow 2 32 then t.value.toNat else 0

/-- The keyword code of a keyword token, carried in the flags; 0 for other kinds. -/
def keyword (t : Token) : Nat := if t.kind = .keyword then t.flags.toNat else 0

/-- The operator code of a punctuation token; 0 (no operator) for other kinds and codes. -/
def op (t : Token) : Nat :=
  if t.kind = .punct && t.value.toNat < Op.count then t.value.toNat else 0

/-- Whether a punctuation token is an `op=` form. -/
def compound (t : Token) : Bool := t.kind = .punct && t.flags &&& TokenFlag.compound != 0

/-- The number class code of a number token. -/
def numKind (t : Token) : Nat := if t.kind = .number then (t.flags &&& 0x0F).toNat else 0

/-- The unit code of a number token. -/
def numUnit (t : Token) : Nat := if t.kind = .number then (t.flags >>> 4).toNat else 0

/-- The style code of a message token. -/
def style (t : Token) : Nat := if t.kind = .message then (t.flags &&& 0x03).toNat + 1 else 0

/-- The flow code of a literal token. -/
def flow (t : Token) : Nat := if t.kind.isLiteral then ((t.flags &&& 0x18) >>> 3).toNat else 0

/-- Whether a literal is followed by more pieces after a blank line. -/
def continued (t : Token) : Bool := t.kind.isLiteral && t.flags &&& TokenFlag.continued != 0

/-- Whether a literal resumes after a blank line. -/
def continuation (t : Token) : Bool :=
  t.kind.isLiteral && t.flags &&& TokenFlag.continuation != 0

/-- Whether a type name names a built-in type. -/
def builtin (t : Token) : Bool := t.kind = .typeName && t.flags &&& TokenFlag.builtin != 0

/-- Whether a variable used the bracketed form. -/
def bracketed (t : Token) : Bool :=
  t.kind.isIdentLike && t.kind != .keyword && t.flags &&& TokenFlag.bracketed != 0

/-- Whether a brace opens a menu body. -/
def menuOpen (t : Token) : Bool := t.kind = .lBrace && t.flags &&& TokenFlag.menuOpen != 0

/-- Whether a brace closes a menu body. -/
def menuClose (t : Token) : Bool := t.kind = .rBrace && t.flags &&& TokenFlag.menuClose != 0

end Token

/-- The printed name of keyword code `n`. -/
def keywordName (n : Nat) : String :=
  match n with
  | 0 => "" | 1 => "if" | 2 => "elif" | 3 => "else" | 4 => "while" | 5 => "for" | 6 => "in"
  | 7 => "break" | 8 => "continue" | 9 => "return" | 10 => "goto" | 11 => "call"
  | 12 => "menu" | 13 => "let" | 14 => "var" | 15 => "const" | 16 => "func" | 17 => "scene"
  | 18 => "include" | 19 => "wait" | 20 => "end" | 21 => "true" | 22 => "false"
  | 23 => "null" | _ => "keyword?"

namespace Token

/-- The short form of a token: `Keyword(if)`, `Punct(Add=)`, `Number(255,S1,px)` or the
kind name. Floats are written in the general shortest layout, unsigned classes as unsigned
and other classes as signed 64-bit values. -/
def render (t : Token) : String :=
  match t.kind with
  | .keyword => s!"Keyword({keywordName t.keyword})"
  | .punct =>
    let eq := if t.compound then "=" else ""
    s!"Punct({Op.nameOfCode t.op}{eq})"
  | .number =>
    let k := t.numKind
    let kind := NumKind.ofCode? k
    let v :=
      if (kind.map NumKind.isFloat).getD false then Shortest.general t.value
      else if (kind.map NumKind.isUnsigned).getD false then toString t.value.toNat
      else toString t.int
    let u := t.numUnit
    let unit := if u == 0 then "" else "," ++ NumUnit.nameOfCode u
    s!"Number({v},{NumKind.nameOfCode k}{unit})"
  | k => k.print

end Token

end NovelScript

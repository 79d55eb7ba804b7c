/-!
# Token kinds, operators and number classes

The closed vocabularies a token is built from: its kind, the operator of a punctuation
token, the storage class and unit of a number, and the style and flow attribute of a
dialogue literal. Each carries the small code it is stored under in a token and the name it
is printed with. Codes outside a table still print, under a placeholder name.
-/

namespace NovelScript

/-- The kind of a token. Kinds 22 to 127 are representable but unnamed. -/
inductive TokenKind where
  | eof | error | blank | directive
  | keyword | name | typeName | label | character | sysVar | cfgVar
  | number | string | speaker | message
  | punct | lParen | rParen | lBracket | rBracket | lBrace | rBrace
  /-- A kind code without a name. -/
  | other (code : Nat)
  deriving DecidableEq, Repr

namespace TokenKind

/-- The named kinds in code order. -/
def named : List TokenKind :=
  [eof, error, blank, directive, keyword, name, typeName, label, character, sysVar, cfgVar,
   number, string, speaker, message, punct, lParen, rParen, lBracket, rBracket, lBrace, rBrace]

/-- The largest kind code a token can hold. -/
def maxCode : Nat := 127

/-- The stored code of a kind. -/
def code : TokenKind → Nat
  | eof => 0 | error => 1 | blank => 2 | directive => 3 | keyword => 4 | name => 5
  | typeName => 6 | label => 7 | character => 8 | sysVar => 9 | cfgVar => 10 | number => 11
  | string => 12 | speaker => 13 | message => 14 | punct => 15 | lParen => 16 | rParen => 17
  | lBracket => 18 | rBracket => 19 | lBrace => 20 | rBrace => 21 | other n => n

/-- The kind stored under code `n`. -/
def ofCode (n : Nat) : TokenKind := (named.find? (·.code == n)).getD (other n)

/-- The printed name of a kind. -/
def print : TokenKind → String
  | eof => "EOF" | error => "Error" | blank => "Blank" | directive => "Directive"
  | keyword => "Keyword" | TokenKind.name => "Name" | typeName => "Type" | label => "Label"
  | character => "Character" | sysVar => "SysVar" | cfgVar => "CfgVar" | number => "Number"
  | string => "String" | speaker => "Speaker" | message => "Message" | punct => "Punct"
  | lParen => "LParen" | rParen => "RParen" | lBracket => "LBracket" | rBracket => "RBracket"
  | lBrace => "LBrace" | rBrace => "RBrace" | other _ => "Type?"

/-- The named kind printed as `s`. -/
def parse? (s : String) : Option TokenKind := named.find? (·.print == s)

/-- Kinds whose payload is a dictionary slot. -/
def isIdentLike : TokenKind → Bool
  | keyword | TokenKind.name | typeName | label | character | sysVar | cfgVar => true
  | _ => false

/-- Kinds whose payload is a string-store index. -/
def isLiteral : TokenKind → Bool
  | string | speaker | message => true
  | _ => false

/-- The six bracket kinds. -/
def isBracket : TokenKind → Bool
  | lParen | rParen | lBracket | rBracket | lBrace | rBrace => true
  | _ => false

end TokenKind

/-- A punctuation operator. -/
inductive Op where
  | none | add | sub | mul | div | mod | pow | and | or | xor | shl | shr | not | tilde
  | logAnd | logOr | assign | eq | ne | lt | le | gt | ge | cmp | arrow | fatArrow
  | colon | scope | semi | comma | dot | range | ellipsis | question | inc | dec
  deriving DecidableEq, Repr

namespace Op

/-- All operators in code order, `none` first. -/
def all : List Op :=
  [none, add, sub, mul, div, mod, pow, and, or, xor, shl, shr, not, tilde, logAnd, logOr,
   assign, eq, ne, lt, le, gt, ge, cmp, arrow, fatArrow, colon, scope, semi, comma, dot,
   range, ellipsis, question, inc, dec]

/-- The number of operator codes. -/
def count : Nat := 36

/-- The stored code of an operator. -/
def code (o : Op) : Nat := (all.idxOf o)

/-- The operator stored under `n`, if `n` is an operator code. -/
def ofCode? (n : Nat) : Option Op := all[n]?

/-- The source text of an operator; empty for `none`. -/
def spelling : Op → String
  | none => "" | add => "+" | sub => "-" | mul => "*" | div => "/" | mod => "%" | pow => "**"
  | and => "&" | or => "|" | xor => "^" | shl => "<<" | shr => ">>" | not => "!" | tilde => "~"
  | logAnd => "&&" | logOr => "||" | assign => "=" | eq => "==" | ne => "!=" | lt => "<"
  | le => "<=" | gt => ">" | ge => ">=" | cmp => "<=>" | arrow => "->" | fatArrow => "=>"
  | colon => ":" | scope => "::" | semi => ";" | comma => "," | dot => "." | range => ".."
  | ellipsis => "..." | question => "?" | inc => "++" | dec => "--"

/-- The printed name of an operator. -/
def name : Op → String
  | none => "None" | add => "Add" | sub => "Sub" | mul => "Mul" | div => "Div" | mod => "Mod"
  | pow => "Pow" | and => "And" | or => "Or" | xor => "Xor" | shl => "Shl" | shr => "Shr"
  | not => "Not" | tilde => "Tilde" | logAnd => "LogAnd" | logOr => "LogOr"
  | assign => "Assign" | eq => "Eq" | ne => "Ne" | lt => "Lt" | le => "Le" | gt => "Gt"
  | ge => "Ge" | cmp => "Cmp" | arrow => "Arrow" | fatArrow => "FatArrow" | colon => "Colon"
  | scope => "Scope" | semi => "Semi" | comma => "Comma" | dot => "Dot" | range => "Range"
  | ellipsis => "Ellipsis" | question => "Question" | inc => "Inc" | dec => "Dec"

/-- The printed name of operator code `n`: `Op?` outside the table. -/
def nameOfCode (n : Nat) : String := ((ofCode? n).map name).getD "Op?"

/-- The spelling of operator code `n`: empty outside the table. -/
def spellingOfCode (n : Nat) : String := ((ofCode? n).map spelling).getD ""

/-- Operators whose spelling followed by `=` is a compound assignment. -/
def allowsCompound : Op → Bool
  | add | sub | mul | div | mod | pow | and | or | xor | shl | shr => true
  | _ => false

end Op

/-- One spelling of the operator table. -/
structure OpForm where
  text : String
  op : Op
  compound : Bool

/-- Inserts `f` before the first form of a shorter text: a stable sort by falling length. -/
def OpForm.insertByLength (f : OpForm) : List OpForm → List OpForm
  | [] => [f]
  | g :: gs => if g.text.length < f.text.length then f :: g :: gs else g :: insertByLength f gs

/-- Every operator spelling and its compound form, in code order. -/
def OpForm.inCodeOrder : List OpForm :=
  (Op.all.drop 1).flatMap fun o =>
    ⟨o.spelling, o, false⟩ :: (if o.allowsCompound then [⟨o.spelling ++ "=", o, true⟩] else [])

/-- The operator table: every spelling, longest first, in code order among equal lengths. -/
def opTable : List OpForm :=
  OpForm.inCodeOrder.foldl (fun acc f => OpForm.insertByLength f acc) []

/-- The storage class of a number literal. -/
inductive NumKind where
  | none | s1 | s2 | s4 | s8 | u1 | u2 | u4 | u8 | f4 | f8
  deriving DecidableEq, Repr

namespace NumKind

/-- All classes in code order. -/
def all : List NumKind := [none, s1, s2, s4, s8, u1, u2, u4, u8, f4, f8]

/-- The stored code of a class. -/
def code (k : NumKind) : Nat := all.idxOf k

/-- The class stored under `n`. -/
def ofCode? (n : Nat) : Option NumKind := all[n]?

/-- The printed name of a class; empty for `none`. -/
def name : NumKind → String
  | none => "" | s1 => "S1" | s2 => "S2" | s4 => "S4" | s8 => "S8"
  | u1 => "U1" | u2 => "U2" | u4 => "U4" | u8 => "U8" | f4 => "F4" | f8 => "F8"

/-- The printed name of class code `n`: `Num?` outside the table. -/
def nameOfCode (n : Nat) : String := ((ofCode? n).map name).getD "Num?"

/-- Floating-point classes. -/
def isFloat : NumKind → Bool
  | f4 | f8 => true
  | _ => false

/-- Unsigned integer classes. -/
def isUnsigned : NumKind → Bool
  | u1 | u2 | u4 | u8 => true
  | _ => false

/-- The storage width in bytes. -/
def bytes : NumKind → Nat
  | s1 | u1 => 1 | s2 | u2 => 2 | s4 | u4 | f4 => 4 | s8 | u8 | f8 => 8 | none => 0

/-- The integer class of the given width and signedness: the narrowest of 1, 2, 4 and 8
bytes that is at least `width`. -/
def ofWidth (width : Int) (unsigned : Bool) : NumKind :=
  if width ≤ 1 then (if unsigned then u1 else s1)
  else if width ≤ 2 then (if unsigned then u2 else s2)
  else if width ≤ 4 then (if unsigned then u4 else s4)
  else (if unsigned then u8 else s8)

end NumKind

/-- The measurement unit suffix of a number literal. -/
inductive NumUnit where
  | none | px | pt | em | mm | cm | ms | sec | deg
  deriving DecidableEq, Repr

namespace NumUnit

/-- All units in code order. -/
def all : List NumUnit := [none, px, pt, em, mm, cm, ms, sec, deg]

/-- The stored code of a unit. -/
def code (u : NumUnit) : Nat := all.idxOf u

/-- The unit stored under `n`. -/
def ofCode? (n : Nat) : Option NumUnit := all[n]?

/-- The suffix of a unit; empty for `none`. -/
def suffix : NumUnit → String
  | none => "" | px => "px" | pt => "pt" | em => "em" | mm => "mm" | cm => "cm"
  | ms => "ms" | sec => "s" | deg => "deg"

/-- The suffix of unit code `n`: `unit?` outside the table. -/
def nameOfCode (n : Nat) : String := ((ofCode? n).map suffix).getD "unit?"

/-- The unit written as suffix `s`. -/
def lookup? (s : String) : Option NumUnit := (all.drop 1).find? (·.suffix == s)

end NumUnit

/-- The delimiter style of a dialogue message. -/
inductive Style where
  | none | say | think | whisper | shout
  deriving DecidableEq, Repr

namespace Style

/-- All styles in code order. -/
def all : List Style := [none, say, think, whisper, shout]

/-- The code of a style. -/
def code (s : Style) : Nat := all.idxOf s

/-- The style of code `n`. -/
def ofCode? (n : Nat) : Option Style := all[n]?

/-- The printed name of a style; empty for `none`. -/
def name : Style → String
  | none => "" | say => "say" | think => "think" | whisper => "whisper" | shout => "shout"

/-- The printed name of style code `n`; empty outside the table. -/
def nameOfCode (n : Nat) : String := ((ofCode? n).map name).getD ""

end Style

/-- The flow attribute written after a dialogue literal. -/
inductive Flow where
  | none | pause | break | run
  deriving DecidableEq, Repr

namespace Flow

/-- All flows in code order. -/
def all : List Flow := [none, pause, .break, run]

/-- The code of a flow. -/
def code (f : Flow) : Nat := all.idxOf f

/-- The flow of code `n`. -/
def ofCode? (n : Nat) : Option Flow := all[n]?

/-- The attribute letter of a flow; empty for `none`. -/
def name : Flow → String
  | none => "" | pause => "P" | .break => "B" | run => "R"

/-- The printed name of flow code `n`; empty outside the table. -/
def nameOfCode (n : Nat) : String := ((ofCode? n).map name).getD ""

/-- The flow written as the byte `b`. -/
def ofByte? (b : UInt8) : Option Flow :=
  if b == 0x50 then some pause else if b == 0x42 then some .break
  else if b == 0x52 then some run else Option.none

end Flow

end NovelScript

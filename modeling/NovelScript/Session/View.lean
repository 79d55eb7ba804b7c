import NovelScript.Compile.Context
import NovelScript.Json.Value
/-!
# JSON views of the library's objects

The shapes in which requests see ranges, diagnostics, counters, units, tokens and tokenizer
state. Offsets, lengths and counters are JSON numbers; token payloads and argument values
are decimal strings, since they may need all 64 bits; bytes are text when they are valid
UTF-8 and hex otherwise.
-/

namespace NovelScript.View

/-- A range; the unit is `null` for a range outside every unit. -/
def range (r : Range) : Json :=
  .obj [("unit", if r.unit ≥ maxUnits then .null else .nat r.unit), ("off", .nat r.off),
    ("len", .nat r.len)]

/-- A diagnostic argument, tagged by kind. -/
def arg : Arg → Json
  | .str s => .obj [("str", .ofBytes s)]
  | .int v => .obj [("int", .dec v)]
  | .uint v => .obj [("uint", .dec v)]
  | .float b => .obj [("float", .str (Shortest.general b))]
  | .ident s => .obj [("ident", .ofBytes s)]
  | .codepoint v => .obj [("cp", .dec v)]
  | .other k => .obj [("kind", .nat k)]

/-- A diagnostic with its effective severity. -/
def diagnostic (d : Diagnostic) : Json :=
  .obj [("code", .str (Code.id d.code)), ("severity", .str d.severity.label),
    ("category", .str d.category.name), ("message", .ofBytes d.message),
    ("range", range d.range), ("args", .arr (d.args.toList.map arg))]

/-- A list of diagnostics. -/
def diagnostics (ds : List Diagnostic) : Json := .arr (ds.map diagnostic)

/-- The engine's counters. -/
def counts (e : Engine) : Json :=
  .obj [("errors", .nat e.errors), ("warnings", .nat e.warnings), ("notes", .nat e.notes),
    ("fatal", .bool e.fatal), ("limit_reached", .bool e.limitReached)]

/-- A unit's length, flags and line count. -/
def unitSummary (u : SourceUnit) : Json :=
  .obj [("len", .nat u.size), ("flags", .arr (u.flags.names.map .str)),
    ("lines", .nat (u.lines.size + 1))]

/-- The tokenizer state read after a token: its flags and bracket counters. -/
def lexState (lx : Lexer) : Json :=
  .obj [("flags", .str lx.flags.render),
    ("bal", .arr [.nat lx.bal.paren, .nat lx.bal.bracket, .nat lx.bal.brace])]

/-- The value of a number token: its class, unit and value. -/
def numberValue (t : Token) : Json :=
  let k := t.numKind
  let kind := NumKind.ofCode? k
  let unit := if t.numUnit = 0 then [] else [("unit", Json.str (NumUnit.nameOfCode t.numUnit))]
  if (kind.map NumKind.isFloat).getD false then
    .obj ([("kind", .str (NumKind.nameOfCode k))] ++ unit ++
      [("float", .str (Shortest.general t.value)), ("bits", .str (Quoted.hexDigits t.value.toNat 16))])
  else
    let v : Int := if (kind.map NumKind.isUnsigned).getD false then t.value.toNat else t.int
    .obj ([("kind", .str (NumKind.nameOfCode k))] ++ unit ++ [("int", .dec v)])

/-- The members of a token that depend on its kind: names show their slot and text, literals
their store index and text, numbers and operators their value. -/
def payload (dict : Dict) (blobs : BlobStore) (t : Token) : List (String × Json) :=
  match t.kind with
  | .keyword => [("slot", .nat t.value.toNat), ("value", .str (keywordName t.keyword))]
  | .name | .typeName | .label | .character | .sysVar | .cfgVar =>
    [("slot", .nat t.value.toNat), ("value", .ofBytes (dict.text t.value.toNat))]
  | .string | .speaker | .message =>
    [("blob", .nat t.value.toNat), ("value", .ofBytes ((blobs.get? t.value.toNat).getD .empty))]
  | .number => [("value", numberValue t)]
  | .punct => [("value", .str (Op.nameOfCode t.op))]
  | _ => []

/-- A token of unit `u`, with its position. -/
def token (u : SourceUnit) (dict : Dict) (blobs : BlobStore) (t : Token) : Json :=
  let p := u.position t.off
  .obj ([("type", .str t.kind.print), ("off", .nat t.off), ("len", .nat t.len),
    ("flags", .nat t.flags.toNat), ("ls", .bool t.lineStart), ("line", .nat p.line),
    ("col", .nat p.col), ("str", .str t.render)] ++ payload dict blobs t)

/-- A token as its tokenizer sees it. -/
def lexToken (lx : Lexer) (t : Token) : Json := token lx.unit lx.env.dict lx.env.blobs t

end NovelScript.View

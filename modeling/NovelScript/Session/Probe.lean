import NovelScript.Session.Request
import NovelScript.Session.Errors
import NovelScript.Session.View
import NovelScript.Number.Read
/-!
# Inspecting single values

Requests about one value of the library: a token built from raw fields and read through its
accessors, the table entry of a diagnostic code, a message template filled with arguments,
and the expectation written in a directive comment.
-/

namespace NovelScript.Session

/-- The answer for a token that could not be built. -/
def limitError (e : LimitError) : Json :=
  .obj [("error", .str "LimitError"), ("message", .str e.message), ("field", .str e.field),
    ("value", .int e.value), ("max", .nat e.max), ("is_limit", .bool true)]

/-- A decimal text read as a 64-bit payload, wrapping modulo 2^64. -/
def payloadOf (s : String) : UInt64 := (s.toNat?.getD 0).toUInt64

/-- A token and what its accessors say. -/
def tokenAccessors (j : Json) (t : Token) : List (String × Json) :=
  let kw := (j.getInt "kw" % 256).toNat
  let opq := (j.getInt "opq" % 256).toNat
  [("token", .obj [("type", .str t.kind.print), ("off", .nat t.off), ("len", .nat t.len),
      ("end", .nat t.endOff), ("unit", .nat t.unit), ("flags", .nat t.flags.toNat),
      ("value", .dec t.value.toNat), ("ls", .bool t.lineStart)]),
    ("str", .str t.render), ("int", .dec t.int), ("keyword", .str (keywordName t.keyword)),
    ("op", .str (Op.nameOfCode t.op)), ("compound", .bool t.compound),
    ("num_kind", .str (NumKind.nameOfCode t.numKind)),
    ("num_unit", .str (if t.numUnit = 0 then "" else NumUnit.nameOfCode t.numUnit)),
    ("style", .str (Style.nameOfCode t.style)), ("flow", .str (Flow.nameOfCode t.flow)),
    ("continued", .bool t.continued), ("continuation", .bool t.continuation),
    ("builtin", .bool t.builtin), ("bracketed", .bool t.bracketed),
    ("menu_open", .bool t.menuOpen), ("menu_close", .bool t.menuClose),
    ("blob", .nat t.index32), ("ident", .nat t.index32), ("range", .str t.range.render),
    ("has_flags", .bool (t.has (j.getInt "has" % 256).toNat.toUInt8)),
    ("is_keyword", .bool (t.kind == .keyword && t.flags.toNat == kw)),
    ("is_op", .bool (t.op == opq && !t.compound)),
    ("is_type", .bool (t.kind.code == (j.getInt "is" % 256).toNat))]

/-- Builds a token from raw fields and reads it back. -/
def tokenProbe (j : Json) : Json :=
  match Token.new (j.getInt "type" % 256).toNat (j.getInt "unit" % 65536).toNat
      (j.getInt "off") (j.getInt "len") with
  | .error e => limitError e
  | .ok t =>
    let t := { t with flags := (j.getInt "flags" % 256).toNat.toUInt8,
                      value := payloadOf (j.getStr "value"), lineStart := j.getBool "ls" }
    if j.has "with_len" then
      match t.withLen (j.getInt "with_len") with
      | .ok t' => .obj (tokenAccessors j t')
      | .error e => .obj (tokenAccessors j t ++
          [("with_len_error", .obj [("error", .str "LimitError"), ("message", .str e.message)])])
    else .obj (tokenAccessors j t)

/-- The table entry of a code. -/
def codeProbe (j : Json) : Json :=
  let c : Code := (j.getInt "code" % 65536).toNat
  let info := c.info
  .obj [("id", .str (Code.id c)), ("severity", .str info.severity.label),
    ("severity_upper", .str info.severity.upper), ("category", .str info.category.name),
    ("template", .str info.template), ("string", .str (Code.describe c)),
    ("is_error", .bool info.severity.isError)]

/-- A decimal text read as an integer. -/
def intOf (s : String) : Int := s.toInt?.getD 0

/-- The text of a number member, written as a JSON number or as a string. -/
def numberText (a : Json) (key : String) : String :=
  match a.get key with
  | .num t => t
  | .str t => t
  | _ => ""

/-- The argument an argument object describes. -/
def argOf (a : Json) : Arg :=
  if a.has "str" || a.has "str_hex" || a.has "str_b64" then .str (Request.bytesAt a "str")
  else if a.has "ident" || a.has "ident_hex" || a.has "ident_b64" then .ident (Request.bytesAt a "ident")
  else if a.has "int" then .int (intOf (numberText a "int"))
  else if a.has "uint" then .uint ((numberText a "uint").toNat?.getD 0)
  else if a.has "cp" then .codepoint ((numberText a "cp").toNat?.getD 0)
  else if a.has "float" then
    let text := match a.get "float" with
      | .num t => t
      | .str t => t
      | _ => "0"
    .float ((Binary.read? text).getD 0)
  else .zeroOfKind (a.getInt "kind").toNat

/-- Fills a template with arguments. -/
def formatProbe (j : Json) : Json :=
  let args := ((j.get "args").items.map argOf).toArray
  let rendered := Json.arr (args.toList.map fun a => .ofBytes a.render)
  match fillTemplate (j.getStr "template").toUTF8 args with
  | .ok r => .obj [("result", .ofBytes r), ("args", rendered)]
  | .error e => .obj [("error", .str "FormatError"), ("message", .str e.message), ("args", rendered)]

/-- An expectation, field by field. -/
def expectView (e : Expect) : Json :=
  let (ls, kind, lit, opener, count) : Bool × TokenKind × ByteArray × TokenKind × Nat :=
    match e with
    | .token ls k lit => (ls, k, lit, .eof, 0)
    | .balance o n => (false, .eof, .empty, o, n)
    | .eof => (false, .eof, .empty, .eof, 0)
  .obj [("kind", .str e.kind.name), ("line_start", .bool ls), ("type", .str kind.print),
    ("literal", .ofBytes lit), ("open", .str opener.print), ("count", .nat count),
    ("string", .ofBytes e.describe)]

/-- Reads the expectation of a directive comment. -/
def directiveProbe (j : Json) : Json :=
  let body := Directive.body (j.getStr "comment").toUTF8
  let head := [("body", Json.ofBytes body), ("is_expect", .bool (Directive.isExpect body))]
  match Directive.parse body with
  | .ok e => .obj (head ++ [("expect", expectView e)])
  | .error .notExpect => .obj (head ++ [("error", .str "NotExpect"),
      ("message", .ofBytes ExpectError.notExpect.message)])
  | .error e => .obj (head ++ [("error", .str "Error"), ("message", .ofBytes e.message)])

end NovelScript.Session

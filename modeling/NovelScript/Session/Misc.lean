import NovelScript.Session.Request
import NovelScript.Session.Errors
import NovelScript.Session.View
import NovelScript.Diag.PathMode
/-!
# Questions about the library's tables

Small requests that look up one entry of a table of the library: operators, token kinds,
number classes and units, literal flags, keywords, built-in types, tokenizer flags, directive
modes, encodings, path modes, expectation kinds, severities and categories, error limits,
ranges and paths. Codes arrive as integers and are taken as bytes, as the tables store them.
-/

namespace NovelScript.Session

/-- An integer request field taken as a byte. -/
def byteField (j : Json) (k : String) : Nat := (j.getInt k % 256).toNat

/-- The operator table, longest spelling first. -/
def opTableView : Json :=
  .obj [("table", .arr (opTable.map fun f =>
    .obj [("text", .str f.text), ("op", .str f.op.name), ("compound", .bool f.compound)]))]

/-- A built-in type by reference. -/
def builtinView (ref : Int) : Json :=
  match if ref < 0 then none else builtinType? ref.toNat with
  | some b => .obj [("ok", .bool true), ("name", .str b.name), ("kind", .nat b.kind),
      ("bits", .nat b.bits), ("signed", .bool b.signed)]
  | none => .obj [("ok", .bool false), ("name", .str ""), ("kind", .nat 0), ("bits", .nat 0),
      ("signed", .bool false)]

/-- Two ranges built from offsets, and what the first says about itself and the pair. -/
def rangeView (j : Json) : Json :=
  let mk (u s e : String) := Range.make (j.getInt u).toNat (j.getInt s).toNat (j.getInt e).toNat
  let a := mk "unit" "start" "end"
  let b := mk "unit2" "start2" "end2"
  .obj [("a", .str a.render), ("a_end", .nat a.endOff), ("a_empty", .bool a.isEmpty),
    ("a_valid", .bool a.valid), ("cover", .str (a.cover b).render),
    ("no_range", .str Range.none.render)]

/-- A repeat filter that has seen nothing drops nothing; one that sees a diagnostic twice drops
one; a sink that discards leaves the bag empty. -/
def dedupView : Json :=
  let d : Diagnostic := ⟨Code.lexUnknownChar, .error, .lexical, .empty, "", Range.none, #[]⟩
  let f : Dedup := {}
  let (_, f) := f.admit d.key
  let (_, f) := f.admit d.key
  let e := ({ sinks := [.discard] } : Engine).diagnose Range.none Code.lexUnknownChar #[]
  .obj [("nil_dropped", .nat ({} : Dedup).dropped), ("dropped", .nat f.dropped),
    ("bag_len", .nat e.bag.items.size)]

/-- Answers a table question named by `fn`. -/
def misc (j : Json) : Json :=
  let v := j.getInt "v"
  let s := j.getStr "s"
  let b := byteField j "v"
  match j.getStr "fn" with
  | "op_table" => opTableView
  | "op" => .obj [("name", .str (Op.nameOfCode b)), ("spelling", .str (Op.spellingOfCode b)),
      ("compound", .bool (((Op.ofCode? b).map Op.allowsCompound).getD false))]
  | "type" =>
    let k := TokenKind.ofCode b
    .obj [("name", .str k.print), ("ident_like", .bool k.isIdentLike),
      ("literal", .bool k.isLiteral), ("bracket", .bool k.isBracket)]
  | "parse_type" => match TokenKind.parse? s with
    | some k => .obj [("type", .nat k.code), ("ok", .bool true)]
    | none => .obj [("type", .nat 0), ("ok", .bool false)]
  | "kind" =>
    let k := NumKind.ofCode? b
    .obj [("name", .str (NumKind.nameOfCode b)), ("float", .bool ((k.map NumKind.isFloat).getD false)),
      ("unsigned", .bool ((k.map NumKind.isUnsigned).getD false)),
      ("bytes", .nat ((k.map NumKind.bytes).getD 0))]
  | "int_kind" => .obj [("kind", .str (NumKind.ofWidth (j.getInt "bytes") (j.getBool "unsigned")).name)]
  | "unit" => .obj [("name", .str (NumUnit.nameOfCode b))]
  | "lookup_unit" => match NumUnit.lookup? s with
    | some u => .obj [("unit", .nat u.code), ("ok", .bool true)]
    | none => .obj [("unit", .nat 0), ("ok", .bool false)]
  | "number_flags" =>
    .obj [("flags", .nat (numberFlags (byteField j "kind") (byteField j "unit")).toNat)]
  | "literal_flags" =>
    .obj [("flags", .nat (literalFlags (byteField j "style") (j.getBool "cjk") (byteField j "flow")).toNat)]
  | "style" => .obj [("name", .str (Style.nameOfCode b))]
  | "flow" => .obj [("name", .str (Flow.nameOfCode b))]
  | "flow_from_byte" => match Flow.ofByte? b.toUInt8 with
    | some f => .obj [("flow", .nat f.code), ("ok", .bool true)]
    | none => .obj [("flow", .nat 0), ("ok", .bool false)]
  | "keyword" => .obj [("name", .str (keywordName b))]
  | "lookup_keyword" => match lookupKeyword? s.toUTF8 with
    | some k => .obj [("keyword", .nat k), ("ok", .bool true)]
    | none => .obj [("keyword", .nat 0), ("ok", .bool false)]
  | "builtin" => builtinView v
  | "ident_kind" => .obj [("name", .str (slotKindName b))]
  | "lexer_flags" => .obj [("name", .str (LexFlags.renderBits b))]
  | "directive_mode" => match DirectiveMode.parse s with
    | .ok m => .obj [("mode", .nat m.code), ("name", .str m.name)]
    | .error msg => View.failure msg
  | "directive_mode_name" => .obj [("name", .str (DirectiveMode.nameOfCode b))]
  | "encoding" => match Encoding.parse s with
    | .ok e => .obj [("encoding", .str e.name)]
    | .error msg => View.failure msg
  | "path_mode" =>
    let m := PathMode.parse? s
    let m' := m.getD .auto
    .obj [("mode", .nat m'.code), ("name", .str m'.name), ("ok", .bool m.isSome)]
  | "directive_kind" => match ExpectKind.parse? s with
    | some k => .obj [("kind", .nat k.code), ("name", .str k.name), ("ok", .bool true)]
    | none => .obj [("kind", .nat 0), ("name", .str ExpectKind.none.name), ("ok", .bool false)]
  | "pair_of" => .obj [("pair", .str (pairOf (TokenKind.ofCode b)))]
  | "severity" =>
    let sev := Severity.ofCode b
    .obj [("name", .str sev.upper), ("label", .str sev.label), ("is_error", .bool sev.isError)]
  | "category" => .obj [("name", .str (Category.ofCode b).name)]
  | "effective_max" => .obj [("max", .int (Request.policy j).effectiveMaxErrors)]
  | "range" => rangeView j
  | "nil_dedup" => dedupView
  | "channel_sink" => .obj [("file", .str s), ("stage", .str "lex"), ("status", .str "done")]
  | "normalize_path" => .obj [("path", .str (Path.clean s))]
  | "relative_path" => .obj [("path", .str (Path.relative "/" s (j.getStr "base")))]
  | fn => View.error "BadOp" s!"unknown op {fn}".toUTF8

end NovelScript.Session

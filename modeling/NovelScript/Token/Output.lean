import NovelScript.Token.Basic
import NovelScript.Source.Unit
import NovelScript.Ident.Dict
import NovelScript.Blob.Store
import NovelScript.Json.Value
import NovelScript.Number.Shortest
import NovelScript.Text.Quoted
import NovelScript.Text.Pad
/-!
# Token dumps

A token dump lists each token with its kind name, its text, its decoded value, its span and
position, its flags and whether it starts a line. Values decode through the unit's
dictionary and string store when they are at hand; without them a name shows as `#<slot>`
and a literal as `blob#<index>`.

The dump is printed as aligned lines (`%4d: %c%-10s %4d:%-3d`, then the quoted text, the
value after `=>` and the flags in binary, each only when present), or as an indented JSON
array in which empty texts, zero flags and a false line start are left out.
-/

namespace NovelScript

/-- What a dump decodes token payloads with. -/
structure TokenEnv where
  unit : Option SourceUnit := none
  dict : Option Dict := none
  blobs : Option BlobStore := none

/-- One token of a dump. -/
structure TokenOutput where
  type : ByteArray
  lexan : ByteArray := .empty
  value : ByteArray := .empty
  offset : Nat := 0
  len : Nat := 0
  line : Nat := 0
  col : Nat := 0
  flags : Nat := 0
  lineStart : Bool := false

namespace TokenOutput

/-- The decoded payload of a token: a keyword's name, a name's text, a literal's quoted
text, a number as `value:Kind[:unit]`, an operator's spelling. -/
def valueOf (env : TokenEnv) (t : Token) : ByteArray :=
  match t.kind with
  | .keyword => (keywordName t.keyword).toUTF8
  | .name | .typeName | .label | .character | .sysVar | .cfgVar =>
    match env.dict with
    | some d => d.text t.index32
    | none => ("#" ++ toString t.index32).toUTF8
  | .string | .speaker | .message =>
    match env.blobs.bind (·.get? t.index32) with
    | some s => (Quoted.quote s).toUTF8
    | none => ("blob#" ++ toString t.index32).toUTF8
  | .number =>
    let k := t.numKind
    let kind := NumKind.ofCode? k
    let v :=
      if (kind.map NumKind.isFloat).getD false then Shortest.general t.value
      else if (kind.map NumKind.isUnsigned).getD false then toString t.value.toNat
      else toString t.int
    let unit := if t.numUnit == 0 then "" else ":" ++ NumUnit.nameOfCode t.numUnit
    (v ++ ":" ++ NumKind.nameOfCode k ++ unit).toUTF8
  | .punct => (Op.spellingOfCode t.op ++ (if t.compound then "=" else "")).toUTF8
  | _ => .empty

/-- The dump entry of a token. -/
def ofToken (env : TokenEnv) (t : Token) : TokenOutput :=
  let o : TokenOutput :=
    ⟨t.kind.print.toUTF8, .empty, valueOf env t, t.off, t.len, 0, 0, t.flags.toNat, t.lineStart⟩
  match env.unit with
  | some u =>
    let p := u.position t.off
    { o with lexan := u.slice ⟨t.unit, t.off, t.len⟩, line := p.line, col := p.col }
  | none => o

/-- The dump of a token list. -/
def build (env : TokenEnv) (ts : List Token) : List TokenOutput := ts.map (ofToken env)

/-- `s` padded on the right to `w` characters, counting each invalid byte as one. -/
def padBytes (s : ByteArray) (w : Nat) : ByteArray :=
  s ++ (Pad.spaces (w - (Utf8.runes s).length)).toUTF8

/-- The aligned line of entry number `i` (from 1), with its newline. -/
def prettyLine (i : Nat) (o : TokenOutput) : ByteArray :=
  let marker := if o.lineStart then "+" else " "
  let head := (Pad.left (toString i) 4 ++ ": " ++ marker).toUTF8 ++ padBytes o.type 10 ++
    (" " ++ Pad.left (toString o.line) 4 ++ ":" ++ Pad.right (toString o.col) 3).toUTF8
  let lexan := if o.lexan.isEmpty then .empty else (" " ++ Quoted.quote o.lexan).toUTF8
  let value := if o.value.isEmpty then .empty else " => ".toUTF8 ++ o.value
  let flags := if o.flags == 0 then .empty else (" [" ++ Pad.binary o.flags 8 ++ "]").toUTF8
  head ++ lexan ++ value ++ flags ++ "\n".toUTF8

/-- The aligned lines of a dump. -/
def pretty (os : List TokenOutput) : ByteArray :=
  (os.zipIdx.map fun (o, i) => prettyLine (i + 1) o).foldl (· ++ ·) .empty

/-- The JSON object of an entry. -/
def toJson (o : TokenOutput) : Json :=
  let text (k : String) (b : ByteArray) : List (String × Json) :=
    if b.isEmpty then [] else [(k, .str (Utf8.lossy b))]
  .obj ([("type", .str (Utf8.lossy o.type))] ++ text "lexan" o.lexan ++ text "value" o.value ++
    [("offset", .nat o.offset), ("len", .nat o.len), ("line", .nat o.line), ("col", .nat o.col)] ++
    (if o.flags == 0 then [] else [("flags", .nat o.flags)]) ++
    (if o.lineStart then [("line_start", .bool true)] else []))

/-- The indented JSON text of a dump, with a final newline. -/
def json (os : List TokenOutput) : String := (Json.arr (os.map toJson)).renderDocument

end TokenOutput

end NovelScript

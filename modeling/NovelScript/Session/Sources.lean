import NovelScript.Session.Request
import NovelScript.Session.Errors
import NovelScript.Session.Lex
import NovelScript.Session.Probe
import NovelScript.Source.Cursor
import NovelScript.Source.Encoding
import NovelScript.Lexer.Invariants
import NovelScript.Hash.Sha256
import NovelScript.Version
/-!
# Driving units, cursors and the token stream checks

A unit request builds one unit and reads it back: positions, lines, slices and the path in
each display mode. A normalize request decodes and cleans bytes as a loaded script would be. A
cursor request walks a cursor through a list of steps. An invariants request checks the token
stream of a unit, lexed or given.
-/

namespace NovelScript.Session

/-- A JSON integer as an index below 2^16, wrapping like a 16-bit field. -/
def unitIndex (j : Json) (key : String) : Nat := (j.getInt key % 65536).toNat

/-- The answer for a unit that cannot be built. -/
def unitFailure : UnitError → Json
  | .badIndex i => View.failure (UnitError.badIndex i).message
  | .tooLarge e => View.error "TooLarge" e.message.toUTF8

/-- Reads a unit back. -/
def unitView (u : SourceUnit) (j : Json) : Json :=
  let base := j.getStr "base"
  let cwd := "/"
  .obj [("path", .str u.path), ("len", .nat u.size),
    ("line_idx", .arr (u.lines.toList.map .nat)),
    ("hash", .str (Sha256.hexDigest u.content)),
    ("flags", .arr (u.flags.names.map .str)),
    ("pos", .arr ((j.get "pos").items.map fun p =>
      let lc := u.position (p.int?.getD 0).toNat
      .arr [.nat lc.line, .nat lc.col])),
    ("lines", .arr ((j.get "lines").items.map fun n => .ofBytes (u.line (n.int?.getD 0).toNat))),
    ("slices", .arr ((j.get "slices").items.map fun s =>
      match s.items with
      | [o, n] => .ofBytes (u.slice ⟨u.id, (o.int?.getD 0).toNat, (n.int?.getD 0).toNat⟩)
      | _ => .ofBytes .empty)),
    ("format_path", .obj (["basename", "auto", "relative", "absolute", "other"].map fun m =>
      (m, .str (u.formatPath cwd m base))))]

/-- Builds a unit from a request and reads it back. -/
def unitSession (j : Json) : Json :=
  match SourceUnit.create (unitIndex j "id") (j.getStr "name" "input.nvl") (Request.bytes j)
      ⟨(j.getInt "flags" % 256).toNat⟩ with
  | .error e => unitFailure e
  | .ok u => unitView u j

/-- Normalizes bytes in an encoding. -/
def normalizeSession (j : Json) : Json :=
  match Encoding.parse (j.getStr "encoding") with
  | .error msg => View.failure msg
  | .ok enc =>
    let (content, flags) := normalize (Request.bytes j) enc
    .obj [("content", .ofBytes content), ("flags", .arr (flags.names.map .str))]

/-- A character and its size. -/
def runeView (r : Nat × Nat) : Json := .arr [.nat r.1, .nat r.2]

/-- One cursor step: its output, the cursor after it and the marks after it. -/
def cursorStep (c : Cursor) (marks : Array Nat) (s : Json) : Json × Cursor × Array Nat :=
  let mark := marks.getD (s.getInt "mark").toNat 0
  match s.getStr "op" with
  | "peek" => (.nat c.peek.toNat, c, marks)
  | "peek_at" => (.nat (c.peekAt (s.getInt "n").toNat).toNat, c, marks)
  | "peek2" => match c.peek2 with
    | some (a, b) => (.arr [.nat a.toNat, .nat b.toNat, .bool true], c, marks)
    | none => (.arr [.nat 0, .nat 0, .bool false], c, marks)
  | "peek_rune" => (runeView c.peekRune, c, marks)
  | "rune_at" => (runeView (c.runeAt (s.getInt "off").toNat), c, marks)
  | "bump" => let (b, c) := c.bump; (.nat b.toNat, c, marks)
  | "bump_rune" => let (r, c) := c.bumpRune; (.nat r, c, marks)
  | "mark" => (.nat marks.size, c, marks.push c.off)
  | "range_from" => (.str (c.rangeFrom mark).render, c, marks)
  | "reset" => (.null, { c with off := mark }, marks)
  | "eat" => let (ok, c) := c.eat (s.getInt "b" % 256).toNat.toUInt8; (.bool ok, c, marks)
  | "has_prefix" => (.bool (c.hasPrefix (s.getStr "s").toUTF8), c, marks)
  | "eof" => (.bool c.eof, c, marks)
  | op => (View.error "BadOp" s!"unknown op {op}".toUTF8, c, marks)

/-- Walks a cursor over the request's bytes. -/
def cursorSession (j : Json) : Json :=
  let text := Request.bytes j
  let limit := if j.has "limit" then (j.getInt "limit").toNat else text.size
  let (_, _, steps) := (j.get "steps").items.foldl (fun (c, marks, acc) s =>
    let (out, c, marks) := cursorStep c marks s
    (c, marks, acc.push (Json.obj [("out", out), ("off", .nat c.off)])))
    (Cursor.create 0 text limit, (#[] : Array Nat), (#[] : Array Json))
  .obj [("steps", .arr steps.toList)]

/-- Lexes a lone tokenizer to the end token or the first error, at most `fuel` tokens. -/
def drain : Nat → Array Token → StateM Lexer (Array Token)
  | 0, acc => return acc
  | fuel + 1, acc => do
    match ← Lexer.lex with
    | .error _ => return acc
    | .ok t => if t.kind == .eof then return acc.push t else drain fuel (acc.push t)

/-- The tokens of a request's list, or the first one that cannot be built. -/
def givenTokens (id : Nat) (ts : List Json) : Except LimitError (List Token) :=
  ts.mapM fun t => Token.new (t.getInt "type" % 256).toNat
    ((t.getInt "unit" id % 65536).toNat) (t.getInt "off") (t.getInt "len")

/-- The check of a token stream, with how many tokens it has. -/
def streamAnswer (u : SourceUnit) (ts : List Token) : Json :=
  match checkStream u ts with
  | none => .obj [("count", .nat ts.length), ("ok", .bool true)]
  | some v => .obj [("count", .nat ts.length), ("violation", .str v.message)]

/-- Checks the token stream of a unit. -/
def invariantsSession (j : Json) : Json :=
  if j.getBool "nil_unit" then .obj [("error", .str "nil unit")] else
  match DirectiveMode.parse (j.getStr "directives") with
  | .error msg => View.failure msg
  | .ok mode =>
    let id := unitIndex j "id"
    match SourceUnit.create id (j.getStr "name" "input.nvl") (Request.bytes j) ⟨UnitFlags.isVirtual⟩ with
    | .error e => unitFailure e
    | .ok u =>
      if j.has "tokens" then
        match givenTokens id (j.get "tokens").items with
        | .error e => limitError e
        | .ok ts => streamAnswer u ts
      else
        let lx := Lexer.create u mode { dict := Dict.create 0, blobs := BlobStore.create 0 }
        streamAnswer u (Id.run ((drain maxLexTokens #[]).run lx)).1.toList

/-- The version texts. -/
def versionSession (j : Json) : Json :=
  let v := j.getStr "version" Version.current
  .obj [("default", .str Version.current), ("commit", .str ""), ("message", .str ""),
    ("date", .str ""), ("colored", .str (Version.colored v (j.getBool "force_color")))]

end NovelScript.Session

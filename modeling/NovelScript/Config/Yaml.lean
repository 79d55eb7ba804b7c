import NovelScript.Text.Quoted
import NovelScript.Text.Bytes
/-!
# Reading YAML documents

The block form of YAML that configuration files use, read into a tree of scalars, mappings
and sequences, each node with the line it starts on:

* a mapping is a column of `key: value` lines at one indentation; a value is a scalar on the
  same line, a nested block on the lines indented below it, or nothing (a null);
* a plain scalar may go on over more indented lines, which are joined with single blanks;
* scalars may be single-quoted (`''` for a quote) or double-quoted (with backslash escapes);
* a sequence is a column of `- item` lines; flow sequences `[a, b]` and flow mappings
  `{k: v}` stay on one line;
* `#` after a blank, or at the start of a line, begins a comment.

Problems are reported as YAML libraries report them. A problem the scanner finds names the
line it is on, except on the first line, where no line is named. A problem of structure, such
as a line indented where no key can be, names the line (counted from zero) where the
enclosing mapping starts, or, for a mapping on the first line, the line (counted from zero)
of the problem itself.
-/

namespace NovelScript.Yaml

/-- Whether a scalar was written plain or quoted. -/
inductive Style where
  | plain | quoted
  deriving DecidableEq

/-- A node of a document, with the line (from 1) it starts on. -/
inductive Node where
  | scalar (text : String) (style : Style) (line : Nat)
  | mapping (pairs : List (Node × Node)) (line : Nat)
  | sequence (items : List Node) (line : Nat)

/-- The line a node starts on. -/
def Node.line : Node → Nat
  | .scalar _ _ l => l
  | .mapping _ l => l
  | .sequence _ l => l

/-- A line of a document: its number, its indentation and its text without the comment. -/
structure Line where
  number : Nat
  indent : Nat
  text : String

/-- The message of a problem found by the scanner on line `n`. -/
def scanError (n : Nat) (problem : String) : String :=
  if n ≤ 1 then "yaml: " ++ problem else s!"yaml: line {n}: {problem}"

/-- The message of a problem of structure, for an enclosing mapping starting on line `start`
and the problem on line `found`. -/
def structureError (start found : Nat) (problem : String) : String :=
  let n := if start > 1 then start - 1 else found - 1
  if n == 0 then "yaml: " ++ problem else s!"yaml: line {n}: {problem}"

/-- The text of a line without its comment: `#` at the start or after a blank, outside
quotes. -/
def stripComment (cs : List Char) : List Char :=
  let rec go : List Char → Option Char → Bool → List Char
    | [], _, _ => []
    | c :: rest, quote, afterBlank =>
      match quote with
      | some q => c :: go rest (if c == q then none else some q) false
      | none =>
        if c == '#' && afterBlank then []
        else if c == '"' || c == '\'' then c :: go rest (some c) false
        else c :: go rest none (c == ' ' || c == '\t')
  go cs none true

/-- The text without blanks at its end. -/
def trimEnd (cs : List Char) : List Char := (cs.reverse.dropWhile fun c => c == ' ' || c == '\t').reverse

/-- The lines of a document that hold something, or the problem of an indentation by tab. -/
def lines (text : String) : Except String (List Line) :=
  let raw := (text.splitOn "\n").zipIdx
  raw.foldlM (fun acc (l, k) => do
    let cs := (l.toList.filter (· != '\r'))
    let indent := (cs.takeWhile (· == ' ')).length
    let rest := cs.drop indent
    let body := trimEnd (stripComment rest)
    if body.isEmpty then return acc
    if rest.head? == some '\t' then throw (scanError (k + 1) "found character that cannot start any token")
    if acc.isEmpty && (body == "---".toList || body == "...".toList) then return acc
    return acc ++ [⟨k + 1, indent, String.ofList body⟩]) []

/-- The position of the `:` that ends a plain key: the first one followed by a blank or the
end of the text. -/
def colonAt (cs : List Char) : Option Nat :=
  (List.range cs.length).find? fun i =>
    cs[i]? == some ':' && (cs[i + 1]? == none || cs[i + 1]? == some ' ' || cs[i + 1]? == some '\t')

/-- The value of a double-quoted scalar's text. -/
def unescapeDouble : List Char → String → String
  | [], acc => acc
  | '\\' :: c :: rest, acc =>
    let e := match c with
      | 'n' => "\n" | 't' => "\t" | 'r' => "\r" | '0' => String.singleton (Char.ofNat 0)
      | '"' => "\"" | '\\' => "\\" | '/' => "/" | ' ' => " " | 'a' => String.singleton (Char.ofNat 7)
      | 'b' => String.singleton (Char.ofNat 8) | 'e' => String.singleton (Char.ofNat 27)
      | 'f' => String.singleton (Char.ofNat 12) | 'v' => String.singleton (Char.ofNat 11)
      | c => "\\" ++ c.toString
    unescapeDouble rest (acc ++ e)
  | c :: rest, acc => unescapeDouble rest (acc.push c)

/-- A quoted scalar at the front of `cs` (its opening quote first): its value and what
follows it, or none when it does not close on the line. -/
def quotedAt (cs : List Char) : Option (String × List Char) :=
  match cs with
  | '\'' :: rest =>
    let rec single : List Char → String → Option (String × List Char)
      | [], _ => none
      | '\'' :: '\'' :: more, acc => single more (acc.push '\'')
      | '\'' :: more, acc => some (acc, more)
      | c :: more, acc => single more (acc.push c)
    single rest ""
  | '"' :: rest =>
    let rec double : List Char → List Char → Option (String × List Char)
      | [], _ => none
      | '\\' :: c :: more, acc => double more (acc ++ ['\\', c])
      | '"' :: more, acc => some (unescapeDouble acc "", more)
      | c :: more, acc => double more (acc ++ [c])
    double rest []
  | _ => none

/-- A scalar written in a value position on line `n`: quoted or plain. -/
def scalarOf (cs : List Char) (n : Nat) : Except String Node :=
  match cs.head? with
  | some '"' | some '\'' =>
    match quotedAt cs with
    | some (v, rest) =>
      if (rest.dropWhile (· == ' ')).isEmpty then .ok (.scalar v .quoted n)
      else .error (scanError n "did not find expected key")
    | none => .error (scanError n "found unexpected end of stream")
  | _ => .ok (.scalar (String.ofList cs) .plain n)

/-- The items of a flow collection's text, split at commas outside brackets and quotes. -/
def flowItems (cs : List Char) : List (List Char) :=
  let (items, cur, _, _) := cs.foldl (fun (items, cur, depth, quote) c =>
    match quote with
    | some q => (items, cur ++ [c], depth, if c == q then none else some q)
    | none =>
      if c == '"' || c == '\'' then (items, cur ++ [c], depth, some c)
      else if c == '[' || c == '{' then (items, cur ++ [c], depth + 1, none)
      else if c == ']' || c == '}' then (items, cur ++ [c], depth - 1, none)
      else if c == ',' && depth == 0 then (items ++ [cur], [], depth, none)
      else (items, cur ++ [c], depth, none)) (([] : List (List Char)), ([] : List Char), (0 : Nat),
      (none : Option Char))
  (items ++ [cur]).map (fun i => trimEnd (i.dropWhile (· == ' '))) |>.filter (!·.isEmpty)

/-- A flow collection on line `n`, read to depth `fuel`. -/
def flowOf : Nat → List Char → Nat → Except String Node
  | 0, cs, n => .ok (.scalar (String.ofList cs) .plain n)
  | fuel + 1, cs, n =>
    match cs.head?, cs.getLast? with
    | some '[', some ']' =>
      (flowItems ((cs.drop 1).dropLast)).mapM (flowOf fuel · n) |>.map (Node.sequence · n)
    | some '{', some '}' =>
      (flowItems ((cs.drop 1).dropLast)).mapM (fun item => do
        match colonAt item with
        | some i =>
          let k ← scalarOf (trimEnd (item.take i)) n
          let v ← flowOf fuel ((item.drop (i + 1)).dropWhile (· == ' ')) n
          return (k, if (item.drop (i + 1)).all (· == ' ') then Node.scalar "" .plain n else v)
        | none => return (← scalarOf item n, Node.scalar "" .plain n)) |>.map (Node.mapping · n)
    | some '[', _ | some '{', _ => .error (scanError n "did not find expected ',' or ']'")
    | _, _ => scalarOf cs n

/-- Whether a line is an item of a sequence at indentation `indent`. -/
def isItem (indent : Nat) (l : Line) : Bool := l.indent == indent && (l.text == "-" || l.text.startsWith "- ")

/-- A key at the front of a mapping line, and what follows its colon. -/
def keyOf (l : Line) : Except String (Node × List Char) :=
  let cs := l.text.toList
  match cs.head? with
  | some '"' | some '\'' =>
    match quotedAt cs with
    | some (k, more) =>
      match more.dropWhile (· == ' ') with
      | ':' :: after => .ok (Node.scalar k .quoted l.number, after)
      | _ => .error (scanError l.number "could not find expected ':'")
    | none => .error (scanError l.number "found unexpected end of stream")
  | _ =>
    match colonAt cs with
    | some p => .ok (Node.scalar (String.ofList (trimEnd (cs.take p))) .plain l.number, cs.drop (p + 1))
    | none => .error (scanError (l.number + 1) "could not find expected ':'")

/-- A value written after a key's colon on line `l`, with the lines `below` that are indented
deeper than the key: the node and how many of those lines it takes. -/
def inlineValue (l : Line) (rest : List Char) (below : List Line) : Except String (Node × Nat) :=
  match rest.head? with
  | some '[' | some '{' => do return (← flowOf 8 rest l.number, 0)
  | some '"' | some '\'' => do return (← scalarOf rest l.number, 0)
  | some '|' | some '>' =>
    let sep := if rest.head? == some '|' then "\n" else " "
    let text := (below.map (·.text)).foldl (fun a t => if a.isEmpty then t else a ++ sep ++ t) ""
    .ok (.scalar (text ++ "\n") .quoted l.number, below.length)
  | _ => do
    if (colonAt rest).isSome then throw (scanError l.number "mapping values are not allowed in this context")
    -- a plain scalar goes on over the more indented lines below it
    for m in below do
      if (colonAt m.text.toList).isSome then
        throw (scanError m.number "mapping values are not allowed in this context")
    return (.scalar (below.foldl (fun a m => a ++ " " ++ m.text) (String.ofList rest)) .plain l.number,
      below.length)

mutual

/-- Reads the block at indentation `indent` from line `i` on: the node and the next line. -/
def block (ls : Array Line) : Nat → Nat → Nat → Except String (Node × Nat)
  | 0, _, i => .error (scanError ((ls[i]?.map (·.number)).getD 0) "document nested too deeply")
  | fuel + 1, indent, i =>
    match ls[i]? with
    | none => .ok (.scalar "" .plain 0, i)
    | some first =>
      if isItem indent first then
        (items ls fuel indent i []).map fun (ns, j) => (.sequence ns first.number, j)
      else (pairs ls fuel first.number indent i []).map fun (ps, j) => (.mapping ps first.number, j)

/-- Reads the items of a sequence at indentation `indent` from line `j` on. -/
def items (ls : Array Line) : Nat → Nat → Nat → List Node → Except String (List Node × Nat)
  | 0, _, j, acc => .ok (acc, j)
  | fuel + 1, indent, j, acc =>
    match ls[j]? with
    | some l =>
      if isItem indent l then
        let body := (l.text.toList.drop 1).dropWhile (· == ' ')
        if body.isEmpty then
          match ls[j + 1]? with
          | some nl =>
            if nl.indent > indent then do
              let (n, k) ← block ls fuel nl.indent (j + 1)
              items ls fuel indent k (acc ++ [n])
            else items ls fuel indent (j + 1) (acc ++ [.scalar "" .plain l.number])
          | none => items ls fuel indent (j + 1) (acc ++ [.scalar "" .plain l.number])
        else do
          let n ← if body.head? == some '[' || body.head? == some '{' then flowOf 8 body l.number
            else scalarOf body l.number
          items ls fuel indent (j + 1) (acc ++ [n])
      else .ok (acc, j)
    | none => .ok (acc, j)

/-- Reads the pairs of a mapping at indentation `indent` that starts on line `start`, from
line `j` on. -/
def pairs (ls : Array Line) : Nat → Nat → Nat → Nat → List (Node × Node) →
    Except String (List (Node × Node) × Nat)
  | 0, _, _, j, acc => .ok (acc, j)
  | fuel + 1, start, indent, j, acc =>
    match ls[j]? with
    | none => .ok (acc, j)
    | some l =>
      if l.indent < indent then .ok (acc, j)
      else if l.indent > indent then .error (structureError start l.number "did not find expected key")
      else do
        let (key, rest) ← keyOf l
        let rest := rest.dropWhile (fun c => c == ' ' || c == '\t')
        if rest.isEmpty then
          match ls[j + 1]? with
          | some nl =>
            if nl.indent > indent || isItem indent nl then do
              let (v, k) ← block ls fuel nl.indent (j + 1)
              pairs ls fuel start indent k (acc ++ [(key, v)])
            else pairs ls fuel start indent (j + 1) (acc ++ [(key, .scalar "" .plain l.number)])
          | none => pairs ls fuel start indent (j + 1) (acc ++ [(key, .scalar "" .plain l.number)])
        else
          let below := (ls.toList.drop (j + 1)).takeWhile (·.indent > indent)
          let (v, taken) ← inlineValue l rest below
          pairs ls fuel start indent (j + 1 + taken) (acc ++ [(key, v)])

end

/-- Reads a document: its root node, or none for a document with nothing in it. -/
def parse (bs : ByteArray) : Except String (Option Node) := do
  let text := (String.fromUTF8? bs).getD (String.ofList ((bs.toList.map fun b => Char.ofNat b.toNat)))
  let ls ← lines text
  match ls.head? with
  | none => return none
  | some first =>
    let arr := ls.toArray
    let cs := first.text.toList
    if ls.length == 1 && (cs.head? == some '[' || cs.head? == some '{') then
      return some (← flowOf 8 cs first.number)
    if ls.length == 1 && (cs.head? == some '"' || cs.head? == some '\'') && (keyOf first).toOption.isNone then
      return some (← scalarOf cs first.number)
    if !isItem first.indent first && (colonAt cs).isNone && cs.head? != some '"' &&
        cs.head? != some '\'' then
      -- a document that is one plain scalar, over one line or several
      for m in ls.drop 1 do
        if (colonAt m.text.toList).isSome then
          throw (scanError m.number "mapping values are not allowed in this context")
      return some (.scalar (" ".intercalate (ls.map (·.text))) .plain first.number)
    let (n, next) ← block arr (4 * arr.size + 8) first.indent 0
    match arr[next]? with
    | none => return some n
    | some l => throw (structureError first.number l.number "did not find expected key")

end NovelScript.Yaml

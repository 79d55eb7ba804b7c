import NovelScript.Text.Utf8
import NovelScript.Text.Quoted
import NovelScript.Text.Letter
import NovelScript.Text.Bytes
/-!
# Reading TOML documents

A TOML document is read into a tree of tables, with the bookkeeping a decoder needs: which
tables were only implied by dotted keys or nested headers, the kind and line of every key's
value, and every key in the order it was written.

The reader works left to right and stops at the first problem, so a problem early in the text
is the one reported even when later text is also wrong. Each problem names its line (the line
of the character that revealed it, or the line before for a line break that ends a string or
an inline table too early) and the last key being read, if any.

Within a document:

* a file may start with a byte order mark, and may not hold a NUL byte in its first six bytes;
* every character must be well-formed UTF-8 and no control character other than tab, line
  feed and a carriage return before a line feed;
* a table header names a table, a doubled header appends a table to an array of tables, and
  a key is a dotted path of bare or quoted names;
* values are basic and literal strings, on one line or several, integers (decimal, or with a
  `0x`, `0o` or `0b` base), floats, booleans, datetimes, arrays and inline tables.

A key may be defined once. A table that was only implied may be defined later, and a key that
held an array may be set again; defining anything else twice fails.
-/

namespace NovelScript.Toml

/-- A byte that starts no well-formed UTF-8 sequence is kept as this plus the byte. -/
def badByte : Nat := 0x200000

/-- The runes of `bs` from `i` on, appended to `acc`. -/
def runesFrom (bs : ByteArray) (i : Nat) (acc : Array Nat) : Array Nat :=
  if i < bs.size then
    let (r, n) := Utf8.decodeAt bs i
    let r := if r == Utf8.replacement && n == 1 then badByte + (Utf8.byteAt bs i).toNat else r
    runesFrom bs (i + max n 1) (acc.push r)
  else acc
termination_by bs.size - i
decreasing_by omega

/-- The scalar values a decoder tells apart. -/
inductive Scalar where
  | str (s : String)
  | int (i : Int)
  | float
  | bool (b : Bool)
  | datetime
  | array

/-- The kind of the value a key holds. -/
inductive Kind where
  | string | integer | float | bool | datetime | array | hash | arrayHash
  deriving DecidableEq

/-- A node of the tree: a value, a table, or an array of tables (the last one is current). -/
inductive Node where
  | leaf (v : Scalar)
  | table (entries : List (String × Node))
  | tables (elems : List (List (String × Node)))

/-- The kind of a scalar. -/
def Scalar.kind : Scalar → Kind
  | .str _ => .string
  | .int _ => .integer
  | .float => .float
  | .bool _ => .bool
  | .datetime => .datetime
  | .array => .array

/-- Whether a rune may appear in a bare key. -/
def isBare (r : Nat) : Bool :=
  (0x41 ≤ r && r ≤ 0x5A) || (0x61 ≤ r && r ≤ 0x7A) || (0x30 ≤ r && r ≤ 0x39) || r == 0x5F ||
    r == 0x2D

/-- A key part as it is printed: bare when it can be, quoted otherwise. -/
def partText (k : String) : String :=
  if k.isEmpty then "\"\""
  else if k.toList.all (isBare ·.toNat) then k
  else
    "\"" ++ String.join (k.toList.map fun c =>
      if c == '"' then "\\\"" else if c == '\\' then "\\\\"
      else if c.toNat < 0x20 || c.toNat == 0x7F then "\\u" ++ Quoted.hexDigits c.toNat 4
      else c.toString) ++ "\""

/-- A dotted key as it is printed. -/
def keyText (k : List String) : String := ".".intercalate (k.map partText)

/-- What reading a document gave: its tree, the keys that are only implied, the kind and
line of each key's value, and every key in the order written. -/
structure Doc where
  root : List (String × Node) := []
  implicits : List String := []
  info : List (String × Kind × Nat) := []
  ordered : List (List String) := []

namespace Doc

/-- The kind of the value at a key, if recorded. -/
def kindOf (d : Doc) (k : List String) : Option Kind :=
  (d.info.find? (·.1 == keyText k)).map (·.2.1)

/-- The line of the value at a key; 0 when not recorded. -/
def lineOf (d : Doc) (k : List String) : Nat :=
  ((d.info.find? (·.1 == keyText k)).map (·.2.2)).getD 0

/-- Records the kind and line of the value at a key. -/
def setInfo (d : Doc) (k : List String) (kind : Kind) (line : Nat) : Doc :=
  { d with info := (d.info.filter (·.1 != keyText k)) ++ [(keyText k, kind, line)] }

end Doc

/-- The entries with the node at `k` replaced or added. -/
def putEntry (es : List (String × Node)) (k : String) (n : Node) : List (String × Node) :=
  if es.any (·.1 == k) then es.map fun (k', m) => if k' == k then (k', n) else (k', m)
  else es ++ [(k, n)]

/-- The node at `k`. -/
def getEntry (es : List (String × Node)) (k : String) : Option Node := (es.find? (·.1 == k)).map (·.2)

/-- A change to the set of implied keys: a key newly implied, or one that is no longer. -/
inductive Mark where
  | implied (k : String)
  | settled (k : String)

/-- The entries of the table at `path` below `es` changed by `f`, walking into the current
table of an array of tables. With `create`, missing tables on the way are made and reported as
implied; a value on the way fails with `onValue` of the key so far. -/
def updateAt {ε : Type} (create : Bool) (onValue missing : List String → ε) (done : List String)
    (f : List (String × Node) → Except ε (List (String × Node) × List Mark)) :
    List String → List (String × Node) → Except ε (List (String × Node) × List Mark)
  | [], es => f es
  | k :: rest, es =>
    let here := done ++ [k]
    match getEntry es k with
    | some (.table inner) => do
      let (inner, made) ← updateAt create onValue missing here f rest inner
      return (putEntry es k (.table inner), made)
    | some (.tables elems) =>
      match elems.getLast? with
      | some last => do
        let (last, made) ← updateAt create onValue missing here f rest last
        return (putEntry es k (.tables (elems.dropLast ++ [last])), made)
      | none => .error (onValue here)
    | some (.leaf _) => .error (onValue here)
    | none =>
      if create then do
        let (inner, made) ← updateAt create onValue missing here f rest []
        return (putEntry es k (.table inner), .implied (keyText here) :: made)
      else .error (missing here)

/-- Sets `key` in the entries of its table to `n`, for the full key `full`: a key that held an
array is replaced, one that was only implied stays as it is and is no longer implied, and any
other is defined twice. -/
def setIn (d : Doc) (full : List String) (key : String) (n : Node) (es : List (String × Node)) :
    Except String (List (String × Node) × List Mark) :=
  match getEntry es key with
  | none => .ok (putEntry es key n, [])
  | some _ =>
    if d.kindOf full == some .array then .ok (putEntry es key n, [.settled (keyText full)])
    else if d.implicits.contains (keyText full) then .ok (es, [.settled (keyText full)])
    else .error ("Key '" ++ keyText full ++ "' has already been defined.")

/-- The document after a walk: the new tree, with the implied keys changed. -/
def Doc.applyWalk (d : Doc) (root : List (String × Node)) (changes : List Mark) : Doc :=
  changes.foldl (fun d m => match m with
    | .implied k => { d with implicits := d.implicits ++ [k] }
    | .settled k => { d with implicits := d.implicits.filter (· != k) }) { d with root := root }

/-- A failure to set up a table: its message, and whether it came at the table itself rather
than on the way to it. -/
structure ContextError where
  message : String
  atTable : Bool

/-- Makes `key` the table that follows, or appends a table to the array of tables at `key`. -/
def Doc.addContext (d : Doc) (key : List String) (array : Bool) : Except ContextError Doc := do
  let last := key.getLast?.getD ""
  let final (es : List (String × Node)) : Except String (List (String × Node) × List Mark) :=
    if array then
      match getEntry es last with
      | none => .ok (putEntry es last (.tables [[]]), [])
      | some (.tables elems) => .ok (putEntry es last (.tables (elems ++ [[]])), [])
      | some _ => .error ("Key '" ++ keyText key ++ "' was already created and cannot be used as an array.")
    else setIn d key last (.table []) es
  let onValue (k : List String) : ContextError :=
    ⟨"Key '" ++ keyText k ++ "' was already created as a hash.", false⟩
  let (root, changes) ← updateAt true onValue onValue [] (fun es => (final es).mapError (⟨·, true⟩))
    key.dropLast d.root
  return d.applyWalk root changes

/-- Marks a key as implied and makes it the table that follows. -/
def Doc.addImplicitContext (d : Doc) (key : List String) : Except ContextError Doc :=
  { d with implicits := d.implicits ++ [keyText key] }.addContext key false

/-- Sets `key` in the table `context` to `n`. -/
def Doc.setValue (d : Doc) (context : List String) (key : String) (n : Node) : Except String Doc := do
  let (root, changes) ← updateAt false (fun k => "Key '" ++ keyText k ++ "' has already been defined.")
    (fun k => "Context for key '" ++ keyText k ++ "' has not been established.")
    [] (setIn d (context ++ [key]) key n) context d.root
  return d.applyWalk root changes

/-- A problem found while reading: its line, the last key read, and what is wrong. -/
structure ParseError where
  line : Nat
  lastKey : String
  message : String

/-- The text of a problem, `toml: line N (last key "k"): message`. -/
def ParseError.text (e : ParseError) : String :=
  if e.lastKey.isEmpty then s!"toml: line {e.line}: {e.message}"
  else s!"toml: line {e.line} (last key {Quoted.quoteText e.lastKey}): {e.message}"

/-- The state of a reader: the runes, the position, the document so far, the table keys go
into, the key being set, and the line of the key being read. -/
structure Reader where
  src : Array Nat
  pos : Nat := 0
  doc : Doc := {}
  context : List String := []
  currentKey : String := ""
  keyLine : Nat := 1

/-- A step of reading. -/
abbrev ReadM := StateT Reader (Except ParseError)

namespace Reader

/-- The line of position `i`: one more than the line feeds before it. -/
def lineAt (r : Reader) (i : Nat) : Nat :=
  1 + ((r.src.extract 0 i).toList.filter (· == 10)).length

/-- The key being read, within its table. -/
def current (r : Reader) : String :=
  if r.currentKey.isEmpty then keyText r.context
  else if r.context.isEmpty then r.currentKey
  else keyText r.context ++ "." ++ r.currentKey

end Reader

/-- Fails at `line` with `message`. -/
def failAt {α : Type} (line : Nat) (message : String) : ReadM α := do
  throw ⟨line, (← get).current, message⟩

/-- Fails on the line of the current position. -/
def fail {α : Type} (message : String) : ReadM α := do
  failAt ((← get).lineAt (← get).pos) message

/-- Fails on the line before the current position. -/
def failPrev {α : Type} (message : String) : ReadM α := do
  failAt ((← get).lineAt (← get).pos - 1) message

/-- Whether a rune is a control character that may not appear. -/
def isControl (r : Nat) : Bool := (r < 0x20 && r != 0x09 && r != 0x0A && r != 0x0D) || r == 0x7F

/-- The rune at position `i`; none at the end. A malformed byte or a control character fails. -/
def runeAt (i : Nat) : ReadM (Option Nat) := do
  let s ← get
  match s.src[i]? with
  | none => return none
  | some r =>
    if r ≥ badByte then failAt (s.lineAt i) ("invalid UTF-8 byte: 0x" ++ Quoted.hexDigits (r - badByte) 2)
    else if isControl r || (r == 0x0D && s.src[i + 1]? != some 0x0A) then
      failAt (s.lineAt i) ("TOML files cannot contain control characters: '0x" ++ Quoted.hexDigits r 2 ++ "'")
    else return some r

/-- The rune at the current position. -/
def peek : ReadM (Option Nat) := do runeAt (← get).pos

/-- Moves on by `n` runes. -/
def advance (n : Nat := 1) : ReadM Unit := modify fun s => { s with pos := s.pos + n }

/-- The rune at the current position, moving past it. -/
def next : ReadM (Option Nat) := do
  let r ← peek
  if r.isSome then advance
  return r

/-- Moves past the current rune when it is `c`. -/
def accept (c : Nat) : ReadM Bool := do
  if (← peek) == some c then advance; return true
  else return false

/-- The text of the runes from `i` to the current position. -/
def textFrom (i : Nat) : ReadM String := do
  let s ← get
  return String.ofList ((s.src.extract i s.pos).toList.map Char.ofNat)

/-- How a rune is quoted in a problem. -/
def quoteRune : Option Nat → String
  | some r => Quoted.quoteRune r
  | none => Quoted.quoteRune Utf8.replacement

/-- A rune, or the end of the input, as a problem names it. -/
def runeOrEof : Option Nat → String
  | some r => "'" ++ (Char.ofNat r).toString ++ "'"
  | none => "end of file"

/-- Whether a rune is a blank or a tab. -/
def isWhitespace (r : Nat) : Bool := r == 0x20 || r == 0x09

/-- Whether a rune ends a line. -/
def isNL (r : Nat) : Bool := r == 0x0A || r == 0x0D

/-- Whether a rune is a decimal digit. -/
def isDigit (r : Nat) : Bool := 0x30 ≤ r && r ≤ 0x39

/-- Whether a rune is a hexadecimal digit. -/
def isHex (r : Nat) : Bool := isDigit r || (0x61 ≤ r && r ≤ 0x66) || (0x41 ≤ r && r ≤ 0x46)

/-- Moves past runes that satisfy `p`. -/
def skipWhile (p : Nat → Bool) : Nat → ReadM Unit
  | 0 => pure ()
  | n + 1 => do
    match ← peek with
    | some r => if p r then advance; skipWhile p n else pure ()
    | none => pure ()

/-- Moves past blanks and tabs. -/
def skipBlanks : ReadM Unit := do skipWhile isWhitespace ((← get).src.size + 1)

/-- Moves past a comment, up to the end of its line. -/
def skipComment : ReadM Unit := do skipWhile (fun r => !isNL r) ((← get).src.size + 1)

/-- Reads a bare name, possibly empty. -/
def bareName : ReadM String := do
  let start := (← get).pos
  skipWhile isBare ((← get).src.size + 1)
  textFrom start

/-- Checks the `n` hexadecimal digits of a `\\u` or `\\U` escape; `strStart` is where the
string's text starts. -/
def hexEscape (strStart : Nat) (four : Bool) : Nat → ReadM Unit
  | 0 => pure ()
  | n + 1 => do
    let r ← next
    if !(r.map isHex).getD false then
      fail ((if four then "expected four hexadecimal digits after '\\u', but got "
        else "expected eight hexadecimal digits after '\\U', but got ") ++
        Quoted.quoteText (← textFrom strStart) ++ " instead")
    hexEscape strStart four n

/-- Checks a string escape after its backslash; `strStart` is where the string's text
starts. -/
def escape (strStart : Nat) : ReadM Unit := do
  match ← next with
  | some 0x75 => hexEscape strStart true 4
  | some 0x55 => hexEscape strStart false 8
  | some r =>
    if [0x62, 0x74, 0x6E, 0x66, 0x72, 0x22, 0x5C, 0x20, 0x09].contains r then pure ()
    else fail ("invalid escape in string '\\" ++ (Char.ofNat r).toString ++ "'")
  | none => failPrev ("invalid escape in string '\\" ++ (Char.ofNat Utf8.replacement).toString ++ "'")

/-- Reads a one-line basic string after its opening quote, which ends at `strStart`: its raw
text. -/
def basicString (strStart : Nat) : Nat → String → ReadM String
  | 0, acc => pure acc
  | fuel + 1, acc => do
    match ← next with
    | none => fail "unexpected EOF; expected '\"'"
    | some r =>
      if isNL r then failPrev "strings cannot contain newlines"
      else if r == 0x5C then
        let start := (← get).pos
        escape strStart
        basicString strStart fuel (acc ++ "\\" ++ (← textFrom start))
      else if r == 0x22 then pure acc
      else basicString strStart fuel (acc.push (Char.ofNat r))

/-- Reads a one-line literal string after its opening quote. -/
def literalString : Nat → String → ReadM String
  | 0, acc => pure acc
  | fuel + 1, acc => do
    match ← next with
    | none => fail "unexpected EOF; expected \"'\""
    | some r =>
      if isNL r then failPrev "strings cannot contain newlines"
      else if r == 0x27 then pure acc
      else literalString fuel (acc.push (Char.ofNat r))

/-- The number of runes `q` from the current position on. -/
def runOf (q : Nat) : Nat → ReadM Nat
  | 0 => pure 0
  | fuel + 1 => do
    let s ← get
    if s.src[s.pos]? == some q then advance; return 1 + (← runOf q fuel)
    else return 0

/-- Reads a multi-line string closed by three `q` after its opening quotes: its raw text. Up
to two more quotes before the closing ones belong to the text; six in a row fail. -/
def multiString (q : Nat) (basic : Bool) (strStart : Nat) : Nat → String → ReadM String
  | 0, acc => pure acc
  | fuel + 1, acc => do
    match ← peek with
    | none =>
      fail (if basic then "unexpected EOF; expected '\"\"\"'" else "unexpected EOF; expected \"'''\"")
    | some r =>
      if r == q then
        let n ← runOf q ((← get).src.size + 1)
        let quotes := String.ofList (List.replicate (min n 2) (Char.ofNat q))
        if n ≥ 6 then
          fail (if basic then "unexpected '\"\"\"\"\"\"'" else "unexpected \"''''''\"")
        else if n ≥ 3 then return acc ++ String.ofList (List.replicate (n - 3) (Char.ofNat q))
        else multiString q basic strStart fuel (acc ++ quotes)
      else if basic && r == 0x5C then
        advance
        match ← peek with
        | some c =>
          if isNL c then advance; multiString q basic strStart fuel (acc ++ "\\" ++ (Char.ofNat c).toString)
          else
            let start := (← get).pos
            escape strStart
            multiString q basic strStart fuel (acc ++ "\\" ++ (← textFrom start))
        | none => fail "unexpected EOF; expected '\"\"\"'"
      else advance; multiString q basic strStart fuel (acc.push (Char.ofNat r))

/-- The value of `n` hexadecimal digits. -/
def hexValue (ds : List Char) : Nat :=
  ds.foldl (fun v c =>
    let d := c.toNat
    16 * v + (if d ≤ 0x39 then d - 0x30 else if d ≤ 0x46 then d - 0x37 else d - 0x57)) 0

/-- The text a basic string's raw text stands for, or the escape that is not a character; at
most `fuel` characters are read. -/
def unescape : Nat → List Char → String → Except String String
  | 0, _, acc => .ok acc
  | _, [], acc => .ok acc
  | fuel + 1, '\\' :: c :: rest, acc =>
    match c with
    | 'b' => unescape fuel rest (acc.push (Char.ofNat 8))
    | 't' => unescape fuel rest (acc.push '\t')
    | 'n' => unescape fuel rest (acc.push '\n')
    | 'f' => unescape fuel rest (acc.push (Char.ofNat 12))
    | 'r' => unescape fuel rest (acc.push '\r')
    | '"' => unescape fuel rest (acc.push '"')
    | '\\' => unescape fuel rest (acc.push '\\')
    | 'u' | 'U' =>
      let n := if c == 'u' then 4 else 8
      let ds := rest.take n
      let v := hexValue ds
      if Utf8.isScalar v then unescape fuel (rest.drop n) (acc.push (Char.ofNat v))
      else .error ("Escaped character '\\" ++ c.toString ++ String.ofList ds ++ "' is not valid UTF-8.")
    | _ => .error ("invalid escape: '\\" ++ c.toString ++ "'")
  | fuel + 1, c :: rest, acc => unescape fuel rest (acc.push c)

/-- Whether a character is a blank or a tab. -/
def isBlankChar (c : Char) : Bool := c == ' ' || c == '\t'

/-- The raw text of a multi-line basic string with each escaped line break, and the blanks
and line breaks after it, taken out; at most `fuel` characters are read. -/
def joinLines : Nat → List Char → List Char
  | 0, cs => cs
  | _, [] => []
  | fuel + 1, '\\' :: rest =>
    let after := rest.dropWhile isBlankChar
    match after with
    | '\n' :: _ | '\r' :: _ =>
      joinLines fuel (after.dropWhile fun c => isBlankChar c || c == '\n' || c == '\r')
    | c :: more => '\\' :: c :: joinLines fuel more
    | [] => ['\\']
  | fuel + 1, c :: rest => c :: joinLines fuel rest

/-- A multi-line string's text without the line break that may follow its opening quotes. -/
def dropFirstBreak (s : String) : String :=
  match s.toList with
  | '\n' :: rest => String.ofList rest
  | '\r' :: '\n' :: rest => String.ofList rest
  | _ => s

/-- The text of a string, failing at `line` for an escape that is not a character. -/
def stringValue (raw : String) (line : Nat) : ReadM String :=
  match unescape (raw.length + 1) raw.toList "" with
  | .ok s => pure s
  | .error m => failAt line m

/-- Reads a quoted key part, its opening quote at the current position. -/
def quotedName (fuel : Nat) : ReadM String := do
  match ← next with
  | some 0x22 =>
    let raw ← basicString (← get).pos fuel ""
    stringValue raw ((← get).lineAt (← get).pos)
  | some _ => literalString fuel ""
  | none => fail "unexpected EOF; expected value"

/-- Reads the parts of a table name up to its closing bracket. -/
def tableName : Nat → List String → ReadM (List String)
  | 0, acc => pure acc
  | fuel + 1, acc => do
    skipBlanks
    if acc.isEmpty then modify fun s => { s with keyLine := s.lineAt s.pos }
    let part ← match ← peek with
      | some 0x5D | none => fail "unexpected end of table name (table names cannot be empty)"
      | some 0x2E => fail "unexpected table separator (table names cannot be empty)"
      | some 0x22 | some 0x27 => quotedName fuel
      | some _ => bareName
    skipBlanks
    match ← next with
    | some 0x2E => tableName fuel (acc ++ [part])
    | some 0x5D => pure (acc ++ [part])
    | r => fail ("expected '.' or ']' to end table name, but got " ++ quoteRune r ++ " instead")

/-- Reads the parts of a key up to its `=`. -/
def keyName : Nat → List String → ReadM (List String)
  | 0, acc => pure acc
  | fuel + 1, acc => do
    skipBlanks
    if acc.isEmpty then
      modify fun s => { s with keyLine := s.lineAt s.pos }
      match ← peek with
      | some 0x3D | none => fail "unexpected '=': key name appears blank"
      | some 0x2E => fail "unexpected '.': keys cannot start with a '.'"
      | _ => pure ()
    let part ← match ← peek with
      | some 0x3D | none => fail "unexpected '='"
      | some 0x2E => fail "unexpected '.'"
      | some 0x22 | some 0x27 => quotedName fuel
      | some _ => bareName
    skipBlanks
    match ← next with
    | none => fail "unexpected EOF; expected key separator '='"
    | some 0x2E => keyName fuel (acc ++ [part])
    | some 0x3D => pure (acc ++ [part])
    | some 0x0A => failPrev "expected '.' or '=', but got '\\n' instead"
    | some r => fail ("expected '.' or '=', but got " ++ Quoted.quoteRune r ++ " instead")

/-- Moves past runes of a number or datetime that satisfy `p`. -/
def digitsWhile (p : Nat → Bool) : ReadM Unit := do skipWhile p ((← get).src.size + 1)

/-- Whether a rune may continue a float. -/
def isFloatRune (r : Nat) : Bool :=
  isDigit r || r == 0x5F || r == 0x2E || r == 0x2D || r == 0x2B || r == 0x65 || r == 0x45

/-- Whether a rune may continue a datetime. -/
def isDateRune (r : Nat) : Bool :=
  isDigit r || [0x2D, 0x3A, 0x54, 0x74, 0x20, 0x2E, 0x5A, 0x7A, 0x2B].contains r

/-- The kinds of number a scan can end in. -/
inductive NumberKind where
  | integer | float | datetime

/-- Reads the rest of a decimal number, after digits or underscores. -/
def decimalRest : ReadM NumberKind := do
  digitsWhile fun r => isDigit r || r == 0x5F
  match ← peek with
  | some 0x2E | some 0x65 | some 0x45 => advance; digitsWhile isFloatRune; return .float
  | _ => return .integer

/-- Reads a number or datetime that starts with a digit at the current position. -/
def numberOrDate : ReadM NumberKind := do
  let start := (← get).pos
  let first ← next
  let loop : ReadM NumberKind := do
    digitsWhile isDigit
    match ← peek with
    | some 0x2D | some 0x3A => advance; digitsWhile isDateRune; return .datetime
    | some 0x5F => advance; decimalRest
    | some 0x2E | some 0x65 | some 0x45 => advance; digitsWhile isFloatRune; return .float
    | _ => return .integer
  if first != some 0x30 then loop
  else
    match ← peek with
    | some r =>
      if isDigit r then loop
      else if r == 0x5F then advance; decimalRest
      else if r == 0x2E || r == 0x65 || r == 0x45 then advance; digitsWhile isFloatRune; return .float
      else if r == 0x62 || r == 0x6F || r == 0x78 then
        advance
        let ok : Nat → Bool := if r == 0x62 then (fun c => c == 0x30 || c == 0x31)
          else if r == 0x6F then (fun c => 0x30 ≤ c && c ≤ 0x37) else isHex
        let name := if r == 0x62 then "not a binary number: '" else if r == 0x6F then
          "not an octal number: '" else "not a hexidecimal number: '"
        let p ← peek
        if !(p.map ok).getD false then
          fail (name ++ (← textFrom start) ++ (p.map fun c => (Char.ofNat c).toString).getD "" ++ "'")
        digitsWhile fun c => ok c || c == 0x5F
        return .integer
      else return .integer
    | none => return .integer

/-- Reads a number after its sign. -/
def signedNumber : ReadM NumberKind := do
  let start := (← get).pos - 1
  match ← next with
  | some 0x69 =>
    if (← accept 0x6E) && (← accept 0x66) then return .float
    else fail ("invalid float: '" ++ (← textFrom start) ++ "'")
  | some 0x6E =>
    if (← accept 0x61) && (← accept 0x6E) then return .float
    else fail ("invalid float: '" ++ (← textFrom start) ++ "'")
  | some 0x2E => fail "floats must start with a digit, not '.'"
  | some r =>
    if r == 0x30 then
      if let some p ← peek then
        if p == 0x62 || p == 0x6F || p == 0x78 then
          fail ("cannot use sign with non-decimal numbers: '" ++ (← textFrom start) ++
            (Char.ofNat p).toString ++ "'")
    if isDigit r then decimalRest
    else fail ("expected a digit but got " ++ Quoted.quoteRune r)
  | none => fail ("expected a digit but got " ++ Quoted.quoteRune Utf8.replacement)

/-- Whether the underscores of a number each stand between digits. -/
def underscoresOk (s : List Char) : Bool :=
  let (ok, accept) := s.foldl (fun (ok, accept) c =>
    if c == '_' && !accept then (false, accept) else (ok, isHex c.toNat)) (true, false)
  ok && accept

/-- Whether a number has a leading zero. -/
def leadingZero (s : List Char) : Bool :=
  match s with
  | '0' :: c :: _ => !(c == 'b' || c == 'o' || c == 'x')
  | '-' :: '0' :: _ :: _ | '+' :: '0' :: _ :: _ => true
  | _ => false

/-- The value of an integer's digits in a base. -/
def digitsValue (base : Nat) (ds : List Char) : Option Nat :=
  ds.foldl (fun acc c => acc.bind fun v =>
    let d := c.toNat
    let x := if d ≤ 0x39 && d ≥ 0x30 then d - 0x30 else if 0x61 ≤ d && d ≤ 0x66 then d - 0x57
      else if 0x41 ≤ d && d ≤ 0x46 then d - 0x37 else 99
    if x < base then some (base * v + x) else none) (if ds.isEmpty then none else some 0)

/-- The value of an integer's text, as a base-prefixed or signed decimal integer. -/
def integerValue (s : String) : Option Int :=
  let cs := s.toList.filter (· != '_')
  match cs with
  | '0' :: 'x' :: ds => (digitsValue 16 ds).map Int.ofNat
  | '0' :: 'o' :: ds => (digitsValue 8 ds).map Int.ofNat
  | '0' :: 'b' :: ds => (digitsValue 2 ds).map Int.ofNat
  | '-' :: ds => (digitsValue 10 ds).map fun v => -Int.ofNat v
  | '+' :: ds => (digitsValue 10 ds).map Int.ofNat
  | ds => (digitsValue 10 ds).map Int.ofNat

/-- Whether every point of a number is followed by a digit. -/
def pointsOk (s : List Char) : Bool :=
  let (ok, point) := s.foldl (fun (ok, point) c =>
    (ok && (!point || (c.toNat ≥ 0x30 && c.toNat ≤ 0x39)), c == '.')) (true, false)
  ok && !point

/-- Whether a float's text (underscores removed) is a decimal float. -/
def floatSyntax (s : List Char) : Bool :=
  let s := match s with | '+' :: r | '-' :: r => r | r => r
  if s == "inf".toList || s == "nan".toList then true else
  let digit (c : Char) := c.toNat ≥ 0x30 && c.toNat ≤ 0x39
  let intPart := s.takeWhile digit
  let rest := s.dropWhile digit
  let (frac, rest) := match rest with
    | '.' :: r => (r.takeWhile digit, r.dropWhile digit)
    | r => ([], r)
  let mantissaOk := !intPart.isEmpty || !frac.isEmpty
  match rest with
  | [] => mantissaOk
  | e :: r =>
    if e != 'e' && e != 'E' then false else
    let r := match r with | '+' :: q | '-' :: q => q | q => q
    mantissaOk && !r.isEmpty && r.all digit

/-- Whether a float's decimal exponent puts it beyond the binary64 range. -/
def floatOverflows (s : List Char) : Bool :=
  let s := match s with | '+' :: r | '-' :: r => r | r => r
  let digit (c : Char) := c.toNat ≥ 0x30 && c.toNat ≤ 0x39
  let intPart := (s.takeWhile digit).dropWhile (· == '0')
  let rest := s.dropWhile digit
  let (frac, rest) := match rest with
    | '.' :: r => (r.takeWhile digit, r.dropWhile digit)
    | r => ([], r)
  let exp : Int := match rest with
    | _ :: '-' :: ds => -((String.ofList ds).toNat?.getD 0 : Int)
    | _ :: '+' :: ds => (String.ofList ds).toNat?.getD 0
    | _ :: ds => (String.ofList ds).toNat?.getD 0
    | [] => 0
  let nonzero := !intPart.isEmpty || frac.any (· != '0')
  let lead : Int := if !intPart.isEmpty then intPart.length
    else -((frac.takeWhile (· == '0')).length : Int)
  nonzero && lead + exp > 309

/-- Whether `n` digits at the front of `s` are all digits. -/
def digitsAt (s : List Char) (n : Nat) : Bool :=
  s.length ≥ n && (s.take n).all fun c => c.toNat ≥ 0x30 && c.toNat ≤ 0x39

/-- The value of the two digits at the front of `s`. -/
def twoDigits (s : List Char) : Nat := (String.ofList (s.take 2)).toNat?.getD 0

/-- Whether `s` is a time of day `hh:mm:ss` with an optional fraction. -/
def timeOk (s : List Char) : Option (List Char) :=
  if digitsAt s 2 && s[2]? == some ':' && digitsAt (s.drop 3) 2 && s[5]? == some ':' &&
      digitsAt (s.drop 6) 2 && twoDigits s < 24 && twoDigits (s.drop 3) < 60 &&
      twoDigits (s.drop 6) < 61 then
    let rest := s.drop 8
    match rest with
    | '.' :: r =>
      let ds := r.takeWhile fun c => c.toNat ≥ 0x30 && c.toNat ≤ 0x39
      if ds.isEmpty then none else some (r.drop ds.length)
    | r => some r
  else none

/-- Whether `s` is one of the datetime forms: a date, a date and time with an optional offset,
or a time. -/
def datetimeOk (s : String) : Bool :=
  let cs := s.toList
  let dateOk := digitsAt cs 4 && cs[4]? == some '-' && digitsAt (cs.drop 5) 2 && cs[7]? == some '-' &&
    digitsAt (cs.drop 8) 2 && 1 ≤ twoDigits (cs.drop 5) && twoDigits (cs.drop 5) ≤ 12 &&
    1 ≤ twoDigits (cs.drop 8) && twoDigits (cs.drop 8) ≤ 31
  if dateOk then
    match cs.drop 10 with
    | [] => true
    | sep :: t =>
      if sep != 'T' && sep != 't' && sep != ' ' then false else
      match timeOk t with
      | some [] => true
      | some ['Z'] | some ['z'] => true
      | some (sign :: off) =>
        (sign == '+' || sign == '-') && off.length == 5 && digitsAt off 2 && off[2]? == some ':' &&
          digitsAt (off.drop 3) 2
      | none => false
  else timeOk cs == some []

/-- Reads a scalar of kind `kind` whose text is `text`, checking it as the decoder would:
the value and its kind. -/
def numberValue (kind : NumberKind) (text : String) (line : Nat) : ReadM Scalar := do
  let cs := text.toList
  match kind with
  | .integer =>
    if !underscoresOk cs then
      failAt line ("Invalid integer " ++ Quoted.quoteText text ++ ": underscores must be surrounded by digits")
    if leadingZero cs then
      failAt line ("Invalid integer " ++ Quoted.quoteText text ++ ": cannot have leading zeroes")
    match integerValue text with
    | some v =>
      if v < -(Int.pow 2 63 : Int) || v ≥ (Int.pow 2 63 : Int) then failAt line (text ++ " is out of range for int64")
      else return .int v
    | none => failAt line ("Expected integer value, but got '" ++ text ++ "'.")
  | .float =>
    let parts := ((text.splitOn ".").flatMap (·.splitOn "e") |>.flatMap (·.splitOn "E")).filter
      (· != "")
    if parts.any fun p => !underscoresOk p.toList then
      failAt line ("Invalid float " ++ Quoted.quoteText text ++ ": underscores must be surrounded by digits")
    if (parts.head?.map fun p => leadingZero p.toList).getD false then
      failAt line ("Invalid float " ++ Quoted.quoteText text ++ ": cannot have leading zeroes")
    if !pointsOk cs then
      failAt line ("Invalid float " ++ Quoted.quoteText text ++ ": '.' must be followed by one or more digits")
    let plain := cs.filter (· != '_')
    if !floatSyntax plain then failAt line ("Invalid float value: " ++ Quoted.quoteText text)
    if floatOverflows plain then failAt line (text ++ " is out of range for float64")
    return .float
  | .datetime =>
    if datetimeOk text then return .datetime
    else failAt line ("invalid datetime: " ++ Quoted.quoteText text)

/-- Reads a run of letters standing for a boolean. -/
def boolWord : ReadM Scalar := do
  let start := (← get).pos
  skipWhile Letter.isLetter ((← get).src.size + 1)
  match ← textFrom start with
  | "true" => return .bool true
  | "false" => return .bool false
  | w => fail ("expected value but found " ++ Quoted.quoteText w ++ " instead")

/-- What a value turned out to be: a scalar, or an inline table. -/
inductive Item where
  | scalar (v : Scalar)
  | inline

/-- Reads a string value after its opening quote `q`: its text and line. -/
def stringItem (q : Nat) : ReadM (String × Nat) := do
  let basic := q == 0x22
  let two ← accept q
  let three ← if two then accept q else pure false
  if two && !three then modify fun s => { s with pos := s.pos - 1 }
  let start := (← get).pos
  let fuel := (← get).src.size + 1
  if three then
    let raw ← multiString q basic start fuel ""
    let line := (← get).lineAt ((← get).pos - 3)
    let raw := dropFirstBreak raw
    if basic then return (← stringValue (String.ofList (joinLines (raw.length + 1) raw.toList)) line, line)
    else return (raw, line)
  else
    let raw ← if basic then basicString start fuel "" else literalString fuel ""
    let line := (← get).lineAt ((← get).pos - 1)
    if basic then return (← stringValue raw line, line) else return (raw, line)

/-- Reads a value that starts with a sign, the sign at `start`. -/
def signedItem (start : Nat) : ReadM (Scalar × Nat) := do
  let kind ← signedNumber
  let text ← textFrom start
  let line := (← get).lineAt (← get).pos
  return (← numberValue kind text line, line)

/-- Reads a value that starts with a letter `r` at `start`: `inf`, `nan` or a boolean. -/
def wordItem (start r : Nat) : ReadM (Scalar × Nat) := do
  let special ← if r == 0x69 || r == 0x6E then do
      let a ← accept 0x6E
      let b ← if a then accept 0x66 else pure false
      if a && b then pure true else do
        let c ← accept 0x61
        let d ← if c then accept 0x6E else pure false
        pure (c && d)
    else pure false
  if special then return (.float, (← get).lineAt (← get).pos)
  if Letter.isLetter r then
    modify fun s => { s with pos := max start (s.pos - 1) }
    let v ← boolWord
    return (v, (← get).lineAt (← get).pos)
  else if r == 0x0A then failPrev "expected value but found '\\n' instead"
  else fail ("expected value but found " ++ Quoted.quoteRune r ++ " instead")

mutual

/-- Reads a value after its `=` or inside an array: what it is and the line recorded for it. -/
def value (fuel : Nat) (inArray : Bool) : ReadM (Item × Nat) := do
  match fuel with
  | 0 => fail "document nested too deeply"
  | fuel + 1 =>
  skipBlanks
  let start := (← get).pos
  match ← next with
  | none => fail "unexpected EOF; expected value"
  | some r =>
    if isDigit r then
      modify fun s => { s with pos := start }
      let kind ← numberOrDate
      let text ← textFrom start
      let text := match kind with
        | .datetime => String.ofList (text.toList.reverse.dropWhile (· == ' ')).reverse
        | _ => text
      let line := (← get).lineAt (← get).pos
      return (.scalar (← numberValue kind text line), line)
    else if r == 0x5B then
      let line := (← get).lineAt (← get).pos
      modify fun s => { s with doc := s.doc.setInfo (s.context ++ [s.currentKey]) .array line }
      arrayItems fuel true
      return (.scalar .array, line)
    else if r == 0x7B then
      let line := (← get).lineAt (← get).pos
      inlineTable fuel inArray
      return (.inline, line)
    else if r == 0x22 || r == 0x27 then
      let (text, line) ← stringItem r
      return (.scalar (.str text), line)
    else if r == 0x2E then fail "floats must start with a digit, not '.'"
    else if r == 0x2D || r == 0x2B then
      let (v, line) ← signedItem start
      return (.scalar v, line)
    else
      let (v, line) ← wordItem start r
      return (.scalar v, line)

/-- Reads the values of an array after its opening bracket, up to its closing one. -/
def arrayItems (fuel : Nat) (expectValue : Bool) : ReadM Unit := do
  match fuel with
  | 0 => fail "document nested too deeply"
  | fuel + 1 =>
  match ← next with
  | none =>
    if expectValue then fail "unexpected EOF; expected value"
    else fail ("expected a comma (',') or array terminator (']'), but got " ++ runeOrEof none)
  | some r =>
    if isWhitespace r || isNL r then arrayItems fuel expectValue
    else if r == 0x23 then skipComment; arrayItems fuel expectValue
    else if r == 0x5D then pure ()
    else if expectValue then
      if r == 0x2C then fail "unexpected comma"
      modify fun s => { s with pos := s.pos - 1 }
      let _ ← value fuel true
      arrayItems fuel false
    else if r == 0x2C then arrayItems fuel true
    else fail ("expected a comma (',') or array terminator (']'), but got " ++ runeOrEof (some r))

/-- Reads the pairs of an inline table after its opening brace, up to its closing one, into
the table at the current key. -/
def inlineTable (fuel : Nat) (inArray : Bool) : ReadM Unit := do
  match fuel with
  | 0 => fail "document nested too deeply"
  | fuel + 1 =>
  let s ← get
  let outerContext := s.context
  let outerKey := s.currentKey
  let ctx := s.context ++ [s.currentKey]
  set { s with context := ctx, currentKey := "" }
  let doc := { s.doc with implicits := s.doc.implicits ++ [keyText ctx] }
  match doc.addContext ctx inArray with
  | .error e =>
    if e.atTable then modify fun s => { s with context := ctx.dropLast }
    failAt s.keyLine e.message
  | .ok doc => modify fun s => { s with doc := doc, context := ctx }
  inlinePairs fuel true
  modify fun s => { s with context := outerContext, currentKey := outerKey }

/-- Reads the pairs of an inline table, a pair expected first when `first`. -/
def inlinePairs (fuel : Nat) (first : Bool) : ReadM Unit := do
  match fuel with
  | 0 => fail "document nested too deeply"
  | fuel + 1 =>
  match ← next with
  | none =>
    if first then fail "unexpected EOF; expected value"
    else fail ("expected a comma or an inline table terminator '\x7d', but got " ++ runeOrEof none ++ " instead")
  | some r =>
    if isWhitespace r then inlinePairs fuel first
    else if isNL r then failPrev "newlines not allowed within inline tables"
    else if r == 0x23 then skipComment; inlinePairs fuel first
    else if r == 0x7D then pure ()
    else if first then
      if r == 0x2C then fail "unexpected comma"
      modify fun s => { s with pos := s.pos - 1 }
      keyValue fuel ((← get).lineAt (← get).pos)
      inlinePairs fuel false
    else if r == 0x2C then
      skipBlanks
      if (← peek) == some 0x7D then fail "trailing comma not allowed in inline tables"
      inlinePairs fuel true
    else fail ("expected a comma or an inline table terminator '\x7d', but got " ++ runeOrEof (some r) ++ " instead")

/-- Reads a key, its `=` and its value, and sets it in the current table. `infoLine`, when
not zero, is the line recorded for the key instead of its value's. -/
def keyValue (fuel : Nat) (infoLine : Nat) : ReadM Unit := do
  match fuel with
  | 0 => fail "document nested too deeply"
  | fuel + 1 =>
  let outerContext := (← get).context
  let key ← keyName ((← get).src.size + 1) []
  let last := key.getLast?.getD ""
  modify fun s => { s with currentKey := last }
  for part in key.dropLast do
    let s ← get
    match s.doc.addImplicitContext (s.context ++ [part]) with
    | .error e => failAt s.keyLine e.message
    | .ok doc => set { s with doc := doc, context := s.context ++ [part] }
  modify fun s => { s with doc := { s.doc with ordered := s.doc.ordered ++ [s.context ++ [last]] } }
  let (item, line) ← value fuel false
  let s ← get
  let (node, kind) := match item with
    | .scalar v => (Node.leaf v, v.kind)
    | .inline => (Node.table [], Kind.hash)
  match s.doc.setValue s.context last node with
  | .error m => failAt s.keyLine m
  | .ok doc =>
    let doc := doc.setInfo (s.context ++ [last]) kind (if infoLine == 0 then line else infoLine)
    set { s with doc := doc, context := outerContext }

end

/-- Reads what may follow an item on its line: blanks, then a comment or the end of the line
or input. -/
def itemEnd : Nat → ReadM Unit
  | 0 => pure ()
  | fuel + 1 => do
    match ← next with
    | none => pure ()
    | some r =>
      if r == 0x23 then skipComment
      else if isWhitespace r then itemEnd fuel
      else if isNL r then pure ()
      else fail ("expected a top-level item to end with a newline, comment, or EOF, but got " ++
        Quoted.quoteRune r ++ " instead")

/-- Reads a table header after its opening bracket, and makes its table the current one. -/
def tableHeader : ReadM Unit := do
  let array ← accept 0x5B
  let line := (← get).lineAt (← get).pos
  let key ← tableName ((← get).src.size + 1) []
  if array then
    match ← next with
    | some 0x5D => pure ()
    | r => fail ("expected end of table array name delimiter ']', but got " ++ quoteRune r ++ " instead")
  let s ← get
  match s.doc.addContext key array with
  | .error e =>
    if e.atTable then set { s with context := key.dropLast }
    failAt s.keyLine e.message
  | .ok doc =>
    let doc := doc.setInfo key (if array then .arrayHash else .hash) line
    set { s with doc := { doc with ordered := doc.ordered ++ [key] }, context := key }

/-- Reads the items of a document: comments, table headers and key-value pairs. -/
def items : Nat → ReadM Unit
  | 0 => pure ()
  | fuel + 1 => do
    skipWhile (fun r => isWhitespace r || isNL r) ((← get).src.size + 1)
    match ← peek with
    | none => pure ()
    | some 0x23 => advance; skipComment; items fuel
    | some 0x5B => advance; tableHeader; itemEnd ((← get).src.size + 1); items fuel
    | some _ =>
      keyValue ((← get).src.size + 1) 0
      modify fun s => { s with currentKey := "" }
      itemEnd ((← get).src.size + 1)
      items fuel

/-- Reads a document's bytes. -/
def parse (bs : ByteArray) : Except ParseError Doc :=
  let bs := if Bytes.startsWith bs (ByteArray.mk #[0xFF, 0xFE]) || Bytes.startsWith bs (ByteArray.mk #[0xFE, 0xFF])
    then Bytes.drop bs 2
    else if Bytes.startsWith bs (ByteArray.mk #[0xEF, 0xBB, 0xBF]) then Bytes.drop bs 3 else bs
  if (Bytes.take bs 6).toList.contains 0 then
    .error ⟨1, "", "files cannot contain NULL bytes; probably using UTF-16; TOML files must be UTF-8"⟩
  else
    let src := runesFrom bs 0 #[]
    (items (src.size + 1) |>.run { src := src }).map (·.2.doc)

end NovelScript.Toml

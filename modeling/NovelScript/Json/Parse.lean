import NovelScript.Json.Value
/-!
# Reading JSON text

A reader for JSON text into `Json` values. Numbers keep their literal text, so that a value
such as `-0.0` reaches the number reader unchanged. In strings, `\uXXXX` escapes are decoded
and a surrogate pair gives one character; a surrogate escape that is not part of a pair reads
as U+FFFD. White space between tokens is space, tab, line feed and carriage return. The text
must hold exactly one value.
-/

namespace NovelScript.Json

/-- JSON white space. -/
def isSpace (c : Char) : Bool := c == ' ' || c == '\t' || c == '\n' || c == '\r'

/-- The characters after leading white space. -/
def skipSpace (cs : List Char) : List Char := cs.dropWhile isSpace

/-- The value of four hex digits at the front. -/
def hex4 : List Char → Option (Nat × List Char)
  | a :: b :: c :: d :: rest => do
    let v ← [a, b, c, d].foldlM (fun acc x => (Hex.digit? x).map (acc * 16 + ·)) 0
    some (v, rest)
  | _ => none

/-- The character of a `\u` escape whose digits start `cs`, joining a surrogate pair. -/
def unicodeEscape (cs : List Char) : Option (Char × List Char) := do
  let (u, rest) ← hex4 cs
  if 0xD800 ≤ u && u < 0xDC00 then
    match rest with
    | '\\' :: 'u' :: more =>
      match hex4 more with
      | some (v, rest') =>
        if 0xDC00 ≤ v && v < 0xE000 then
          some (Char.ofNat (0x10000 + (u - 0xD800) * 0x400 + (v - 0xDC00)), rest')
        else some ('�', rest)
      | none => some ('�', rest)
    | _ => some ('�', rest)
  else if 0xDC00 ≤ u && u < 0xE000 then some ('�', rest)
  else some (Char.ofNat u, rest)

/-- The rest of a string literal after its opening quote, read into `acc`. -/
def stringBody : List Char → List Char → Option (String × List Char)
  | [], _ => none
  | '"' :: rest, acc => some (String.ofList acc.reverse, rest)
  | '\\' :: c :: rest, acc =>
    match c with
    | '"' => stringBody rest ('"' :: acc)
    | '\\' => stringBody rest ('\\' :: acc)
    | '/' => stringBody rest ('/' :: acc)
    | 'b' => stringBody rest ('\x08' :: acc)
    | 'f' => stringBody rest ('\x0c' :: acc)
    | 'n' => stringBody rest ('\n' :: acc)
    | 'r' => stringBody rest ('\r' :: acc)
    | 't' => stringBody rest ('\t' :: acc)
    | 'u' => match unicodeEscape rest with
      | some (ch, rest') =>
        if rest'.length < rest.length then stringBody rest' (ch :: acc) else none
      | none => none
    | _ => none
  | c :: rest, acc => if c.toNat < 0x20 then none else stringBody rest (c :: acc)
termination_by cs => cs.length

/-- The digits at the front and the rest. -/
def digits (cs : List Char) : List Char × List Char := (cs.takeWhile Char.isDigit, cs.dropWhile Char.isDigit)

/-- A number literal at the front: `-? (0 | [1-9][0-9]*) (. [0-9]+)? ([eE] [+-]? [0-9]+)?`. -/
def number (cs : List Char) : Option (String × List Char) := do
  let (sign, cs) := match cs with
    | '-' :: r => (['-'], r)
    | r => ([], r)
  let (intPart, cs) := digits cs
  if intPart.isEmpty || (intPart.length > 1 && intPart.head? == some '0') then none
  let (frac, cs) ← match cs with
    | '.' :: r =>
      let (f, r) := digits r
      if f.isEmpty then none else some ('.' :: f, r)
    | r => some ([], r)
  let (exp, cs) ← match cs with
    | e :: r =>
      if e == 'e' || e == 'E' then
        let (s, r) := match r with
          | '+' :: r' => (['+'], r')
          | '-' :: r' => (['-'], r')
          | r' => ([], r')
        let (d, r) := digits r
        if d.isEmpty then none else some (e :: s ++ d, r)
      else some ([], e :: r)
    | [] => some ([], [])
  some (String.ofList (sign ++ intPart ++ frac ++ exp), cs)

/-- A literal word at the front. -/
def word (w : String) (v : Json) (cs : List Char) : Option (Json × List Char) :=
  let ws := w.toList
  if cs.take ws.length == ws then some (v, cs.drop ws.length) else none

mutual
/-- A value at the front (after white space), with `fuel` bounding the nesting. -/
def readValue : Nat → List Char → Option (Json × List Char)
  | 0, _ => none
  | fuel + 1, cs =>
    match skipSpace cs with
    | '{' :: rest => readMembers fuel (skipSpace rest) []
    | '[' :: rest => readItems fuel (skipSpace rest) []
    | '"' :: rest => (stringBody rest []).map fun (s, r) => (str s, r)
    | 't' :: rest => word "rue" (bool true) rest
    | 'f' :: rest => word "alse" (bool false) rest
    | 'n' :: rest => word "ull" null rest
    | cs => (number cs).map fun (t, r) => (num t, r)

/-- The items of an array after its `[`, collected in reverse in `acc`. -/
def readItems : Nat → List Char → List Json → Option (Json × List Char)
  | 0, _, _ => none
  | fuel + 1, cs, acc =>
    match cs, acc with
    | ']' :: rest, [] => some (arr [], rest)
    | _, _ => do
      let (v, rest) ← readValue fuel cs
      match skipSpace rest with
      | ',' :: more => readItems fuel (skipSpace more) (v :: acc)
      | ']' :: more => some (arr (v :: acc).reverse, more)
      | _ => none

/-- The members of an object after its opening brace, collected in reverse in `acc`. -/
def readMembers : Nat → List Char → List (String × Json) → Option (Json × List Char)
  | 0, _, _ => none
  | fuel + 1, cs, acc =>
    match cs, acc with
    | '}' :: rest, [] => some (obj [], rest)
    | '"' :: rest, _ => do
      let (k, rest) ← stringBody rest []
      match skipSpace rest with
      | ':' :: more =>
        let (v, rest) ← readValue fuel more
        match skipSpace rest with
        | ',' :: more => readMembers fuel (skipSpace more) ((k, v) :: acc)
        | '}' :: more => some (obj ((k, v) :: acc).reverse, more)
        | _ => none
      | _ => none
    | _, _ => none
end

/-- The value of a JSON text, if it is exactly one value. -/
def parse? (s : String) : Option Json :=
  let cs := s.toList
  match readValue (2 * cs.length + 2) cs with
  | some (v, rest) => if (skipSpace rest).isEmpty then some v else none
  | none => none

end NovelScript.Json

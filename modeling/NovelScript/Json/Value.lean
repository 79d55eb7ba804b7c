import NovelScript.Text.Utf8
import NovelScript.Text.Hex
/-!
# JSON values

Reports, token dumps and diagnostics are written as JSON. A value keeps the order of its
object members as built. Text is escaped the way web-safe encoders do: quotes, backslashes
and control characters, and also `<`, `>`, `&` and the two Unicode line separators, so that
the text can be embedded in a page.
-/

namespace NovelScript

/-- A JSON value. -/
inductive Json where
  | null
  | bool (b : Bool)
  /-- A number by its literal text. -/
  | num (text : String)
  | str (s : String)
  | arr (items : List Json)
  | obj (members : List (String × Json))
  deriving Inhabited

namespace Json

/-- Bytes as text when they are valid UTF-8, otherwise as `{"hex": ...}`. -/
def ofBytes (b : ByteArray) : Json :=
  match String.fromUTF8? b with
  | some s => str s
  | none => obj [("hex", str (Hex.encode b))]

/-- A natural number. -/
def nat (n : Nat) : Json := num (toString n)

/-- An integer. -/
def int (n : Int) : Json := num (toString n)

/-- A 64-bit quantity, written as a decimal string. -/
def dec (n : Int) : Json := str (toString n)

/-- The escaped form of one character inside a JSON string. -/
def escapeChar (c : Char) : String :=
  match c with
  | '"' => "\\\"" | '\\' => "\\\\" | '\n' => "\\n" | '\r' => "\\r" | '\t' => "\\t"
  | '\x08' => "\\b" | '\x0c' => "\\f"
  | '<' => "\\u003c" | '>' => "\\u003e" | '&' => "\\u0026"
  | '\u2028' => "\\u2028" | '\u2029' => "\\u2029"
  | c => if c.toNat < 0x20 then "\\u00" ++ Quoted.hexDigits c.toNat 2 else c.toString

/-- A JSON string literal. -/
def quote (s : String) : String := "\"" ++ String.join (s.toList.map escapeChar) ++ "\""

mutual
/-- The compact text of a value. -/
def render : Json → String
  | null => "null"
  | bool b => if b then "true" else "false"
  | num t => t
  | str s => quote s
  | arr items => "[" ++ renderItems items ++ "]"
  | obj members => "\x7b" ++ renderMembers members ++ "\x7d"

/-- The compact text of array items, comma separated. -/
def renderItems : List Json → String
  | [] => ""
  | [x] => render x
  | x :: rest => render x ++ "," ++ renderItems rest

/-- The compact text of object members, comma separated. -/
def renderMembers : List (String × Json) → String
  | [] => ""
  | [(k, v)] => quote k ++ ":" ++ render v
  | (k, v) :: rest => quote k ++ ":" ++ render v ++ "," ++ renderMembers rest
end

mutual
/-- The indented text of a value whose line starts at `indent`: every item and member on a
line of its own, two spaces deeper than its container, and empty containers as `[]` and
`{}`. -/
def renderIndented (indent : String) : Json → String
  | arr [] => "[]"
  | obj [] => "\x7b\x7d"
  | arr items => "[\n" ++ indentedItems (indent ++ "  ") items ++ "\n" ++ indent ++ "]"
  | obj members => "\x7b\n" ++ indentedMembers (indent ++ "  ") members ++ "\n" ++ indent ++ "\x7d"
  | v => render v

/-- Indented array items, one a line. -/
def indentedItems (indent : String) : List Json → String
  | [] => ""
  | [x] => indent ++ renderIndented indent x
  | x :: rest => indent ++ renderIndented indent x ++ ",\n" ++ indentedItems indent rest

/-- Indented object members, one a line. -/
def indentedMembers (indent : String) : List (String × Json) → String
  | [] => ""
  | [(k, v)] => indent ++ quote k ++ ": " ++ renderIndented indent v
  | (k, v) :: rest =>
    indent ++ quote k ++ ": " ++ renderIndented indent v ++ ",\n" ++ indentedMembers indent rest
end

/-- The text of a value indented by two spaces a level, with a final newline. -/
def renderDocument (v : Json) : String := renderIndented "" v ++ "\n"

/-- The members of an object; empty for other values. -/
def members : Json → List (String × Json)
  | obj ms => ms
  | _ => []

/-- The items of an array; empty for other values. -/
def items : Json → List Json
  | arr xs => xs
  | _ => []

/-- The member `k` of an object, the last one when `k` is repeated; `null` when there is
none. -/
def get (j : Json) (k : String) : Json :=
  j.members.foldl (fun acc (k', v) => if k' == k then v else acc) null

/-- Whether an object has the member `k`. -/
def has (j : Json) (k : String) : Bool := j.members.any (·.1 == k)

/-- The text of a string. -/
def str? : Json → Option String
  | str s => some s
  | _ => none

/-- The value of an integer literal: an optional minus sign and digits. -/
def int? : Json → Option Int
  | num t => match t.toList with
    | '-' :: ds => (String.ofList ds).toNat?.map fun n => -(n : Int)
    | ds => if ds.all Char.isDigit then (String.ofList ds).toNat?.map Int.ofNat else none
  | _ => none

/-- The value of a boolean. -/
def bool? : Json → Option Bool
  | bool b => some b
  | _ => none

/-- The string member `k`, or `d`. -/
def getStr (j : Json) (k : String) (d : String := "") : String := ((j.get k).str?).getD d

/-- The integer member `k`, or `d`. -/
def getInt (j : Json) (k : String) (d : Int := 0) : Int := ((j.get k).int?).getD d

/-- The boolean member `k`, or `false`. -/
def getBool (j : Json) (k : String) : Bool := ((j.get k).bool?).getD false

mutual
/-- The nesting depth of a value: 0 for a scalar, one more than its deepest part for a list or
an object. -/
def depth : Json → Nat
  | arr items => depthItems items + 1
  | obj members => depthMembers members + 1
  | _ => 0

/-- The greatest depth of list items. -/
def depthItems : List Json → Nat
  | [] => 0
  | x :: rest => max (depth x) (depthItems rest)

/-- The greatest depth of member values. -/
def depthMembers : List (String × Json) → Nat
  | [] => 0
  | (_, v) :: rest => max (depth v) (depthMembers rest)
end

/-- An object with the members of both. -/
def merge (a b : Json) : Json := obj (a.members ++ b.members)

end Json

end NovelScript

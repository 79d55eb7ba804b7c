import NovelScript.Json.Value
import NovelScript.Log.Level
import NovelScript.Number.Read
import NovelScript.Number.Shortest
import NovelScript.Text.Quoted
/-!
# Log attribute values

A log record carries attributes: a key and a value. A value is a text (any bytes), a signed or
unsigned integer, a binary64 number, a truth value, a moment, a duration in nanoseconds, a
group of further attributes, a decoded JSON value, or the message of a failure.

Each value has two written forms:

* the console form: texts stand bare unless they are empty or hold a blank, a tab, a line
  break, a quote or `=`, in which case they are quoted; numbers are positional; moments are
  written to the second; durations as hours, minutes and seconds (`1h2m3.5s`, `1.5ms`, `0s`);
  JSON values as `[a b]` lists and `map[k:v]` maps with sorted keys; failures bare;
* the JSON form: texts escaped without touching `<`, `>` and `&`; numbers positional from
  10^-6 up to 10^21 and with an exponent outside; moments to the nanosecond; durations as
  nanoseconds; JSON values compact with sorted keys; failures as texts.

A group is built without its empty subgroups, so "a group with no members" is a property of the
group itself and never of its nested parts.
-/

namespace NovelScript.Log

open Binary

/-- The `width`-digit decimal text of `n`, padded with leading zeros. -/
def padNum (n width : Nat) : String :=
  let s := toString n
  String.ofList (List.replicate (width - s.length) '0') ++ s

/-- A moment as a calendar date, a wall-clock time with nanoseconds, and the offset of its zone
from UTC in minutes. -/
structure Moment where
  year : Nat
  month : Nat
  day : Nat
  hour : Nat
  minute : Nat
  second : Nat
  nanos : Nat
  offset : Int
  deriving Inhabited

namespace Moment

/-- The first instant of year 1 in UTC, which stands for a moment that could not be read. -/
def zero : Moment := ⟨1, 1, 1, 0, 0, 0, 0, 0⟩

/-- Whether `y` is a leap year of the Gregorian calendar. -/
def isLeap (y : Nat) : Bool := y % 4 == 0 && (y % 100 != 0 || y % 400 == 0)

/-- The number of days of month `m` of year `y`. -/
def daysIn (y m : Nat) : Nat :=
  if m == 2 then (if isLeap y then 29 else 28)
  else if m == 4 || m == 6 || m == 9 || m == 11 then 30 else 31

/-- Exactly `n` decimal digits at the front of `cs`, and the rest. -/
def digitsN (n : Nat) (cs : List Char) : Option (Nat × List Char) :=
  let ds := cs.take n
  if ds.length == n && ds.all Char.isDigit then
    some (ds.foldl (fun v c => v * 10 + (c.toNat - '0'.toNat)) 0, cs.drop n)
  else none

/-- The rest of `cs` after the character `c`. -/
def expect (c : Char) : List Char → Option (List Char)
  | d :: rest => if c == d then some rest else none
  | [] => none

/-- The nanoseconds of a fraction's digits: the first nine count, the others are dropped. -/
def fractionNanos (ds : List Char) : Nat :=
  let ds := ds.take 9
  ds.foldl (fun v c => v * 10 + (c.toNat - '0'.toNat)) 0 * Nat.pow 10 (9 - ds.length)

/-- Reads an RFC 3339 moment `YYYY-MM-DDTHH:MM:SS[.fraction](Z|±HH:MM)` whose fields are in
range. -/
def parse? (s : String) : Option Moment := do
  let cs := s.toList
  let (year, cs) ← digitsN 4 cs
  let cs ← expect '-' cs
  let (month, cs) ← digitsN 2 cs
  let cs ← expect '-' cs
  let (day, cs) ← digitsN 2 cs
  let cs ← expect 'T' cs
  let (hour, cs) ← digitsN 2 cs
  let cs ← expect ':' cs
  let (minute, cs) ← digitsN 2 cs
  let cs ← expect ':' cs
  let (second, cs) ← digitsN 2 cs
  let (nanos, cs) := match cs with
    | c :: d :: rest =>
      if (c == '.' || c == ',') && d.isDigit then
        (fractionNanos (d :: rest.takeWhile Char.isDigit), rest.dropWhile Char.isDigit)
      else (0, cs)
    | _ => (0, cs)
  let offset ← match cs with
    | ['Z'] => some (0 : Int)
    | sign :: rest =>
      if sign == '+' || sign == '-' then do
        let (h, rest) ← digitsN 2 rest
        let rest ← expect ':' rest
        let (m, rest) ← digitsN 2 rest
        if !rest.isEmpty || h ≥ 24 || m ≥ 60 then none
        let o : Int := (h * 60 + m : Nat)
        some (if sign == '-' then -o else o)
      else none
    | [] => none
  if month < 1 || month > 12 || day < 1 || day > daysIn year month || hour ≥ 24
      || minute ≥ 60 || second ≥ 60 then none
  some ⟨year, month, day, hour, minute, second, nanos, offset⟩

/-- The zone of a moment: `Z` for UTC, otherwise `±HH:MM`. -/
def zone (t : Moment) : String :=
  if t.offset == 0 then "Z"
  else
    let a := t.offset.natAbs
    (if t.offset < 0 then "-" else "+") ++ padNum (a / 60) 2 ++ ":" ++ padNum (a % 60) 2

/-- The fraction of a second as `.ddd` without trailing zeros, or nothing when it is zero. -/
def fraction (t : Moment) : String :=
  let ds := (padNum t.nanos 9).toList.reverse.dropWhile (· == '0') |>.reverse
  if ds.isEmpty then "" else "." ++ String.ofList ds

/-- The RFC 3339 text of a moment, to the second or, with `nanos`, with its fraction. -/
def rfc3339 (t : Moment) (nanos : Bool) : String :=
  padNum t.year 4 ++ "-" ++ padNum t.month 2 ++ "-" ++ padNum t.day 2 ++ "T" ++
    padNum t.hour 2 ++ ":" ++ padNum t.minute 2 ++ ":" ++ padNum t.second 2 ++
    (if nanos then t.fraction else "") ++ t.zone

/-- The wall-clock time of a moment to the millisecond, `HH:MM:SS.mmm`. -/
def clock (t : Moment) : String :=
  padNum t.hour 2 ++ ":" ++ padNum t.minute 2 ++ ":" ++ padNum t.second 2 ++ "." ++
    padNum (t.nanos / 1000000) 3

end Moment

/-- `v` split at `prec` decimal places: the whole part, then `.` and the fraction without
trailing zeros unless the fraction is zero. -/
def decimalPlaces (v prec : Nat) : String :=
  let frac := (padNum (v % Nat.pow 10 prec) prec).toList.reverse.dropWhile (· == '0') |>.reverse
  toString (v / Nat.pow 10 prec) ++ (if frac.isEmpty then "" else "." ++ String.ofList frac)

/-- The text of a duration of `d` nanoseconds: below a second in the largest of `ns`, `µs` and
`ms` that fits, otherwise hours, minutes and seconds with the leading zero units left out. -/
def durationText (d : Int) : String :=
  let u := d.natAbs
  let sign := if d < 0 then "-" else ""
  if u == 0 then "0s"
  else if u < 1000 then sign ++ toString u ++ "ns"
  else if u < 1000000 then sign ++ decimalPlaces u 3 ++ "µs"
  else if u < 1000000000 then sign ++ decimalPlaces u 6 ++ "ms"
  else
    let secs := u / 1000000000
    let s := toString (secs % 60) ++
      String.ofList ((decimalPlaces (u % 1000000000) 9).toList.drop 1) ++ "s"
    let mins := secs / 60
    if mins == 0 then sign ++ s
    else
      let m := toString (mins % 60) ++ "m" ++ s
      let hours := mins / 60
      if hours == 0 then sign ++ m else sign ++ toString hours ++ "h" ++ m

/-- Exponent layout with at least two exponent digits, for every magnitude. -/
def scientific : Shortest.Layout := ⟨100000, 100000, 2, "+Inf", "-Inf", "NaN"⟩

/-- The JSON text of a number: positional when its magnitude is zero or from 10^-6 up to but
not including 10^21, otherwise the shortest digits with an exponent, a one-digit negative
exponent written without its leading zero (`1e-7`, `1e+21`). -/
def jsonNumber (x : Bits) : String :=
  let mag := x.toNat % Nat.pow 2 63
  let small := (Binary.ofRatio false 1 1000000).toNat
  let large := (Binary.ofNat (Nat.pow 10 21)).toNat
  if mag == 0 || (small ≤ mag && mag < large) then Shortest.plain x
  else
    let t := (Shortest.format scientific x).toList
    let n := t.length
    if n ≥ 4 && t[n - 4]? == some 'e' && t[n - 3]? == some '-' && t[n - 2]? == some '0' then
      String.ofList (t.take (n - 2) ++ t.drop (n - 1))
    else String.ofList t

/-- The binary64 value of a JSON number's text, zero when it has none. -/
def numberValue (text : String) : Bits := (Binary.read? text).getD 0

/-- Members with repeated keys reduced to the last value given, sorted by key. -/
def lastByKey (ms : List (String × Json)) : List (String × Json) :=
  let kept := ms.foldl (fun acc m => acc.filter (·.1 != m.1) ++ [m]) []
  kept.mergeSort (fun a b => decide (a.1 ≤ b.1))

mutual
/-- A decoded value as a map-based decoder holds it: each map keeps the last value given for a
key, and its keys are sorted. -/
def canonical : Json → Json
  | .arr items => .arr (canonicalItems items)
  | .obj ms => .obj (lastByKey (canonicalMembers ms))
  | j => j

/-- List items made canonical. -/
def canonicalItems : List Json → List Json
  | [] => []
  | x :: rest => canonical x :: canonicalItems rest

/-- Map members with canonical values, in the order given. -/
def canonicalMembers : List (String × Json) → List (String × Json)
  | [] => []
  | (k, v) :: rest => (k, canonical v) :: canonicalMembers rest
end

mutual
/-- The compact JSON text of a canonical value, numbers as binary64. -/
def compactText : Json → String
  | .null => "null"
  | .bool b => if b then "true" else "false"
  | .num t => jsonNumber (numberValue t)
  | .str s => Json.quote s
  | .arr items => "[" ++ compactItems items ++ "]"
  | .obj ms => "\x7b" ++ compactMembers ms ++ "\x7d"

/-- The compact JSON text of list items, comma separated. -/
def compactItems : List Json → String
  | [] => ""
  | [x] => compactText x
  | x :: rest => compactText x ++ "," ++ compactItems rest

/-- The compact JSON text of map members, comma separated. -/
def compactMembers : List (String × Json) → String
  | [] => ""
  | [(k, v)] => Json.quote k ++ ":" ++ compactText v
  | (k, v) :: rest => Json.quote k ++ ":" ++ compactText v ++ "," ++ compactMembers rest
end

/-- The compact JSON text of a decoded value: numbers as binary64, maps with sorted keys. -/
def jsonText (j : Json) : String := compactText (canonical j)

mutual
/-- The plain text of a canonical value: `<nil>`, bare texts, shortest numbers, lists as
`[a b]` and maps as `map[k:v]`. -/
def plainOf : Json → String
  | .null => "<nil>"
  | .bool b => if b then "true" else "false"
  | .num t => Shortest.general (numberValue t)
  | .str s => s
  | .arr items => "[" ++ plainItems items ++ "]"
  | .obj ms => "map[" ++ plainMembers ms ++ "]"

/-- The plain text of list items, blank separated. -/
def plainItems : List Json → String
  | [] => ""
  | [x] => plainOf x
  | x :: rest => plainOf x ++ " " ++ plainItems rest

/-- The plain text of map members as `k:v`, blank separated. -/
def plainMembers : List (String × Json) → String
  | [] => ""
  | [(k, v)] => k ++ ":" ++ plainOf v
  | (k, v) :: rest => k ++ ":" ++ plainOf v ++ " " ++ plainMembers rest
end

/-- The plain text of a decoded value, maps with sorted keys. -/
def plainText (j : Json) : String := plainOf (canonical j)

/-- The value of a log attribute. -/
inductive Value where
  | text (b : ByteArray)
  | int (i : Int)
  | nat (n : Nat)
  | float (x : Bits)
  | bool (b : Bool)
  | time (t : Moment)
  | duration (ns : Int)
  | group (members : List (String × Value))
  /-- A decoded JSON value that is null, a list or a map. -/
  | json (j : Json)
  /-- The message of a failure: bare on the console whatever it holds, a string in JSON. -/
  | failure (message : ByteArray)
  deriving Inhabited

/-- A log attribute: a key and a value. -/
abbrev Attr := String × Value

namespace Value

/-- Whether a value is a group without members. -/
def isEmptyGroup : Value → Bool
  | group [] => true
  | _ => false

/-- Whether a value is the null JSON value. -/
def isNull : Value → Bool
  | json .null => true
  | _ => false

/-- The group of the given members, its empty subgroups left out. -/
def groupOf (members : List Attr) : Value := group (members.filter (!·.2.isEmptyGroup))

/-- The value a decoded JSON value stands for: numbers, texts and truth values as themselves,
other values kept whole. -/
def ofJson : Json → Value
  | .num t => float (numberValue t)
  | .str s => text s.toUTF8
  | .bool b => bool b
  | j => json j

/-- Whether a console text must be quoted: it is empty or holds a blank, a tab, a line break,
a quote or `=`. -/
def needsQuotes (b : ByteArray) : Bool :=
  b.isEmpty || b.toList.any fun c => c == 0x20 || c == 0x09 || c == 0x0A || c == 0x22 || c == 0x3D

/-- The console form of a value that is not a group. -/
def consoleText : Value → ByteArray
  | text b => if needsQuotes b then (Quoted.quote b).toUTF8 else b
  | int i => (toString i).toUTF8
  | nat n => (toString n).toUTF8
  | float x => (Shortest.plain x).toUTF8
  | bool b => (if b then "true" else "false").toUTF8
  | time t => (t.rfc3339 false).toUTF8
  | duration d => (durationText d).toUTF8
  | group _ => .empty  -- groups are spread into their members by the console handler
  | json j => (plainText j).toUTF8
  | failure b => b

end Value

/-- The empty attribute, which every handler leaves out. -/
def Attr.empty : Attr := ("", .json .null)

/-- Whether an attribute is the empty attribute. -/
def Attr.isEmpty (a : Attr) : Bool := a.1 == "" && a.2.isNull

/-- A record kept to be logged later: its level, message and attributes. Parts of the library
that may not write anywhere keep such entries, and their caller hands them to a logger. -/
structure Entry where
  level : Level
  message : String
  attrs : List Attr

/-- A debug entry. -/
def Entry.debug (message : String) (attrs : List Attr) : Entry := ⟨Level.debug, message, attrs⟩

end NovelScript.Log

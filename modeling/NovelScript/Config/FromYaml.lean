import NovelScript.Config.Field
import NovelScript.Config.Yaml
import NovelScript.Number.Read
import NovelScript.Number.Arith
import NovelScript.Text.Utf8
/-!
# Settings from a YAML document

A plain scalar is resolved to a type by its text, as YAML 1.2 core schema readers do: `~`,
`null` and the empty text are null, `true` and `false` (in three spellings each) are
booleans, integers may have a sign, a `0x`, `0o` or `0b` base, a leading `0` for octal, and
underscores between digits, floats may start with `.` and name `.inf` and `.nan`, and a date
with an optional time of day is a timestamp. A quoted scalar is always a string.

Decoding matches keys to sections and settings by their exact names. A flag takes a boolean,
or a string spelled `y`, `yes`, `on`, `n`, `no` or `off` (in three spellings each); a count
takes an integer, or a float cut to its integer part; a text takes the text of any scalar. A
null leaves a setting as it is.

Problems do not stop decoding: every unknown key and every value of the wrong type is
reported, in document order, and the settings keep every value that did fit. A mapping with a
key written twice is not decoded at all.
-/

namespace NovelScript.Config

open Yaml

/-- What a scalar's text resolves to. -/
inductive Resolved where
  | null
  | bool (b : Bool)
  | int (n : Int)
  | float (x : Binary.Bits)
  | timestamp
  | str
  deriving DecidableEq

/-- The tag of a resolved scalar. -/
def Resolved.tag : Resolved → String
  | .null => "!!null"
  | .bool _ => "!!bool"
  | .int _ => "!!int"
  | .float _ => "!!float"
  | .timestamp => "!!timestamp"
  | .str => "!!str"

/-- The value of a digit in base `base`, if it is one. -/
def digitIn (base : Nat) (c : Char) : Option Nat :=
  let v := if c.isDigit then some (c.toNat - '0'.toNat)
    else if 'a' ≤ c && c ≤ 'f' then some (c.toNat - 'a'.toNat + 10)
    else if 'A' ≤ c && c ≤ 'F' then some (c.toNat - 'A'.toNat + 10)
    else none
  v.bind fun d => if d < base then some d else none

/-- The value of digits in base `base`, if they are all digits of it. -/
def digitsIn (base : Nat) (cs : List Char) : Option Nat :=
  cs.foldlM (fun n c => (digitIn base c).map (n * base + ·)) 0

/-- The magnitude of an unsigned integer in the base its prefix names: `0x`, `0o` and `0b`
before at least one more character, a leading `0` for octal, decimal otherwise. -/
def unsignedValue (cs : List Char) : Option Nat :=
  match cs with
  | [] => none
  | '0' :: b :: rest@(_ :: _) =>
    if b == 'x' || b == 'X' then digitsIn 16 rest
    else if b == 'o' || b == 'O' then digitsIn 8 rest
    else if b == 'b' || b == 'B' then digitsIn 2 rest
    else digitsIn 8 (b :: rest)
  | '0' :: rest => digitsIn 8 rest
  | _ => digitsIn 10 cs

/-- An integer's text with an optional sign, if it is one that fits in 64 bits, or an unsigned
one that fits in 64 bits unsigned. -/
def integerValue (cs : List Char) : Option Int :=
  let (neg, ds) := match cs with
    | '-' :: r => (true, r)
    | '+' :: r => (false, r)
    | r => (false, r)
  match unsignedValue ds with
  | none => none
  | some n =>
    if neg then (if n ≤ Nat.pow 2 63 then some (-(n : Int)) else none)
    else if n < Nat.pow 2 63 then some n
    else if cs.head? != some '+' && n < Nat.pow 2 64 then some n
    else none

/-- Whether text is a float in the form YAML floats are written: an optional sign, digits
with an optional fraction or a fraction alone, and an optional exponent. -/
def yamlFloatForm (cs : List Char) : Bool :=
  let cs := match cs with
    | '-' :: r | '+' :: r => r
    | r => r
  let whole := cs.takeWhile Char.isDigit
  let rest := cs.dropWhile Char.isDigit
  let (frac, rest) := match rest with
    | '.' :: r => (r.takeWhile Char.isDigit, r.dropWhile Char.isDigit)
    | r => ([], r)
  let mantissaOk := !whole.isEmpty || (!frac.isEmpty && cs.head? == some '.')
  let expOk := match rest with
    | [] => true
    | e :: r =>
      (e == 'e' || e == 'E') &&
        (let ds := match r with
          | '-' :: d | '+' :: d => d
          | d => d
         !ds.isEmpty && ds.all Char.isDigit)
  mantissaOk && expOk

/-- The finite value of float text, if it is finite. -/
def finiteFloat (cs : List Char) : Option Binary.Bits :=
  (Binary.read? (String.ofList cs)).bind fun x => if Binary.isInf x then none else some x

/-- The number of days in a month of a year. -/
def daysIn (year month : Nat) : Nat :=
  if month == 2 then
    if year % 4 == 0 && (year % 100 != 0 || year % 400 == 0) then 29 else 28
  else if month == 4 || month == 6 || month == 9 || month == 11 then 30
  else 31

/-- One or two digits at the front, and what follows them. -/
def shortNumber : List Char → Option (Nat × List Char)
  | a :: b :: rest =>
    if a.isDigit then
      if b.isDigit then some ((a.toNat - 48) * 10 + (b.toNat - 48), rest)
      else some (a.toNat - 48, b :: rest)
    else none
  | [a] => if a.isDigit then some (a.toNat - 48, []) else none
  | [] => none

/-- A time of day `H:M:S` with an optional fraction, and what follows it. -/
def timeOfDay (cs : List Char) : Option (List Char) := do
  let (h, cs) ← shortNumber cs
  let cs ← match cs with | ':' :: r => some r | _ => none
  let (m, cs) ← shortNumber cs
  let cs ← match cs with | ':' :: r => some r | _ => none
  let (s, cs) ← shortNumber cs
  if h ≥ 24 || m ≥ 60 || s ≥ 60 then none
  match cs with
  | c :: d :: rest =>
    if (c == '.' || c == ',') && d.isDigit then some (rest.dropWhile Char.isDigit) else some cs
  | _ => some cs

/-- Whether text is a zone: `Z`, or a sign and `hh:mm`. -/
def zoneForm : List Char → Bool
  | ['Z'] => true
  | [s, h1, h2, ':', m1, m2] =>
    (s == '+' || s == '-') && h1.isDigit && h2.isDigit && m1.isDigit && m2.isDigit &&
      (h1.toNat - 48) * 10 + (h2.toNat - 48) ≤ 24 && (m1.toNat - 48) * 10 + (m2.toNat - 48) ≤ 60
  | _ => false

/-- Whether text is a timestamp: a date `YYYY-M-D`, alone, or followed by `T` or `t`, a time
of day and a zone, or by a blank and a time of day. -/
def isTimestamp (cs : List Char) : Bool :=
  let date : Option (List Char) := do
    let year := cs.take 4
    if year.length != 4 || !year.all Char.isDigit then none
    let rest ← match cs.drop 4 with | '-' :: r => some r | _ => none
    let (month, rest) ← shortNumber rest
    let rest ← match rest with | '-' :: r => some r | _ => none
    let (day, rest) ← shortNumber rest
    let y := (digitsIn 10 year).getD 0
    if month < 1 || month > 12 || day < 1 || day > daysIn y month then none
    some rest
  match date with
  | some [] => true
  | some (c :: rest) =>
    if c == 'T' || c == 't' then ((timeOfDay rest).map zoneForm).getD false
    else if c == ' ' then timeOfDay rest == some []
    else false
  | none => false

/-- What a plain scalar's text resolves to. -/
def resolvePlain (text : String) : Resolved :=
  match text with
  | "" | "~" | "null" | "Null" | "NULL" => .null
  | "true" | "True" | "TRUE" => .bool true
  | "false" | "False" | "FALSE" => .bool false
  | ".nan" | ".NaN" | ".NAN" => .float Binary.defaultNan
  | ".inf" | ".Inf" | ".INF" | "+.inf" | "+.Inf" | "+.INF" => .float (Binary.infinity false)
  | "-.inf" | "-.Inf" | "-.INF" => .float (Binary.infinity true)
  | "-0" | "-0.0" => .float Binary.negZero
  | _ =>
    let cs := text.toList
    match cs.head? with
    | some '.' =>
      if yamlFloatForm cs then ((finiteFloat cs).map Resolved.float).getD .str else .str
    | some c =>
      if c.isDigit || c == '-' || c == '+' then
        if isTimestamp cs then .timestamp
        else
          let plain := cs.filter (· != '_')
          match integerValue plain with
          | some n => .int n
          | none =>
            if yamlFloatForm plain then ((finiteFloat plain).map Resolved.float).getD .str else .str
      else .str
    | none => .null

/-- What a scalar resolves to: a quoted one is a string. -/
def resolveScalar (text : String) : Yaml.Style → Resolved
  | .quoted => .str
  | .plain => resolvePlain text

/-- A float cut to its integer part, as a 64-bit integer takes it: none for NaN and for
values above `2^63`, and the least 64-bit integer for any other value out of range. -/
def truncateFloat (x : Binary.Bits) : Option Int :=
  match Binary.parts x with
  | .nan => none
  | .inf neg => if neg then some (-(Int.pow 2 63)) else none
  | .finite neg m e =>
    let scale := Nat.pow 2 (-e).toNat
    let above := !neg && (if e ≥ 0 then m * Nat.pow 2 e.toNat > Nat.pow 2 63 else m > Nat.pow 2 63 * scale)
    if above then none
    else
      let mag : Nat := if e ≥ 0 then m * Nat.pow 2 e.toNat else m / scale
      let v : Int := if neg then -(mag : Int) else mag
      if v < -(Int.pow 2 63) || v ≥ Int.pow 2 63 then some (-(Int.pow 2 63)) else some v

/-- The value a scalar gives a setting of kind `k`; none when it has the wrong type, and
`some none` for a null, which sets nothing. -/
def yamlValue (k : Kind) (text : String) (r : Resolved) : Option (Option Value) :=
  match r, k with
  | .null, _ => some none
  | _, .text => some (some (.text text))
  | .bool b, .flag => some (some (.flag b))
  | .str, .flag =>
    match text with
    | "y" | "Y" | "yes" | "Yes" | "YES" | "on" | "On" | "ON" => some (some (.flag true))
    | "n" | "N" | "no" | "No" | "NO" | "off" | "Off" | "OFF" => some (some (.flag false))
    | _ => none
  | .int n, .count => if -(Int.pow 2 63) ≤ n && n < Int.pow 2 63 then some (some (.count n)) else none
  | .float x, .count => (truncateFloat x).map fun n => some (.count n)
  | _, _ => none

/-- A problem of a value that does not fit a type, as `line N: cannot unmarshal !!tag
value into type`; a long value is cut to its first seven bytes. -/
def yamlMismatch (line : Nat) (tag : String) (value : Option String) (type : String) : String :=
  let shown := match value with
    | none => ""
    | some v =>
      let bytes := v.toUTF8
      if bytes.size > 10 then " `" ++ Utf8.lossy (bytes.extract 0 7) ++ "...`"
      else " `" ++ v ++ "`"
  s!"line {line}: cannot unmarshal {tag}{shown} into {type}"

/-- The problem of a node that does not fit a type that takes only scalars. -/
def collectionMismatch (type : String) : Yaml.Node → String
  | .mapping _ line => yamlMismatch line "!!map" none type
  | .sequence _ line => yamlMismatch line "!!seq" none type
  | .scalar text style line => yamlMismatch line (resolveScalar text style).tag (some text) type

/-- The problems of keys written twice in a mapping: for each pair of equal keys, at the later
one, naming the line of the earlier one. -/
def duplicateKeys (pairs : List (Yaml.Node × Yaml.Node)) : List String :=
  let keys := pairs.map (·.1)
  let rec pairsFrom : List Yaml.Node → List String
    | [] => []
    | k :: rest =>
      (rest.filterMap fun j => match k, j with
        | .scalar a _ la, .scalar b _ lb =>
          if a == b then some s!"line {lb}: mapping key {Quoted.quoteText a} already defined at line {la}"
          else none
        | _, _ => none) ++ pairsFrom rest
  pairsFrom keys

/-- The state of decoding: the settings so far and the problems found. -/
structure YamlRead where
  settings : Settings
  problems : List String := []

/-- Adds problems. -/
def YamlRead.report (st : YamlRead) (ps : List String) : YamlRead :=
  { st with problems := st.problems ++ ps }

/-- The name a key gives, or none for a null key; a collection key is a problem. -/
def keyName (st : YamlRead) : Yaml.Node → YamlRead × Option (String × Nat)
  | .scalar text style line =>
    if resolveScalar text style == .null then (st, none) else (st, some (text, line))
  | n => (st.report [collectionMismatch "string" n], none)

/-- Decodes a value into one setting. -/
def yamlField (st : YamlRead) (f : Field) : Yaml.Node → YamlRead
  | .scalar text style line =>
    let r := resolveScalar text style
    match yamlValue f.kind text r with
    | some (some v) => { st with settings := st.settings.set f v }
    | some none => st
    | none => st.report [yamlMismatch line r.tag (some text) f.kind.typeName]
  | .mapping pairs line =>
    match duplicateKeys pairs with
    | [] => st.report [yamlMismatch line "!!map" none f.kind.typeName]
    | ps => st.report ps
  | n => st.report [collectionMismatch f.kind.typeName n]

/-- Decodes a mapping into a section. -/
def yamlSection (st : YamlRead) (s : Section) : Yaml.Node → YamlRead
  | .mapping pairs _ =>
    match duplicateKeys pairs with
    | [] => pairs.foldl (fun st (k, v) =>
        match keyName st k with
        | (st, none) => st
        | (st, some (name, line)) =>
          match s.fields.find? (·.key == name) with
          | some f => yamlField st f v
          | none => st.report [s!"line {line}: field {name} not found in type {s.typeName}"]) st
    | ps => st.report ps
  | .scalar text style line =>
    let r := resolveScalar text style
    if r == .null then st else st.report [yamlMismatch line r.tag (some text) s.typeName]
  | n => st.report [collectionMismatch s.typeName n]

/-- Decodes a document's root into the settings. -/
def yamlSettings (st : YamlRead) : Yaml.Node → YamlRead
  | .mapping pairs _ =>
    match duplicateKeys pairs with
    | [] => pairs.foldl (fun st (k, v) =>
        match keyName st k with
        | (st, none) => st
        | (st, some (name, line)) =>
          match Section.all.find? (·.key == name) with
          | some s => yamlSection st s v
          | none => st.report [s!"line {line}: field {name} not found in type config.Config"]) st
    | ps => st.report ps
  | .scalar text style line =>
    let r := resolveScalar text style
    if r == .null then st else st.report [yamlMismatch line r.tag (some text) "config.Config"]
  | n => st.report [collectionMismatch "config.Config" n]

/-- Decodes a document's bytes into the settings: the new settings, or the problem and the
settings as far as they were decoded. An empty document changes nothing. -/
def decodeYaml (bytes : ByteArray) (c : Settings) : Except (String × Settings) Settings :=
  match Yaml.parse bytes with
  | .error e => .error (e, c)
  | .ok none => .ok c
  | .ok (some root) =>
    let st := yamlSettings { settings := c } root
    match st.problems with
    | [] => .ok st.settings
    | ps => .error ("yaml: unmarshal errors:\n  " ++ "\n  ".intercalate ps, st.settings)

end NovelScript.Config

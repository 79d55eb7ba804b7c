import NovelScript.Config.Env
/-!
# Command-line flags

A flag has a long name, maybe a one-letter shorthand, a kind and a default. On the command
line a flag is written `--name value`, `--name=value`, `-n value`, `-nvalue` or `-n=value`; a
flag of the boolean kind takes no value unless one is joined with `=`, and several boolean
shorthands may share one dash (`-vh`). Flags and arguments may come in any order; `--` ends
the flags, and a lone `-` is an argument.

An integer is read as a Go integer literal: an optional sign, a `0x`, `0o` or `0b` base or a
leading `0` for octal, and underscores between digits. A list takes comma-separated values,
the first time replacing its default and then adding to it.
-/

namespace NovelScript.Cli

/-- What a flag holds. -/
inductive FlagKind where
  | bool | int | text | list
  deriving DecidableEq, Repr

/-- A flag. -/
structure Flag where
  name : String
  shorthand : Option Char := none
  kind : FlagKind
  /-- The default as help shows it. -/
  default : String := ""
  usage : String

/-- A flag's value. -/
inductive FlagValue where
  | bool (b : Bool)
  | int (n : Int)
  | text (s : String)
  | list (xs : List String)
  deriving DecidableEq, Repr

/-- What parsing a command line gave: the flags that were set, with their values, and the
arguments. -/
structure Parsed where
  set : List (String × FlagValue) := []
  args : List String := []

namespace Parsed

/-- Whether a flag was set. -/
def changed (p : Parsed) (name : String) : Bool := p.set.any (·.1 == name)

/-- The value a flag was set to. -/
def value? (p : Parsed) (name : String) : Option FlagValue := (p.set.find? (·.1 == name)).map (·.2)

/-- A boolean flag's value. -/
def bool (p : Parsed) (name : String) : Bool :=
  match p.value? name with
  | some (.bool b) => b
  | _ => false

/-- A text flag's value, or its default. -/
def text (p : Parsed) (name : String) (default : String) : String :=
  match p.value? name with
  | some (.text s) => s
  | _ => default

/-- An integer flag's value, or its default. -/
def int (p : Parsed) (name : String) (default : Int) : Int :=
  match p.value? name with
  | some (.int n) => n
  | _ => default

/-- A list flag's values; empty when it was not set. -/
def list (p : Parsed) (name : String) : List String :=
  match p.value? name with
  | some (.list xs) => xs
  | _ => []

end Parsed

/-- The value of a digit in base `base`, if it is one. -/
def digitValue (base : Nat) (c : Char) : Option Nat :=
  let v := if c.isDigit then some (c.toNat - '0'.toNat)
    else if 'a' ≤ c && c ≤ 'z' then some (c.toNat - 'a'.toNat + 10)
    else if 'A' ≤ c && c ≤ 'Z' then some (c.toNat - 'A'.toNat + 10)
    else none
  v.bind fun d => if d < base then some d else none

/-- Whether the underscores of a literal stand only between digits, or between a base prefix
and a digit. -/
def underscoresFit (cs : List Char) : Bool :=
  let cs := match cs with
    | '-' :: r | '+' :: r => r
    | r => r
  let (start, hex, rest) := match cs with
    | '0' :: b :: r =>
      if b == 'b' || b == 'B' || b == 'o' || b == 'O' then ('0', false, r)
      else if b == 'x' || b == 'X' then ('0', true, r)
      else ('^', false, cs)
    | _ => ('^', false, cs)
  let last := rest.foldl (fun (saw : Char) c =>
    if saw == '?' then '?'
    else if c.isDigit || (hex && (('a' ≤ c && c ≤ 'f') || ('A' ≤ c && c ≤ 'F'))) then '0'
    else if c == '_' then (if saw == '0' then '_' else '?')
    else if saw == '_' then '?'
    else '!') start
  last != '_' && last != '?'

/-- Why an unsigned literal does not fit: a bad character, or a value past the limit. -/
inductive Unfit where
  | malformed | tooLarge

/-- The value of digits in `base` below `2^64`, skipping underscores when `base0`; the first
problem from the left otherwise. -/
def unsignedDigits (base : Nat) (base0 : Bool) : List Char → Nat → Except Unfit Nat
  | [], n => .ok n
  | c :: rest, n =>
    if c == '_' && base0 then unsignedDigits base base0 rest n
    else match digitValue base c with
      | none => .error .malformed
      | some d =>
        let n := n * base + d
        if n ≥ Nat.pow 2 64 then .error .tooLarge else unsignedDigits base base0 rest n

/-- An unsigned Go literal in base 0 (the base its prefix names). -/
def unsignedLiteral (cs : List Char) : Except Unfit Nat :=
  match cs with
  | [] => .error .malformed
  | '0' :: b :: rest@(_ :: _) =>
    if b == 'x' || b == 'X' then unsignedDigits 16 true rest 0
    else if b == 'o' || b == 'O' then unsignedDigits 8 true rest 0
    else if b == 'b' || b == 'B' then unsignedDigits 2 true rest 0
    else unsignedDigits 8 true (b :: rest) 0
  | '0' :: rest => unsignedDigits 8 true rest 0
  | _ => unsignedDigits 10 true cs 0

/-- A signed Go integer literal that fits in 64 bits, or the problem in strconv's words. -/
def parseGoInt (s : String) : Except String Int :=
  let fail (why : String) : Except String Int :=
    .error ("strconv.ParseInt: parsing " ++ Quoted.quoteText s ++ ": " ++ why)
  let cs := s.toList
  let (neg, digits) := match cs with
    | '-' :: r => (true, r)
    | '+' :: r => (false, r)
    | r => (false, r)
  match unsignedLiteral digits with
  | .error .malformed => fail "invalid syntax"
  | .error .tooLarge => fail "value out of range"
  | .ok n =>
    if !underscoresFit cs then fail "invalid syntax"
    else if neg then (if n > Nat.pow 2 63 then fail "value out of range" else .ok (-(n : Int)))
    else if n ≥ Nat.pow 2 63 then fail "value out of range" else .ok n

/-- A problem of comma-separated values at a column of the line. -/
def csvProblem (col : Nat) (what : String) : Except String (List String) :=
  .error s!"parse error on line 1, column {col}: {what}"

mutual

/-- The fields of comma-separated values from an unquoted field on: the field so far `cur`
at column `col`, and the fields before it. -/
def csvPlain : List Char → Nat → String → List String → Except String (List String)
  | [], _, cur, acc => .ok (acc ++ [cur])
  | ',' :: rest, col, cur, acc => csvPlain rest (col + 1) "" (acc ++ [cur])
  | '"' :: rest, col, cur, acc =>
    if cur.isEmpty then csvQuoted rest (col + 1) "" acc
    else csvProblem col "bare \" in non-quoted-field"
  | c :: rest, col, cur, acc => csvPlain rest (col + 1) (cur.push c) acc

/-- The fields of comma-separated values from inside a quoted field on. -/
def csvQuoted : List Char → Nat → String → List String → Except String (List String)
  | [], col, _, _ => csvProblem col "extraneous or missing \" in quoted-field"
  | '"' :: '"' :: rest, col, cur, acc => csvQuoted rest (col + 2) (cur.push '"') acc
  | '"' :: ',' :: rest, col, cur, acc => csvPlain rest (col + 2) "" (acc ++ [cur])
  | ['"'], _, cur, acc => .ok (acc ++ [cur])
  | '"' :: _ :: _, col, _, _ => csvProblem (col + 1) "extraneous or missing \" in quoted-field"
  | c :: rest, col, cur, acc => csvQuoted rest (col + 1) (cur.push c) acc

end

/-- The fields of one line of comma-separated values: a field may be quoted, with `""` for a
quote inside it; the empty line has no field. -/
def csvFields (s : String) : Except String (List String) :=
  if s.isEmpty then .ok [] else csvPlain s.toList 1 "" []

/-- The value text gives a flag of kind `k`, or the problem. -/
def readValue (k : FlagKind) (text : String) : Except String FlagValue :=
  match k with
  | .bool => (Config.parseFlag text).map .bool
  | .int => (parseGoInt text).map .int
  | .text => .ok (.text text)
  | .list => (csvFields text).map .list

/-- The name a problem gives a flag: with its shorthand when it has one. -/
def Flag.shownName (f : Flag) : String :=
  match f.shorthand with
  | some c => "-" ++ c.toString ++ ", --" ++ f.name
  | none => "--" ++ f.name

/-- The parsed line with flag `f` set to text `v`. -/
def setFlag (p : Parsed) (f : Flag) (v : String) : Except String Parsed :=
  match readValue f.kind v with
  | .error e =>
    .error ("invalid argument " ++ Quoted.quoteText v ++ " for " ++ Quoted.quoteText f.shownName ++
      " flag: " ++ e)
  | .ok x =>
    let x := match x, p.value? f.name with
      | .list new, some (.list old) => .list (old ++ new)
      | x, _ => x
    .ok { p with set := p.set.filter (·.1 != f.name) ++ [(f.name, x)] }

/-- The flag of a long name. -/
def findLong (flags : List Flag) (name : String) : Option Flag := flags.find? (·.name == name)

/-- The flag of a shorthand. -/
def findShort (flags : List Flag) (c : Char) : Option Flag := flags.find? (·.shorthand == some c)

/-- Reads the shorthands of one dashed argument `-abc`; `rest` are the arguments after it. -/
def shortFlags (flags : List Flag) (whole : String) (p : Parsed) :
    List Char → List String → Except String (Parsed × List String)
  | [], rest => .ok (p, rest)
  | c :: more, rest =>
    match findShort flags c with
    | none => .error ("unknown shorthand flag: " ++ Quoted.quoteRune c.toNat ++ " in " ++ whole)
    | some f =>
      match more with
      | '=' :: v@(_ :: _) => do return (← setFlag p f (String.ofList v), rest)
      | _ =>
        if f.kind == .bool then do shortFlags flags whole (← setFlag p f "true") more rest
        else if !more.isEmpty then do return (← setFlag p f (String.ofList more), rest)
        else match rest with
          | v :: rest => do return (← setFlag p f v, rest)
          | [] => .error ("flag needs an argument: " ++ Quoted.quoteRune c.toNat ++ " in " ++ whole)

/-- Reads a command line: the flags of `flags` and the arguments, or the first problem. Every
step takes at least one argument, so `fuel` above the number of arguments is enough. -/
def parseLine (flags : List Flag) : Nat → List String → Parsed → Except String Parsed
  | 0, _, p => .ok p
  | _, [], p => .ok p
  | fuel + 1, s :: rest, p =>
    if s == "--" then .ok { p with args := p.args ++ rest }
    else if s.length < 2 || !s.startsWith "-" then parseLine flags fuel rest { p with args := p.args ++ [s] }
    else if s.startsWith "--" then
      let body := (s.drop 2).toString
      if body.isEmpty || body.startsWith "-" || body.startsWith "=" then .error ("bad flag syntax: " ++ s)
      else
        let name := (body.splitOn "=").head?.getD ""
        let joined := if body.contains '=' then
            some (String.ofList ((body.toList.dropWhile (· != '=')).drop 1))
          else none
        match findLong flags name with
        | none => .error ("unknown flag: --" ++ name)
        | some f =>
          match joined with
          | some v => do parseLine flags fuel rest (← setFlag p f v)
          | none =>
            if f.kind == .bool then do parseLine flags fuel rest (← setFlag p f "true")
            else match rest with
              | v :: more => do parseLine flags fuel more (← setFlag p f v)
              | [] => .error ("flag needs an argument: --" ++ name)
    else do
      let (p, more) ← shortFlags flags s p ((s.drop 1).toString.toList) rest
      parseLine flags fuel more p

/-- Reads a command line from the start. -/
def parseFlags (flags : List Flag) (args : List String) : Except String Parsed :=
  parseLine flags (args.length + 1) args {}

end NovelScript.Cli

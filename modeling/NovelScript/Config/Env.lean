import NovelScript.Config.Field
import NovelScript.Text.Quoted
/-!
# Settings from the environment

Each setting may be given by an environment variable named `NOVEL_`, the section's part and
the setting's name: `NOVEL_DIAG_MAX_ERRORS`, `NOVEL_LEXER_ENCODING`, `NOVEL_OUTPUT_COLOR`. A
variable that is unset or empty leaves the setting as it is.

A flag is one of `1 t T TRUE true True` or `0 f F FALSE false False`; a count is a decimal
integer with an optional sign that fits in 32 bits. A variable that does not parse leaves its
setting as it is, and every such problem is reported, in the order of the settings, in one
message.
-/

namespace NovelScript.Config

/-- An environment: variables and their values. -/
abbrev Environment := List (String × String)

/-- The value of a variable, if it is set. -/
def Environment.lookup (env : Environment) (name : String) : Option String :=
  (env.find? (·.1 == name)).map (·.2)

/-- The prefix of every variable that names a setting. -/
def envPrefix : String := "NOVEL_"

/-- The variable that names a setting of a section. -/
def envVariable (s : Section) (f : Field) : String := envPrefix ++ s.envPrefix ++ f.envName

/-- A flag's text, if it is one. -/
def parseFlag (v : String) : Except String Bool :=
  match v with
  | "1" | "t" | "T" | "TRUE" | "true" | "True" => .ok true
  | "0" | "f" | "F" | "FALSE" | "false" | "False" => .ok false
  | _ => .error ("strconv.ParseBool: parsing " ++ Quoted.quoteText v ++ ": invalid syntax")

/-- The value of a run of decimal digits, or the first problem: a character that is not a
digit, or a value past `limit`, whichever comes first from the left. -/
def digitRun (limit : Nat) : List Char → Nat → Except Bool Nat
  | [], n => .ok n
  | c :: rest, n =>
    if c.isDigit then
      let n := n * 10 + (c.toNat - '0'.toNat)
      if n > limit then .error true else digitRun limit rest n
    else .error false

/-- A count's text, if it is a decimal integer that fits in 32 bits. -/
def parseCount (v : String) : Except String Int :=
  let malformed := .error ("strconv.ParseInt: parsing " ++ Quoted.quoteText v ++ ": invalid syntax")
  let range := .error ("strconv.ParseInt: parsing " ++ Quoted.quoteText v ++ ": value out of range")
  let (neg, digits) := match v.toList with
    | '-' :: ds => (true, ds)
    | '+' :: ds => (false, ds)
    | ds => (false, ds)
  if digits.isEmpty then malformed
  else
    match digitRun (Nat.pow 2 32 - 1) digits 0 with
    | .error true => range
    | .error false => malformed
    | .ok n =>
      if neg then (if n > Nat.pow 2 31 then range else .ok (-(n : Int)))
      else if n ≥ Nat.pow 2 31 then range else .ok n

/-- The value a variable's text gives a setting. -/
def parseValue (f : Field) (v : String) : Except String Value :=
  match f.kind with
  | .flag => (parseFlag v).map .flag
  | .count => (parseCount v).map .count
  | .text => .ok (.text v)

/-- The settings after one setting's variable, with the problems so far. -/
def applyVariable (env : Environment) (s : Section) (acc : Settings × List String) (f : Field) :
    Settings × List String :=
  let (c, problems) := acc
  match env.lookup (envVariable s f) with
  | none | some "" => (c, problems)
  | some v =>
    match parseValue f v with
    | .ok x => (c.set f x, problems)
    | .error e =>
      (c, problems ++ ["parse error on field " ++ Quoted.quoteText f.title ++ " of type " ++
        Quoted.quoteText f.kind.typeName ++ ": " ++ e])

/-- The settings after the environment's variables, and the problems of those that do not
parse, in one message. -/
def applyEnv (env : Environment) (c : Settings) : Settings × Option String :=
  let (c, problems) := Section.all.foldl (fun acc s => s.fields.foldl (applyVariable env s) acc)
    (c, [])
  match problems with
  | [] => (c, none)
  | ps => (c, some ("parse env: env: " ++ "; ".intercalate ps))

end NovelScript.Config

import NovelScript.Config.Field
import NovelScript.Config.Toml
/-!
# Settings from a TOML document

The tables of a document are matched to sections and their keys to settings by name: the
exact name first, otherwise the first whose name differs only in case. Matching keys are set
in the order they were written, and every key that matched is marked as read. A value of the
wrong type stops decoding; values set before it stay set. After a whole document is decoded,
the first key written that was never read is reported as unknown.

A problem names the key being decoded and the line its value was set on, and the type the
document gave, in the words of the decoding library: `string`, `int64`, `float64`, `bool`,
`time.Time`, `[]interface {}` for an array, `map[string]interface {}` for a table and
`[]map[string]interface {}` for an array of tables.
-/

namespace NovelScript.Config

open Toml

/-- The name of the type of a node's value. -/
def tomlTypeName : Toml.Node → String
  | .leaf (.str _) => "string"
  | .leaf (.int _) => "int64"
  | .leaf .float => "float64"
  | .leaf (.bool _) => "bool"
  | .leaf .datetime => "time.Time"
  | .leaf .array => "[]interface {}"
  | .table _ => "map[string]interface {}"
  | .tables _ => "[]map[string]interface {}"

/-- The name a problem gives the type a setting needs. -/
def Kind.tomlName : Kind → String
  | .flag => "boolean"
  | .count => "integer"
  | .text => "string"

/-- The one of `names` that `key` names: the first equal to it, otherwise the first equal to it
up to case. -/
def matchName {α : Type} (names : List (String × α)) (key : String) : Option α :=
  match names.find? (·.1 == key) with
  | some (_, a) => some a
  | none => (names.find? fun (n, _) => n.toLower == key.toLower).map (·.2)

/-- The state of decoding: the settings so far and the keys read. -/
structure TomlRead where
  settings : Settings
  read : List String := []

/-- A problem while decoding the value at `context`. -/
def tomlProblem (d : Doc) (context : List String) (message : String) : String :=
  let line := d.lineOf context
  let key := Quoted.quoteText (keyText context)
  if line > 0 then s!"toml: line {line} (last key {key}): {message}"
  else s!"toml: (last key {key}): {message}"

/-- The value a node gives a setting of kind `k`, if it has that type. -/
def tomlValue : Kind → Toml.Node → Option Value
  | .flag, .leaf (.bool b) => some (.flag b)
  | .count, .leaf (.int n) => some (.count n)
  | .text, .leaf (.str s) => some (.text s)
  | _, _ => none

/-- Decodes the entries of a section's table. -/
def tomlFields (d : Doc) (s : Section) (context : List String) (st : TomlRead) :
    List (String × Toml.Node) → Except (String × Settings) TomlRead
  | [] => .ok st
  | (k, n) :: rest =>
    match matchName (s.fields.map fun f => (f.key, f)) k with
    | none => tomlFields d s context st rest
    | some f =>
      let here := context ++ [k]
      let st := { st with read := st.read ++ [keyText here] }
      match tomlValue f.kind n with
      | some v => tomlFields d s context { st with settings := st.settings.set f v } rest
      | none =>
        .error (tomlProblem d here ("incompatible types: TOML value has type " ++ tomlTypeName n ++
          "; destination has type " ++ f.kind.tomlName), st.settings)

/-- Decodes the top-level entries of a document. -/
def tomlSections (d : Doc) (st : TomlRead) :
    List (String × Toml.Node) → Except (String × Settings) TomlRead
  | [] => .ok st
  | (k, n) :: rest =>
    match matchName (Section.all.map fun s => (s.key, s)) k with
    | none => tomlSections d st rest
    | some s =>
      let st := { st with read := st.read ++ [keyText [k]] }
      match n with
      | .table es => do
        let st ← tomlFields d s [k] st es
        tomlSections d st rest
      | _ =>
        .error (tomlProblem d [k] ("type mismatch for " ++ s.typeName ++
          ": expected table but found " ++ tomlTypeName n), st.settings)

/-- Decodes a document's bytes into the settings: the new settings and the first key never
read, or the problem and the settings as far as they were decoded. -/
def decodeToml (bytes : ByteArray) (c : Settings) : Except (String × Settings) (Settings × Option String) :=
  match Toml.parse bytes with
  | .error e => .error (e.text, c)
  | .ok d => do
    let st ← tomlSections d { settings := c } d.root
    return (st.settings, (d.ordered.find? fun k => !st.read.contains (keyText k)).map keyText)

end NovelScript.Config

import NovelScript.Diag.Code
import NovelScript.Text.Quoted
import NovelScript.Number.Shortest
/-!
# Diagnostic arguments and messages

A message is its code's template with the placeholders `%0` to `%9` replaced by the rendered
arguments and `%%` by a percent sign. Arguments render by kind: a string as a quoted literal,
integers in decimal, a float as its shortest text, an identifier between single quotes and a
code point as `U+` and at least four upper-case hex digits. A placeholder without an argument,
a `%` before any other character, or a `%` at the end makes the template fail.
-/

namespace NovelScript

/-- One typed argument of a diagnostic. -/
inductive Arg where
  | str (s : ByteArray)
  | int (v : Int)
  | uint (v : Nat)
  | float (bits : UInt64)
  | ident (s : ByteArray)
  | codepoint (v : Nat)
  /-- An argument of an unnamed kind (code 6 and above). -/
  | other (kind : Nat)

/-- The most arguments a diagnostic keeps. -/
def maxArgs : Nat := 10

/-- Upper-case hex digits of `n`, at least `width` of them. -/
def upperHex (n width : Nat) : String :=
  let ds := Nat.toDigits 16 n |>.map Char.toUpper
  String.ofList (List.replicate (width - ds.length) '0' ++ ds)

namespace Arg

/-- The argument of kind code `k` with an empty payload. -/
def zeroOfKind (k : Nat) : Arg :=
  match k with
  | 0 => str .empty | 1 => int 0 | 2 => uint 0 | 3 => float 0 | 4 => ident .empty
  | 5 => codepoint 0 | n => other n

/-- The rendered form of an argument. -/
def render : Arg → ByteArray
  | str s => (Quoted.quote s).toUTF8
  | int v => (toString v).toUTF8
  | uint v => (toString v).toUTF8
  | float b => (Shortest.general b).toUTF8
  | ident s => ("'".toUTF8 ++ s) ++ "'".toUTF8
  | codepoint v => ("U+" ++ upperHex v 4).toUTF8
  | other _ => "?".toUTF8

end Arg

/-- Why a template cannot be filled. -/
inductive FormatError where
  | trailingPercent (template : ByteArray)
  | missingArg (n : Nat) (template : ByteArray)
  | badPlaceholder (c : UInt8) (template : ByteArray)

/-- The message of a format error. -/
def FormatError.message : FormatError → String
  | .trailingPercent t => s!"trailing % in {Quoted.quote t}"
  | .missingArg n t => s!"placeholder %{n} without argument in {Quoted.quote t}"
  | .badPlaceholder c t => s!"bad placeholder %{Char.ofNat c.toNat} in {Quoted.quote t}"

/-- Fills the template from byte `i` on into `acc`. -/
def fillFrom (t : ByteArray) (args : Array Arg) (i : Nat) (acc : ByteArray) :
    Except FormatError ByteArray :=
  if h : i < t.size then
    let c := t[i]
    if c != 0x25 then fillFrom t args (i + 1) (acc.push c)
    else if h2 : i + 1 < t.size then
      let next := t[i + 1]
      if next == 0x25 then fillFrom t args (i + 2) (acc.push 0x25)
      else if 0x30 ≤ next && next ≤ 0x39 then
        let n := (next - 0x30).toNat
        match args[n]? with
        | some a => fillFrom t args (i + 2) (acc ++ a.render)
        | none => .error (.missingArg n t)
      else .error (.badPlaceholder next t)
    else .error (.trailingPercent t)
  else .ok acc
termination_by t.size - i

/-- The template with its placeholders filled. -/
def fillTemplate (t : ByteArray) (args : Array Arg) : Except FormatError ByteArray :=
  if t.toList.contains 0x25 then fillFrom t args 0 .empty else .ok t

end NovelScript

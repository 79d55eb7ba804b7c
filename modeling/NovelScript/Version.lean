import NovelScript.Text.Ansi
/-!
# Version text

The library's version and its colored form: a version `major.minor.patch` (after trimming,
and before the first `-` or `+`) shows its three parts bold in yellow, green and blue, with
the pre-release and build suffix plain; any other version is shown as it is, trimmed.
-/

namespace NovelScript.Version

/-- The default version. -/
def current : String := "0.1.0-dev"

/-- The version with its numeric parts colored when `color` holds. -/
def colored (v : String) (color : Bool) : String :=
  let v := v.trimAscii.toString
  let cut := v.toList.findIdx? (fun c => c == '-' || c == '+')
  let (core, suffix) := match cut with
    | some i => (String.ofList (v.toList.take i), String.ofList (v.toList.drop i))
    | none => (v, "")
  match core.splitOn "." with
  | [a, b, c] =>
    if color then
      Ansi.paint [Ansi.yellow, Ansi.bold] a ++ "." ++ Ansi.paint [Ansi.green, Ansi.bold] b ++ "." ++
        Ansi.paint [Ansi.blue, Ansi.bold] c ++ suffix
    else v
  | _ => v

end NovelScript.Version

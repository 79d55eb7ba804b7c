import NovelScript.Config.Load
import NovelScript.Session.Scratch
import NovelScript.Session.Request
/-!
# Loading settings in a scratch directory

A config request writes a configuration file into its scratch directory (or a directory of
that name, or nothing), and loads the settings from it, from the file found by searching
upward from a start directory, or from the environment alone. The environment is the
request's map of variables and nothing else.

The answer shows the settings as loaded, also when loading failed, and then either the
problem or what the settings mean: the diagnostics policy, the lexer's directive mode and
encoding, and how diagnostics are printed. Paths are shown relative to the scratch directory.
-/

namespace NovelScript.Session

open Config

/-- A text with the scratch directory left out of the paths in it. -/
def hideScratch (s : String) : String := showScratch (s.replace (scratchRoot ++ "/") "")

/-- The settings as an answer shows them. -/
def settingsView (c : Settings) : Json :=
  .obj [("diagnostics", .obj [("errors_fatal", .bool c.diagnostics.errorsFatal),
      ("max_errors", .int c.diagnostics.maxErrors), ("no_notes", .bool c.diagnostics.noNotes),
      ("no_warnings", .bool c.diagnostics.noWarnings),
      ("warnings_as_errors", .bool c.diagnostics.warningsAsErrors)]),
    ("lexer", .obj [("comment_tests", .str c.lexer.commentTests), ("encoding", .str c.lexer.encoding)]),
    ("log", .obj [("file", .str c.log.file), ("format", .str c.log.format), ("level", .str c.log.level),
      ("source", .bool c.log.source)]),
    ("output", .obj [("color", .str c.output.color), ("context", .bool c.output.context),
      ("path_mode", .str c.output.pathMode)]),
    ("path", .str (hideScratch c.path))]

/-- What loaded settings mean. -/
def meaningView (c : Settings) : List (String × Json) :=
  let p := c.policy
  [("policy", .obj [("errors_fatal", .bool p.errorsFatal), ("max_errors", .int p.maxErrors),
      ("suppress_notes", .bool p.suppressNotes), ("suppress_warnings", .bool p.suppressWarnings),
      ("warnings_as_errors", .bool p.warningsAsErrors)]),
    ("lexer_options", .obj [("directives", .str c.mode.name), ("encoding", .str c.encoding.name)]),
    ("pretty", .obj [("context", .bool c.output.context), ("path_mode", .str c.pathMode.name)])]

/-- The answer for loaded settings. -/
def settingsAnswer (l : Loaded) : Json :=
  .obj ([("config", settingsView l.settings)] ++
    match l.error with
    | some e => [("error", .str "ConfigError"), ("message", .str (hideScratch e))]
    | none => meaningView l.settings)

/-- The scratch directory of a config request: its directory made, and its file written, made
a directory, or left out. -/
def configTree (j : Json) (file : String) : FileTree :=
  let t := FileTree.rooted scratchRoot
  let t := if j.has "mkdir" then (t.mkdirAll (j.getStr "mkdir")).toOption.getD t else t
  if j.getBool "missing" then t
  else if j.getBool "as_dir" then (t.mkdirAll file).toOption.getD t
  else (t.writeFile file (.bytes (Request.bytes j))).toOption.getD t

/-- The environment a request gives. -/
def requestEnvironment (j : Json) : Environment :=
  (j.get "env").members.filterMap fun (k, v) => v.str?.map (k, ·)

/-- Answers a config request. -/
def configSession (j : Json) : Json :=
  let env := requestEnvironment j
  if j.getBool "env_only" then settingsAnswer (loadEnvOnly env)
  else
    let file := j.getStr "file" "novel.toml"
    let t := configTree j file
    if j.getBool "discover" then settingsAnswer (loadFrom t (j.getStr "start" ".") env)
    else settingsAnswer (loadFile t file env)

end NovelScript.Session

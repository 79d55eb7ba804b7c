import NovelScript.Session.Lex
import NovelScript.Session.Misc
import NovelScript.Session.Probe
import NovelScript.Session.Stores
import NovelScript.Session.Sources
import NovelScript.Session.Tokenize
import NovelScript.Session.LexOps
import NovelScript.Session.Diagnose
import NovelScript.Session.ContextOps
import NovelScript.Session.ConsoleOps
import NovelScript.Session.SelfTest
import NovelScript.Session.Observe
import NovelScript.Session.Log
import NovelScript.Session.Progress
import NovelScript.Session.Scripts
import NovelScript.Session.Prof
import NovelScript.Session.Files
import NovelScript.Session.Cache
import NovelScript.Session.Config
import NovelScript.Session.Cli
import NovelScript.Json.Parse
/-!
# Answering requests

A request names its operation in `op`; the answer is a JSON value. An operation that is not
known is answered with an error of kind `BadOp`.
-/

namespace NovelScript.Session

/-- The answer to one request. -/
def answer (j : Json) : Json :=
  match j.getStr "op" with
  | "lex" =>
    if j.getBool "raw" then lexRaw (LexRequest.ofJson j) (unitIndex j "id")
    else lex (LexRequest.ofJson j)
  | "misc" => misc j
  | "token" => tokenProbe j
  | "code" => codeProbe j
  | "format" => formatProbe j
  | "directive" => directiveProbe j
  | "dict" => dictSession j
  | "blob" => blobSession j
  | "unit" => unitSession j
  | "normalize" => normalizeSession j
  | "cursor" => cursorSession j
  | "invariants" => invariantsSession j
  | "version" => versionSession j
  | "tokenize" => tokenize j
  | "token_dump" => tokenDump j
  | "lex_ops" => lexOpsSession j
  | "diag" => diagSession j
  | "context" => contextSession j
  | "console" => consoleSession j
  | "selftest" => selfTest j
  | "timer" => timerSession j
  | "report" => reportSession j
  | "log" => logSession j
  | "progress" => progressSession j
  | "scripts" => scriptsSession j
  | "prof" => profSession j
  | "files" => filesSession j
  | "cache" => cacheSession j
  | "config" => configSession j
  | "cli" => cliSession j
  | op => View.error "BadOp" s!"unknown op {op}".toUTF8

/-- The answer to a line that is not JSON. -/
def badRequest : Json := View.error "BadRequest" "invalid JSON".toUTF8

/-- The answer to one line of JSON text, as JSON text. -/
def answerLine (line : String) : String :=
  match Json.parse? line with
  | some j => (answer j).render
  | none => badRequest.render

end NovelScript.Session

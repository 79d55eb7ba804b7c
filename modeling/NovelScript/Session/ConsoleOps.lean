import NovelScript.Session.ContextOps
import NovelScript.Session.Diagnose
/-!
# The console reporter

A console request builds a context that keeps its console reporter, optionally lexes one
script through it (the console text written meanwhile is answered as `lexed`), and then hands
hand-made diagnostics straight to the console (answered as `reported`). The same diagnostics
are also answered as a JSON document and in golden form.
-/

namespace NovelScript.Session

/-- Whether a request carries script bytes in any form. -/
def hasBytes (j : Json) : Bool := j.has "text" || j.has "hex" || j.has "b64" || j.has "parts"

/-- A hand-made diagnostic: raw severity, no category, a range when a unit is named. -/
def handMade (r : Json) : Diagnostic :=
  ⟨(r.getInt "code" % 65536).toNat, .ofCode (r.getInt "sev" % 256).toNat, .internal,
    (r.getStr "msg").toUTF8, "", stepRange r, ((r.get "args").items.map argOf).toArray⟩

/-- Answers a console request. -/
def consoleSession (j : Json) : Json :=
  let req := LexRequest.ofJson j
  match contextOptions req with
  | .error answer => answer
  | .ok opts =>
    let mode := (PathMode.parse? (j.getStr "path_mode")).getD .auto
    let style : ConsoleStyle := ⟨j.getBool "color", mode, j.getStr "base", j.getBool "context", "/"⟩
    let c := Context.create opts FileReader.empty [.console]
    let lexRun : ContextM Nat := do
      let _ ← ContextM.openSourceBytes req.name req.content
      let (ts, _) ← ContextM.drain (tokenBudget req.content.size) #[]
      return ts.size
    let (count, c) : Option Nat × Context :=
      if hasBytes j then
        match (lexRun.run).run c with
        | (.ok n, c) => (some n, c)
        | (.error _, c) => (none, c)
      else (none, c)
    let res : Resolver := c.unit?
    let quiet := j.getBool "stderr"
    let lexed := if quiet then .empty else Console.reports style res c.engine.consoleLog.toList
    let reports := (j.get "reports").items.filter (!·.getBool "nil") |>.map handMade
    let shownBy : Resolver := if j.getBool "nil_resolver" then Resolver.none else res
    let reported := if quiet then .empty else Console.reports style shownBy reports
    let jsonStyle : JsonStyle := ⟨true, mode, j.getStr "base", 0, true, "/"⟩
    .obj ([("has_console", .bool true)] ++
      (match count with | some n => [("tokens", Json.nat n)] | none => []) ++
      [("lexed", .ofBytes lexed), ("reported", .ofBytes reported),
        ("json", DiagnosticsJson.build jsonStyle res reports),
        ("golden", .ofBytes (Golden.format reports res "/" "/"))])

end NovelScript.Session

import NovelScript.Session.Tokenize
import NovelScript.Directive.Registry
/-!
# Running a script's self-tests

A selftest request lexes one script with test directives kept, checks each expectation,
and answers the scenarios, their counts, the registry summary for the chosen kinds, and the
diagnostics collected on the way.
-/

namespace NovelScript.Session

/-- A scenario. -/
def scenarioView (s : Scenario) : Json :=
  .obj [("kind", .str s.kind.name), ("index", .nat s.index), ("name", .str s.name),
    ("range", View.range s.range), ("expect", .ofBytes s.expect.describe), ("passed", .bool s.passed),
    ("got", .ofBytes s.got)]

/-- Answers a selftest request. -/
def selfTest (j : Json) : Json :=
  let req := { LexRequest.ofJson j with directives := "" }
  match contextOptions req with
  | .error answer => answer
  | .ok opts =>
    let opts := { opts with mode := .tests }
    let c := Context.single opts 0 FileReader.empty
    let run : ContextM (CheckResult × Option LexError) := do
      ContextM.init
      let u ← ContextM.openSourceBytes req.name req.content
      Directive.check u (tokenBudget req.content.size) [] {}
    let (res, err, c) : CheckResult × Option RunError × Context :=
      match (run.run).run c with
      | (.ok (res, e), c) => (res, e.map .lex, c)
      | (.error e, c) => ({}, some (.context e), c)
    let kinds := (j.get "kinds").items.filterMap fun k => ExpectKind.parse? (k.str?.getD "")
    let (text, total, passed, failed) := (Registry.add {} res).summarize kinds (j.getBool "verbose")
    .obj ([("scenarios", if res.scenarios.isEmpty then .null else .arr (res.scenarios.toList.map scenarioView)),
      ("passed", .nat res.passed), ("failed", .nat res.failed), ("total", .nat res.scenarios.size),
      ("summary", .ofBytes text), ("summary_counts", .arr [.nat total, .nat passed, .nat failed]),
      ("diags", View.diagnostics c.engine.bag.items.toList), ("counts", View.counts c.engine)] ++
      (match err with | some e => [("run_error", runErrorView e)] | none => []))

end NovelScript.Session

import NovelScript.Directive.Expect
import NovelScript.Compile.Tokenize
/-!
# Checking self-test directives

A unit lexed with test directives kept is checked directive by directive. A balance
expectation is checked at once against the bracket counter after the last token. Token and
end-of-file expectations wait for the next token that is not a directive, which every
waiting expectation is then checked against. Each check becomes a scenario numbered in the
order checked; a failed one is also diagnosed at the directive. Directives that are not
expectations, or do not parse, are passed over (the tokenizer has reported the latter).

A registry summary lists the failed scenarios of chosen kinds (and the passed ones too when
verbose) and ends with the totals.
-/

namespace NovelScript

/-- The outcome of one checked expectation. -/
structure Scenario where
  index : Nat
  /-- The path of the unit holding the directive. -/
  file : String
  range : Range
  expect : Expect
  passed : Bool
  /-- What was found instead, for a failed check. -/
  got : ByteArray

namespace Scenario

/-- The kind of the expectation checked. -/
def kind (s : Scenario) : ExpectKind := s.expect.kind

/-- The label `<path>#<index>`. -/
def name (s : Scenario) : String := s!"{s.file}#{s.index}"

end Scenario

/-- The scenarios of one unit with the pass and fail counts. -/
structure CheckResult where
  scenarios : Array Scenario := #[]
  passed : Nat := 0
  failed : Nat := 0

namespace Directive

/-- A token described the way an expectation of it would read. -/
def describeToken (u : SourceUnit) (t : Token) : ByteArray :=
  (Expect.token t.lineStart t.kind (u.slice t.range)).describe

/-- Whether a token meets a token expectation: same kind, at a line start when asked, and
with the expected text when one is given. -/
def meets (u : SourceUnit) (e : Expect) (t : Token) : Bool :=
  match e with
  | .token ls k lit => t.kind == k && (!ls || t.lineStart) && (lit.isEmpty || u.slice t.range == lit)
  | .eof => t.kind == .eof
  | .balance .. => false

/-- Records one check, diagnosing a failure at the directive with `code` and `args`. -/
def record (u : SourceUnit) (res : CheckResult) (e : Expect) (r : Range) (ok : Bool)
    (got : ByteArray) (code : Code) (args : Array Arg) : ContextM CheckResult := do
  let s : Scenario := ⟨res.scenarios.size, u.path, r, e, ok, if ok then .empty else got⟩
  if ok then return { res with scenarios := res.scenarios.push s, passed := res.passed + 1 }
  ContextM.diagnose r code args
  return { res with scenarios := res.scenarios.push s, failed := res.failed + 1 }

/-- Checks every waiting expectation against the token `t`. -/
def settle (u : SourceUnit) (t : Token) : List (Expect × Range) → CheckResult → ContextM CheckResult
  | [], res => return res
  | (e, r) :: rest, res => do
    let got := describeToken u t
    let res ← match e with
      | .eof => record u res e r (t.kind == .eof) got Code.tstExpectEof #[.str got]
      | .token .. => record u res e r (meets u e t) got Code.tstTokenMismatch #[.str e.describe, .str got]
      | .balance .. => pure res
    settle u t rest res

/-- Lexes the active unit `u` to its end, at most `fuel` tokens, checking its directives;
stops at a lexing error. -/
def check (u : SourceUnit) : Nat → List (Expect × Range) → CheckResult →
    ContextM (CheckResult × Option LexError)
  | 0, _, res => return (res, none)
  | fuel + 1, waiting, res => do
    match ← ContextM.withLexer Lexer.lex with
    | .error e => return (res, some e)
    | .ok t =>
      if t.kind == .directive then
        if !t.has TokenFlag.testDirective then check u fuel waiting res else
        match parse (body (u.slice t.range)) with
        | .error _ => check u fuel waiting res
        | .ok (.balance o n) =>
          let lx ← ContextM.lexer
          let got := lx.balance o
          let res ← record u res (.balance o n) t.range (got == n) (toString got).toUTF8
            Code.tstBalanceMismatch #[.str (pairOf o).toUTF8, .int n, .int got]
          check u fuel waiting res
        | .ok e => check u fuel (waiting ++ [(e, t.range)]) res
      else
        let res ← settle u t waiting res
        if t.kind == .eof then return (res, none) else check u fuel [] res

/-- The scenarios of the chosen kinds, kind by kind in the order given; all of them when no
kind is chosen. -/
def select (ss : List Scenario) (kinds : List ExpectKind) : List Scenario :=
  if kinds.isEmpty then ss else kinds.flatMap fun k => ss.filter (·.kind == k)

/-- The line of a scenario in a summary: a failure always, a pass only when verbose. -/
def summaryLine (verbose : Bool) (s : Scenario) : Option ByteArray :=
  if s.passed then
    if verbose then some s!"check {s.name} ({s.kind.name}) ... ok\n".toUTF8 else none
  else
    some ((s!"check {s.name} ({s.kind.name}) ... FAIL: expected ".toUTF8 ++ s.expect.describe ++
      ", got ".toUTF8 ++ s.got) ++ "\n".toUTF8)

/-- The closing line of a summary. -/
def summaryTotals (total passed failed : Nat) : ByteArray :=
  s!"\nself-test summary: {total} total, {passed} passed, {failed} failed\n".toUTF8

/-- The summary text of the chosen scenarios and their total, passed and failed counts. -/
def summarize (ss : List Scenario) (kinds : List ExpectKind) (verbose : Bool) :
    ByteArray × Nat × Nat × Nat :=
  let chosen := select ss kinds
  let lines := chosen.filterMap (summaryLine verbose)
  let passed := (chosen.filter (·.passed)).length
  let failed := chosen.length - passed
  let text := lines.foldl (· ++ ·) .empty ++ summaryTotals chosen.length passed failed
  (text, chosen.length, passed, failed)

end Directive

end NovelScript

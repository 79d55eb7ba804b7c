import Mathlib
import NovelScript.Proofs.Lexer.Directives
import NovelScript.Proofs.Lexer.Balance
import NovelScript.Proofs.Lexer.Lookahead
import NovelScript.Proofs.Context.Tables
import NovelScript.Directive.Run
/-!
# The self-test runner as a fold over the token stream

`Directive.check` interleaves three things: the active unit's tokenizer, driven through the
context one `lex` at a time; the bookkeeping of checks, waiting expectations and counters; and
the reports of failed checks, which go to the context's engine. This module pulls them apart.

* `lex` never looks at the engine (`Lexer.lex_blind`), so a context that runs a tokenizer `L`
  (`Context.Runs`) sees the stream `L` hands out whatever it reported before.
* The bookkeeping is the pure fold `Tally.step` over that stream: a round of the runner does one
  step of it (`Directive.check_round`), and a run up to the end token does the whole fold
  (`Directive.check_run`).
* The engine gets the tokenizer's own reports and one self-test report (a code from 5000 on)
  for each failed check, in the order the checks fail (`testNotes`, `CheckResult.failures`).
-/

open Std.Do

namespace NovelScript

namespace Lexer

/-- The tokenizer `s` reporting to the engine `e` instead of its own. -/
def onEngine (s : Lexer) (e : Option Engine) : Lexer := s.reframe (s.ambient.withEngine e)

@[simp] theorem onEngine_onEngine (s : Lexer) (e e' : Option Engine) :
    (s.onEngine e).onEngine e' = s.onEngine e' := rfl

@[simp] theorem onEngine_self (s : Lexer) : s.onEngine s.env.engine = s := rfl

theorem reframe_onEngine (s : Lexer) (a : Ambient) (e : Option Engine) :
    (s.reframe a).onEngine e = s.reframe (a.withEngine e) := rfl

/-- `x` never looks at the engine: run with another engine it gives the same result and ends in
the same state, and that engine is handed the tokenizer's reports `ns`. -/
def Blind {α : Type} (x : StateM Lexer α) : Prop :=
  ∀ s : Lexer, ∃ ns : List Notice, (∀ n ∈ ns, n.FromLexer) ∧ ∀ e,
    x.run (s.onEngine e) = ((x.run s).1, (x.run s).2.onEngine (diagnoseAll ns e))

end Lexer

/-- A step on the core of the tokenizer never looks at the engine. -/
theorem LexM.OnCore.blind {α : Type} {x : LexM α} (h : OnCore x) : Lexer.Blind x := by
  intro s
  obtain ⟨ns, hns, hx⟩ := h s
  refine ⟨ns, hns, fun e => ?_⟩
  have h₁ := hx (s.ambient.withEngine e)
  have h₂ := hx s.ambient
  rw [Lexer.reframe_ambient] at h₂
  rw [h₂, Lexer.reframe_onEngine]
  exact h₁

theorem TriviaNote.fromLexer (uid : Nat) (ns : List TriviaNote) :
    ∀ n ∈ TriviaNote.noticesOf uid ns, n.FromLexer := by
  intro n hn
  simp only [TriviaNote.noticesOf, List.mem_flatMap] at hn
  obtain ⟨note, -, hn⟩ := hn
  cases note <;> simp [TriviaNote.notices] at hn <;> subst hn <;>
    simp [Notice.FromLexer, Code.lexUnterminatedComment, Code.lexMalformedDirective]

/-- `next` never looks at the engine: the trivia notes and the scan of the token report the
same whatever it is. -/
theorem LexM.next_blind : Lexer.Blind next.run := by
  intro s
  cases hlit : s.lit with
  | some lit =>
    obtain ⟨ns, hns, h⟩ := (ScanM.OnCore.continueMessage lit).blind s
    refine ⟨ns, hns, fun e => ?_⟩
    rw [next_run_of_lit hlit, next_run_of_lit (s := s.onEngine e) hlit]
    exact h e
  | none =>
    have hnote (e : Option Engine) : ((applyTrivia s.trivia).run (s.onEngine e)).2 =
        ((applyTrivia s.trivia).run s).2.onEngine
          (diagnoseAll (TriviaNote.noticesOf s.unit.id s.trivia.notes.toList) e) := by
      rw [applyTrivia_run, applyTrivia_run]
      rfl
    have hsteps (x : ScanM Token) (hx : ScanM.OnCore x) :
        ∃ ns : List Notice, (∀ n ∈ ns, n.FromLexer) ∧ ∀ e,
          x.run.run ((applyTrivia s.trivia).run (s.onEngine e)).2 =
            ((x.run.run ((applyTrivia s.trivia).run s).2).1,
              (x.run.run ((applyTrivia s.trivia).run s).2).2.onEngine (diagnoseAll ns e)) := by
      obtain ⟨ns, hns, h⟩ := hx.blind ((applyTrivia s.trivia).run s).2
      refine ⟨TriviaNote.noticesOf s.unit.id s.trivia.notes.toList ++ ns, ?_, fun e => ?_⟩
      · intro n hn
        rcases List.mem_append.1 hn with hn | hn
        · exact TriviaNote.fromLexer _ _ n hn
        · exact hns n hn
      · rw [hnote, h, diagnoseAll_append]
    cases hd : s.trivia.directive with
    | none =>
      obtain ⟨ns, hns, h⟩ := hsteps _ ScanM.OnCore.significant
      refine ⟨ns, hns, fun e => ?_⟩
      rw [next_run_of_no_hit hlit hd, next_run_of_no_hit (s := s.onEngine e) hlit hd]
      exact h e
    | some hit =>
      obtain ⟨ns, hns, h⟩ := hsteps _ (ScanM.OnCore.hitToken hit)
      refine ⟨ns, hns, fun e => ?_⟩
      rw [next_run_of_hit hlit hd, next_run_of_hit (s := s.onEngine e) hlit hd]
      exact h e

/-- `lex` never looks at the engine. -/
theorem Lexer.lex_blind : Lexer.Blind Lexer.lex := by
  intro s
  cases herr : s.err with
  | some e =>
    refine ⟨[], by simp, fun e' => ?_⟩
    rw [lex_run_of_err herr, lex_run_of_err (s := s.onEngine e') herr]
    rfl
  | none =>
    cases hl : s.look with
    | some t =>
      refine ⟨[], by simp, fun e' => ?_⟩
      rw [lex_run_eq, lex_run_eq, peek_of_look herr hl, peek_of_look (s := s.onEngine e') herr hl]
      rfl
    | none =>
      obtain ⟨ns, hns, h⟩ := LexM.next_blind s
      refine ⟨ns, hns, fun e => ?_⟩
      rw [lex_run_of_fresh herr hl, lex_run_of_fresh (s := s.onEngine e) herr hl, h e]
      rcases (LexM.next.run.run s).1 with _ | _ <;> rfl

theorem diagnoseAll_some (ns : List Notice) (E : Engine) : ∃ E', diagnoseAll ns (some E) = some E' := by
  induction ns generalizing E with
  | nil => exact ⟨E, rfl⟩
  | cons n ns ih => exact ih _

theorem Array.back?_set!_top {α : Type} {a : Array α} {x : α} (h : a.back? = some x) (y : α) :
    (a.set! (a.size - 1) y).back? = some y := by
  obtain ⟨ys, rfl⟩ := Array.back?_eq_some_iff.1 h
  simp [Array.set!_eq_setIfInBounds, Array.back?_eq_getElem?]

namespace Context

/-- The tokenizer of the active frame as `withLexer` runs it, reporting to no engine: the
frame's own on the context's dictionary and store, or a fresh one over the frame's unit. -/
def frameLexer (c : Context) : Option Lexer :=
  c.stack.back?.map fun f => match f.lexer with
    | some lx => { lx with env := ⟨c.dict, c.blobs, none⟩ }
    | none => Lexer.create f.unit c.opts.mode ⟨c.dict, c.blobs, none⟩

/-- The context runs the tokenizer `L`: its active frame's tokenizer is `L`, whatever engine
either reports to. -/
def Runs (c : Context) (L : Lexer) : Prop := c.frameLexer = some (L.onEngine none)

/-- The context after its active frame's tokenizer ran to `lx`: the frame keeps it, and the
dictionary, store and engine are the tokenizer's. -/
def keepLexer (c : Context) (lx : Lexer) : Context :=
  match c.stack.back? with
  | none => c
  | some f => { c with
      stack := c.stack.set! (c.stack.size - 1) { f with lexer := some lx },
      dict := lx.env.dict, blobs := lx.env.blobs, engine := lx.env.engine.getD c.engine }

/-- A context whose active frame has not been lexed yet runs a fresh tokenizer over its unit, in
the context's mode, on its dictionary and store. -/
theorem runs_fresh {c : Context} {u : SourceUnit} (h : c.stack.back? = some { unit := u }) :
    c.Runs (Lexer.create u c.opts.mode ⟨c.dict, c.blobs, none⟩) := by
  simp only [Runs, frameLexer, h, Option.map_some]
  rfl

/-- A change of the engine alone keeps the tokenizer the context runs. -/
theorem Runs.withEngine {c : Context} {L : Lexer} (h : c.Runs L) (E : Engine) :
    ({ c with engine := E } : Context).Runs L := h

theorem Runs.keep {c : Context} {L : Lexer} (h : c.Runs L) (L' : Lexer) (E : Engine) :
    (c.keepLexer (L'.onEngine (some E))).Runs L' ∧ (c.keepLexer (L'.onEngine (some E))).engine = E := by
  unfold Runs frameLexer at h
  unfold Context.keepLexer
  cases hb : c.stack.back? with
  | none => simp [hb] at h
  | some f =>
    refine ⟨?_, rfl⟩
    simp only [Runs, frameLexer, Array.back?_set!_top hb]
    rfl

end Context

namespace ContextM

/-- `withLexer` on a context that runs `L`: the step runs on `L` with the context's engine, and
the context keeps what it left. -/
theorem withLexer_run {c : Context} {L : Lexer} (h : c.Runs L) {α : Type} (x : StateM Lexer α) :
    (withLexer x).run.run c =
      (.ok (x.run (L.onEngine (some c.engine))).1, c.keepLexer (x.run (L.onEngine (some c.engine))).2) := by
  unfold Context.Runs Context.frameLexer at h
  unfold withLexer
  rw [run_get_bind]
  cases hb : c.stack.back? with
  | none => simp [hb] at h
  | some f =>
    simp only [hb, Option.map_some, Option.some.injEq] at h
    -- the tokenizer `withLexer` builds is the frame's, reporting to the context's engine
    cases hf : f.lexer with
    | some lx =>
      simp only [hf] at h
      have hlx : ({ lx with env := lexEnv c } : Lexer) = L.onEngine (some c.engine) := by
        rw [← Lexer.onEngine_onEngine L none, ← h]
        rfl
      simp only [hf]
      rw [hlx]
      simp only [Context.keepLexer, hb]
      generalize x.run (L.onEngine (some c.engine)) = p
      rfl
    | none =>
      simp only [hf] at h
      have hlx : Lexer.create f.unit c.opts.mode (lexEnv c) = L.onEngine (some c.engine) := by
        rw [← Lexer.onEngine_onEngine L none, ← h]
        rfl
      simp only [hf]
      rw [hlx]
      simp only [Context.keepLexer, hb]
      generalize x.run (L.onEngine (some c.engine)) = p
      rfl

end ContextM

/-! ### Checks and the reports of failed ones -/

/-- The code a failed check of an expectation is reported with. -/
def Expect.failCode : Expect → Code
  | .token .. => Code.tstTokenMismatch
  | .balance .. => Code.tstBalanceMismatch
  | .eof => Code.tstExpectEof

/-- The counter of the pair opened by a bracket kind; 0 for other kinds. -/
def Balances.count (b : Balances) : TokenKind → Nat
  | .lParen => b.paren
  | .lBracket => b.bracket
  | .lBrace => b.brace
  | _ => 0

theorem Lexer.balance_eq (lx : Lexer) (k : TokenKind) : lx.balance k = lx.bal.count k := by
  cases k <;> rfl

namespace CheckResult

/-- The result with one more check, of `e` at `r`: passed when `ok`, and otherwise with what was
found instead. -/
def add (res : CheckResult) (u : SourceUnit) (e : Expect) (r : Range) (ok : Bool)
    (got : ByteArray) : CheckResult :=
  let s : Scenario := ⟨res.scenarios.size, u.path, r, e, ok, if ok then .empty else got⟩
  if ok then { res with scenarios := res.scenarios.push s, passed := res.passed + 1 }
  else { res with scenarios := res.scenarios.push s, failed := res.failed + 1 }

/-- Where and with which code each failed check is reported, in order. -/
def failures (res : CheckResult) : List (Range × Code) :=
  (res.scenarios.toList.filter fun s => !s.passed).map fun s => (s.range, s.expect.failCode)

theorem failures_add (res : CheckResult) (u : SourceUnit) (e : Expect) (r : Range) (ok : Bool)
    (got : ByteArray) :
    (res.add u e r ok got).failures = res.failures ++ if ok then [] else [(r, e.failCode)] := by
  cases ok <;> simp [add, failures]

/-- Each check is numbered by its place, and the counts are those of passed and failed checks. -/
structure Counted (res : CheckResult) : Prop where
  index : ∀ i (h : i < res.scenarios.size), res.scenarios[i].index = i
  passed : res.passed = (res.scenarios.toList.filter (·.passed)).length
  failed : res.failed = (res.scenarios.toList.filter fun s => !s.passed).length

theorem counted_empty : Counted {} := ⟨fun _ h => absurd h (by simp), rfl, rfl⟩

theorem Counted.add {res : CheckResult} (h : res.Counted) (u : SourceUnit) (e : Expect) (r : Range)
    (ok : Bool) (got : ByteArray) : (res.add u e r ok got).Counted := by
  have hidx : ∀ i (hi : i < (res.scenarios.push ⟨res.scenarios.size, u.path, r, e, ok,
      if ok then .empty else got⟩).size), (res.scenarios.push ⟨res.scenarios.size, u.path, r, e, ok,
      if ok then .empty else got⟩)[i].index = i := by
    intro i hi
    rw [Array.getElem_push]
    split
    · exact h.index i ‹_›
    · simp at hi
      simp
      omega
  cases ok
  · exact ⟨hidx, by simpa [CheckResult.add] using h.passed, by simpa [CheckResult.add] using h.failed⟩
  · exact ⟨hidx, by simpa [CheckResult.add] using h.passed, by simpa [CheckResult.add] using h.failed⟩

end CheckResult

/-- The self-test reports among `ns` (the codes from 5000 on), where and with which code. -/
def testNotes (ns : List Notice) : List (Range × Code) :=
  (ns.filter fun n => 5000 ≤ n.2.1).map fun n => (n.1, n.2.1)

theorem testNotes_append (ns ns' : List Notice) : testNotes (ns ++ ns') = testNotes ns ++ testNotes ns' := by
  simp [testNotes]

theorem testNotes_of_lexer {ns : List Notice} (h : ∀ n ∈ ns, n.FromLexer) : testNotes ns = [] := by
  simp only [testNotes, List.map_eq_nil_iff, List.filter_eq_nil_iff, decide_eq_true_eq, Nat.not_le]
  exact h

/-- `c'` is `c` with only its engine changed, by the reports `ns`. -/
structure Context.Diagnosed (c c' : Context) (ns : List Notice) : Prop where
  eq : c' = { c with engine := c'.engine }
  engine : some c'.engine = diagnoseAll ns (some c.engine)

theorem Context.Diagnosed.refl (c : Context) : c.Diagnosed c [] := ⟨rfl, rfl⟩

theorem Context.Diagnosed.trans {c c' c'' : Context} {ns ns' : List Notice} (h : c.Diagnosed c' ns)
    (h' : c'.Diagnosed c'' ns') : c.Diagnosed c'' (ns ++ ns') := by
  refine ⟨?_, ?_⟩
  · rw [h'.eq, h.eq]
  · rw [diagnoseAll_append, ← h.engine, h'.engine]

theorem Context.Diagnosed.runs {c c' : Context} {ns : List Notice} (h : c.Diagnosed c' ns)
    {L : Lexer} (hc : c.Runs L) : c'.Runs L := by
  rw [h.eq]
  exact hc

namespace Directive

theorem record_run (u : SourceUnit) (res : CheckResult) (e : Expect) (r : Range) (ok : Bool)
    (got : ByteArray) (code : Code) (args : Array Arg) (c : Context) :
    (record u res e r ok got code args).run.run c =
      (.ok (res.add u e r ok got), if ok then c else { c with engine := c.engine.diagnose r code args }) := by
  cases ok <;> rfl

/-- A check reports its failure, and only that. -/
theorem record_diagnosed (u : SourceUnit) (res : CheckResult) (e : Expect) (r : Range) (ok : Bool)
    (got : ByteArray) (code : Code) (args : Array Arg) (c : Context) :
    c.Diagnosed ((record u res e r ok got code args).run.run c).2
      (if ok then [] else [(r, code, args)]) := by
  rw [record_run]
  cases ok
  · exact ⟨rfl, rfl⟩
  · exact Context.Diagnosed.refl c

/-- The result after the waiting expectations `w` are checked, in order, against the token `t`. -/
def settled (u : SourceUnit) (t : Token) : List (Expect × Range) → CheckResult → CheckResult
  | [], res => res
  | (e, r) :: rest, res => settled u t rest (match e with
      | .eof => res.add u e r (t.kind == .eof) (describeToken u t)
      | .token .. => res.add u e r (meets u e t) (describeToken u t)
      | .balance .. => res)

theorem testNotes_check (r : Range) (e : Expect) (ok : Bool) (args : Array Arg) :
    testNotes (if ok then [] else [(r, e.failCode, args)]) = if ok then [] else [(r, e.failCode)] := by
  cases ok
  · cases e <;> simp [testNotes, Expect.failCode, Code.tstTokenMismatch, Code.tstBalanceMismatch,
      Code.tstExpectEof]
  · rfl

/-- What settling the waiting expectations does: it changes only the engine, which gets one
report for each failed check and nothing else. -/
def SettleRuns (u : SourceUnit) (t : Token) (w : List (Expect × Range)) : Prop :=
  ∀ (res : CheckResult) (c : Context), ∃ ns,
    ((settle u t w res).run.run c).1 = .ok (settled u t w res) ∧
      c.Diagnosed ((settle u t w res).run.run c).2 ns ∧
      (settled u t w res).failures = res.failures ++ testNotes ns

/-- A waiting expectation that is checked, then the rest. -/
theorem SettleRuns.cons_check {u : SourceUnit} {t : Token} {e : Expect} {r : Range}
    {rest : List (Expect × Range)} (ih : SettleRuns u t rest) (ok : Bool) (got : ByteArray)
    (args : Array Arg)
    (hrun : ∀ res c, (settle u t ((e, r) :: rest) res).run.run c =
      (settle u t rest (res.add u e r ok got)).run.run
        ((record u res e r ok got e.failCode args).run.run c).2)
    (hset : ∀ res, settled u t ((e, r) :: rest) res = settled u t rest (res.add u e r ok got)) :
    SettleRuns u t ((e, r) :: rest) := by
  intro res c
  obtain ⟨ns, h₁, h₂, h₃⟩ := ih (res.add u e r ok got)
    ((record u res e r ok got e.failCode args).run.run c).2
  refine ⟨(if ok then [] else [(r, e.failCode, args)]) ++ ns, ?_, ?_, ?_⟩
  · rw [hrun, hset]
    exact h₁
  · rw [hrun]
    exact (record_diagnosed u res e r ok got e.failCode args c).trans h₂
  · rw [hset, h₃, CheckResult.failures_add, testNotes_append, testNotes_check, List.append_assoc]

/-- Settling the waiting expectations changes only the engine: it gets one report for each
failed check, and nothing else. -/
theorem settleRuns (u : SourceUnit) (t : Token) : ∀ w, SettleRuns u t w
  | [] => fun res c => ⟨[], rfl, .refl c, by simp [settled, testNotes]⟩
  | (.eof, r) :: rest => (settleRuns u t rest).cons_check (t.kind == .eof) (describeToken u t)
      #[.str (describeToken u t)] (fun res c => by simp only [settle, ContextM.run_bind, record_run]; rfl)
      (fun _ => rfl)
  | (.token ls k lit, r) :: rest => (settleRuns u t rest).cons_check (meets u (.token ls k lit) t)
      (describeToken u t) #[.str (Expect.token ls k lit).describe, .str (describeToken u t)]
      (fun res c => by simp only [settle, ContextM.run_bind, record_run]; rfl) (fun _ => rfl)
  | (.balance o n, r) :: rest => fun res c => settleRuns u t rest res c

end Directive

/-- What the runner keeps between two tokens: the bracket counters after the tokens so far, the
expectations waiting for the next token that is no directive, and the checks made. -/
structure Tally where
  bal : Balances := {}
  waiting : List (Expect × Range) := []
  res : CheckResult := {}

/-- The runner's work on the token `t` of the unit `u`: a test directive's balance expectation
is checked at once and any other one waits; a token that is no directive settles the waiting
expectations. -/
def Tally.step (u : SourceUnit) (st : Tally) (t : Token) : Tally :=
  if t.kind = .directive then
    if t.has TokenFlag.testDirective then
      match Directive.parse (Directive.body (u.slice t.range)) with
      | .ok (.balance o n) =>
        let got := st.bal.count o
        { st with res := st.res.add u (.balance o n) t.range (got == n) (toString got).toUTF8 }
      | .ok e => { st with waiting := st.waiting ++ [(e, t.range)] }
      | .error _ => st
    else st
  else ⟨st.bal.push t.kind, [], Directive.settled u t st.waiting st.res⟩

namespace Tally

variable {u : SourceUnit} {st : Tally} {t : Token}

/-- A token that is no directive settles the waiting expectations against itself. -/
theorem step_plain (hk : t.kind ≠ .directive) :
    st.step u t = ⟨st.bal.push t.kind, [], Directive.settled u t st.waiting st.res⟩ := by
  simp [step, hk]

/-- A balance expectation is checked against the counters as they are. -/
theorem step_balance (hk : t.kind = .directive) (hf : t.has TokenFlag.testDirective = true)
    {o : TokenKind} {n : Nat}
    (he : Directive.parse (Directive.body (u.slice t.range)) = .ok (.balance o n)) :
    st.step u t = { st with
      res := st.res.add u (.balance o n) t.range (st.bal.count o == n)
        (toString (st.bal.count o)).toUTF8 } := by
  simp [step, hk, hf, he]

/-- A token or end expectation joins the waiting ones. -/
theorem step_wait (hk : t.kind = .directive) (hf : t.has TokenFlag.testDirective = true)
    {e : Expect} (hb : e.kind ≠ .balance) (he : Directive.parse (Directive.body (u.slice t.range)) = .ok e) :
    st.step u t = { st with waiting := st.waiting ++ [(e, t.range)] } := by
  cases e with
  | token ls k lit => simp [step, hk, hf, he]
  | balance o n => exact absurd rfl hb
  | eof => simp [step, hk, hf, he]

/-- A directive that states no expectation changes nothing. -/
theorem step_passOver (hk : t.kind = .directive)
    (hn : t.has TokenFlag.testDirective = true →
      ∀ e, Directive.parse (Directive.body (u.slice t.range)) ≠ .ok e) :
    st.step u t = st := by
  by_cases hf : t.has TokenFlag.testDirective = true
  · cases hp : Directive.parse (Directive.body (u.slice t.range)) with
    | error err => simp [step, hk, hf, hp]
    | ok e => exact absurd hp (hn hf e)
  · simp [step, hk, hf]

end Tally

/-- A round of the runner moves its counters by the token's kind, as the tokenizer does. -/
theorem Tally.step_bal (u : SourceUnit) (st : Tally) (t : Token) :
    (st.step u t).bal = st.bal.push t.kind := by
  unfold Tally.step
  by_cases hk : t.kind = .directive
  · -- a directive leaves the counters as they were
    rw [if_pos hk, hk, Balances.push_of_plain _ (.inr (.inr (.inl rfl)))]
    split
    · split <;> rfl
    · rfl
  · rw [if_neg hk]

/-- A token handed out by `lex` moves the counters by its kind. -/
theorem Lexer.lex_bal {L : Lexer} (hr : L.Ready) (hl : L.look = none) {t : Token}
    (ht : (Lexer.lex.run L).1 = .ok t) : (Lexer.lex.run L).2.bal = L.bal.push t.kind := by
  obtain ⟨s₁, hp, hs⟩ := Lexer.lex_run hr
  rw [ht] at hp hs
  rw [hs]
  unfold Lexer.Peeked at hp
  split at hp
  · cases hp.1
  · next t' hlook => exact absurd (hl.symm.trans hlook) (by simp)
  · obtain ⟨s₂, hst, rfl⟩ := hp
    exact hst.bal

namespace Directive

/-- One round of the runner on a context that runs `L`: it lexes the token `t`, does the work of
`Tally.step` with it, and stops at the end token; the tokenizer moves on and the engine gets the
tokenizer's reports and one report for each failed check. -/
theorem check_round {u : SourceUnit} {L : Lexer} {c : Context} (hc : c.Runs L) (hr : L.Ready)
    (hl : L.look = none) (hu : L.unit = u) {t : Token} (ht : (Lexer.lex.run L).1 = .ok t)
    (st : Tally) (hbal : st.bal = L.bal) (fuel : Nat) :
    ∃ c' ns, c'.Runs (Lexer.lex.run L).2 ∧ some c'.engine = diagnoseAll ns (some c.engine) ∧
      (st.step u t).res.failures = st.res.failures ++ testNotes ns ∧
      (check u (fuel + 1) st.waiting st.res).run.run c =
        if t.kind = .eof then (.ok ((st.step u t).res, none), c')
        else (check u fuel (st.step u t).waiting (st.step u t).res).run.run c' := by
  obtain ⟨ns₀, hns₀, hblind⟩ := Lexer.lex_blind L
  obtain ⟨E₁, hE₁⟩ := diagnoseAll_some ns₀ c.engine
  obtain ⟨hc₁, he₁⟩ := hc.keep (Lexer.lex.run L).2 E₁
  have hlex : (ContextM.withLexer Lexer.lex).run.run c =
      (.ok (.ok t), c.keepLexer ((Lexer.lex.run L).2.onEngine (some E₁))) := by
    rw [ContextM.withLexer_run hc, hblind, ht, hE₁]
  rw [check, ContextM.run_bind, hlex]
  dsimp only
  set c₁ := c.keepLexer ((Lexer.lex.run L).2.onEngine (some E₁))
  by_cases hk : t.kind = .directive
  · have hne : t.kind ≠ .eof := by rw [hk]; decide
    by_cases hf : t.has TokenFlag.testDirective = true
    · obtain ⟨e, he⟩ := Lexer.lex_test_parses hr hl ht hk hf
      rw [hu] at he
      cases e with
      | balance o n =>
        -- the counters are read after the directive, which leaves them as they were
        have hbal₁ : (Lexer.lex.run L).2.bal = st.bal := by
          rw [Lexer.lex_bal hr hl ht, hk, Balances.push_of_plain _ (.inr (.inr (.inl rfl))), hbal]
        have hstep := @Tally.step_balance u st t hk hf _ _ he
        obtain ⟨hc₂, he₂⟩ := hc₁.keep (Lexer.lex.run L).2 c₁.engine
        set c₂ := c₁.keepLexer ((Lexer.lex.run L).2.onEngine (some c₁.engine))
        have hlexer : ContextM.lexer.run.run c₁ =
            (.ok ((Lexer.lex.run L).2.onEngine (some c₁.engine)), c₂) :=
          ContextM.withLexer_run hc₁ get
        have hd := record_diagnosed u st.res (.balance o n) t.range (st.bal.count o == n)
          (toString (st.bal.count o)).toUTF8 Code.tstBalanceMismatch
          #[.str (pairOf o).toUTF8, .int n, .int (st.bal.count o)] c₂
        refine ⟨_, ns₀ ++ if st.bal.count o == n then [] else [(t.range, Code.tstBalanceMismatch,
          #[.str (pairOf o).toUTF8, .int n, .int (st.bal.count o)])], hd.runs hc₂, ?_, ?_, ?_⟩
        · rw [hd.engine, he₂, he₁, ← hE₁, ← diagnoseAll_append]
        · rw [hstep, CheckResult.failures_add, testNotes_append, testNotes_of_lexer hns₀,
            List.nil_append]
          exact congrArg (st.res.failures ++ ·) (testNotes_check _ _ _ _).symm
        · rw [if_neg hne]
          simp only [hk, hf, he, beq_self_eq_true, if_true, Bool.not_true, Bool.false_eq_true,
            if_false, hstep]
          rw [ContextM.run_bind, hlexer]
          dsimp only
          rw [Lexer.balance_eq, show ((Lexer.lex.run L).2.onEngine (some c₁.engine)).bal =
            (Lexer.lex.run L).2.bal from rfl, hbal₁, ContextM.run_bind, record_run]
      | token ls k lit =>
        refine ⟨c₁, ns₀, hc₁, by rw [he₁, hE₁], ?_, ?_⟩
        · simp [Tally.step, hk, hf, he, testNotes_of_lexer hns₀]
        · simp [Tally.step, hk, hf, he]
      | eof =>
        refine ⟨c₁, ns₀, hc₁, by rw [he₁, hE₁], ?_, ?_⟩
        · simp [Tally.step, hk, hf, he, testNotes_of_lexer hns₀]
        · simp [Tally.step, hk, hf, he]
    · refine ⟨c₁, ns₀, hc₁, by rw [he₁, hE₁], ?_, ?_⟩
      · simp [Tally.step, hk, hf, testNotes_of_lexer hns₀]
      · simp [Tally.step, hk, hf]
  · -- a token that is no directive settles the waiting expectations
    obtain ⟨ns₁, h₁, h₂, h₃⟩ := settleRuns u t st.waiting st.res c₁
    have hs : (settle u t st.waiting st.res).run.run c₁ =
        (.ok (settled u t st.waiting st.res), ((settle u t st.waiting st.res).run.run c₁).2) :=
      Prod.ext h₁ rfl
    refine ⟨_, ns₀ ++ ns₁, h₂.runs hc₁, ?_, ?_, ?_⟩
    · rw [h₂.engine, he₁, diagnoseAll_append, hE₁]
    · simp [Tally.step, hk, h₃, testNotes_append, testNotes_of_lexer hns₀]
    · have hk' : (t.kind == .directive) = false := by simpa using hk
      simp only [hk', Bool.false_eq_true, if_false]
      rw [ContextM.run_bind, hs]
      by_cases he : t.kind = .eof
      · simp [he, Tally.step]
        rfl
      · simp [he, Tally.step, hk]

/-- A whole run of the runner over a stream that the tokenizer hands out up to its end token:
it ends with the checks of the fold of `Tally.step` over the stream, and the engine gets the
tokenizer's reports and one report for each failed check. -/
theorem check_run {u : SourceUnit} {t : Token} (htk : t.kind = .eof) :
    ∀ (pre : List Token) {L : Lexer} {c : Context} (st : Tally) (fuel : Nat), c.Runs L →
      L.Ready → L.look = none → L.unit = u → st.bal = L.bal →
      (L.lexRun (pre.length + 1)).1 = (pre ++ [t]).map .ok → (∀ x ∈ pre, x.kind ≠ .eof) →
      pre.length < fuel →
      ∃ c' ns, (check u fuel st.waiting st.res).run.run c =
          (.ok (((pre ++ [t]).foldl (Tally.step u) st).res, none), c') ∧
        some c'.engine = diagnoseAll ns (some c.engine) ∧
        ((pre ++ [t]).foldl (Tally.step u) st).res.failures = st.res.failures ++ testNotes ns
  | [], L, c, st, fuel + 1, hc, hr, hl, hu, hbal, hrun, _, _ => by
    rw [Lexer.lexRun_cons] at hrun
    have ht : (Lexer.lex.run L).1 = .ok t := (List.cons.inj hrun).1
    obtain ⟨c', ns, -, he, hf, hround⟩ := check_round hc hr hl hu ht st hbal fuel
    refine ⟨c', ns, ?_, he, hf⟩
    rw [hround, if_pos htk]
    rfl
  | x :: pre, L, c, st, fuel + 1, hc, hr, hl, hu, hbal, hrun, hpre, hlen => by
    rw [List.length_cons, Lexer.lexRun_cons] at hrun
    obtain ⟨hx, hrest⟩ := List.cons.inj hrun
    obtain ⟨c₁, ns₁, hc₁, he₁, hf₁, hround⟩ := check_round hc hr hl hu hx st hbal fuel
    -- the tokenizer after `x` is ready again over the same unit, and the counters still agree
    obtain ⟨hr₁, hl₁, hu₁, -⟩ := Lexer.lex_run_frame hr hl
    have hbal₁ : (st.step u x).bal = (Lexer.lex.run L).2.bal := by
      rw [Tally.step_bal, Lexer.lex_bal hr hl hx, hbal]
    obtain ⟨c', ns₂, hrun', he₂, hf₂⟩ := check_run htk pre (st.step u x) fuel hc₁ hr₁
      hl₁ (hu₁.trans hu) hbal₁ hrest (fun y hy => hpre y (.tail x hy)) (Nat.lt_of_succ_lt_succ hlen)
    refine ⟨c', ns₁ ++ ns₂, ?_, by rw [he₂, he₁, diagnoseAll_append], ?_⟩
    · rw [hround, if_neg (hpre x (.head pre))]
      exact hrun'
    · rw [List.cons_append, List.foldl_cons, hf₂, hf₁, testNotes_append, List.append_assoc]

end Directive

end NovelScript

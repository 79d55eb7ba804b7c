import Mathlib
import NovelScript.Cli.Program
import NovelScript.Proofs.Directive.Checks
/-!
# When a self-test run fails

`selftest` first checks its arguments: the kinds that `--kind` names, the scripts the inputs
expand to, and the `--ui` value. It then checks the self-tests of every script, shows each
script's diagnostics, prints the summary of the scenarios of the chosen kinds, and stops with
the status of diagnosed errors when a script could not be checked or the summary counts a
failed scenario (`selfTest_status`).

The summary counts only the scenarios of the chosen kinds (all of them when none is chosen),
so the status depends on `--kind`: a failed check of a kind left out, whose diagnostic is
shown all the same, does not fail the run (`selfTest_passes_over_unchosen_failure`).
-/

namespace NovelScript.Cli

namespace ProcM

theorem run_bind {α β : Type} (x : ProcM α) (f : α → ProcM β) (s : Proc) :
    (x >>= f).run.run s = match x.run.run s with
      | (.ok a, s') => (f a).run.run s'
      | (.error e, s') => (.error e, s') := by
  rcases hx : x.run.run s with ⟨_ | a, s'⟩
  all_goals simp only [ExceptT.run_bind, StateT.run_bind, hx]
  all_goals rfl

/-- A step that gives `a` goes on with what follows. -/
theorem run_bind_ok {α β : Type} {x : ProcM α} {s : Proc} {a : α} (h : (x.run.run s).1 = .ok a)
    (f : α → ProcM β) : (x >>= f).run.run s = (f a).run.run (x.run.run s).2 := by
  rw [run_bind]
  rcases hx : x.run.run s with ⟨r, s'⟩
  rw [hx] at h
  cases h
  rfl

/-- A step that only writes: it never stops the run. -/
def Writes (x : ProcM Unit) : Prop := ∀ s, (x.run.run s).1 = .ok ()

theorem writes_modify (g : Proc → Proc) : Writes (modify g) := fun _ => rfl

theorem writes_say (b : ByteArray) : Writes (say b) := writes_modify _

theorem writes_shout (b : ByteArray) : Writes (shout b) := writes_modify _

theorem writes_log (lg : Log.Logger) (es : List Log.Entry) : Writes (log lg es) := writes_modify _

/-- A loop whose body never stops the run and counts the elements `P` holds of. -/
theorem forIn_count {α : Type} (P : α → Bool) {f : α → Nat → ProcM (ForInStep Nat)}
    (hf : ∀ x n s, ((f x n).run.run s).1 = .ok (.yield (if P x then n + 1 else n))) :
    ∀ (xs : List α) (n : Nat) (s : Proc),
      ((forIn xs n f).run.run s).1 = .ok (n + (xs.filter P).length)
  | [], n, s => rfl
  | x :: xs, n, s => by
    rw [List.forIn_cons, run_bind_ok (hf x n s)]
    dsimp only
    rw [forIn_count P hf xs _ _, List.filter_cons]
    congr 1
    cases P x
    · simp only [Bool.false_eq_true, if_false]
    · simp only [if_true, List.length_cons]
      omega

end ProcM

/-- The summary's failed count is the number of failed scenarios of the chosen kinds. -/
theorem summarize_failed (ss : List Scenario) (kinds : List ExpectKind) (verbose : Bool) :
    (Directive.summarize ss kinds verbose).2.2.2 =
      ((Directive.select ss kinds).filter fun s => !s.passed).length := by
  have h : (Directive.select ss kinds).length =
      ((Directive.select ss kinds).filter fun s => s.passed).length +
        ((Directive.select ss kinds).filter fun s => !s.passed).length :=
    List.length_eq_length_filter_add _
  simp only [Directive.summarize]
  omega

/-- The run stops when the summary counts a failure or a script could not be checked. -/
theorem stop_condition (runs : List (Option Batch.CheckRun)) (kinds : List ExpectKind)
    (verbose : Bool) :
    (decide ((Directive.summarize (Batch.registry runs) kinds verbose).2.2.2 > 0) ||
        decide (0 + ((runs.filterMap id).filter fun r => r.error.isSome).length > 0)) = true ↔
      (∃ r ∈ runs.filterMap id, r.error.isSome) ∨
        ∃ sc ∈ Directive.select (Batch.registry runs) kinds, sc.passed = false := by
  rw [summarize_failed, Bool.or_eq_true, decide_eq_true_eq, decide_eq_true_eq, Nat.zero_add,
    gt_iff_lt, gt_iff_lt, List.length_filter_pos_iff, List.length_filter_pos_iff, or_comm]
  simp

theorem writes_showDiagnostics (a : App) (c : Context) : ProcM.Writes (showDiagnostics a c) := by
  intro s
  unfold showDiagnostics
  rw [ProcM.run_bind_ok (a := s.tree) rfl]
  dsimp only
  split
  · exact ProcM.writes_shout _ _
  · rfl

/-- After its arguments are accepted, `selftest` stops with the status of diagnosed errors iff
a script could not be checked or a scenario of the chosen kinds failed; otherwise it ends well.
A failure among the arguments ends it with that failure. -/
theorem selfTest_status (a : App) (p : Parsed) (args : List String) (s : Proc) :
    ((runSelfTest a p args).run.run s).1 =
      match (checkKinds (p.list "kind")).run.run s with
      | (.error e, _) => .error e
      | (.ok kinds, s₁) => match (scriptsOf args).run.run s₁ with
        | (.error e, _) => .error e
        | (.ok files, s₂) => match (checkUi p).run.run s₂ with
          | (.error e, _) => .error e
          | (.ok (), s₃) =>
            let runs := (Batch.selfTestFiles a.options s₃.tree files false).runs
            if (∃ r ∈ runs.filterMap id, r.error.isSome) ∨
                ∃ sc ∈ Directive.select (Batch.registry runs) kinds, sc.passed = false
            then .error .diagnosed else .ok () := by
  unfold runSelfTest
  rw [ProcM.run_bind]
  rcases (checkKinds (p.list "kind")).run.run s with ⟨_ | kinds, s₁⟩
  · rfl
  dsimp only
  rw [ProcM.run_bind]
  rcases (scriptsOf args).run.run s₁ with ⟨_ | files, s₂⟩
  · rfl
  dsimp only
  rw [ProcM.run_bind]
  rcases (checkUi p).run.run s₂ with ⟨_ | ⟨⟩, s₃⟩
  · rfl
  dsimp only
  rw [ProcM.run_bind_ok (a := s₃.tree) rfl]
  -- the loop counts the scripts that could not be checked
  rw [ProcM.run_bind_ok (ProcM.writes_log _ _ _), ProcM.run_bind_ok
    (ProcM.forIn_count (fun r : Batch.CheckRun => r.error.isSome) ?body _ _ _),
    ProcM.run_bind_ok (ProcM.writes_say _ _)]
  case body =>
    intro r n s
    rw [ProcM.run_bind_ok (writes_showDiagnostics a r.ctx s)]
    cases he : r.error with
    | none => rfl
    | some e =>
      simp only [Option.isSome_some, if_true]
      rw [ProcM.run_bind_ok (ProcM.writes_log _ _ _)]
      rfl
  -- the run stops iff the summary counts a failure or a script was broken
  have hstop : ∀ (c : Bool) (s : Proc),
      ((if c = true then throw Stop.diagnosed else pure () : ProcM Unit).run.run s).1 =
        if c = true then .error .diagnosed else .ok () := by
    intro c s
    cases c <;> rfl
  split
  · rw [ProcM.run_bind_ok (ProcM.writes_shout _ _), hstop]
    simp only [stop_condition]
  · rw [hstop]
    simp only [stop_condition]

/-- The script `b.nvl` holds an end expectation followed by a number. Its self-tests make one
check, which fails; with `--kind token` the summary counts no failure, so the run does not
fail on it. -/
theorem selfTest_passes_over_unchosen_failure :
    let u : SourceUnit := ⟨0, "b.nvl", "//:: EXPECT-EOF\n1\n".toUTF8, #[15, 17], {}⟩
    let c : Context :=
      { Context.create { mode := .tests } FileReader.empty [] with stack := #[{ unit := u }] }
    ∃ res c', (Directive.check u (tokenBudget u.content.size) [] {}).run.run c = (.ok (res, none), c') ∧
      res.failed = 1 ∧ (Directive.summarize res.scenarios.toList [.token] false).2.2.2 = 0 := by
  intro u c
  obtain ⟨c', ns, hrun, -, -⟩ := Directive.check_run (t := ⟨.eof, 0, 18, 0, true, 0, 0⟩) rfl
    [⟨.directive, 0, 0, 15, true, 1, 0⟩, ⟨.number, 0, 16, 1, true, 1, 1⟩] {} (tokenBudget u.content.size)
    (Context.runs_fresh (c := c) rfl) (Lexer.ready_create _ _ _) rfl rfl rfl
    (results_eq_of_toOption (by decide +kernel)) (by decide)
    (by simp only [tokenBudget, List.length_cons, List.length_nil]; omega)
  exact ⟨_, c', hrun, by decide +kernel, by decide +kernel⟩

end NovelScript.Cli

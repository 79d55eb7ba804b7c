import Mathlib
import NovelScript.Proofs.Diag.Policy
import NovelScript.Proofs.Directive.Runner
import NovelScript.Batch.Tokenize
/-!
# When a tokenizing run says it failed

A tokenizing run has two notions of failure. The engine counts every error it is handed
(`Engine.errors`), while the run's verdict (`TokenizeResult.hasErrors`), which decides a script's
progress status, the failed count of a summary and the exit status, looks for an error among the
diagnostics its bag kept. Diagnostics reach the bag through a repeat filter, and the bag keeps at
most `max_diagnostics` of them.

The verdict never claims an error that was not counted (`Engine.BagCounted`), whatever the bag
keeps. The converse needs a bag without a limit (`Engine.ErrorsShown`): the first error counted is
always delivered, since a positive cutoff lets at least one through, and the repeat filter drops a
diagnostic only when its twin, of the same code and so of the same severity, is in the bag. With a
bag of one slot a warning that fills it hides the errors after it, and the run counts an error
while reporting no failure (`Engine.one_slot_bag_hides_error`).

Every step of a run changes the engine only by reports (`Engine.Reaches`): registering the
built-in names, loading a script, lexing it (the tokenizer never looks at the engine,
`Lexer.lex_blind`) and the timings note. `tokenize_error_verdict` puts the two together for every
entry point.
-/

set_option mvcgen.warning false

open Std.Do

namespace NovelScript

/-! ### The severity a diagnostic is shown with -/

namespace Policy

/-- The severity a diagnostic of table severity `sev` is delivered with under `p`, when it is
delivered at all: a warning shows as an error when warnings count as errors. -/
def shownAs (p : Policy) : Severity → Severity
  | .warning => if p.warningsAsErrors then .error else .warning
  | sev => sev

variable {p : Policy} {n : Nat} {sev sev' : Severity}

theorem delivery_eq_some (h : p.delivery n sev = some sev') : sev' = p.shownAs sev := by
  cases sev with
  | warning =>
    unfold delivery at h
    unfold shownAs
    split_ifs at h ⊢ <;> simp_all
  | _ => unfold delivery at h; split_ifs at h <;> simp_all [shownAs]

/-- A diagnostic of the table shows as an error exactly when it is counted as one. -/
theorem isError_shownAs (hs : sev = .note ∨ sev = .warning ∨ sev = .error ∨ sev = .fatal) :
    (p.shownAs sev).isError = p.countsAsError sev := by
  rcases hs with rfl | rfl | rfl | rfl <;> cases hw : p.warningsAsErrors <;>
    simp [shownAs, countsAsError, hw] <;> decide

/-- The first error counted is always delivered: a positive cutoff lets at least one through. -/
theorem delivery_first (hc : p.countsAsError sev = true) : p.delivery 1 sev = some (p.shownAs sev) := by
  have hcut : p.withinCutoff 1 = true := by
    simp only [withinCutoff, Bool.not_eq_eq_eq_not, Bool.not_true, Bool.and_eq_false_iff,
      decide_eq_false_iff_not]
    omega
  cases sev with
  | warning =>
    have hw : p.warningsAsErrors = true := by simpa [countsAsError] using hc
    simp [delivery, shownAs, hw, hcut]
  | error => simp [delivery, shownAs, hcut]
  | fatal => rfl
  | _ => simp [countsAsError] at hc

end Policy

/-! ### One report -/

namespace Bag

theorem hasErrors_iff (b : Bag) : b.hasErrors = true ↔ ∃ d ∈ b.items, d.severity.isError = true := by
  rw [hasErrors, Array.any_eq_true']

theorem mem_add {b : Bag} {d x : Diagnostic} (hx : x ∈ (b.add d).items) : x ∈ b.items ∨ x = d := by
  unfold add at hx
  split at hx
  · exact .inl hx
  · simpa using hx

theorem mem_add_of_mem {b : Bag} {d x : Diagnostic} (hx : x ∈ b.items) : x ∈ (b.add d).items := by
  unfold add
  split
  · exact hx
  · exact Array.mem_push_of_mem _ hx

/-- A bag without a limit takes every diagnostic. -/
theorem add_of_uncapped {b : Bag} (h : b.max = 0) (d : Diagnostic) :
    b.add d = { b with items := b.items.push d } := by
  simp [add, h]

/-- A full bag takes nothing more. -/
theorem add_of_full {b : Bag} (hmax : 0 < b.max) (hfull : b.max ≤ b.items.size) (d : Diagnostic) :
    b.add d = b := by
  simp [add, hmax, hfull]

end Bag

namespace Engine

variable {e : Engine} {d x : Diagnostic}

/-- The repeat filter lets a diagnostic into the bag the first time its key comes, and counts
each repeat. -/
theorem deliver_dedupBag :
    e.deliver d .dedupBag =
      if e.dedup.seen.contains d.key then
        { e with dedup := { e.dedup with dropped := e.dedup.dropped + 1 } }
      else { e with dedup := { e.dedup with seen := e.dedup.seen.insert d.key }, bag := e.bag.add d } := by
  simp only [deliver, Dedup.admit]
  split_ifs <;> rfl

theorem mem_deliver_bag (s : Sink) (hx : x ∈ (e.deliver d s).bag.items) : x ∈ e.bag.items ∨ x = d := by
  cases s with
  | bag => exact Bag.mem_add hx
  | dedupBag =>
    rw [deliver_dedupBag] at hx
    split at hx
    · exact .inl hx
    · exact Bag.mem_add hx
  | console | discard => exact .inl hx

theorem mem_deliver_bag_of_mem (s : Sink) (hx : x ∈ e.bag.items) : x ∈ (e.deliver d s).bag.items := by
  cases s with
  | bag => exact Bag.mem_add_of_mem hx
  | dedupBag =>
    rw [deliver_dedupBag]
    split
    · exact hx
    · exact Bag.mem_add_of_mem hx
  | console | discard => exact hx

theorem mem_foldl_deliver_bag (ss : List Sink) (e : Engine)
    (hx : x ∈ (ss.foldl (fun e s => e.deliver d s) e).bag.items) : x ∈ e.bag.items ∨ x = d := by
  induction ss generalizing e with
  | nil => exact .inl hx
  | cons s ss ih =>
    rcases ih (e.deliver d s) hx with hx | rfl
    · exact mem_deliver_bag s hx
    · exact .inr rfl

theorem mem_foldl_deliver_bag_of_mem (ss : List Sink) (e : Engine) (hx : x ∈ e.bag.items) :
    x ∈ (ss.foldl (fun e s => e.deliver d s) e).bag.items := by
  induction ss generalizing e with
  | nil => exact hx
  | cons s ss ih => exact ih (e.deliver d s) (mem_deliver_bag_of_mem s hx)

/-- A report adds to the bag only the diagnostic it reports. -/
theorem mem_report_bag (hx : x ∈ (e.report d).bag.items) : x ∈ e.bag.items ∨ x = d :=
  mem_foldl_deliver_bag e.sinks e hx

/-- A report keeps what the bag held. -/
theorem mem_report_bag_of_mem (hx : x ∈ e.bag.items) : x ∈ (e.report d).bag.items :=
  mem_foldl_deliver_bag_of_mem e.sinks e hx

/-- Through the repeat filter a report into a full bag leaves the bag as it was, whether or not
the filter lets the diagnostic through. -/
theorem report_bag_of_full (hs : e.sinks = [.dedupBag]) (hmax : 0 < e.bag.max)
    (hfull : e.bag.max ≤ e.bag.items.size) : (e.report d).bag = e.bag := by
  simp only [report, hs, List.foldl_cons, List.foldl_nil, deliver_dedupBag]
  split_ifs
  · rfl
  · exact Bag.add_of_full hmax hfull d

/-- The engine after the counters of a report of table severity `sev` moved. -/
def counted (e : Engine) (sev : Severity) : Engine :=
  { e with
    notes := e.notes + if sev = .note ∧ e.policy.suppressNotes = false then 1 else 0,
    warnings := e.warnings + if sev = .warning ∧ e.policy.warningsAsErrors = false ∧
      e.policy.suppressWarnings = false then 1 else 0,
    errors := e.errors + if e.policy.countsAsError sev then 1 else 0,
    fatal := e.fatal || sev = .fatal }

variable {r : Range} {code : Code} {args : Array Arg} {sev : Severity}

@[simp] theorem counted_errors :
    (e.counted sev).errors = e.errors + if e.policy.countsAsError sev then 1 else 0 := rfl

@[simp] theorem counted_policy : (e.counted sev).policy = e.policy := rfl

@[simp] theorem counted_bag : (e.counted sev).bag = e.bag := rfl

/-- A report the policy does not deliver moves the counters only. -/
theorem diagnose_of_none
    (h : e.policy.delivery (e.counted code.info.severity).errors code.info.severity = none) :
    e.diagnose r code args = { e.counted code.info.severity with lastShown := false } := by
  unfold diagnose
  rw [apply_eq e _ (Code.info_severity code)]
  simp only [counted] at h ⊢
  rw [h]

/-- A report the policy delivers moves the counters and hands the diagnostic to every sink. -/
theorem diagnose_of_some
    (h : e.policy.delivery (e.counted code.info.severity).errors code.info.severity = some sev) :
    e.diagnose r code args =
      { (e.counted code.info.severity).report (Diagnostic.make code sev r args) with
        lastShown := true } := by
  unfold diagnose
  rw [apply_eq e _ (Code.info_severity code)]
  simp only [counted] at h ⊢
  rw [h]

/-! ### The verdict never claims an uncounted error -/

/-- Every error the bag holds was counted. -/
def BagCounted (e : Engine) : Prop := e.bag.hasErrors = true → 0 < e.errors

theorem BagCounted.diagnose (h : e.BagCounted) (r : Range) (code : Code) (args : Array Arg) :
    (e.diagnose r code args).BagCounted := by
  intro hhas
  have hmono : e.errors ≤ (e.counted code.info.severity).errors := Nat.le_add_right _ _
  rcases hdel : e.policy.delivery (e.counted code.info.severity).errors code.info.severity
    with _ | sev
  · rw [diagnose_of_none hdel] at hhas ⊢
    exact Nat.lt_of_lt_of_le (h hhas) hmono
  · rw [diagnose_of_some hdel] at hhas ⊢
    show 0 < ((e.counted _).report _).errors
    rw [report_errors]
    obtain ⟨x, hx, hxe⟩ := (Bag.hasErrors_iff _).1 hhas
    rcases mem_report_bag hx with hx | rfl
    · exact Nat.lt_of_lt_of_le (h ((Bag.hasErrors_iff _).2 ⟨x, hx, hxe⟩)) hmono
    · -- the delivered diagnostic is an error, so its report was counted
      have hc : e.policy.countsAsError code.info.severity = true := by
        rw [← Policy.isError_shownAs (Code.info_severity code), ← Policy.delivery_eq_some hdel]
        exact hxe
      simp [counted, hc]

/-! ### With a bag without a limit, every counted error is shown -/

/-- An engine whose diagnostics go through the repeat filter into a bag without a limit, every
key the filter has seen being the key of a diagnostic in the bag, and every diagnostic in the bag
having the severity its code shows with. -/
structure Filtered (e : Engine) : Prop where
  sinks : e.sinks = [.dedupBag]
  uncapped : e.bag.max = 0
  seen : ∀ k, e.dedup.seen.contains k = true → ∃ d ∈ e.bag.items, d.key = k
  shownAs : ∀ d ∈ e.bag.items, d.severity = e.policy.shownAs d.code.info.severity

/-- A filtered engine whose bag holds an error once one is counted. -/
structure ErrorsShown (e : Engine) : Prop extends e.Filtered where
  shown : 0 < e.errors → e.bag.hasErrors = true

namespace Filtered

theorem counted (h : e.Filtered) (sev : Severity) : (e.counted sev).Filtered :=
  ⟨h.sinks, h.uncapped, h.seen, h.shownAs⟩

theorem lastShown (h : e.Filtered) (b : Bool) : ({ e with lastShown := b } : Engine).Filtered :=
  ⟨h.sinks, h.uncapped, h.seen, h.shownAs⟩

theorem report_eq (h : e.Filtered) (d : Diagnostic) : e.report d = e.deliver d .dedupBag := by
  simp [report, h.sinks]

variable (h : e.Filtered) (hd : d.severity = e.policy.shownAs d.code.info.severity)
include h hd

/-- A report of the severity its code shows with keeps the filter's facts. -/
theorem report : (e.report d).Filtered := by
  refine ⟨by rw [report_sinks, h.sinks], ?_, ?_, fun x hx => ?_⟩
  · rw [h.report_eq, deliver_dedupBag]
    split <;> simp [Bag.add_of_uncapped h.uncapped, h.uncapped]
  · intro k hk
    rw [h.report_eq, deliver_dedupBag] at hk ⊢
    by_cases hkd : e.dedup.seen.contains d.key = true
    · rw [if_pos hkd] at hk ⊢
      exact h.seen k hk
    · -- the filter now knows the key of the diagnostic that went in
      rw [if_neg hkd] at hk ⊢
      simp only [Std.HashSet.contains_insert, Bool.or_eq_true, beq_iff_eq] at hk
      rw [Bag.add_of_uncapped h.uncapped]
      rcases hk with rfl | hk
      · exact ⟨d, by simp, rfl⟩
      · obtain ⟨x, hx, hkx⟩ := h.seen k hk
        exact ⟨x, Array.mem_push_of_mem _ hx, hkx⟩
  · rw [report_policy]
    rcases mem_report_bag hx with hx | rfl
    · exact h.shownAs x hx
    · exact hd

/-- A report of an error severity leaves an error in the bag: the report goes in, or its twin,
of the same code and so of the same severity, is there already. -/
theorem report_error (he : d.severity.isError = true) : (e.report d).bag.hasErrors = true := by
  rw [h.report_eq, deliver_dedupBag]
  split
  · obtain ⟨d', hd', hkey⟩ := h.seen d.key ‹_›
    have hcode : d'.code = d.code := congrArg Prod.fst hkey
    refine (Bag.hasErrors_iff _).2 ⟨d', hd', ?_⟩
    rw [h.shownAs d' hd', hcode, ← hd]
    exact he
  · exact (Bag.hasErrors_iff _).2 ⟨d, by simp [Bag.add_of_uncapped h.uncapped], he⟩

end Filtered

theorem hasErrors_report (hh : e.bag.hasErrors = true) : (e.report d).bag.hasErrors = true := by
  obtain ⟨x, hx, hxe⟩ := (Bag.hasErrors_iff _).1 hh
  exact (Bag.hasErrors_iff _).2 ⟨x, mem_report_bag_of_mem hx, hxe⟩

/-- An error counted by a report is the first one, or comes after one counted before. -/
theorem counted_errors_pos (hpos : 0 < (e.counted sev).errors) :
    0 < e.errors ∨ (e.errors = 0 ∧ e.policy.countsAsError sev = true) := by
  rw [counted_errors] at hpos
  by_cases hc : e.policy.countsAsError sev = true
  · by_cases h0 : e.errors = 0
    · exact .inr ⟨h0, hc⟩
    · exact .inl (Nat.pos_of_ne_zero h0)
  · simp only [hc, if_false, Bool.false_eq_true] at hpos
    exact .inl hpos

theorem ErrorsShown.diagnose (h : e.ErrorsShown) (r : Range) (code : Code) (args : Array Arg) :
    (e.diagnose r code args).ErrorsShown := by
  rcases hdel : e.policy.delivery (e.counted code.info.severity).errors code.info.severity
    with _ | sev
  · rw [diagnose_of_none hdel]
    refine ⟨(h.toFiltered.counted _).lastShown _, fun hpos => ?_⟩
    rcases counted_errors_pos hpos with hpos | ⟨h0, hc⟩
    · exact h.shown hpos
    · -- the first error counted is always delivered
      have h1 : (e.counted code.info.severity).errors = 1 := by simp [h0, hc]
      rw [h1, Policy.delivery_first hc] at hdel
      cases hdel
  · rw [diagnose_of_some hdel]
    have hF := h.toFiltered.counted code.info.severity
    have hd : (Diagnostic.make code sev r args).severity = e.policy.shownAs code.info.severity :=
      Policy.delivery_eq_some hdel
    refine ⟨(hF.report hd).lastShown _, fun hpos => ?_⟩
    have hpos : 0 < (e.counted code.info.severity).errors := by simpa using hpos
    rcases counted_errors_pos hpos with hpos | ⟨-, hc⟩
    · exact hasErrors_report (h.shown hpos)
    · -- the first error shows as an error
      refine hF.report_error hd ?_
      rw [hd, Policy.isError_shownAs (Code.info_severity code)]
      exact hc

/-! ### Runs of reports -/

/-- The engine `e'` is `e` after some reports. -/
def Reaches (e e' : Engine) : Prop := ∃ ns : List Notice, diagnoseAll ns (some e) = some e'

theorem Reaches.refl (e : Engine) : e.Reaches e := ⟨[], rfl⟩

theorem Reaches.trans {e₁ e₂ e₃ : Engine} (h₁ : e₁.Reaches e₂) (h₂ : e₂.Reaches e₃) :
    e₁.Reaches e₃ := by
  obtain ⟨ns, h₁⟩ := h₁
  obtain ⟨ns', h₂⟩ := h₂
  exact ⟨ns ++ ns', by rw [diagnoseAll_append, h₁, h₂]⟩

theorem Reaches.diagnose (e : Engine) (r : Range) (code : Code) (args : Array Arg) :
    e.Reaches (e.diagnose r code args) :=
  ⟨[(r, code, args)], rfl⟩

/-- What every report keeps holds after any reports. -/
theorem Reaches.keep {P : Engine → Prop}
    (hP : ∀ e r code args, P e → P (e.diagnose r code args)) {e e' : Engine} (h : e.Reaches e')
    (he : P e) : P e' := by
  obtain ⟨ns, hns⟩ := h
  induction ns generalizing e with
  | nil =>
    cases hns
    exact he
  | cons n ns ih =>
    obtain ⟨r, code, args⟩ := n
    exact ih (hP e r code args he) hns

end Engine

/-! ### Every step of a run changes the engine only by reports -/

namespace ContextM

/-- A step that changes the engine only by reports, from any context. -/
def OnlyReports {α : Type} (x : ContextM α) : Prop :=
  ∀ c : Context, c.engine.Reaches (x.run.run c).2.engine

variable {α β : Type}

theorem OnlyReports.pure (a : α) : OnlyReports (Pure.pure a : ContextM α) :=
  fun c => Engine.Reaches.refl c.engine

theorem OnlyReports.bind {x : ContextM α} {f : α → ContextM β} (hx : OnlyReports x)
    (hf : ∀ a, OnlyReports (f a)) : OnlyReports (x >>= f) := by
  intro c
  have hc := hx c
  rw [run_bind]
  rcases hr : x.run.run c with ⟨_ | a, c'⟩ <;> rw [hr] at hc
  · exact hc
  · exact hc.trans (hf a c')

theorem reaches_of_run {x : ContextM α} (hx : OnlyReports x) {c c' : Context}
    {r : Except ContextError α} (h : x.run.run c = (r, c')) : c.engine.Reaches c'.engine := by
  have hc := hx c
  rw [h] at hc
  exact hc

theorem OnlyReports.of_triple {x : ContextM α}
    (h : ∀ c, ⦃fun s => ⌜c = s⌝⦄ x
      ⦃post⟨fun _ s => ⌜c.engine.Reaches s.engine⌝, fun _ s => ⌜c.engine.Reaches s.engine⌝⟩⦄) :
    OnlyReports x := by
  intro c
  have hout := outcome_of_triple (h c)
  rcases hr : x.run.run c with ⟨_ | a, c'⟩ <;> rw [hr] at hout <;> exact hout

theorem diagnose_onlyReports (r : Range) (code : Code) (args : Array Arg) :
    OnlyReports (diagnose r code args) := by
  refine OnlyReports.of_triple fun c => ?_
  mvcgen -trivial [diagnose]
  subst ‹c = _›
  simp +zetaDelta only
  exact Engine.Reaches.diagnose _ _ _ _

theorem init_onlyReports : OnlyReports init := by
  refine OnlyReports.of_triple fun c => ?_
  mvcgen -trivial [init, diagnose]
  all_goals subst ‹c = _›
  all_goals try simp +zetaDelta only
  all_goals first | exact Engine.Reaches.refl _ | exact Engine.Reaches.diagnose _ _ _ _

theorem loadBytes_onlyReports (path : String) (raw : ByteArray) (flags : UnitFlags) :
    OnlyReports (loadBytes path raw flags) := by
  refine OnlyReports.of_triple fun c => ?_
  mvcgen -trivial [loadBytes, allocId, tooLarge, diagnose]
  all_goals subst ‹c = _›
  all_goals try simp +zetaDelta only
  all_goals first | exact Engine.Reaches.refl _ | exact Engine.Reaches.diagnose _ _ _ _

theorem load_onlyReports (path : String) : OnlyReports (load path) := by
  refine OnlyReports.of_triple fun c => ?_
  mvcgen -trivial [load, loadBytes, allocId, tooLarge, diagnose]
  all_goals subst ‹c = _›
  all_goals try simp +zetaDelta only
  all_goals first | exact Engine.Reaches.refl _ | exact Engine.Reaches.diagnose _ _ _ _

theorem nextSource_engine (c : Context) : (nextSource.run c).2.engine = c.engine := by
  unfold nextSource
  simp only [StateT.run_bind, StateT.run_get, pure_bind]
  split
  · rfl
  · split <;> rfl

theorem enqueue_engine (u : SourceUnit) (c : Context) : ((enqueue u).run c).2.engine = c.engine := by
  unfold enqueue
  by_cases hs : c.stack = #[]
  · simp only [hs, Context.note, StateT.run_bind, StateT.run_modify, StateT.run_get, pure_bind,
      Array.isEmpty_empty, if_true]
    exact nextSource_engine _
  · simp [hs, Context.note]
    rfl

theorem openSource_onlyReports (path : String) : OnlyReports (openSource path) := by
  intro c
  have hc := load_onlyReports path c
  rw [openSource_run]
  rcases hr : (load path).run.run c with ⟨_ | u, c'⟩ <;> rw [hr] at hc
  · exact hc
  · rw [enqueue_engine]
    exact hc

theorem openSourceBytes_onlyReports (name : String) (content : ByteArray) :
    OnlyReports (openSourceBytes name content) := by
  intro c
  have hc := loadBytes_onlyReports name content ⟨UnitFlags.isVirtual⟩ c
  rw [openSourceBytes, run_bind]
  rcases hr : (loadBytes name content ⟨UnitFlags.isVirtual⟩).run.run c with ⟨_ | u, c'⟩ <;>
    rw [hr] at hc
  · exact hc
  · show c.engine.Reaches ((enqueue u).run c').2.engine
    rw [enqueue_engine]
    exact hc

/-- A step of the active unit's tokenizer changes the engine only by the tokenizer's reports,
since the tokenizer never looks at the engine. -/
theorem withLexer_onlyReports {x : StateM Lexer α} (hx : Lexer.Blind x) :
    OnlyReports (withLexer x) := by
  intro c
  cases hb : c.frameLexer with
  | none =>
    have hs : c.stack.back? = none := by simpa [Context.frameLexer] using hb
    unfold withLexer
    rw [run_get_bind, hs]
    exact Engine.Reaches.refl _
  | some L =>
    -- the frame's tokenizer reports to no engine, so the context runs it
    have hL : L.env.engine = none := by
      unfold Context.frameLexer at hb
      cases hs : c.stack.back? with
      | none => simp [hs] at hb
      | some f =>
        simp only [hs, Option.map_some, Option.some.injEq] at hb
        subst hb
        cases f.lexer <;> rfl
    have hc : c.Runs L := by
      have hself : L.onEngine none = L := by
        rw [← hL]
        exact Lexer.onEngine_self L
      unfold Context.Runs
      rw [hself]
      exact hb
    rw [withLexer_run hc]
    obtain ⟨ns, -, hrun⟩ := hx L
    obtain ⟨E, hE⟩ := diagnoseAll_some ns c.engine
    rw [hrun, hE]
    exact ⟨ns, by rw [hE, (hc.keep _ E).2]⟩

theorem drain_onlyReports (fuel : Nat) (acc : Array Token) : OnlyReports (drain fuel acc) := by
  induction fuel generalizing acc with
  | zero => exact OnlyReports.pure _
  | succ n ih =>
    rw [drain]
    refine OnlyReports.bind (withLexer_onlyReports Lexer.lex_blind) fun r => ?_
    cases r with
    | error e => exact OnlyReports.pure _
    | ok t =>
      dsimp only
      split
      · exact OnlyReports.pure _
      · exact ih _

end ContextM

/-! ### The runs -/

/-- The engine of a fresh single-script context: the bag is empty, and it holds every
diagnostic when `maxDiags` is 0. -/
theorem Context.single_engine (opts : ContextOptions) (maxDiags : Nat) (reader : FileReader) :
    (Context.single opts maxDiags reader).engine.BagCounted ∧
      (maxDiags = 0 → (Context.single opts maxDiags reader).engine.ErrorsShown) := by
  refine ⟨fun h => ?_, fun h0 => ⟨⟨rfl, h0, fun k hk => ?_, fun d hd => ?_⟩, fun h => ?_⟩⟩
  · simp [Context.single, Context.create, Bag.hasErrors] at h
  · simp [Context.single, Context.create] at hk
  · simp [Context.single, Context.create] at hd
  · simp [Context.single, Context.create] at h

/-- What the verdict of a run says about the errors its engine counted: it never claims an
uncounted error, and with a bag without a limit it claims every counted one. -/
structure TokenizeResult.Verdict (r : TokenizeResult) (maxDiags : Nat) : Prop where
  sound : r.hasErrors = true → 0 < r.ctx.engine.errors
  complete : maxDiags = 0 → 0 < r.ctx.engine.errors → r.hasErrors = true

/-- A run whose engine came from a fresh single-script context by reports has a verdict that
agrees with the engine as far as its bag allows. -/
theorem TokenizeResult.verdict_of_reaches {r : TokenizeResult} {opts : ContextOptions}
    {maxDiags : Nat} {reader : FileReader}
    (h : (Context.single opts maxDiags reader).engine.Reaches r.ctx.engine) : r.Verdict maxDiags := by
  obtain ⟨hcounted, hshown⟩ := Context.single_engine opts maxDiags reader
  refine ⟨h.keep (fun e r code args he => he.diagnose r code args) hcounted, fun h0 => ?_⟩
  exact (h.keep (fun e r code args he => he.diagnose r code args) (hshown h0)).shown

/-- One script tokenized from memory changes its engine only by reports. -/
theorem tokenizeBytes_reaches (opts : ContextOptions) (maxDiags : Nat) (name : String)
    (content : ByteArray) :
    (Context.single opts maxDiags FileReader.empty).engine.Reaches
      (tokenizeBytes opts maxDiags name content).ctx.engine := by
  unfold tokenizeBytes
  dsimp only
  split
  · next hr => exact ContextM.reaches_of_run ContextM.init_onlyReports hr
  next hr₁ =>
  have h₁ := ContextM.reaches_of_run ContextM.init_onlyReports hr₁
  split
  · next hr₂ => exact h₁.trans (ContextM.reaches_of_run (ContextM.openSourceBytes_onlyReports _ _) hr₂)
  next hr₂ =>
  have h₂ := h₁.trans (ContextM.reaches_of_run (ContextM.openSourceBytes_onlyReports _ _) hr₂)
  split
  · next hr₃ => exact h₂.trans (ContextM.reaches_of_run (ContextM.drain_onlyReports _ _) hr₃)
  · next hr₃ => exact h₂.trans (ContextM.reaches_of_run (ContextM.drain_onlyReports _ _) hr₃)

/-- So does a script tokenized in a batch, whichever way it is opened, when opening it changes the
engine only by reports. -/
theorem tokenizeWith_reaches (o : Batch.Options) (t : FileTree) (reader : FileReader) (path : String)
    {openUnit : ContextM SourceUnit} (hopen : ContextM.OnlyReports openUnit) :
    (Context.single o.compile o.maxDiags reader).engine.Reaches
      (Batch.tokenizeWith o t reader path openUnit).1.result.ctx.engine := by
  unfold Batch.tokenizeWith Batch.step
  dsimp only
  split
  · next hr => exact ContextM.reaches_of_run ContextM.init_onlyReports hr
  next hr₁ =>
  have h₁ := ContextM.reaches_of_run ContextM.init_onlyReports hr₁
  split
  · next hr₂ => exact h₁.trans (ContextM.reaches_of_run hopen hr₂)
  next hr₂ =>
  have h₂ := h₁.trans (ContextM.reaches_of_run hopen hr₂)
  split
  · -- a cache hit stops after loading
    exact h₂
  split
  · next hr₃ => exact h₂.trans (ContextM.reaches_of_run (ContextM.drain_onlyReports _ _) hr₃)
  next hr₃ =>
  have h₃ := h₂.trans (ContextM.reaches_of_run (ContextM.drain_onlyReports _ _) hr₃)
  split
  · exact h₃
  · -- the timings note is one more report
    split
    · exact h₃.trans (ContextM.diagnose_onlyReports _ _ _ _)
    · exact h₃

/-- Every run a batch of files gives is the run of one of its scripts, in the tree the batch had
reached. -/
theorem Batch.mem_tokenizeFiles_runs {o : Batch.Options} {t : FileTree} {paths : List String}
    {jobs : Int} {cancelled : Bool} {r : Batch.FileRun}
    (hr : r ∈ (Batch.tokenizeFiles o t paths jobs cancelled).runs.filterMap id) :
    ∃ t' p, r = (Batch.tokenizeFile o t' p).1 := by
  unfold Batch.tokenizeFiles at hr
  split_ifs at hr
  · simp at hr
  · simp at hr
  · dsimp only at hr
    revert hr
    -- each step appends the run of one script, in the tree the steps before it left
    refine List.foldlRecOn
      (motive := fun acc : List Batch.Event × List (Option Batch.FileRun) × FileTree =>
        r ∈ acc.2.1.filterMap id → ∃ t' p, r = (Batch.tokenizeFile o t' p).1) paths _ ?_ ?_
    · simp
    · intro acc ih p _ hr
      simp only [List.filterMap_append, List.mem_append, List.filterMap_cons, id, List.filterMap_nil,
        List.mem_singleton] at hr
      rcases hr with hr | rfl
      · exact ih hr
      · exact ⟨acc.2.2, p, rfl⟩

/-- The verdict of every tokenizing run, from memory, of in-memory text in a batch, or of each file
of a batch, never claims an error its engine did not count, and claims every counted error when
its bag has no limit. -/
theorem tokenize_error_verdict (o : Batch.Options) (t : FileTree) (name : String)
    (content : ByteArray) (paths : List String) (jobs : Int) (cancelled : Bool) :
    (tokenizeBytes o.compile o.maxDiags name content).Verdict o.maxDiags ∧
    (Batch.tokenizeText o t name content).1.result.Verdict o.maxDiags ∧
    ∀ r ∈ (Batch.tokenizeFiles o t paths jobs cancelled).runs.filterMap id,
      r.result.Verdict o.maxDiags := by
  refine ⟨?bytes, ?text, fun r hr => ?files⟩
  case bytes =>
    exact TokenizeResult.verdict_of_reaches (tokenizeBytes_reaches o.compile o.maxDiags name content)
  case text =>
    exact TokenizeResult.verdict_of_reaches
      (tokenizeWith_reaches o t _ name (ContextM.openSourceBytes_onlyReports name content))
  case files =>
    obtain ⟨t', p, rfl⟩ := Batch.mem_tokenizeFiles_runs hr
    exact TokenizeResult.verdict_of_reaches
      (tokenizeWith_reaches o t' _ p (ContextM.openSource_onlyReports p))

/-- A bag of one slot can hide a counted error: in a single-script engine with
`max_diagnostics` 1, the warning for the unknown escape of the script "\q" @ fills the bag, and
the error for its lone sigil is counted but not kept. -/
theorem Engine.one_slot_bag_hides_error :
    let e := ((Context.single {} 1 FileReader.empty).engine.diagnose ⟨0, 1, 2⟩ Code.lexUnknownEscape
      #[.str ⟨#[0x5C, 0x71]⟩]).diagnose ⟨0, 5, 1⟩ Code.lexLoneSigil #[.str ⟨#[0x40]⟩]
    e.bag.hasErrors = false ∧ e.errors = 1 := by
  intro e
  set e₀ := (Context.single {} 1 FileReader.empty).engine
  set e₁ := e₀.diagnose ⟨0, 1, 2⟩ Code.lexUnknownEscape #[.str ⟨#[0x5C, 0x71]⟩]
  -- the warning is delivered, fills the one slot, and counts as no error
  have hw : e₁ = { (e₀.counted Code.lexUnknownEscape.info.severity).report
      (Diagnostic.make Code.lexUnknownEscape .warning ⟨0, 1, 2⟩ #[.str ⟨#[0x5C, 0x71]⟩]) with
        lastShown := true } := Engine.diagnose_of_some (by decide)
  have hb₁ : e₁.bag.items = #[Diagnostic.make Code.lexUnknownEscape .warning ⟨0, 1, 2⟩
      #[.str ⟨#[0x5C, 0x71]⟩]] := by
    rw [hw]
    simp [e₀, Engine.report, Engine.counted, Context.single, Context.create, Engine.deliver_dedupBag,
      Bag.add]
  have hmax₁ : e₁.bag.max = 1 := by
    rw [hw]
    simp [e₀, Engine.report, Engine.counted, Context.single, Context.create, Engine.deliver_dedupBag,
      Bag.add]
  have hp₁ : e₁.policy = e₀.policy := by rw [hw]; simp
  have herr₁ : e₁.errors = 0 := by rw [hw]; simp [e₀, Context.single, Context.create]; decide
  have hs₁ : e₁.sinks = [.dedupBag] := by
    rw [hw]; simp [e₀, Engine.counted, Context.single, Context.create]
  -- the error is counted, and the full bag keeps only the warning
  have hd : e₁.policy.delivery (e₁.counted Code.lexLoneSigil.info.severity).errors
      Code.lexLoneSigil.info.severity = some .error := by
    rw [Engine.counted_errors, hp₁, herr₁]; decide
  have he : e = { (e₁.counted Code.lexLoneSigil.info.severity).report
      (Diagnostic.make Code.lexLoneSigil .error ⟨0, 5, 1⟩ #[.str ⟨#[0x40]⟩]) with
        lastShown := true } := Engine.diagnose_of_some hd
  have hfull : (e₁.counted Code.lexLoneSigil.info.severity).bag.max ≤
      (e₁.counted Code.lexLoneSigil.info.severity).bag.items.size := by
    simp [hmax₁, hb₁]
  rw [he]
  refine ⟨?_, ?_⟩
  · simp only [Bag.hasErrors]
    rw [Engine.report_bag_of_full (e := e₁.counted _) hs₁ (by simp [hmax₁]) hfull,
      Engine.counted_bag, hb₁]
    simp [Diagnostic.make, Severity.isError, Severity.code]
  · simp only [Engine.report_errors, Engine.counted_errors, herr₁, hp₁]
    decide

end NovelScript

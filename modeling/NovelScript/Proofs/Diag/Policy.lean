import Mathlib.Data.List.Basic
import NovelScript.Diag.Engine
/-!
# What the engine counts and delivers

A run of `Engine.diagnose` calls is described here in closed form, over the whole list of
calls:

* the note counter counts the notes unless notes are suppressed; the warning counter counts
  the warnings unless warnings count as errors or are suppressed; the error counter counts
  errors, fatal errors and, when warnings count as errors, warnings; the fatal flag says
  whether a fatal error came;
* the sinks receive, in call order, the diagnostic of every call the policy lets through:
  notes and warnings unless suppressed, a warning as an error when warnings count as errors,
  every fatal error, and an error only while its place in the running error count (fatal
  errors included) is within the cutoff;
* the limit is reached exactly when the cutoff is positive and the errors counted reach it.

The code table gives every code one of four severities, so the two severities the engine
handles besides (ignored and unnamed ones) never arise from a code.
-/

namespace NovelScript

/-- Every code's table severity is a note, a warning, an error or a fatal error; an unknown
code reads as an error. -/
theorem Code.info_severity (c : Code) :
    c.info.severity = .note ∨ c.info.severity = .warning ∨ c.info.severity = .error ∨
      c.info.severity = .fatal := by
  unfold Code.info Code.info?
  split <;> simp

/-- One call of `Engine.diagnose`: where, which code, with which arguments. -/
structure Engine.Call where
  range : Range
  code : Code
  args : Array Arg

namespace Engine.Call

/-- The severity the code table gives the call. -/
def severity (c : Call) : Severity := c.code.info.severity

/-- The diagnostic the call delivers with severity `sev`. -/
def diagnostic (c : Call) (sev : Severity) : Diagnostic := Diagnostic.make c.code sev c.range c.args

theorem diagnostic_args_size (c : Call) (sev : Severity) :
    (c.diagnostic sev).args.size ≤ maxArgs := by
  simp only [diagnostic, Diagnostic.make, Array.size_extract, Nat.sub_zero]
  exact Nat.min_le_left _ _

end Engine.Call

/-! ### The policy in closed form -/

namespace Policy

/-- Whether a diagnostic of table severity `sev` is counted as an error under `p`: errors,
fatal errors, and warnings when warnings count as errors. -/
def countsAsError (p : Policy) (sev : Severity) : Bool :=
  sev = .error || sev = .fatal || (p.warningsAsErrors && sev = .warning)

/-- The number of calls counted as errors. -/
def errorCount (p : Policy) (calls : List Engine.Call) : Nat :=
  calls.countP fun c => p.countsAsError c.severity

/-- Whether an error whose place in the running error count is `n` is within the cutoff; a
cutoff of 0 or below means none. -/
def withinCutoff (p : Policy) (n : Nat) : Bool :=
  !(0 < p.effectiveMaxErrors && p.effectiveMaxErrors < n)

/-- The severity a diagnostic of table severity `sev` is delivered with when its place in the
running error count is `n`; `none` when it is not delivered. -/
def delivery (p : Policy) (n : Nat) : Severity → Option Severity
  | .note => if p.suppressNotes then none else some .note
  | .warning =>
    if p.warningsAsErrors then (if p.withinCutoff n then some .error else none)
    else if p.suppressWarnings then none else some .warning
  | .error => if p.withinCutoff n then some .error else none
  | .fatal => some .fatal
  | _ => none

/-- The diagnostics delivered for `calls` after `n` errors were counted before them: each
call the policy lets through, in call order, its place in the running error count being the
errors among the calls up to and including it. -/
def deliveries (p : Policy) (n : Nat) (calls : List Engine.Call) : List Diagnostic :=
  calls.zipIdx.filterMap fun (c, i) =>
    (p.delivery (n + p.errorCount (calls.take (i + 1))) c.severity).map c.diagnostic

theorem errorCount_eq (p : Policy) (calls : List Engine.Call) :
    p.errorCount calls = calls.countP (·.severity = .error) + calls.countP (·.severity = .fatal) +
      if p.warningsAsErrors then calls.countP (·.severity = .warning) else 0 := by
  induction calls with
  | nil => simp [errorCount]
  | cons c calls ih =>
    rw [errorCount, List.countP_cons, ← errorCount, ih]
    simp only [List.countP_cons, countsAsError]
    cases c.severity <;> by_cases hw : p.warningsAsErrors = true <;> simp [hw] <;> omega

/-- One more call adds its own delivery, judged with the errors counted up to it, at the end. -/
theorem deliveries_snoc (p : Policy) (n : Nat) (calls : List Engine.Call) (c : Engine.Call) :
    p.deliveries n (calls ++ [c]) = p.deliveries n calls ++
      ((p.delivery (n + p.errorCount (calls ++ [c])) c.severity).map c.diagnostic).toList := by
  unfold deliveries
  rw [List.zipIdx_append, List.filterMap_append]
  congr 1
  · -- the earlier calls see the same prefixes as before
    apply List.filterMap_congr
    rintro ⟨x, i⟩ hx
    have hi : i < calls.length := by simpa using (List.mem_zipIdx hx).2.1
    simp only [List.take_append_of_le_length (show i + 1 ≤ calls.length by omega)]
  · -- the new call sees every call up to it
    have htake : (calls ++ [c]).take (calls.length + 1) = calls ++ [c] :=
      List.take_of_length_le (by simp)
    simp only [List.zipIdx_cons, List.zipIdx_nil, Nat.zero_add, List.filterMap_cons,
      List.filterMap_nil, htake]
    cases p.delivery (n + p.errorCount (calls ++ [c])) c.severity <;> rfl

theorem deliveries_args_size (p : Policy) (n : Nat) (calls : List Engine.Call) :
    ∀ d ∈ p.deliveries n calls, d.args.size ≤ maxArgs := by
  intro d hd
  obtain ⟨⟨c, i⟩, -, hc⟩ := List.mem_filterMap.1 hd
  obtain ⟨sev, -, rfl⟩ := Option.map_eq_some_iff.1 hc
  exact c.diagnostic_args_size sev

end Policy

/-! ### The engine, one call at a time -/

namespace Engine

/-- The engine after `calls`, made in order. -/
def diagnoseList (e : Engine) (calls : List Call) : Engine :=
  calls.foldl (fun e c => e.diagnose c.range c.code c.args) e

/-- What the sinks hold: the bag, the repeat filter and the console record. -/
def outlets (e : Engine) : Bag × Dedup × Array Diagnostic := (e.bag, e.dedup, e.consoleLog)

@[simp] theorem outlets_lastShown (e : Engine) (b : Bool) :
    ({ e with lastShown := b } : Engine).outlets = e.outlets := rfl

/-- The policy's answer for a severity of the table: the counters move and the diagnostic is
delivered as `Policy.delivery` says, with the error count after it as its place. -/
theorem apply_eq (e : Engine) (sev : Severity)
    (hs : sev = .note ∨ sev = .warning ∨ sev = .error ∨ sev = .fatal) :
    e.apply sev =
      ({ e with
          notes := e.notes + if sev = .note ∧ e.policy.suppressNotes = false then 1 else 0,
          warnings := e.warnings + if sev = .warning ∧ e.policy.warningsAsErrors = false ∧
            e.policy.suppressWarnings = false then 1 else 0,
          errors := e.errors + if e.policy.countsAsError sev then 1 else 0,
          fatal := e.fatal || sev = .fatal },
        e.policy.delivery (e.errors + if e.policy.countsAsError sev then 1 else 0) sev) := by
  rcases hs with rfl | rfl | rfl | rfl
  · cases h : e.policy.suppressNotes <;> simp [apply, Policy.delivery, Policy.countsAsError, h]
  · cases hw : e.policy.warningsAsErrors <;> cases hs : e.policy.suppressWarnings <;>
      simp only [apply, Policy.delivery, Policy.countsAsError, Policy.withinCutoff, hw, hs] <;>
      by_cases h1 : 0 < e.policy.effectiveMaxErrors <;>
      by_cases h2 : e.policy.effectiveMaxErrors < (e.errors : Int) + 1 <;> simp [h1, h2]
  · simp only [apply, Policy.delivery, Policy.countsAsError, Policy.withinCutoff]
    by_cases h1 : 0 < e.policy.effectiveMaxErrors <;>
      by_cases h2 : e.policy.effectiveMaxErrors < (e.errors : Int) + 1 <;> simp [h1, h2]
  · simp [apply, Policy.delivery, Policy.countsAsError]

/-- Handing a diagnostic to the sinks changes what they hold and nothing else. -/
theorem foldl_deliver_frame (d : Diagnostic) :
    ∀ (ss : List Sink) (e : Engine), ∃ b f l,
      ss.foldl (fun e s => e.deliver d s) e = { e with bag := b, dedup := f, consoleLog := l }
  | [], e => ⟨e.bag, e.dedup, e.consoleLog, rfl⟩
  | s :: ss, e => by
    obtain ⟨b, f, l, h⟩ := foldl_deliver_frame d ss (e.deliver d s)
    refine ⟨b, f, l, ?_⟩
    rw [List.foldl_cons, h]
    cases s with
    | dedupBag => simp only [deliver]; split <;> rfl
    | _ => rfl

section report

variable (e : Engine) (d : Diagnostic)

theorem report_frame : ∃ b f l, e.report d = { e with bag := b, dedup := f, consoleLog := l } :=
  foldl_deliver_frame d e.sinks e

@[simp] theorem report_policy : (e.report d).policy = e.policy := by
  obtain ⟨b, f, l, h⟩ := report_frame e d; rw [h]

@[simp] theorem report_sinks : (e.report d).sinks = e.sinks := by
  obtain ⟨b, f, l, h⟩ := report_frame e d; rw [h]

@[simp] theorem report_errors : (e.report d).errors = e.errors := by
  obtain ⟨b, f, l, h⟩ := report_frame e d; rw [h]

@[simp] theorem report_warnings : (e.report d).warnings = e.warnings := by
  obtain ⟨b, f, l, h⟩ := report_frame e d; rw [h]

@[simp] theorem report_notes : (e.report d).notes = e.notes := by
  obtain ⟨b, f, l, h⟩ := report_frame e d; rw [h]

@[simp] theorem report_fatal : (e.report d).fatal = e.fatal := by
  obtain ⟨b, f, l, h⟩ := report_frame e d; rw [h]

end report

/-- What a sink does depends on what the sinks hold and on nothing else. -/
theorem deliver_outlets {e e' : Engine} (h : e.outlets = e'.outlets) (d : Diagnostic) (s : Sink) :
    (e.deliver d s).outlets = (e'.deliver d s).outlets := by
  simp only [outlets, Prod.mk.injEq] at h ⊢
  obtain ⟨hb, hf, hl⟩ := h
  cases s with
  | dedupBag =>
    simp only [deliver, hf]
    cases Dedup.admit e'.dedup d.key with
    | mk ok f => cases ok <;> simp [hb, hl]
  | _ => simp [deliver, hb, hf, hl]

theorem foldl_deliver_outlets (d : Diagnostic) (ss : List Sink) {e e' : Engine}
    (h : e.outlets = e'.outlets) :
    (ss.foldl (fun e s => e.deliver d s) e).outlets =
      (ss.foldl (fun e s => e.deliver d s) e').outlets := by
  induction ss generalizing e e' with
  | nil => exact h
  | cons s ss ih => exact ih (deliver_outlets h d s)

theorem report_outlets {e e' : Engine} (h : e.outlets = e'.outlets) (hs : e.sinks = e'.sinks)
    (d : Diagnostic) : (e.report d).outlets = (e'.report d).outlets := by
  unfold report
  rw [hs]
  exact foldl_deliver_outlets d e'.sinks h

theorem reportAll_sinks (ds : List Diagnostic) (e : Engine) : (ds.foldl report e).sinks = e.sinks := by
  induction ds generalizing e with
  | nil => rfl
  | cons d ds ih => rw [List.foldl_cons, ih, report_sinks]

theorem reportAll_outlets {e e' : Engine} (h : e.outlets = e'.outlets) (hs : e.sinks = e'.sinks)
    (ds : List Diagnostic) : (ds.foldl report e).outlets = (ds.foldl report e').outlets := by
  induction ds generalizing e e' with
  | nil => exact h
  | cons d ds ih =>
    exact ih (report_outlets h hs d) (by rw [report_sinks, report_sinks, hs])

/-- The engine `e` after `calls` from `e₀`: the counters in closed form over the calls, and
the sinks holding what they would after being handed the deliveries in order. -/
structure After (e₀ : Engine) (calls : List Call) (e : Engine) : Prop where
  policy : e.policy = e₀.policy
  sinks : e.sinks = e₀.sinks
  notes : e.notes = e₀.notes +
    if e₀.policy.suppressNotes then 0 else calls.countP (·.severity = .note)
  warnings : e.warnings = e₀.warnings +
    if e₀.policy.warningsAsErrors || e₀.policy.suppressWarnings then 0
    else calls.countP (·.severity = .warning)
  errors : e.errors = e₀.errors + e₀.policy.errorCount calls
  fatal : e.fatal = (e₀.fatal || calls.any (·.severity = .fatal))
  outlets : e.outlets = ((e₀.policy.deliveries e₀.errors calls).foldl report e₀).outlets

namespace After

variable {e₀ e : Engine} {calls : List Call}

theorem start (e₀ : Engine) : After e₀ [] e₀ :=
  ⟨rfl, rfl, by simp, by simp, by simp [Policy.errorCount], by simp, rfl⟩

/-- One more call keeps the closed forms. -/
theorem diagnose (h : After e₀ calls e) (c : Call) :
    After e₀ (calls ++ [c]) (e.diagnose c.range c.code c.args) := by
  -- the place of the call in the running error count
  have hplace : e.errors + (if e₀.policy.countsAsError c.severity then 1 else 0) =
      e₀.errors + e₀.policy.errorCount (calls ++ [c]) := by
    simp [h.errors, Policy.errorCount, List.countP_append, Nat.add_assoc]
  have happ := e.apply_eq c.severity (Code.info_severity c.code)
  rw [h.policy, hplace] at happ
  have hds := e₀.policy.deliveries_snoc e₀.errors calls c
  -- the counters move the same way whether or not the diagnostic is delivered
  have hcounters : ∀ e' : Engine, e'.policy = e₀.policy → e'.sinks = e.sinks →
      e'.notes = e.notes + (if c.severity = .note ∧ e₀.policy.suppressNotes = false
        then 1 else 0) →
      e'.warnings = e.warnings + (if c.severity = .warning ∧
        e₀.policy.warningsAsErrors = false ∧ e₀.policy.suppressWarnings = false then 1 else 0) →
      e'.errors = e₀.errors + e₀.policy.errorCount (calls ++ [c]) →
      e'.fatal = (e.fatal || decide (c.severity = .fatal)) →
      e'.outlets = ((e₀.policy.deliveries e₀.errors (calls ++ [c])).foldl report e₀).outlets →
      After e₀ (calls ++ [c]) e' := by
    intro e' hp hs hn hw he hf ho
    refine ⟨hp, hs.trans h.sinks, ?_, ?_, he, ?_, ho⟩
    · rw [hn, h.notes]
      cases e₀.policy.suppressNotes <;> simp [List.countP_append, Nat.add_assoc]
    · rw [hw, h.warnings]
      cases e₀.policy.warningsAsErrors <;> cases e₀.policy.suppressWarnings <;>
        simp [List.countP_append, Nat.add_assoc]
    · rw [hf, h.fatal, List.any_append]
      simp [Bool.or_assoc]
  unfold Engine.diagnose
  rw [show c.code.info.severity = c.severity from rfl, happ]
  cases hdel : e₀.policy.delivery (e₀.errors + e₀.policy.errorCount (calls ++ [c])) c.severity with
  | none =>
    -- nothing is delivered: the sinks keep what they held
    refine hcounters _ rfl rfl rfl rfl rfl rfl ?_
    rw [hds, hdel]
    simpa [Engine.outlets] using h.outlets
  | some sev =>
    -- the call's diagnostic goes to every sink
    refine hcounters _ (by simp) (by simp) (by simp) (by simp) (by simp) (by simp) ?_
    rw [hds, hdel]
    simp only [Option.map_some, Option.toList_some, List.foldl_append, List.foldl_cons,
      List.foldl_nil, outlets_lastShown]
    refine report_outlets ?_ ?_ _
    · exact h.outlets
    · exact h.sinks.trans (reportAll_sinks _ _).symm

theorem diagnoseList (h : After e₀ calls e) (rest : List Call) :
    After e₀ (calls ++ rest) (e.diagnoseList rest) := by
  induction rest generalizing calls e with
  | nil => simpa [Engine.diagnoseList] using h
  | cons c rest ih =>
    simpa [Engine.diagnoseList] using ih (h.diagnose c)

end After

end Engine

/-- Counting and delivery over any sequence of calls from an engine with clear counters (a new
one, or one just reset): the note, warning and error counters and the fatal flag in closed
form; the sinks receive, in call order, exactly the policy's deliveries, each with at most ten
arguments, an error or promoted warning only while its place in the running error count is
within the cutoff; and the limit is reached exactly when the cutoff is positive and the errors
counted reach it. -/
theorem diagnose_counts_and_delivers (e₀ : Engine) (calls : List Engine.Call) :
    (e₀.reset.diagnoseList calls).notes =
        (if e₀.policy.suppressNotes then 0 else calls.countP (·.severity = .note)) ∧
      (e₀.reset.diagnoseList calls).warnings =
        (if e₀.policy.warningsAsErrors || e₀.policy.suppressWarnings then 0
          else calls.countP (·.severity = .warning)) ∧
      (e₀.reset.diagnoseList calls).errors =
        calls.countP (·.severity = .error) + calls.countP (·.severity = .fatal) +
          (if e₀.policy.warningsAsErrors then calls.countP (·.severity = .warning) else 0) ∧
      ((e₀.reset.diagnoseList calls).fatal = true ↔ ∃ c ∈ calls, c.severity = .fatal) ∧
      (e₀.reset.diagnoseList calls).outlets =
        ((e₀.policy.deliveries 0 calls).foldl Engine.report e₀).outlets ∧
      (∀ d ∈ e₀.policy.deliveries 0 calls, d.args.size ≤ maxArgs) ∧
      ((e₀.reset.diagnoseList calls).limitReached = true ↔
        0 < e₀.policy.effectiveMaxErrors ∧
          e₀.policy.effectiveMaxErrors ≤ e₀.policy.errorCount calls) := by
  have h := (Engine.After.start e₀.reset).diagnoseList calls
  simp only [List.nil_append] at h
  refine ⟨?_, ?_, ?_, ?_, ?_, e₀.policy.deliveries_args_size 0 calls, ?_⟩
  · rw [h.notes]
    exact Nat.zero_add _
  · rw [h.warnings]
    exact Nat.zero_add _
  · rw [h.errors]
    exact (Nat.zero_add _).trans (e₀.policy.errorCount_eq calls)
  · rw [h.fatal]
    simp [Engine.reset]
  · rw [h.outlets]
    refine Engine.reportAll_outlets ?_ ?_ _ <;> rfl
  · simp only [Engine.limitReached, h.errors, h.policy]
    simp [Engine.reset]

end NovelScript

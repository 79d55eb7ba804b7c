import Mathlib
import NovelScript.Directive.Registry
import NovelScript.Proofs.Cli.SelfTestStatus
/-!
# The index of a scenario registry

A registry keeps its scenarios in the order added and, beside them, for each kind the positions of
that kind's scenarios. The filter by kinds reads the scenarios through these positions, kind by
kind in the order the kinds are asked for.

The index is exact after every sequence of additions (`Registry.Indexed`): the positions of a kind
are all the positions holding a scenario of that kind, in increasing order. One addition keeps
it (`Registry.Indexed.addOne`), so every run of additions does. Reading a kind through exact
positions is filtering the scenarios by that kind (`filterMap_getElem_filter_range`), so the
filter through the index is the filter of the list, `Directive.select`
(`Registry.filterByKind_eq_select`), and the registry's summary is the summary of its scenarios.

The filter goes through the kinds as asked: a kind asked for twice gives its scenarios twice.
Only when no kind is repeated is each scenario of a listed kind given exactly once
(`flatMap_filter_perm`).
-/

namespace NovelScript

/-! ### Positions of the elements of a list -/

/-- Reading back the positions that hold an element of key `k` gives the elements of key `k`, in
order. -/
theorem filterMap_getElem_filter_range {α β : Type} [DecidableEq β] (l : List α) (f : α → β)
    (k : β) :
    ((List.range l.length).filter fun i => (l[i]?.map f) = some k).filterMap (l[·]?) =
      l.filter fun x => f x = k := by
  induction l with
  | nil => rfl
  | cons a t ih =>
    -- position 0 holds `a`; the others are the positions of the tail, shifted by one
    rw [List.length_cons, List.range_succ_eq_map, List.filter_cons, List.filter_map,
      List.filter_cons]
    simp only [List.getElem?_cons_zero, Option.map_some, Option.some.injEq, Function.comp_def,
      List.getElem?_cons_succ]
    by_cases hk : f a = k
    · simp only [hk, decide_true, if_true, List.filterMap_cons, List.getElem?_cons_zero,
        List.filterMap_map, Function.comp_def, List.getElem?_cons_succ, ih]
    · simp only [hk, decide_false, Bool.false_eq_true, if_false, List.filterMap_map,
        Function.comp_def, List.getElem?_cons_succ, ih]

/-- Filtering by either of two predicates that never hold together gives the elements of the
first and those of the second. -/
theorem filter_or_perm {α : Type} (l : List α) {p q : α → Bool} (h : ∀ x, ¬ (p x ∧ q x)) :
    (l.filter fun x => p x || q x).Perm (l.filter p ++ l.filter q) := by
  induction l with
  | nil => simp
  | cons a t ih =>
    by_cases hp : p a
    · have hq : q a = false := by simpa [hp] using h a
      simpa [List.filter_cons, hp, hq] using ih.cons a
    · by_cases hq : q a
      · simpa [List.filter_cons, hp, hq] using (ih.cons a).trans List.perm_middle.symm
      · simpa [List.filter_cons, hp, hq] using ih

/-- Keys asked for once each: the elements of each key in turn are the elements whose key is
asked for, each once. -/
theorem flatMap_filter_perm {α β : Type} [DecidableEq β] (l : List α) (f : α → β) {ks : List β}
    (hks : ks.Nodup) :
    (ks.flatMap fun k => l.filter fun x => f x = k).Perm (l.filter fun x => f x ∈ ks) := by
  induction ks with
  | nil => simp
  | cons k ks ih =>
    obtain ⟨hk, hks⟩ := List.nodup_cons.1 hks
    -- the elements of key `k` and those of the later keys are apart
    have hapart : ∀ x, ¬ (decide (f x = k) = true ∧ decide (f x ∈ ks) = true) := by
      rintro x ⟨hx, hxs⟩
      rw [decide_eq_true_eq] at hx hxs
      exact hk (hx ▸ hxs)
    rw [List.flatMap_cons]
    refine ((ih hks).append_left _).trans (filter_or_perm l hapart).symm |>.trans ?_
    simp

/-! ### The registry -/

namespace Registry

/-- The index is exact: the positions kept for a kind are all the positions holding a scenario
of that kind, in increasing order. -/
def Indexed (r : Registry) : Prop :=
  ∀ k, (r.byKind k).toList =
    (List.range r.len).filter fun i => (r.scenarios[i]?.map Scenario.kind) = some k

theorem indexed_empty : ({} : Registry).Indexed := fun _ => rfl

@[simp] theorem addOne_scenarios (r : Registry) (s : Scenario) :
    (r.addOne s).scenarios = r.scenarios.push s := rfl

@[simp] theorem addOne_byKind (r : Registry) (s : Scenario) (k : ExpectKind) :
    (r.addOne s).byKind k = if k = s.kind then (r.byKind k).push r.scenarios.size else r.byKind k :=
  rfl

/-- One more scenario keeps the index exact: its position is the old size, and the old
positions hold what they held. -/
theorem Indexed.addOne {r : Registry} (h : r.Indexed) (s : Scenario) : (r.addOne s).Indexed := by
  intro k
  have hlen : (r.addOne s).len = r.len + 1 := by simp [len]
  have hold : ((List.range r.len).filter fun i =>
      ((r.addOne s).scenarios[i]?.map Scenario.kind) = some k) =
        (List.range r.len).filter fun i => (r.scenarios[i]?.map Scenario.kind) = some k :=
    List.filter_congr fun i hi => by
      have hi' := List.mem_range.1 hi
      simp only [addOne_scenarios, Array.getElem?_push_lt hi', Array.getElem?_eq_getElem hi']
  rw [hlen, List.range_succ, List.filter_append, hold, ← h k, addOne_byKind]
  by_cases hk : k = s.kind
  · simp [hk, len]
  · simp [hk, len, Ne.symm hk]

theorem Indexed.add {r : Registry} (h : r.Indexed) (res : CheckResult) : (r.add res).Indexed := by
  unfold Registry.add
  rw [← Array.foldl_toList]
  induction res.scenarios.toList generalizing r with
  | nil => exact h
  | cons s ss ih => exact ih (h.addOne s)

theorem all_add (r : Registry) (res : CheckResult) :
    (r.add res).all = r.all ++ res.scenarios.toList := by
  unfold Registry.add
  rw [← Array.foldl_toList]
  induction res.scenarios.toList generalizing r with
  | nil => simp
  | cons s ss ih => rw [List.foldl_cons, ih, all, all, addOne_scenarios, Array.toList_push]; simp

/-- Through an exact index, the filter by kinds is the filter of the scenarios: all of them when
no kind is asked for, else those of each kind asked for in turn. -/
theorem filterByKind_eq_select {r : Registry} (h : r.Indexed) (kinds : List ExpectKind) :
    r.filterByKind kinds = Directive.select r.all kinds := by
  unfold filterByKind Directive.select
  split
  · rfl
  · congr 1
    funext k
    have hread := filterMap_getElem_filter_range r.scenarios.toList Scenario.kind k
    simp only [Array.getElem?_toList, Array.length_toList] at hread
    rw [h k, len, hread, all]
    exact List.filter_congr fun x _ => by rw [Bool.eq_iff_iff]; simp

/-- The summary of a registry with an exact index is the summary of its scenarios. -/
theorem summarize_eq {r : Registry} (h : r.Indexed) (kinds : List ExpectKind) (verbose : Bool) :
    r.summarize kinds verbose = Directive.summarize r.all kinds verbose := by
  rw [summarize, filterByKind_eq_select h]
  rfl

theorem indexed_foldl_add (rs : List CheckResult) {r : Registry} (h : r.Indexed) :
    (rs.foldl add r).Indexed := by
  induction rs generalizing r with
  | nil => exact h
  | cons res rs ih => exact ih (h.add res)

theorem all_foldl_add (rs : List CheckResult) (r : Registry) :
    (rs.foldl add r).all = r.all ++ rs.flatMap (·.scenarios.toList) := by
  induction rs generalizing r with
  | nil => simp
  | cons res rs ih => rw [List.foldl_cons, ih, all_add, List.flatMap_cons, List.append_assoc]

end Registry

@[simp] theorem Directive.select_nil (ss : List Scenario) : Directive.select ss [] = ss := rfl

theorem Directive.select_eq (ss : List Scenario) (kinds : List ExpectKind) :
    Directive.select ss kinds =
      if kinds = [] then ss else kinds.flatMap fun k => ss.filter fun s => s.kind = k := by
  unfold Directive.select
  by_cases hk : kinds = []
  · simp [hk]
  · rw [if_neg (by simpa using hk), if_neg hk]
    congr 1

/-- A run of self-tests fills its registry with the scenarios of the checked scripts, in the
order of the scripts, and the registry's summary is the summary of those scenarios. -/
theorem Batch.fillRegistry_summarize (runs : List (Option Batch.CheckRun))
    (kinds : List ExpectKind) (verbose : Bool) :
    (Batch.fillRegistry {} runs).all = Batch.registry runs ∧
      (Batch.fillRegistry {} runs).summarize kinds verbose =
        Directive.summarize (Batch.registry runs) kinds verbose := by
  have hfill : Batch.fillRegistry {} runs =
      ((runs.filterMap id).map (·.result)).foldl Registry.add {} := by
    rw [Batch.fillRegistry, List.foldl_map]
  have hall : (Batch.fillRegistry {} runs).all = Batch.registry runs := by
    rw [hfill, Registry.all_foldl_add, Batch.registry, List.flatMap_map]
    exact List.nil_append _
  refine ⟨hall, ?_⟩
  rw [Registry.summarize_eq (hfill ▸ Registry.indexed_foldl_add _ Registry.indexed_empty), hall]

/-- A summary without passes has one line for each failed scenario, in order. -/
theorem summaryLine_failed (ss : List Scenario) :
    List.Forall₂ (fun s l => Directive.summaryLine false s = some l)
      (ss.filter fun s => !s.passed) (ss.filterMap (Directive.summaryLine false)) := by
  induction ss with
  | nil => exact .nil
  | cons s ss ih =>
    cases hs : s.passed
    · -- a failure gives its line
      obtain ⟨l, hl⟩ : ∃ l, Directive.summaryLine false s = some l := by
        simp [Directive.summaryLine, hs]
      rw [List.filter_cons_of_pos (by simp [hs]), List.filterMap_cons_some hl]
      exact .cons hl ih
    · rw [List.filter_cons_of_neg (by simp [hs]),
        List.filterMap_cons_none (by simp [Directive.summaryLine, hs])]
      exact ih

/-- A registry filled by any sequence of additions. Its index of each kind holds exactly the
positions of that kind's scenarios, in increasing order; its scenarios are those added, in order.
Filtering by kinds gives every scenario when no kind is asked for, and otherwise the scenarios of
each kind asked for, kind by kind in the order asked, so each scenario of a listed kind comes
exactly once when no kind is listed twice. Its summary counts the filtered scenarios: the total is
their number, the passed and failed counts add up to it, and the failed count is the number of
filtered scenarios that failed. With no kind listed twice, the summary without passes is one line
for each failed scenario of a listed kind, each scenario once, then the totals. -/
theorem registry_filters_by_kind (rs : List CheckResult) (kinds : List ExpectKind)
    (verbose : Bool) :
    let r := rs.foldl Registry.add {}
    (∀ k, (r.byKind k).toList =
        (List.range r.len).filter fun i => (r.scenarios[i]?.map Scenario.kind) = some k) ∧
      r.all = rs.flatMap (·.scenarios.toList) ∧
      r.filterByKind kinds =
        (if kinds = [] then r.all else kinds.flatMap fun k => r.all.filter fun s => s.kind = k) ∧
      (kinds ≠ [] → kinds.Nodup →
        (r.filterByKind kinds).Perm (r.all.filter fun s => s.kind ∈ kinds)) ∧
      (r.summarize kinds verbose).2.1 = (r.filterByKind kinds).length ∧
      (r.summarize kinds verbose).2.2.1 + (r.summarize kinds verbose).2.2.2 =
        (r.summarize kinds verbose).2.1 ∧
      (r.summarize kinds verbose).2.2.2 =
        ((r.filterByKind kinds).filter fun s => !s.passed).length ∧
      (kinds ≠ [] → kinds.Nodup → ∃ fs ls,
        fs.Perm (r.all.filter fun s => s.kind ∈ kinds ∧ s.passed = false) ∧
        List.Forall₂ (fun s l => Directive.summaryLine false s = some l) fs ls ∧
        (r.summarize kinds false).1 = ls.foldl (· ++ ·) .empty ++
          Directive.summaryTotals (r.summarize kinds false).2.1 (r.summarize kinds false).2.2.1
            (r.summarize kinds false).2.2.2) := by
  intro r
  have hidx : r.Indexed := Registry.indexed_foldl_add rs Registry.indexed_empty
  have hsel : r.filterByKind kinds =
      (if kinds = [] then r.all else kinds.flatMap fun k => r.all.filter fun s => s.kind = k) := by
    rw [Registry.filterByKind_eq_select hidx, Directive.select_eq]
  -- the summary lists the filtered scenarios; the passed ones are some of them
  have hpassed : (r.filterByKind kinds |>.filter (·.passed)).length ≤ (r.filterByKind kinds).length :=
    List.length_filter_le _ _
  have hperm (hne : kinds ≠ []) (hnd : kinds.Nodup) :
      (r.filterByKind kinds).Perm (r.all.filter fun s => s.kind ∈ kinds) := by
    rw [hsel, if_neg hne]
    exact flatMap_filter_perm r.all Scenario.kind hnd
  refine ⟨hidx, (Registry.all_foldl_add rs {}).trans (List.nil_append _), hsel, hperm,
    rfl, ?_, ?_, fun hne hnd => ?_⟩
  · simp only [Registry.summarize, Directive.summarize, Directive.select_nil]
    omega
  · rw [Registry.summarize, Cli.summarize_failed]
    rfl
  · -- the failed filtered scenarios, each with its line; the passed ones give none
    refine ⟨_, _, ?_, summaryLine_failed (r.filterByKind kinds), ?_⟩
    · have h := (hperm hne hnd).filter fun s => !s.passed
      rw [List.filter_filter] at h
      refine h.trans (List.Perm.of_eq (List.filter_congr fun s _ => ?_))
      cases s.passed <;> simp
    · simp only [Registry.summarize, Directive.summarize, Directive.select_nil]

/-- A kind asked for twice gives its scenarios twice: a registry of one end-of-file scenario,
filtered by that kind twice over, gives two scenarios, and its summary counts two. -/
theorem repeated_kind_counts_twice :
    let r := Registry.add {}
      { scenarios := #[⟨0, "a.nvl", ⟨0, 0, 0⟩, .eof, false, .empty⟩], failed := 1 }
    r.len = 1 ∧ (r.filterByKind [.eof, .eof]).length = 2 ∧
      (r.summarize [.eof, .eof] false).2.1 = 2 := by
  decide

end NovelScript

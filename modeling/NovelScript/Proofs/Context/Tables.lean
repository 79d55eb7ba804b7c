import Mathlib
import NovelScript.Compile.Context
import NovelScript.Proofs.Ident.Dictionary
/-!
# The unit tables of a compilation context

A context keeps four structures over unit indexes: the table of loaded units, the freed indexes
waiting for reuse, the queue of top-level units and the include stack. `Context.Sound` says how
they fit together: the table has at most 4096 entries; the free list holds each empty index of
the table exactly once; a loaded unit sits at its own index; queued indexes and stacked units
are loaded, none twice and none both queued and stacked; the stacked units have distinct paths
and are no more than the include limit; and a closed context holds nothing.

A client makes calls on a context one after another (`Context.runCalls`). Every call keeps the
invariant, and a call that fails leaves the four structures as they were, gives the error of
the cause it met and makes the one report of that cause, if the cause is reported at all
(`Context.Fails`). The run also records the top-level units opened and those activated from
the queue: the activated ones are the first of the opened ones, in order, and the others wait
in the queue.
-/

open Std.Do

set_option mvcgen.warning false

namespace NovelScript

/-! ### Entries of an updated table -/

section Entries

variable {α : Type} (a : Array α) (v : α) (i : Nat)

theorem getElem?_set!_of_lt {k : Nat} (hk : k < a.size) :
    (a.set! k v)[i]? = if i = k then some v else a[i]? := by
  rw [Array.set!_eq_setIfInBounds, Array.getElem?_setIfInBounds]
  by_cases hi : i = k
  · simp [hi, hk]
  · simp [hi, Ne.symm hi]

theorem getElem?_set!_push (w : α) :
    ((a.push w).set! a.size v)[i]? = if i = a.size then some v else a[i]? := by
  rw [getElem?_set!_of_lt _ _ _ (by simp), Array.getElem?_push]
  by_cases hi : i = a.size
  · simp [hi]
  · simp [hi]

end Entries

/-! ### Failures -/

namespace ContextError

/-- The code a failure is reported with, `none` for the failures that are not reported: a
closed context and a refused free. A size error from the reader is reported as a too-large
text. -/
def reportCode : ContextError → Option Code
  | .closed | .unitInUse _ | .notLoaded _ => none
  | .noActiveSource => some Code.resNoActiveSource
  | .read _ (.tooLarge _) => some Code.resSourceTooLarge
  | .read _ _ => some Code.resReadFailed
  | .tooLarge _ _ => some Code.resSourceTooLarge
  | .tooManyUnits _ => some Code.resTooManyUnits
  | .includeDepth _ => some Code.resIncludeDepth
  | .recursiveInclude _ => some Code.resRecursiveInclude
  | .builtins _ => some Code.resOutOfMemory

/-- A read error other than a size error is reported as a failed read. -/
theorem reportCode_read {p : String} {e : ReadError} (h : ∀ se, e = .tooLarge se → False) :
    (ContextError.read p e).reportCode = some Code.resReadFailed := by
  cases e with
  | tooLarge se => exact (h se rfl).elim
  | _ => rfl

/-- The engine `en'` is `en` after the report of the failure `e`: one report with its code, or
none when the failure is not reported. -/
def Reported (e : ContextError) (en en' : Engine) : Prop :=
  match e.reportCode with
  | none => en' = en
  | some code => ∃ r args, en' = en.diagnose r code args

end ContextError

namespace Context

/-- The units on the include stack, bottom first. -/
def stacked (c : Context) : List SourceUnit := c.stack.toList.map (·.unit)

/-- The queued units, first to be activated first. -/
def queued (c : Context) : List SourceUnit := c.queue.toList.filterMap c.unit?

/-- The context `c` does not let the error `e` pass for nothing: its cause holds there. -/
def Explains (c : Context) : ContextError → Prop
  | .closed => c.closed = true
  | .noActiveSource => c.stack = #[]
  | .read p e => c.reader.read p = .error e
  | .tooLarge p e => e.path = p ∧ maxUnitSize < e.size
  | .tooManyUnits _ => c.free = #[] ∧ maxUnits ≤ c.units.size
  | .includeDepth _ => c.maxDepth ≤ c.stack.size
  | .recursiveInclude p => Path.clean p ∈ c.stacked.map (·.path)
  | .unitInUse p => ∃ u : SourceUnit, u ∈ c.stacked ++ c.queued ∧ u.path = p
  | .notLoaded id => c.unit? id = none
  | .builtins _ => True

/-- `c'` has the unit table, the free list, the queue, the closed mark and the options of `c`;
the include stack may differ. -/
structure Keeps (c c' : Context) : Prop where
  units : c'.units = c.units
  free : c'.free = c.free
  queue : c'.queue = c.queue
  closed : c'.closed = c.closed
  opts : c'.opts = c.opts

/-- A call from `c` failed with `e`, leaving `c'`: the unit table, the free list, the queue, the
include stack, the closed mark and the options are as they were, the cause of `e` holds in `c`,
and the engine got the report of `e`. -/
structure Fails (c c' : Context) (e : ContextError) : Prop where
  keeps : c.Keeps c'
  stack : c'.stack = c.stack
  cause : c.Explains e
  engine : e.Reported c.engine c'.engine

/-! ### The invariant -/

/-- How the unit table, the free list, the queue and the include stack fit together. -/
structure Sound (c : Context) : Prop where
  size_le : c.units.size ≤ maxUnits
  free_nodup : c.free.toList.Nodup
  mem_free : ∀ i, i ∈ c.free ↔ c.units[i]? = some none
  id_eq : ∀ i (u : SourceUnit), c.units[i]? = some (some u) → u.id = i
  queue_live : ∀ i ∈ c.queue, ∃ u, c.units[i]? = some (some u)
  stack_live : ∀ u ∈ c.stacked, c.units[u.id]? = some (some u)
  queue_nodup : c.queue.toList.Nodup
  apart : ∀ u ∈ c.stacked, u.id ∉ c.queue
  paths_nodup : (c.stacked.map (·.path)).Nodup
  depth_le : c.stack.size ≤ c.maxDepth
  closed_empty : c.closed = true → c.units = #[] ∧ c.free = #[] ∧ c.queue = #[] ∧ c.stack = #[]

theorem length_stacked (c : Context) : c.stacked.length = c.stack.size := by
  simp [stacked]

theorem unit?_eq_some {c : Context} {i : Nat} {u : SourceUnit} :
    c.unit? i = some u ↔ c.units[i]? = some (some u) := by
  unfold unit?
  cases c.units[i]? <;> simp

namespace Sound

variable {c c' : Context}

/-- A new include stack over the same other structures keeps the invariant when its units are
loaded and not queued, have distinct paths, are no more than the limit, and are none once the
context is closed. -/
theorem restack (h : c.Sound) (hk : c.Keeps c')
    (hlive : ∀ v ∈ c'.stacked, c.units[v.id]? = some (some v) ∧ v.id ∉ c.queue)
    (hp : (c'.stacked.map (·.path)).Nodup) (hd : c'.stack.size ≤ c.maxDepth)
    (hcl : c'.closed = true → c'.stack = #[]) : c'.Sound := by
  have hdepth : c'.maxDepth = c.maxDepth := by simp [maxDepth, hk.opts]
  obtain ⟨hu, hf, hq, hc, -⟩ := hk
  refine ⟨?_, ?_, ?_, ?_, ?_, fun v hv => ?_, ?_, fun v hv => ?_, hp, ?_, fun hc' => ?_⟩
  · rw [hu]; exact h.size_le
  · rw [hf]; exact h.free_nodup
  · rw [hf, hu]; exact h.mem_free
  · rw [hu]; exact h.id_eq
  · rw [hq, hu]; exact h.queue_live
  · rw [hu]; exact (hlive v hv).1
  · rw [hq]; exact h.queue_nodup
  · rw [hq]; exact (hlive v hv).2
  · rw [hdepth]; exact hd
  · obtain ⟨h1, h2, h3, -⟩ := h.closed_empty (hc ▸ hc')
    exact ⟨hu.trans h1, hf.trans h2, hq.trans h3, hcl hc'⟩

/-- Taking units off the include stack, and changing nothing else of the structures, keeps the
invariant. -/
theorem of_keeps (h : c.Sound) (hk : c.Keeps c') (hs : c'.stacked.Sublist c.stacked) : c'.Sound := by
  refine h.restack hk (fun v hv => ⟨h.stack_live v (hs.subset hv), h.apart v (hs.subset hv)⟩)
    (h.paths_nodup.sublist (hs.map _)) ?_ fun hcl => ?_
  · rw [← length_stacked]
    exact le_trans hs.length_le (by rw [length_stacked]; exact h.depth_le)
  · -- a closed context had no stack, so it has none left
    have h0 : c.stacked = [] := by simp [stacked, (h.closed_empty (hk.closed ▸ hcl)).2.2.2]
    rw [h0, List.sublist_nil] at hs
    simpa [stacked] using hs

/-- A free index is an index of the table, below the unit limit. -/
theorem lt_of_mem_free (h : c.Sound) {i : Nat} (hi : i ∈ c.free) :
    i < c.units.size ∧ i < maxUnits := by
  have hlt := (Array.getElem?_eq_some_iff.1 ((h.mem_free i).1 hi)).1
  exact ⟨hlt, lt_of_lt_of_le hlt h.size_le⟩

/-- A queued index is loaded. -/
theorem unit?_queued (h : c.Sound) {i : Nat} (hi : i ∈ c.queue) : ∃ u, c.unit? i = some u := by
  obtain ⟨u, hu⟩ := h.queue_live i hi
  exact ⟨u, unit?_eq_some.2 hu⟩

end Sound

/-- A context that holds no unit, no free index, no queued index and no stack is sound. -/
theorem Sound.of_empty {c : Context} (hu : c.units = #[]) (hf : c.free = #[]) (hq : c.queue = #[])
    (hs : c.stack = #[]) : c.Sound where
  size_le := by simp [hu]
  free_nodup := by simp [hf]
  mem_free i := by simp [hf, hu]
  id_eq i u := by simp [hu]
  queue_live i := by simp [hq]
  stack_live u := by simp [stacked, hs]
  queue_nodup := by simp [hq]
  apart u := by simp [stacked, hs]
  paths_nodup := by simp [stacked, hs]
  depth_le := by simp [hs]
  closed_empty _ := ⟨hu, hf, hq, hs⟩

/-- A fresh context: nothing loaded, queued or stacked. -/
theorem sound_create (opts : ContextOptions) (reader : FileReader) (sinks : List Sink) :
    (Context.create opts reader sinks).Sound :=
  Sound.of_empty rfl rfl rfl rfl

/-! ### Registering a unit -/

/-- `c'` is `c` with the unit `u`, read from `path`, registered at a fresh index: the most
recently freed one, else a new one at the end of the table, below the unit limit. The queue and
the stack stay. -/
structure Registers (c c' : Context) (path : String) (u : SourceUnit) : Prop where
  open_ : c.closed = false
  path_eq : u.path = Path.clean path
  slot : (c.free = c'.free.push u.id ∧ c'.units.size = c.units.size) ∨
    (c.free = #[] ∧ c'.free = #[] ∧ u.id = c.units.size ∧ u.id < maxUnits ∧
      c'.units.size = c.units.size + 1)
  table : ∀ i, c'.units[i]? = if i = u.id then some (some u) else c.units[i]?
  queue : c'.queue = c.queue
  stack : c'.stack = c.stack
  closed : c'.closed = c.closed
  opts : c'.opts = c.opts

/-- A free of the index `id` from `c` to `c'`: the index held a unit that is neither stacked nor
queued; its entry is emptied and the index goes on top of the free list. -/
structure Frees (c c' : Context) (id : Nat) : Prop where
  loaded : ∃ u, c.unit? id = some u
  unqueued : id ∉ c.queue
  unstacked : ∀ v ∈ c.stacked, v.id ≠ id
  units : c'.units = c.units.set! id none
  free : c'.free = c.free.push id
  queue : c'.queue = c.queue
  stack : c'.stack = c.stack
  closed : c'.closed = c.closed
  opts : c'.opts = c.opts

namespace Fails

variable {c : Context} {e : ContextError}

/-- A failure that is not reported changes nothing. -/
theorem quiet (he : c.Explains e) (hc : e.reportCode = none) : c.Fails c e :=
  ⟨⟨rfl, rfl, rfl, rfl, rfl⟩, rfl, he, by simp [ContextError.Reported, hc]⟩

/-- A failure reported once with its code changes nothing but the engine. -/
theorem reported (he : c.Explains e) {code : Code} (hc : e.reportCode = some code) (r : Range)
    (args : Array Arg) : c.Fails { c with engine := c.engine.diagnose r code args } e :=
  ⟨⟨rfl, rfl, rfl, rfl, rfl⟩, rfl, he, by simp only [ContextError.Reported, hc]; exact ⟨r, args, rfl⟩⟩

end Fails

/-- The queued units stay when the queue stays and so do the units at its indexes. -/
theorem queued_congr {c c' : Context} (hq : c'.queue = c.queue)
    (hu : ∀ i ∈ c.queue, c'.unit? i = c.unit? i) : c'.queued = c.queued := by
  unfold queued
  rw [hq]
  exact List.filterMap_congr fun i hi => hu i (Array.mem_def.2 hi)

theorem unit?_eq_of_getElem? {c c' : Context} {i : Nat} (h : c'.units[i]? = c.units[i]?) :
    c'.unit? i = c.unit? i := by
  simp only [unit?, h]

/-- Registering a unit keeps the invariant; the unit is then loaded at its index, which is
neither queued nor stacked, and the queued units stay. -/
theorem Sound.registers {c c' : Context} {path : String} {u : SourceUnit} (h : c.Sound)
    (hr : c.Registers c' path u) :
    c'.Sound ∧ c'.units[u.id]? = some (some u) ∧ c'.queued = c.queued ∧ u.id ∉ c.queue ∧
      ∀ v ∈ c.stacked, v.id ≠ u.id := by
  -- the index was free or past the end of the table: no unit sat there
  have hempty : ∀ v, c.units[u.id]? ≠ some (some v) := by
    intro v
    rcases hr.slot with ⟨hf, -⟩ | ⟨-, -, hid, -, -⟩
    · rw [(h.mem_free u.id).1 (by rw [hf]; exact Array.mem_push_self)]
      simp
    · rw [hid]
      simp
  have hnew : c'.units[u.id]? = some (some u) := by simp [hr.table]
  have hoff : ∀ i, i ≠ u.id → c'.units[i]? = c.units[i]? := fun i hi => by simp [hr.table, hi]
  have hq : u.id ∉ c.queue := fun hm => by
    obtain ⟨v, hv⟩ := h.queue_live _ hm
    exact hempty v hv
  have hst : ∀ v ∈ c.stacked, v.id ≠ u.id := fun v hv he => hempty v (he ▸ h.stack_live v hv)
  have hstk : c'.stacked = c.stacked := by simp [stacked, hr.stack]
  have hdepth : c'.maxDepth = c.maxDepth := by simp [maxDepth, hr.opts]
  -- the free list loses the index it handed out, if any
  have hfree : c'.free.toList.Nodup ∧ ∀ i, i ∈ c'.free ↔ i ∈ c.free ∧ i ≠ u.id := by
    rcases hr.slot with ⟨hf, -⟩ | ⟨hf, hf', -, -, -⟩
    · have hnd := h.free_nodup
      rw [hf, Array.toList_push, List.nodup_append] at hnd
      refine ⟨hnd.1, fun i => ⟨fun hi => ⟨by rw [hf]; exact Array.mem_push_of_mem _ hi, ?_⟩, ?_⟩⟩
      · rintro rfl
        exact hnd.2.2 _ (Array.mem_def.1 hi) _ (List.mem_singleton_self _) rfl
      · rintro ⟨hi, hne⟩
        rw [hf, Array.mem_push] at hi
        exact hi.resolve_right hne
    · simp [hf, hf']
  refine ⟨⟨?_, hfree.1, fun i => ?_, fun i v hv => ?_, fun i hi => ?_, fun v hv => ?_, ?_, ?_, ?_, ?_,
    fun hcl => absurd (hr.closed.trans hr.open_) (by simp [hcl])⟩, hnew,
    queued_congr hr.queue fun i hi => unit?_eq_of_getElem? (hoff i (ne_of_mem_of_not_mem hi hq)), hq, hst⟩
  · rcases hr.slot with ⟨-, hsize⟩ | ⟨-, -, hid, hlt, hsize⟩
    · exact hsize ▸ h.size_le
    · omega
  · by_cases hi : i = u.id
    · subst hi
      simp [hnew, hfree.2]
    · rw [hfree.2, hoff i hi, ← h.mem_free]
      simp [hi]
  · by_cases hi : i = u.id
    · subst hi
      rw [hnew] at hv
      cases hv
      rfl
    · exact h.id_eq i v (hoff i hi ▸ hv)
  · rw [hr.queue] at hi
    rw [hoff i (ne_of_mem_of_not_mem hi hq)]
    exact h.queue_live i hi
  · rw [hstk] at hv
    rw [hoff _ (hst v hv)]
    exact h.stack_live v hv
  · rw [hr.queue]
    exact h.queue_nodup
  · rw [hstk, hr.queue]
    exact h.apart
  · rw [hstk]
    exact h.paths_nodup
  · rw [hr.stack, hdepth]
    exact h.depth_le

theorem Keeps.queued {c c' : Context} (hk : c.Keeps c') : c'.queued = c.queued :=
  queued_congr hk.queue fun _ _ => by simp only [unit?, hk.units]

/-- The include limit is at least one: the default replaces zero. -/
theorem one_le_maxDepth (c : Context) : 1 ≤ c.maxDepth := by
  unfold maxDepth
  split
  · decide
  · omega

/-- The active unit is the top of the stack. -/
theorem active?_eq (c : Context) : c.active? = c.stacked.getLast? := by
  simp [active?, stacked, ← Array.getLast?_toList, List.getLast?_map]

/-- Replacing the tokenizer of the top frame keeps the stacked units. -/
theorem stacked_set_top {c : Context} {f : Frame} (hf : c.stack.back? = some f) (lx : Option Lexer) :
    (c.stack.set! (c.stack.size - 1) { f with lexer := lx }).toList.map (·.unit) = c.stacked := by
  obtain ⟨ys, hys⟩ := Array.back?_eq_some_iff.1 hf
  have hset : c.stack.set! (c.stack.size - 1) { f with lexer := lx } = ys.push { f with lexer := lx } := by
    rw [hys, Array.size_push, Nat.add_sub_cancel]
    apply Array.ext_getElem?
    intro i
    rw [getElem?_set!_push, Array.getElem?_push]
  rw [hset, stacked, hys]
  simp

/-- A loaded unit whose index is on the stack or in the queue is in use: it is itself stacked or
queued. -/
theorem Sound.unitInUse {c : Context} {id : Nat} {u : SourceUnit} (h : c.Sound) (hu : c.unit? id = some u)
    (hin : ((c.stack.any fun x => x.unit.id == id) || c.queue.contains id) = true) :
    c.Explains (.unitInUse u.path) := by
  simp only [Bool.or_eq_true, Array.any_eq_true', Array.contains_iff_mem, beq_iff_eq] at hin
  rcases hin with ⟨f, hf, he⟩ | hq
  · -- the frame with that index holds the loaded unit
    have hfu : f.unit ∈ c.stacked := List.mem_map_of_mem (Array.mem_def.1 hf)
    have hlive := h.stack_live _ hfu
    rw [he, ← unit?_eq_some, hu, Option.some.injEq] at hlive
    exact ⟨f.unit, List.mem_append_left _ hfu, by rw [hlive]⟩
  · exact ⟨u, List.mem_append_right _ (List.mem_filterMap.2 ⟨id, Array.mem_def.1 hq, hu⟩), rfl⟩

/-- A failure keeps the invariant. -/
theorem Sound.of_fails {c c' : Context} {e : ContextError} (h : c.Sound) (hf : c.Fails c' e) : c'.Sound :=
  h.of_keeps hf.keeps (by simp [stacked, hf.stack])

/-- Freeing a loaded unit that is neither stacked nor queued keeps the invariant and the queued
units. -/
theorem Sound.frees {c c' : Context} {id : Nat} (h : c.Sound) (hf : c.Frees c' id) :
    c'.Sound ∧ c'.queued = c.queued := by
  obtain ⟨u, hu⟩ := hf.loaded
  have hlive := unit?_eq_some.1 hu
  have hlt : id < c.units.size := (Array.getElem?_eq_some_iff.1 hlive).1
  have hnew : c'.units[id]? = some none := by rw [hf.units, getElem?_set!_of_lt _ _ _ hlt, if_pos rfl]
  have hoff : ∀ i, i ≠ id → c'.units[i]? = c.units[i]? := fun i hi => by
    rw [hf.units, getElem?_set!_of_lt _ _ _ hlt, if_neg hi]
  have hstk : c'.stacked = c.stacked := by simp [stacked, hf.stack]
  have hdepth : c'.maxDepth = c.maxDepth := by simp [maxDepth, hf.opts]
  -- a closed context has no units, so this one is open; a loaded index is not free
  have hcl : c.closed = false := by
    cases hc : c.closed
    · rfl
    · simp [(h.closed_empty hc).1] at hlive
  have hnf : id ∉ c.free := fun hm => by simp [(h.mem_free id).1 hm] at hlive
  refine ⟨⟨?_, ?_, fun i => ?_, fun i v hv => ?_, fun i hi => ?_, fun v hv => ?_, ?_, ?_, ?_, ?_,
    fun hc => ?_⟩, queued_congr hf.queue fun i hi => unit?_eq_of_getElem? (hoff i (ne_of_mem_of_not_mem hi hf.unqueued))⟩
  · rw [hf.units, Array.size_set!]
    exact h.size_le
  · rw [hf.free, Array.toList_push, List.nodup_append]
    exact ⟨h.free_nodup, List.nodup_singleton _, fun a ha b hb => by
      rw [List.mem_singleton] at hb
      exact hb ▸ fun he => hnf (he ▸ Array.mem_def.2 ha)⟩
  · rw [hf.free, Array.mem_push]
    by_cases hi : i = id
    · subst hi
      simp [hnew]
    · rw [hoff i hi, ← h.mem_free]
      simp [hi]
  · by_cases hi : i = id
    · subst hi
      rw [hnew] at hv
      cases hv
    · exact h.id_eq i v (hoff i hi ▸ hv)
  · rw [hf.queue] at hi
    rw [hoff i (ne_of_mem_of_not_mem hi hf.unqueued)]
    exact h.queue_live i hi
  · rw [hstk] at hv
    rw [hoff _ (hf.unstacked v hv)]
    exact h.stack_live v hv
  · rw [hf.queue]
    exact h.queue_nodup
  · rw [hstk, hf.queue]
    exact h.apart
  · rw [hstk]
    exact h.paths_nodup
  · rw [hf.stack, hdepth]
    exact h.depth_le
  · rw [hf.closed, hcl] at hc
    cases hc

end Context

theorem SourceUnit.create_eq_ok_iff {id : Nat} {path : String} {content : ByteArray}
    {flags : UnitFlags} {u : SourceUnit} :
    SourceUnit.create id path content flags = .ok u ↔ id < maxUnits ∧ content.size ≤ maxUnitSize ∧
      u = ⟨id, Path.clean path, content, newlineOffsets content 0 #[], flags⟩ := by
  unfold SourceUnit.create
  by_cases hi : id ≥ maxUnits
  · simp only [hi, if_true, reduceCtorEq, false_iff]
    rintro ⟨h, -⟩
    omega
  · by_cases hs : content.size > maxUnitSize
    · simp only [hi, hs, if_true, if_false, reduceCtorEq, false_iff]
      rintro ⟨-, h, -⟩
      omega
    · have h1 : id < maxUnits := by omega
      have h2 : content.size ≤ maxUnitSize := by omega
      simp only [hi, hs, if_false, Except.ok.injEq, h1, h2, true_and]
      exact eq_comm

/-- A unit is built whenever its index and its text are within bounds. -/
theorem SourceUnit.create_ok {id : Nat} {path : String} {content : ByteArray} {flags : UnitFlags}
    (hi : id < maxUnits) (hs : content.size ≤ maxUnitSize) :
    SourceUnit.create id path content flags = .ok ⟨id, Path.clean path, content, newlineOffsets content 0 #[], flags⟩ :=
  SourceUnit.create_eq_ok_iff.2 ⟨hi, hs, rfl⟩

namespace ContextM

variable {α β : Type}

/-! ### Running context steps -/

/-- What a step may end in: a result with `P` of it and the context after, or an error with `Q`
of it and the context after. -/
def Outcome (P : α → Context → Prop) (Q : ContextError → Context → Prop) :
    Except ContextError α × Context → Prop
  | (.ok a, c') => P a c'
  | (.error e, c') => Q e c'

theorem outcome_of_triple {x : ContextM α} {c : Context} {P : α → Context → Prop}
    {Q : ContextError → Context → Prop}
    (h : ⦃fun s => ⌜c = s⌝⦄ x ⦃post⟨fun a s => ⌜P a s⌝, fun e s => ⌜Q e s⌝⟩⦄) :
    Outcome P Q (x.run.run c) := by
  have hwp := h c rfl
  rcases hx : x.run.run c with ⟨_ | a, c'⟩
  all_goals simp_all [wp, Outcome]
  all_goals exact hwp

theorem run_bind (x : ContextM α) (f : α → ContextM β) (c : Context) :
    (x >>= f).run.run c = match x.run.run c with
      | (.ok a, c') => (f a).run.run c'
      | (.error e, c') => (.error e, c') := by
  rcases hx : x.run.run c with ⟨_ | a, c'⟩
  all_goals simp only [ExceptT.run_bind, StateT.run_bind, hx]
  all_goals rfl

theorem run_get_bind (k : Context → ContextM β) (c : Context) : (get >>= k).run.run c = (k c).run.run c :=
  rfl

theorem run_lift_bind (m : StateM Context α) (k : α → ContextM β) (c : Context) :
    (liftM m >>= k : ContextM β).run.run c = (k (m.run c).1).run.run (m.run c).2 :=
  rfl

theorem openSource_run (p : String) (c : Context) :
    (openSource p).run.run c = match (load p).run.run c with
      | (.ok u, c') => (.ok u, ((enqueue u).run c').2)
      | (.error e, c') => (.error e, c') := by
  rw [openSource, run_bind]
  rcases (load p).run.run c with ⟨_ | u, c'⟩
  · rfl
  · rfl

theorem loadBytes_spec (c : Context) (hc : c.Sound) (path : String) (raw : ByteArray) (flags : UnitFlags) :
    ⦃fun s => ⌜c = s⌝⦄ loadBytes path raw flags
    ⦃post⟨fun u s => ⌜c.Registers s path u⌝, fun e s => ⌜c.Fails s e⌝⟩⦄ := by
  mvcgen -trivial [loadBytes, allocId, tooLarge, diagnose]
  all_goals subst ‹c = _›
  case vc1 => exact Context.Fails.quiet ‹_› rfl
  case vc2 | vc3 =>
    refine Context.Fails.reported ?_ rfl _ _
    exact ⟨rfl, ‹_›⟩
  case vc4 =>
    obtain ⟨-, -, rfl⟩ := SourceUnit.create_eq_ok_iff.1 ‹SourceUnit.create _ _ _ _ = .ok _›
    have hlt := (hc.lt_of_mem_free (Array.mem_of_back? ‹c.free.back? = some _›)).1
    obtain ⟨ys, hys⟩ := Array.back?_eq_some_iff.1 ‹c.free.back? = some _›
    refine ⟨by simpa using ‹¬c.closed = true›, rfl, .inl ⟨?_, by simp +zetaDelta [Context.note]⟩,
      fun i => ?_, rfl, rfl, rfl, rfl⟩
    · show c.free = c.free.pop.push _
      rw [hys, Array.pop_push]
    · exact getElem?_set!_of_lt _ _ i hlt
  -- the index is below the unit limit and the text within bounds: the unit is always built
  case vc5 =>
    have hcr := ‹SourceUnit.create _ _ _ _ = .error _›
    rw [SourceUnit.create_ok (hc.lt_of_mem_free (Array.mem_of_back? ‹c.free.back? = some _›)).2
      (not_lt.1 ‹¬(normalize _ _).1.size > _›)] at hcr
    cases hcr
  case vc8 =>
    have hcr := ‹SourceUnit.create _ _ _ _ = .error _›
    rw [SourceUnit.create_ok (not_le.1 ‹¬c.units.size ≥ maxUnits›) (not_lt.1 ‹¬(normalize _ _).1.size > _›)]
      at hcr
    cases hcr
  case vc6 =>
    refine Context.Fails.reported ?_ rfl _ _
    exact ⟨Array.back?_eq_none_iff.1 ‹_›, ‹_›⟩
  case vc7 =>
    obtain ⟨hid, -, rfl⟩ := SourceUnit.create_eq_ok_iff.1 ‹SourceUnit.create _ _ _ _ = .ok _›
    have hfree := Array.back?_eq_none_iff.1 ‹c.free.back? = none›
    refine ⟨by simpa using ‹¬c.closed = true›, rfl,
      .inr ⟨hfree, hfree, rfl, hid, by simp +zetaDelta [Context.note]⟩, fun i => ?_, rfl, rfl, rfl, rfl⟩
    exact getElem?_set!_push _ _ i none

theorem load_spec (c : Context) (hc : c.Sound) (path : String) :
    ⦃fun s => ⌜c = s⌝⦄ load path
    ⦃post⟨fun u s => ⌜c.Registers s path u⌝, fun e s => ⌜c.Fails s e⌝⟩⦄ := by
  -- each spec lemma goes to mvcgen as a hypothesis, so that this proof does not wait for the
  -- lemma's own proof to be checked
  have hloadBytes := @loadBytes_spec
  mvcgen [load, tooLarge, diagnose, hloadBytes]
  all_goals subst ‹c = _›
  case vc1 => exact Context.Fails.quiet ‹_› rfl
  case vc4 => exact Context.Fails.reported ‹_› rfl _ _
  case vc5 => exact Context.Fails.reported ‹_› (ContextError.reportCode_read ‹_›) _ _

/-- `nextSource` on a sound context: with an empty queue it drops the stack and answers
`false`; otherwise it takes the first queued index, whose unit becomes the whole stack. -/
theorem nextSource_cases {c : Context} (h : c.Sound) :
    (c.queue = #[] ∧ nextSource.run c = (false, { c with stack := #[] })) ∨
    (c.closed = false ∧ ∃ i is u, c.queue.toList = i :: is ∧ c.unit? i = some u ∧
      (nextSource.run c).1 = true ∧ (nextSource.run c).2.queue.toList = is ∧
      (nextSource.run c).2.stacked = [u] ∧ (nextSource.run c).2.units = c.units ∧
      (nextSource.run c).2.free = c.free ∧ (nextSource.run c).2.closed = false ∧
      (nextSource.run c).2.opts = c.opts) := by
  rcases hq : c.queue.toList with _ | ⟨i, is⟩
  · have hq' : c.queue = #[] := Array.toList_eq_nil_iff.1 hq
    left
    refine ⟨hq', ?_⟩
    simp [nextSource, hq']
    rfl
  · -- a closed context queues nothing, and a queued index is loaded
    have hcl : c.closed = false := by
      cases hc : c.closed
      · rfl
      · simp [(h.closed_empty hc).2.2.1] at hq
    have hi : i ∈ c.queue := by simp [Array.mem_def, hq]
    obtain ⟨u, hu⟩ := h.unit?_queued hi
    have h0 : c.queue[0]? = some i := by simp [← Array.getElem?_toList, hq]
    have hne : c.queue ≠ #[] := fun he => by simp [he] at hq
    right
    refine ⟨hcl, i, is, u, rfl, hu, ?_⟩
    simp only [nextSource, StateT.run_bind, StateT.run_get, pure_bind, hcl, Bool.false_or,
      Array.isEmpty_iff, hne, if_false, h0, Option.bind_some, hu]
    refine ⟨rfl, ?_, rfl, rfl, rfl, rfl, rfl⟩
    have hlen : c.queue.size = is.length + 1 := by simpa using congrArg List.length hq
    show (c.queue.extract 1 c.queue.size).toList = is
    rw [Array.toList_extract, hq]
    simp
    omega

/-- `nextSource` keeps the invariant. -/
theorem sound_nextSource {c : Context} (h : c.Sound) : (nextSource.run c).2.Sound := by
  rcases nextSource_cases h with ⟨-, hrun⟩ | ⟨-, i, is, u, hq, hu, -, hq', hst, hun, hfr, hcl', hop⟩
  · rw [hrun]
    exact h.of_keeps ⟨rfl, rfl, rfl, rfl, rfl⟩ (by simp [Context.stacked])
  · -- the first queued unit becomes the whole stack and leaves the queue
    have hlive := Context.unit?_eq_some.1 hu
    have hid := h.id_eq i u hlive
    have hnd := h.queue_nodup
    rw [hq, List.nodup_cons] at hnd
    have hmem : ∀ j, j ∈ (nextSource.run c).2.queue → j ∈ c.queue := fun j hj => by
      rw [Array.mem_def, hq']  at hj
      rw [Array.mem_def, hq]
      exact List.mem_cons_of_mem i hj
    have hdepth : (nextSource.run c).2.maxDepth = c.maxDepth := by simp [Context.maxDepth, hop]
    refine ⟨?_, ?_, ?_, ?_, fun j hj => ?_, fun v hv => ?_, ?_, fun v hv => ?_, ?_, ?_, fun hc => ?_⟩
    · rw [hun]; exact h.size_le
    · rw [hfr]; exact h.free_nodup
    · rw [hfr, hun]; exact h.mem_free
    · rw [hun]; exact h.id_eq
    · rw [hun]; exact h.queue_live j (hmem j hj)
    · rw [hst, List.mem_singleton] at hv
      rw [hv, hun, hid]
      exact hlive
    · rw [hq']; exact hnd.2
    · rw [hst, List.mem_singleton] at hv
      rw [hv, hid, Array.mem_def, hq']
      exact hnd.1
    · simp [hst]
    · rw [hdepth, ← Context.length_stacked, hst]
      exact Context.one_le_maxDepth c
    · rw [hcl'] at hc
      cases hc

/-- What `nextSource` does with the queue: it answers `true` exactly when something is queued,
and then the unit it makes active is the first queued unit, which leaves the queue. -/
theorem nextSource_queued {c : Context} (h : c.Sound) :
    ((nextSource.run c).1 = true ↔ c.queue ≠ #[]) ∧
    c.queued = (if (nextSource.run c).1 then (nextSource.run c).2.active?.toList else []) ++
      (nextSource.run c).2.queued ∧
    (nextSource.run c).2.closed = c.closed := by
  rcases nextSource_cases h with ⟨hq, hrun⟩ | ⟨hcl, i, is, u, hq, hu, hb, hq', hst, hun, -, hcl', -⟩
  · rw [hrun]
    simp [hq, Context.queued]
  · have hne : c.queue ≠ #[] := fun he => by simp [he] at hq
    refine ⟨by simp [hb, hne], ?_, hcl'.trans hcl.symm⟩
    rw [hb, if_pos rfl, Context.active?_eq, hst]
    simp only [Context.queued, hq, hq', List.filterMap_cons, hu, List.getLast?_singleton,
      Option.toList_some, List.singleton_append, List.cons.injEq, true_and]
    exact List.filterMap_congr fun j _ => by simp only [Context.unit?, hun]

/-- `enqueue` appends the index to the queue and, when nothing is active, activates the first
queued unit. -/
theorem enqueue_cases (u : SourceUnit) (c : Context) :
    ∃ c₁ : Context, c₁.units = c.units ∧ c₁.free = c.free ∧ c₁.queue = c.queue.push u.id ∧
      c₁.stack = c.stack ∧ c₁.closed = c.closed ∧ c₁.opts = c.opts ∧
      ((enqueue u).run c).2 = if c.stack.isEmpty then (nextSource.run c₁).2 else c₁ := by
  refine ⟨({ c with queue := c.queue.push u.id }).note "queued source"
    (Context.unitAttrs u.id u.path ++ [("queued", Log.Value.nat (c.queue.push u.id).size)]),
    rfl, rfl, rfl, rfl, rfl, rfl, ?_⟩
  unfold enqueue
  by_cases hs : c.stack = #[]
  · simp [hs, Context.note]
    rfl
  · simp [hs, Context.note]
    rfl

/-- Queueing a loaded unit that is neither queued nor stacked keeps the invariant; the unit goes to
the end of the queue, from which the first unit is activated when nothing was active. -/
theorem sound_enqueue {c : Context} {u : SourceUnit} (h : c.Sound)
    (hu : c.units[u.id]? = some (some u)) (hq : u.id ∉ c.queue) (hs : ∀ v ∈ c.stacked, v.id ≠ u.id)
    (hcl : c.closed = false) :
    ((enqueue u).run c).2.Sound ∧ ((enqueue u).run c).2.closed = false ∧
      c.queued ++ [u] = (if c.stack.isEmpty then ((enqueue u).run c).2.active?.toList else []) ++
        ((enqueue u).run c).2.queued := by
  obtain ⟨c₁, hun, hfr, hq₁, hst, hcl₁, hop, hrun⟩ := enqueue_cases u c
  have hstk : c₁.stacked = c.stacked := by simp [Context.stacked, hst]
  have hdepth : c₁.maxDepth = c.maxDepth := by simp [Context.maxDepth, hop]
  -- the unit joins the end of the queue
  have hs₁ : c₁.Sound := by
    refine ⟨?_, ?_, ?_, ?_, fun j hj => ?_, fun v hv => ?_, ?_, fun v hv => ?_, ?_, ?_, fun hc => ?_⟩
    · rw [hun]; exact h.size_le
    · rw [hfr]; exact h.free_nodup
    · rw [hfr, hun]; exact h.mem_free
    · rw [hun]; exact h.id_eq
    · rw [hq₁, Array.mem_push] at hj
      rw [hun]
      rcases hj with hj | rfl
      · exact h.queue_live j hj
      · exact ⟨u, hu⟩
    · rw [hstk] at hv
      rw [hun]; exact h.stack_live v hv
    · rw [hq₁, Array.toList_push, List.nodup_append]
      exact ⟨h.queue_nodup, List.nodup_singleton _, fun a ha b hb => by
        rw [List.mem_singleton] at hb
        exact hb ▸ fun he => hq (he ▸ Array.mem_def.2 ha)⟩
    · rw [hstk] at hv
      rw [hq₁, Array.mem_push, not_or]
      exact ⟨h.apart v hv, hs v hv⟩
    · rw [hstk]; exact h.paths_nodup
    · rw [hst, hdepth]; exact h.depth_le
    · rw [hcl₁, hcl] at hc
      cases hc
  have hqd : c₁.queued = c.queued ++ [u] := by
    simp only [Context.queued, hq₁, Array.toList_push, List.filterMap_append, List.filterMap_cons,
      List.filterMap_nil]
    have hu₁ : c₁.unit? u.id = some u := by simp [Context.unit?, hun, hu]
    rw [hu₁]
    congr 1
    exact List.filterMap_congr fun j _ => by simp only [Context.unit?, hun]
  rw [hrun]
  by_cases he : c.stack.isEmpty
  · -- nothing active: the first queued unit is activated
    obtain ⟨hb, hqn, hcn⟩ := nextSource_queued hs₁
    have hne : c₁.queue ≠ #[] := by simp [hq₁]
    rw [if_pos he, if_pos he]
    refine ⟨sound_nextSource hs₁, hcn.trans (hcl₁.trans hcl), ?_⟩
    rw [← hqd, hqn, if_pos (hb.2 hne)]
  · simp only [he, if_false, Bool.false_eq_true, List.nil_append]
    exact ⟨hs₁, hcl₁.trans hcl, hqd.symm⟩

/-- `push` puts the unit on top of the stack and keeps the rest. -/
theorem push_keeps (u : SourceUnit) (c : Context) :
    c.Keeps ((push u).run c).2 ∧ ((push u).run c).2.stacked = c.stacked ++ [u] :=
  ⟨⟨rfl, rfl, rfl, rfl, rfl⟩, show (c.stack.push { unit := u }).toList.map _ = _ by simp [Context.stacked]⟩

/-- Pushing a loaded unit that is not queued, whose path no stacked unit has, onto a stack below
the limit keeps the invariant. -/
theorem sound_push {c : Context} {u : SourceUnit} (h : c.Sound) (hu : c.units[u.id]? = some (some u))
    (hq : u.id ∉ c.queue) (hp : u.path ∉ c.stacked.map (·.path)) (hd : c.stack.size < c.maxDepth)
    (hcl : c.closed = false) : ((push u).run c).2.Sound := by
  obtain ⟨hk, hst⟩ := push_keeps u c
  refine h.restack hk (fun v hv => ?_) ?_ ?_ fun hc => ?_
  · rw [hst, List.mem_append, List.mem_singleton] at hv
    rcases hv with hv | rfl
    · exact ⟨h.stack_live v hv, h.apart v hv⟩
    · exact ⟨hu, hq⟩
  · rw [hst, List.map_append, List.nodup_append]
    refine ⟨h.paths_nodup, List.nodup_singleton _, fun a ha b hb => ?_⟩
    rw [List.map_singleton, List.mem_singleton] at hb
    intro he
    rw [he, hb] at ha
    exact hp ha
  · rw [← Context.length_stacked, hst, List.length_append, Context.length_stacked]
    simp only [List.length_singleton]
    omega
  · rw [hk.closed, hcl] at hc
    cases hc

/-- A stacked unit with the path `q` exists exactly when `q` is among the stacked paths. -/
theorem any_path_iff (c : Context) (q : String) :
    c.stack.any (·.unit.path == q) = true ↔ q ∈ c.stacked.map (·.path) := by
  rw [Array.any_eq_true']
  simp [Context.stacked]

theorem checkInclude_spec (c : Context) (path : String) :
    ⦃fun s => ⌜c = s⌝⦄ checkInclude path
    ⦃post⟨fun _ s => ⌜s = c ∧ c.closed = false ∧ c.stack.size < c.maxDepth ∧
        Path.clean path ∉ c.stacked.map (·.path)⌝, fun e s => ⌜c.Fails s e⌝⟩⦄ := by
  mvcgen -trivial [checkInclude, diagnose]
  all_goals subst ‹c = _›
  case vc1 => exact Context.Fails.quiet ‹_› rfl
  case vc2 =>
    refine Context.Fails.reported ?_ rfl _ _
    exact ‹c.stack.size ≥ c.maxDepth›
  case vc3 => exact Context.Fails.reported ((any_path_iff c _).1 ‹_›) rfl _ _
  case vc4 =>
    refine ⟨rfl, by simpa using ‹¬c.closed = true›, not_le.1 ‹¬c.stack.size ≥ c.maxDepth›, fun hp => ?_⟩
    exact ‹¬(c.stack.any fun x => x.unit.path == _) = true› ((any_path_iff c _).2 hp)

theorem popSource_spec (c : Context) :
    ⦃fun s => ⌜c = s⌝⦄ popSource
    ⦃post⟨fun _ s => ⌜c.Keeps s ∧ s.stacked = c.stacked.dropLast⌝, fun e s => ⌜c.Fails s e⌝⟩⦄ := by
  mvcgen -trivial [popSource, diagnose]
  all_goals subst ‹c = _›
  case vc1 =>
    refine Context.Fails.reported ?_ rfl _ _
    exact Array.back?_eq_none_iff.1 ‹_›
  case vc2 =>
    refine ⟨⟨rfl, rfl, rfl, rfl, rfl⟩, ?_⟩
    show (c.stack.pop.toList.map _) = _
    simp [Context.stacked, Array.toList_pop, List.map_dropLast]

theorem freeSource_spec (c : Context) (hc : c.Sound) (id : Nat) :
    ⦃fun s => ⌜c = s⌝⦄ freeSource id
    ⦃post⟨fun _ s => ⌜c.Frees s id⌝, fun e s => ⌜c.Fails s e⌝⟩⦄ := by
  mvcgen -trivial [freeSource]
  all_goals subst ‹c = _›
  case vc1 => exact Context.Fails.quiet ‹_› rfl
  case vc2 => exact Context.Fails.quiet (hc.unitInUse ‹_› ‹_›) rfl
  case vc3 =>
    have hin := ‹¬((c.stack.any fun x => x.unit.id == id) || c.queue.contains id) = true›
    simp only [Bool.or_eq_true, not_or, Array.any_eq_true', Array.contains_iff_mem] at hin
    refine ⟨⟨_, ‹_›⟩, hin.2, fun v hv he => ?_, rfl, rfl, rfl, rfl, rfl, rfl⟩
    obtain ⟨f, hf, rfl⟩ := List.mem_map.1 hv
    exact hin.1 ⟨f, Array.mem_def.2 hf, by simp [he]⟩

theorem withLexer_spec (c : Context) (step : StateM Lexer α) :
    ⦃fun s => ⌜c = s⌝⦄ withLexer step
    ⦃post⟨fun _ s => ⌜c.Keeps s ∧ s.stacked = c.stacked⌝, fun _ s => ⌜s = c⌝⟩⦄ := by
  mvcgen -trivial [withLexer]
  all_goals subst ‹c = _›
  case vc1 => rfl
  case vc2 => exact ⟨⟨rfl, rfl, rfl, rfl, rfl⟩, Context.stacked_set_top ‹_› _⟩

theorem init_spec (c : Context) :
    ⦃fun s => ⌜c = s⌝⦄ init
    ⦃post⟨fun _ s => ⌜c.Keeps s ∧ s.stack = c.stack⌝, fun _ s => ⌜c.Keeps s ∧ s.stack = c.stack⌝⟩⦄ := by
  mvcgen -trivial [init, diagnose]
  all_goals subst ‹c = _›
  all_goals exact ⟨⟨rfl, rfl, rfl, rfl, rfl⟩, rfl⟩

/-- The first `init` of a context whose dictionary has room for the built-in types registers
them and succeeds. -/
theorem init_run_of_room (c : Context) (hi : c.inited = false)
    (hroom : c.dict.size + builtinTypes.length ≤ c.dict.max) :
    init.run.run c = (.ok (), ({ c with dict := c.dict.registerBuiltins.1, inited := true }).note
      "registered built-in types" [("count", .nat builtinTypes.length)]) := by
  have h := Dict.registerBuiltins_room hroom
  rw [init, run_get_bind]
  simp only [hi, Bool.false_eq_true, if_false]
  simp only [Dict.registerBuiltins] at h ⊢
  simp only [h]
  rfl

/-- Closing empties the four structures and marks the context closed; a closed context stays as
it is. -/
theorem sound_close {c : Context} (h : c.Sound) : (close.run c).2.Sound ∧ (close.run c).2.closed = true := by
  by_cases hc : c.closed = true
  · have hrun : (close.run c).2 = c := by simp [close, hc]; rfl
    rw [hrun]
    exact ⟨h, hc⟩
  · have hrun : (close.run c).2 = { c.note "closing context" [("units", .nat c.loaded.length)] with
        stack := #[], queue := #[], units := #[], free := #[], closed := true } := by
      simp [close, hc]
      rfl
    rw [hrun]
    exact ⟨Context.Sound.of_empty rfl rfl rfl rfl, rfl⟩

theorem Outcome.mono {r : Except ContextError α × Context} {P P' : α → Context → Prop}
    {Q Q' : ContextError → Context → Prop} (h : Outcome P Q r) (hp : ∀ a c', P a c' → P' a c')
    (hq : ∀ e c', Q e c' → Q' e c') : Outcome P' Q' r := by
  rcases r with ⟨_ | a, c'⟩
  · exact hq _ _ h
  · exact hp _ _ h

theorem outcome_map {f : α → β} {x : ContextM α} {c : Context} {P : β → Context → Prop}
    {Q : ContextError → Context → Prop} (h : Outcome (fun a => P (f a)) Q (x.run.run c)) :
    Outcome P Q ((f <$> x).run.run c) := by
  rcases hx : x.run.run c with ⟨_ | a, c'⟩
  all_goals
    rw [hx] at h
    simp only [ExceptT.run_map, StateT.run_map, hx]
    exact h

/-- A unit registered and then queued: the context was open and stays open, the invariant holds,
and the unit joins the end of the queued units, whose first one is activated when nothing was
active. -/
theorem outcome_enqueue {x : ContextM SourceUnit} {c : Context} {path : String} (h : c.Sound)
    (hx : Outcome (fun u c' => c.Registers c' path u) (fun e c' => c.Fails c' e) (x.run.run c)) :
    Outcome (fun u c' => c.closed = false ∧ c'.Sound ∧ c'.closed = false ∧
        c.queued ++ [u] = (if c.stack.isEmpty then c'.active?.toList else []) ++ c'.queued)
      (fun e c' => c.Fails c' e) ((do let u ← x; enqueue u; return u : ContextM SourceUnit).run.run c) := by
  rw [run_bind]
  rcases hr : x.run.run c with ⟨_ | u, c₁⟩
  · rw [hr] at hx
    exact hx
  · rw [hr] at hx
    obtain ⟨hs₁, hlive, hq₁, hq, hst⟩ := h.registers hx
    have hstk : ∀ v ∈ c₁.stacked, v.id ≠ u.id := by
      simpa [Context.stacked, hx.stack] using hst
    obtain ⟨hs', hcl', heq⟩ := sound_enqueue hs₁ hlive (by rw [hx.queue]; exact hq) hstk
      (hx.closed.trans hx.open_)
    show Outcome _ _ (.ok u, ((enqueue u).run c₁).2)
    refine ⟨hx.open_, hs', hcl', ?_⟩
    rw [← hq₁, heq, hx.stack]

/-- A unit checked as an include, registered and pushed: the invariant holds, and the closed mark
and the queued units stay. -/
theorem outcome_push {x : ContextM SourceUnit} {c : Context} {path : String} (h : c.Sound)
    (hx : Outcome (fun u c' => c.Registers c' path u) (fun e c' => c.Fails c' e) (x.run.run c)) :
    Outcome (fun _ c' => c'.Sound ∧ c'.closed = c.closed ∧ c'.queued = c.queued) (fun e c' => c.Fails c' e)
      ((do checkInclude path; let u ← x; push u; return u : ContextM SourceUnit).run.run c) := by
  rw [run_bind]
  have hchk := outcome_of_triple (checkInclude_spec c path)
  rcases hr : (checkInclude path).run.run c with ⟨_ | _, c₁⟩
  · rw [hr] at hchk
    exact hchk
  · rw [hr] at hchk
    obtain ⟨rfl, hcl, hd, hp⟩ := hchk
    dsimp only
    rw [run_bind]
    rcases hr' : x.run.run c₁ with ⟨_ | u, c₂⟩
    · rw [hr'] at hx
      exact hx
    · rw [hr'] at hx
      obtain ⟨hs₂, hlive, hq₂, hq, -⟩ := h.registers hx
      have hdepth : c₂.maxDepth = c₁.maxDepth := by simp [Context.maxDepth, hx.opts]
      -- the unit's path is the checked one, which no stacked unit has
      have hpath : u.path ∉ c₂.stacked.map (·.path) := by
        rw [hx.path_eq]
        simpa [Context.stacked, hx.stack] using hp
      obtain ⟨hk, -⟩ := push_keeps u c₂
      show Outcome _ _ (.ok u, ((push u).run c₂).2)
      refine ⟨sound_push hs₂ hlive (by rw [hx.queue]; exact hq) hpath (by rw [hx.stack, hdepth]; exact hd)
        (hx.closed.trans hcl), hk.closed.trans hx.closed, hk.queued.trans hq₂⟩

end ContextM

namespace Context

open ContextM

/-! ### Calls of the interface -/

/-- A call a client makes on a context. A lexing step stands for a use of the active unit's
tokenizer. -/
inductive Call where
  | openSource (path : String)
  | openSourceBytes (name : String) (content : ByteArray)
  | pushSource (path : String)
  | pushSourceBytes (name : String) (content : ByteArray)
  | popSource
  | nextSource
  | freeSource (id : Nat)
  | lex (step : StateM Lexer Unit)
  | init
  | close

/-- What a call that did not fail answers. -/
inductive Reply where
  /-- The unit opened or included. -/
  | unit (u : SourceUnit)
  /-- The unit active after a pop. -/
  | active (u : Option SourceUnit)
  /-- Whether a queued unit was activated. -/
  | more (b : Bool)
  | done

/-- Makes one call. -/
def Call.run : Call → ContextM Reply
  | .openSource p => .unit <$> ContextM.openSource p
  | .openSourceBytes n b => .unit <$> ContextM.openSourceBytes n b
  | .pushSource p => .unit <$> ContextM.pushSource p
  | .pushSourceBytes n b => .unit <$> ContextM.pushSourceBytes n b
  | .popSource => .active <$> ContextM.popSource
  | .nextSource => do return .more (← ContextM.nextSource)
  | .freeSource id => (fun _ => .done) <$> ContextM.freeSource id
  | .lex step => (fun _ => .done) <$> ContextM.withLexer step
  | .init => (fun _ => .done) <$> ContextM.init
  | .close => do ContextM.close; return .done

/-- The calls on units that can fail: opening, including, leaving and freeing. -/
def Call.managesUnits : Call → Bool
  | .openSource _ | .openSourceBytes _ _ | .pushSource _ | .pushSourceBytes _ _ | .popSource
  | .freeSource _ => true
  | _ => false

/-- The top-level unit a call opened. -/
def Call.opened : Call → Except ContextError Reply → List SourceUnit
  | .openSource _, .ok (.unit u) | .openSourceBytes _ _, .ok (.unit u) => [u]
  | _, _ => []

/-- The unit a call from `c` to `c'` activated from the queue: an opened unit is queued and the
first queued unit activated when nothing was active, and `nextSource` activates one when it
answers `true`. -/
def Call.activated : Call → Context → Except ContextError Reply → Context → List SourceUnit
  | .openSource _, c, .ok _, c' | .openSourceBytes _ _, c, .ok _, c' =>
    if c.stack.isEmpty then c'.active?.toList else []
  | .nextSource, _, .ok (.more true), c' => c'.active?.toList
  | _, _, _, _ => []

theorem Call.opened_error (call : Call) (e : ContextError) : call.opened (.error e) = [] := by
  cases call <;> rfl

theorem Call.activated_error (call : Call) (c c' : Context) (e : ContextError) :
    call.activated c (.error e) c' = [] := by
  cases call <;> rfl

/-- The top-level units a run opened and those it activated, each in order. -/
structure Activity where
  opened : List SourceUnit := []
  activated : List SourceUnit := []

/-- The activity after one more call from `c` that answered `r` and left `c'`. -/
def Activity.record (h : Activity) (call : Call) (c : Context) (r : Except ContextError Reply)
    (c' : Context) : Activity :=
  ⟨h.opened ++ call.opened r, h.activated ++ call.activated c r c'⟩

/-- Makes the calls in order, recording what they opened and activated. -/
def runCalls : List Call → Activity → Context → Activity × Context
  | [], h, c => (h, c)
  | call :: calls, h, c =>
    let r := call.run.run.run c
    runCalls calls (h.record call c r.1 r.2) r.2

/-! ### One call -/

/-- A call from `c` that answered `r` and left `c'` kept the invariant, left a closed context
closed, opened and activated nothing if it left the context closed, and otherwise moved the
queue: the units queued before and the unit it opened are the units it activated and then the
units queued after. -/
structure Steps (call : Call) (c : Context) (r : Except ContextError Reply) (c' : Context) : Prop where
  sound : c'.Sound
  stays_closed : c.closed = true → c'.closed = true
  quiet_closed : c'.closed = true → call.opened r = [] ∧ call.activated c r c' = []
  queue : c'.closed = false → c.queued ++ call.opened r = call.activated c r c' ++ c'.queued

namespace Steps

variable {call : Call} {c c' : Context} {r : Except ContextError Reply}

/-- A call that opened and activated nothing and kept the closed mark and the queued units. -/
theorem of_quiet (ho : call.opened r = []) (ha : call.activated c r c' = []) (hs : c'.Sound)
    (hcl : c'.closed = c.closed) (hq : c'.queued = c.queued) : Steps call c r c' where
  sound := hs
  stays_closed hc := hcl.trans hc
  quiet_closed _ := ⟨ho, ha⟩
  queue _ := by rw [ho, ha, hq, List.append_nil, List.nil_append]

/-- A failed call. -/
theorem of_fails {e : ContextError} (h : c.Sound) (hf : c.Fails c' e) : Steps call c (.error e) c' :=
  of_quiet (call.opened_error e) (call.activated_error c c' e) (h.of_fails hf) hf.keeps.closed
    hf.keeps.queued

/-- An open that registered and queued the unit `u`. -/
theorem of_enqueued {u : SourceUnit} (ho : call.opened (.ok (.unit u)) = [u])
    (ha : call.activated c (.ok (.unit u)) c' = if c.stack.isEmpty then c'.active?.toList else [])
    (hcl : c.closed = false) (hs : c'.Sound) (hcl' : c'.closed = false)
    (hq : c.queued ++ [u] = (if c.stack.isEmpty then c'.active?.toList else []) ++ c'.queued) :
    Steps call c (.ok (.unit u)) c' where
  sound := hs
  stays_closed hc := absurd (hcl ▸ hc) Bool.false_ne_true
  quiet_closed hc := absurd (hcl' ▸ hc) Bool.false_ne_true
  queue _ := by rw [ho, ha, hq]

end Steps

/-- A call on units from a sound context either succeeds with a step or fails with nothing
changed but the report. -/
theorem Call.outcome_managed {c : Context} (h : c.Sound) (call : Call) (hm : call.managesUnits = true) :
    Outcome (fun a c' => Steps call c (.ok a) c') (fun e c' => c.Fails c' e) (call.run.run.run c) := by
  cases call
  case openSource p =>
    refine outcome_map ((outcome_enqueue h (outcome_of_triple (load_spec c h p))).mono ?_ fun _ _ => id)
    rintro u c' ⟨hcl, hs, hcl', hq⟩
    exact Steps.of_enqueued rfl rfl hcl hs hcl' hq
  case openSourceBytes n b =>
    refine outcome_map ((outcome_enqueue h (outcome_of_triple (loadBytes_spec c h n b _))).mono ?_
      fun _ _ => id)
    rintro u c' ⟨hcl, hs, hcl', hq⟩
    exact Steps.of_enqueued rfl rfl hcl hs hcl' hq
  case pushSource p =>
    refine outcome_map ((outcome_push h (outcome_of_triple (load_spec c h p))).mono ?_ fun _ _ => id)
    rintro u c' ⟨hs, hcl, hq⟩
    exact Steps.of_quiet rfl rfl hs hcl hq
  case pushSourceBytes n b =>
    refine outcome_map ((outcome_push h (outcome_of_triple (loadBytes_spec c h n b _))).mono ?_
      fun _ _ => id)
    rintro u c' ⟨hs, hcl, hq⟩
    exact Steps.of_quiet rfl rfl hs hcl hq
  case popSource =>
    refine outcome_map ((outcome_of_triple (popSource_spec c)).mono ?_ fun _ _ => id)
    rintro u c' ⟨hk, hst⟩
    exact Steps.of_quiet rfl rfl (h.of_keeps hk (hst ▸ List.dropLast_sublist _)) hk.closed hk.queued
  case freeSource i =>
    refine outcome_map ((outcome_of_triple (freeSource_spec c h i)).mono ?_ fun _ _ => id)
    intro _ c' hf
    obtain ⟨hs, hq⟩ := h.frees hf
    exact Steps.of_quiet rfl rfl hs hf.closed hq
  all_goals simp [Call.managesUnits] at hm

/-- A call whose success and failure are both steps is a step. -/
theorem Steps.of_outcome {call : Call} {c : Context}
    (ho : Outcome (fun a c' => Steps call c (.ok a) c') (fun e c' => Steps call c (.error e) c')
      (call.run.run.run c)) :
    Steps call c (call.run.run.run c).1 (call.run.run.run c).2 := by
  rcases hr : call.run.run.run c with ⟨_ | a, c'⟩
  all_goals
    rw [hr] at ho
    exact ho

/-- A call that kept the structures and the stacked units and opened and activated nothing. -/
theorem Steps.of_keeps {call : Call} {c c' : Context} {r : Except ContextError Reply} (h : c.Sound)
    (ho : call.opened r = []) (ha : call.activated c r c' = []) (hk : c.Keeps c')
    (hs : c'.stacked = c.stacked) : Steps call c r c' :=
  Steps.of_quiet ho ha (h.of_keeps hk (by rw [hs])) hk.closed hk.queued

theorem Call.nextSource_run (c : Context) :
    Call.nextSource.run.run.run c =
      (.ok (.more (ContextM.nextSource.run c).1), (ContextM.nextSource.run c).2) :=
  rfl

theorem Call.close_run (c : Context) : Call.close.run.run.run c = (.ok .done, (ContextM.close.run c).2) :=
  rfl

/-- Every call from a sound context is a step. -/
theorem Call.steps {c : Context} (h : c.Sound) (call : Call) :
    Steps call c (call.run.run.run c).1 (call.run.run.run c).2 := by
  cases hm : call.managesUnits
  case true =>
    exact Steps.of_outcome ((call.outcome_managed h hm).mono (fun _ _ => id) fun _ _ => Steps.of_fails h)
  case false =>
    cases call
    case nextSource =>
      rw [Call.nextSource_run]
      obtain ⟨hb, hq, hcl⟩ := nextSource_queued h
      have ha : ∀ (b : Bool) (c' : Context),
          Call.nextSource.activated c (.ok (.more b)) c' = if b then c'.active?.toList else [] := by
        intro b c'
        cases b <;> rfl
      refine ⟨sound_nextSource h, fun hc => hcl.trans hc, fun hc => ⟨rfl, ?_⟩, fun _ => ?_⟩
      · -- a closed context queues nothing, so nothing is activated
        rw [ha, if_neg fun hb' => hb.1 hb' (h.closed_empty (hcl ▸ hc)).2.2.1]
      · rw [ha]
        exact (List.append_nil _).trans hq
    case lex step =>
      refine Steps.of_outcome (outcome_map ((outcome_of_triple (withLexer_spec c step)).mono ?_ ?_))
      · rintro _ c' ⟨hk, hs⟩
        exact Steps.of_keeps h rfl rfl hk hs
      · rintro e c' rfl
        exact Steps.of_quiet (Call.opened_error _ e) (Call.activated_error _ _ _ e) h rfl rfl
    case init =>
      refine Steps.of_outcome (outcome_map ((outcome_of_triple (init_spec c)).mono ?_ ?_))
      · rintro _ c' ⟨hk, hs⟩
        exact Steps.of_keeps h rfl rfl hk (by simp [stacked, hs])
      · rintro e c' ⟨hk, hs⟩
        exact Steps.of_keeps h (Call.opened_error _ e) (Call.activated_error _ _ _ e) hk
          (by simp [stacked, hs])
    case close =>
      rw [Call.close_run]
      obtain ⟨hs, hcl⟩ := sound_close h
      exact ⟨hs, fun _ => hcl, fun _ => ⟨rfl, rfl⟩, fun hc => by simp [hcl] at hc⟩
    all_goals simp [Call.managesUnits] at hm

namespace Activity

/-- The activity of a run matches its context: the activated units are the first of the opened
ones, in order, and while the context is open the other opened units are the queued ones. -/
structure Tracks (h : Activity) (c : Context) : Prop where
  ordered : h.activated <+: h.opened
  waiting : c.closed = false → h.opened = h.activated ++ c.queued

/-- One more step keeps the activity on track. -/
theorem Tracks.record {h : Activity} {call : Call} {c c' : Context} {r : Except ContextError Reply}
    (ht : h.Tracks c) (hs : Steps call c r c') : (h.record call c r c').Tracks c' := by
  cases hc' : c'.closed
  case false =>
    -- still open, so open before: the queue moved as the call recorded
    have hc : c.closed = false := by
      cases hc : c.closed
      · rfl
      · simp [hs.stays_closed hc] at hc'
    have hw : h.opened ++ call.opened r = (h.activated ++ call.activated c r c') ++ c'.queued := by
      rw [ht.waiting hc, List.append_assoc, hs.queue hc', List.append_assoc]
    refine ⟨?_, fun _ => hw⟩
    show h.activated ++ _ <+: h.opened ++ _
    rw [hw]
    exact ⟨_, rfl⟩
  case true =>
    -- closed: the call opened and activated nothing
    obtain ⟨ho, ha⟩ := hs.quiet_closed hc'
    refine ⟨?_, fun hf => by simp [hc'] at hf⟩
    show h.activated ++ _ <+: h.opened ++ _
    rw [ho, ha, List.append_nil, List.append_nil]
    exact ht.ordered

end Activity

/-- A run of calls from a sound context whose activity it tracks keeps both and leaves a closed
context closed; a run with a `close` in it ends closed. -/
theorem runCalls_sound (calls : List Call) {h : Activity} {c : Context} (hs : c.Sound) (ht : h.Tracks c) :
    (runCalls calls h c).2.Sound ∧ (runCalls calls h c).1.Tracks (runCalls calls h c).2 ∧
      (c.closed = true → (runCalls calls h c).2.closed = true) ∧
      (Call.close ∈ calls → (runCalls calls h c).2.closed = true) := by
  induction calls generalizing h c with
  | nil => exact ⟨hs, ht, id, fun hm => absurd hm List.not_mem_nil⟩
  | cons call calls ih =>
    have hstep := call.steps hs
    obtain ⟨hs', ht', hcl', hclose'⟩ := ih hstep.sound (ht.record hstep)
    refine ⟨hs', ht', fun hc => hcl' (hstep.stays_closed hc), fun hm => ?_⟩
    rcases List.mem_cons.1 hm with rfl | hm
    · exact hcl' (sound_close hs).2
    · exact hclose' hm

/-- A fresh context has opened and activated nothing. -/
theorem tracks_create (opts : ContextOptions) (reader : FileReader) (sinks : List Sink) :
    ({} : Activity).Tracks (Context.create opts reader sinks) :=
  ⟨⟨[], rfl⟩, fun _ => by simp [queued, Context.create]⟩

/-- From a fresh context, any calls, with any reader, keep the unit tables sound; the units
activated from the queue are, in order, the first of the top-level units opened, each activated
once, and while the context is open the others wait in the queue; once the context is closed
every structure is empty. -/
theorem context_tables_sound (opts : ContextOptions) (reader : FileReader) (sinks : List Sink)
    (calls : List Call) :
    let r := runCalls calls {} (Context.create opts reader sinks)
    r.2.Sound ∧ r.1.activated <+: r.1.opened ∧
      (r.2.closed = false → r.1.opened = r.1.activated ++ r.2.queued) ∧
      (Call.close ∈ calls → r.2.units = #[] ∧ r.2.free = #[] ∧ r.2.queue = #[] ∧ r.2.stack = #[]) := by
  intro r
  obtain ⟨hs, ht, -, hclose⟩ := runCalls_sound calls (sound_create opts reader sinks)
    (tracks_create opts reader sinks)
  exact ⟨hs, ht.ordered, ht.waiting, fun hm => hs.closed_empty (hclose hm)⟩

/-- The contexts a client can reach: those any calls leave from a fresh context. -/
def Reachable (c : Context) : Prop :=
  ∃ opts reader sinks calls, c = (runCalls calls {} (Context.create opts reader sinks)).2

theorem Reachable.sound {c : Context} (hr : c.Reachable) : c.Sound := by
  obtain ⟨opts, reader, sinks, calls, rfl⟩ := hr
  exact (runCalls_sound calls (sound_create opts reader sinks) (tracks_create opts reader sinks)).1

/-- A call on units that fails, from any reachable context, leaves the unit table, the free list,
the queue, the include stack, the closed mark and the options as they were; the error it returns
is explained by the context, and the engine got the one report of that error, or none for a
closed context and a refused free. -/
theorem failed_unit_call_changes_nothing {c : Context} (hr : c.Reachable) {call : Call}
    (hm : call.managesUnits = true) {e : ContextError} (he : (call.run.run.run c).1 = .error e) :
    c.Fails (call.run.run.run c).2 e := by
  have ho := call.outcome_managed hr.sound hm
  rcases hx : call.run.run.run c with ⟨_ | a, c'⟩
  · rw [hx] at ho he
    cases he
    exact ho
  · rw [hx] at he
    cases he

/-- Opening a file the reader does not have, on a fresh context, fails with the reader's error and
changes nothing but the report. -/
theorem open_missing_file_changes_nothing :
    let c := Context.create {} FileReader.empty []
    c.Reachable ∧ (Call.openSource "main.nvl").managesUnits = true ∧
      ((Call.openSource "main.nvl").run.run.run c).1 = .error (.read "main.nvl" (.missing "main.nvl")) ∧
      c.Fails ((Call.openSource "main.nvl").run.run.run c).2 (.read "main.nvl" (.missing "main.nvl")) :=
  ⟨⟨{}, FileReader.empty, [], [], rfl⟩, rfl, rfl,
    failed_unit_call_changes_nothing ⟨{}, FileReader.empty, [], [], rfl⟩ rfl rfl⟩

end Context

end NovelScript

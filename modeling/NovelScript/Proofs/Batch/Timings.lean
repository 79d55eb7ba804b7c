import Mathlib
import NovelScript.Batch.Tokenize
import NovelScript.Proofs.Batch.Verdict
/-!
# What the timings flag changes in a tokenizing run

Turning timings on changes a run of `tokenizeWith` in one place: a run that lexed its script
to the end reports, after the lexing, a note of its phases. The tree, the cached dump, the
tokens, the failure and the log entries stay as they are, and a run that stops early or takes
its dump from the token cache reports no note (`timings_note_only_after_lexing`).

The cache key leaves the flag out. So a run with timings on that finds its script in the cache
ends with the context it had once the script was opened, while the same run without a cache
lexes from that context and then reports the note (`cache_hit_drops_timings_note`): the cache
changes the diagnostics of a call. The empty script shows it, with no diagnostic from a warm
cache and one without a cache (`warm_cache_hides_timings_note`).
-/

namespace NovelScript.Batch

/-- The context `c` after the timings note of the unit `u`, with the phases of `report`. -/
def noteTimings (u : SourceUnit) (report : Report) (c : Context) : Context :=
  (step (ContextM.diagnose ⟨u.id, 0, 0⟩ Code.obsTimings
    #[.str u.path.toUTF8, .float 0, .str (timingPayload u.path report).render.toUTF8]) c).2

/-- Whether a run lexed its script to the end: it opened the script, took no dump from the
cache and stopped at no failure. -/
def FileRun.lexed (r : FileRun) : Bool :=
  r.result.unit.isSome && r.cachedDump.isNone && r.result.error.isNone

/-- The run `r` with the timings note reported, when it lexed its script to the end. -/
def FileRun.withTimings (r : FileRun) : FileRun :=
  match r.result.unit, r.lexed with
  | some u, true => { r with result := { r.result with ctx := noteTimings u r.report r.result.ctx } }
  | _, _ => r

/-- A run with timings on is the run with timings off with the timings note added when it
lexed its script to the end; the cache lookup, which comes first, does not see the flag. -/
theorem timings_note_only_after_lexing (o : Options) (t : FileTree) (reader : FileReader)
    (path : String) (openUnit : ContextM SourceUnit) :
    tokenizeWith { o with timings := true } t reader path openUnit =
      ((tokenizeWith { o with timings := false } t reader path openUnit).1.withTimings,
        (tokenizeWith { o with timings := false } t reader path openUnit).2) := by
  unfold tokenizeWith
  dsimp only
  -- the two runs take the same steps up to the note; every run that stops before it is equal
  rcases step ContextM.init (Context.single o.compile o.maxDiags reader) with ⟨_ | ⟨⟩, c₁⟩
  · rfl
  dsimp only
  rcases step openUnit c₁ with ⟨_ | u, c₂⟩
  · rfl
  dsimp only
  cases o.cache.bind fun cache =>
      TokenCache.lookup t cache (cacheKey (Sha256.digest u.content) o.compile.mode o.compile.policy)
        (Sha256.digest u.content) with
  | some dump => rfl
  | none =>
    dsimp only
    rcases step (ContextM.drain (tokenBudget u.content.size) #[]) c₂ with ⟨_ | ⟨ts, _ | e⟩, c₃⟩
    · rfl
    · rfl
    · rfl

/-! ### A cache hit against a run without a cache -/

/-- The script and the context of a run once its fresh context has registered the built-in
types and opened the script; none when either step failed. -/
def opened (o : Options) (reader : FileReader) (openUnit : ContextM SourceUnit) :
    Option (SourceUnit × Context) :=
  match step ContextM.init (Context.single o.compile o.maxDiags reader) with
  | (.ok (), c) =>
    match step openUnit c with
    | (.ok u, c) => some (u, c)
    | (.error _, _) => none
  | (.error _, _) => none

section Runs

variable (o : Options) (t : FileTree) (reader : FileReader) (path : String)
  (openUnit : ContextM SourceUnit)

/-- A run that takes its dump from the cache ends with the context it had once its script was
opened: nothing is lexed and nothing reported after that. -/
theorem cached_ctx : (tokenizeWith o t reader path openUnit).1.cached = true →
    ∃ u, opened o reader openUnit = some (u, (tokenizeWith o t reader path openUnit).1.result.ctx) := by
  unfold tokenizeWith opened
  dsimp only
  rcases step ContextM.init (Context.single o.compile o.maxDiags reader) with ⟨_ | ⟨⟩, c₁⟩
  · simp [FileRun.cached]
  dsimp only
  rcases step openUnit c₁ with ⟨_ | u, c₂⟩
  · simp [FileRun.cached]
  dsimp only
  cases o.cache.bind fun cache =>
      TokenCache.lookup t cache (cacheKey (Sha256.digest u.content) o.compile.mode o.compile.policy)
        (Sha256.digest u.content) with
  | some dump => exact fun _ => ⟨u, rfl⟩
  | none =>
    -- every run that lexes, or stops while lexing, has no cached dump
    dsimp only
    rcases step (ContextM.drain (tokenBudget u.content.size) #[]) c₂ with ⟨_ | ⟨ts, _ | e⟩, c₃⟩
    · simp [FileRun.cached]
    · simp [FileRun.cached]
    · simp [FileRun.cached]

/-- A run that lexed its script to the end lexed it from the context it had once the script
was opened, and with timings on then reported the note. -/
theorem lexed_ctx {u : SourceUnit} {c₀ : Context} (hu : opened o reader openUnit = some (u, c₀)) :
    (tokenizeWith o t reader path openUnit).1.lexed = true →
    ∃ ts c₁, step (ContextM.drain (tokenBudget u.content.size) #[]) c₀ = (.ok (ts, none), c₁) ∧
      (tokenizeWith o t reader path openUnit).1.result.ctx =
        if o.timings then noteTimings u (tokenizeWith o t reader path openUnit).1.report c₁ else c₁ := by
  revert hu
  unfold tokenizeWith opened
  dsimp only
  rcases step ContextM.init (Context.single o.compile o.maxDiags reader) with ⟨_ | ⟨⟩, c₁⟩
  · simp
  dsimp only
  rcases step openUnit c₁ with ⟨_ | u', c₂⟩
  · simp
  rintro ⟨⟩
  dsimp only
  cases o.cache.bind fun cache =>
      TokenCache.lookup t cache (cacheKey (Sha256.digest u.content) o.compile.mode o.compile.policy)
        (Sha256.digest u.content) with
  | some dump => simp [FileRun.lexed]
  | none =>
    dsimp only
    rcases step (ContextM.drain (tokenBudget u.content.size) #[]) c₀ with ⟨_ | ⟨ts, _ | e⟩, c₃⟩
    · simp [FileRun.lexed]
    · intro _
      refine ⟨ts, c₃, rfl, ?_⟩
      cases o.timings <;> rfl
    · simp [FileRun.lexed]

end Runs

/-- A run with timings on that takes its dump from the cache ends with the context it had once
its script was opened; the same run without a cache, when it lexes the script to the end, lexes
from that context and then reports the timings note. -/
theorem cache_hit_drops_timings_note (o : Options) (c : TokenCache) (t : FileTree)
    (reader : FileReader) (path : String) (openUnit : ContextM SourceUnit) :
    ((tokenizeWith { o with timings := true, cache := some c } t reader path openUnit).1.cached = true →
      ∃ u, opened o reader openUnit =
        some (u, (tokenizeWith { o with timings := true, cache := some c } t reader path openUnit).1.result.ctx)) ∧
    ∀ u c₀, opened o reader openUnit = some (u, c₀) →
      (tokenizeWith { o with timings := true, cache := none } t reader path openUnit).1.lexed = true →
      ∃ ts c₁, step (ContextM.drain (tokenBudget u.content.size) #[]) c₀ = (.ok (ts, none), c₁) ∧
        (tokenizeWith { o with timings := true, cache := none } t reader path openUnit).1.result.ctx =
          noteTimings u (tokenizeWith { o with timings := true, cache := none } t reader path openUnit).1.report c₁ :=
  ⟨cached_ctx _ t reader path openUnit, fun _ _ hu hl => lexed_ctx _ t reader path openUnit hu hl⟩

/-! ### The empty script -/

/-- The timings note reaches a bag without a limit behind a repeat filter that has seen
nothing, when notes are not suppressed. -/
theorem noteTimings_bag (u : SourceUnit) (report : Report) {c : Context}
    (hp : c.engine.policy.suppressNotes = false) (hs : c.engine.sinks = [.dedupBag])
    (hmax : c.engine.bag.max = 0) (hseen : c.engine.dedup.seen.isEmpty = true) :
    (noteTimings u report c).engine.bag.items.size = c.engine.bag.items.size + 1 := by
  have hd : c.engine.policy.delivery (c.engine.counted Code.obsTimings.info.severity).errors
      Code.obsTimings.info.severity = some .note := by
    simp [show Code.obsTimings.info.severity = .note by decide, Policy.delivery, hp]
  simp only [noteTimings, step, ContextM.diagnose, modify, modifyGet]
  show (c.engine.diagnose _ _ _).bag.items.size = _
  rw [Engine.diagnose_of_some hd]
  -- counting the note leaves the sinks, the filter and the bag as they were
  have hc : (c.engine.counted Code.obsTimings.info.severity).sinks = [.dedupBag] := hs
  have hf : (c.engine.counted Code.obsTimings.info.severity).dedup.seen.isEmpty = true := hseen
  simp only [Engine.report, hc, List.foldl_cons, List.foldl_nil, Engine.deliver_dedupBag,
    Std.HashSet.contains_of_isEmpty hf, Bool.false_eq_true, if_false, Engine.counted_bag,
    Bag.add_of_uncapped hmax, Array.size_push]

/-- The fresh context of a run registers the built-in types and succeeds. -/
theorem init_single (opts : ContextOptions) (maxDiags : Nat) (reader : FileReader)
    (hroom : builtinTypes.length ≤ (Dict.create opts.maxIdents).max) :
    step ContextM.init (Context.single opts maxDiags reader) =
      (.ok (), ({ Context.single opts maxDiags reader with
        dict := (Dict.create opts.maxIdents).registerBuiltins.1, inited := true }).note
          "registered built-in types" [("count", .nat builtinTypes.length)]) :=
  ContextM.init_run_of_room _ rfl (by
    change (Dict.create opts.maxIdents).size + builtinTypes.length ≤ (Dict.create opts.maxIdents).max
    simpa [Dict.size, Dict.create] using hroom)

/-- With timings on, the empty script answers from a warm cache with no diagnostic, and without
a cache with one, the timings note. -/
theorem warm_cache_hides_timings_note :
    (∀ (c : TokenCache) (t : FileTree),
      (tokenizeText { timings := true, cache := some c } t "a.nvl" .empty).1.cached = true →
        (tokenizeText { timings := true, cache := some c } t "a.nvl" .empty).1.result.ctx.engine.bag.items.size = 0) ∧
    (tokenizeText { timings := true } {} "a.nvl" .empty).1.result.ctx.engine.bag.items.size = 1 := by
  refine ⟨fun c t h => ?_, ?_⟩
  · -- a hit keeps the context of the opened script, whose bag is empty
    obtain ⟨u, hu⟩ := cached_ctx _ t FileReader.empty "a.nvl" _ h
    have h₀ : (opened {} FileReader.empty (ContextM.openSourceBytes "a.nvl" .empty)).map
        (·.2.engine.bag.items.size) = some 0 := by
      unfold opened
      rw [init_single _ _ _ (by decide)]
      decide +kernel
    rw [show opened {} FileReader.empty (ContextM.openSourceBytes "a.nvl" .empty) =
        opened { timings := true, cache := some c } FileReader.empty
          (ContextM.openSourceBytes "a.nvl" .empty) from rfl, hu] at h₀
    simpa [tokenizeText] using h₀
  · -- without a cache the script is lexed with nothing reported, and the note is the one report
    have hrun := timings_note_only_after_lexing {} {} FileReader.empty "a.nvl"
      (ContextM.openSourceBytes "a.nvl" .empty)
    have hoff : (tokenizeText { timings := false } {} "a.nvl" .empty).1.lexed = true ∧
        (tokenizeText { timings := false } {} "a.nvl" .empty).1.result.unit.isSome = true ∧
        (tokenizeText { timings := false } {} "a.nvl" .empty).1.result.ctx.engine.policy.suppressNotes = false ∧
        (tokenizeText { timings := false } {} "a.nvl" .empty).1.result.ctx.engine.sinks = [.dedupBag] ∧
        (tokenizeText { timings := false } {} "a.nvl" .empty).1.result.ctx.engine.bag.max = 0 ∧
        (tokenizeText { timings := false } {} "a.nvl" .empty).1.result.ctx.engine.dedup.seen.isEmpty = true ∧
        (tokenizeText { timings := false } {} "a.nvl" .empty).1.result.ctx.engine.bag.items.size = 0 := by
      unfold tokenizeText tokenizeWith
      dsimp only
      rw [init_single _ _ _ (by decide)]
      decide +kernel
    obtain ⟨hl, hunit, hp, hs, hmax, hseen, hsize⟩ := hoff
    change (tokenizeWith { ({} : Options) with timings := true } {} FileReader.empty "a.nvl"
      (ContextM.openSourceBytes "a.nvl" .empty)).1.result.ctx.engine.bag.items.size = 1
    rw [hrun]
    change (tokenizeText { timings := false } {} "a.nvl" .empty).1.withTimings.result.ctx.engine.bag.items.size = 1
    obtain ⟨u, hu⟩ := Option.isSome_iff_exists.1 hunit
    simp only [FileRun.withTimings, hu, hl]
    rw [noteTimings_bag u _ hp hs hmax hseen, hsize]

end NovelScript.Batch

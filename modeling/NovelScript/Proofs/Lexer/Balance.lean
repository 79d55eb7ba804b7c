import Mathlib
import NovelScript.Proofs.Lexer.Run
/-!
# Bracket counters and their diagnostics

The three counters follow the brackets of the token stream and nothing else: an opener counts
up, a closer counts down but not below 0. Over the whole stream of a unit, whatever scans,
directives, blank tokens or pieces of split messages it holds:

* the counters after `n` calls of `lex` are the clamped running counts over the tokens handed
  out so far;
* the only balance diagnostics handed to the engine are, in order, one for each closer that
  arrives at a zero counter, over that closer, and at the first end token one for each counter
  left open, with its count, over the empty range at the end of the text; none comes after,
  however often the end token is taken again.
-/

namespace NovelScript

/-- The counters after the tokens `ts`, from `b`. -/
def Balances.afterAll (b : Balances) (ts : List Token) : Balances :=
  ts.foldl (fun b t => b.push t.kind) b

/-- The balance diagnostics of a stream `ts` of the unit `u` whose counters start at `b`: a
closer at a zero counter, over its range; at the first end token every counter left open, over
the empty range at the end of the text, and nothing after it. -/
def Balances.notesOf (u : SourceUnit) : Balances → List Token → List Notice
  | _, [] => []
  | b, t :: ts =>
    if t.kind = .eof then b.openNotes (Range.make u.id u.size u.size)
    else b.closeNotes t.kind t.range ++ Balances.notesOf u (b.push t.kind) ts

namespace Lexer.Lexes

variable {s s' : Lexer} {ts : List Token}

/-- Along a run the counters follow the tokens, and the balance reports are those of the
stream; a tokenizer that has given the end token reports no more. -/
theorem balances (h : s.Lexes ts s') (hr : s.Ready) :
    s'.bal = s.bal.afterAll ts ∧
      Reported s.env.engine s'.env.engine
        (if s.done then [] else Balances.notesOf s.unit s.bal ts) := by
  induction h with
  | nil s =>
    refine ⟨rfl, ?_⟩
    cases s.done <;> exact Reported.refl _
  | @cons s₀ s₁ s₂ t ts hs rest ih =>
    obtain ⟨hbal, hrep⟩ := ih (next_ready hs)
    have hunit : s₁.unit = s₀.unit := hs.unit_eq
    refine ⟨by rw [hbal, hs.bal]; rfl, ?_⟩
    have hall := hs.notes.trans hrep
    by_cases he : t.kind = .eof
    · -- the end token finishes the tokenizer: its open counters are the last reports
      have hd : s₁.done = true := (hs.eof he).2.2.2
      simp only [hd, if_true, List.append_nil] at hall
      cases hd₀ : s₀.done
      · simpa [Lexer.balanceNotes, he, hd₀, Balances.notesOf, Lexer.text, SourceUnit.size]
          using hall
      · simpa [Lexer.balanceNotes, he, hd₀] using hall
    · -- a token before the end: a closer at a zero counter, then the rest of the stream
      have hd₀ : s₀.done = false := by
        cases hd : s₀.done
        · rfl
        · exact absurd (hs.eof_of_done hr hd) he
      have hd : s₁.done = false := (hs.done he).trans hd₀
      simp only [hd, hunit, hs.bal] at hall
      simpa [Lexer.balanceNotes, he, hd₀, Balances.notesOf] using hall

end Lexer.Lexes

/-- The counters after any number of `lex` calls on a fresh tokenizer are the clamped running
counts over the tokens handed out so far (an opener adds one, a closer takes one away but not
below 0), and the balance diagnostics handed to the engine are exactly those of that stream:
one for each closer that arrives at a zero counter, over the closer, and at the first end token
one for each counter left open, with its count, over the empty range at the end of the text,
never repeated however often the end token is taken again. -/
theorem balances_follow_stream (u : SourceUnit) (mode : DirectiveMode) (env : LexEnv) (n : Nat) :
    let ts := ((Lexer.create u mode env).lexRun n).1.filterMap Except.toOption
    ((Lexer.create u mode env).lexRun n).2.bal = Balances.afterAll {} ts ∧
      Reported env.engine ((Lexer.create u mode env).lexRun n).2.env.engine
        (Balances.notesOf u {} ts) := by
  intro ts
  have hr := Lexer.ready_create u mode env
  obtain ⟨ts', s₁, hts, hrun⟩ := Lexer.lexRun_spec n hr rfl rfl
  obtain ⟨hbal, hrep⟩ := hts.balances hr
  -- the run is the stream's tokens, then possibly the capacity error repeated
  rcases hrun with h | ⟨e, s₂, m, hs, h⟩
  · have hts' : ts = ts' := by simp [ts, h, List.filterMap_map, Function.comp_def, Except.toOption]
    rw [hts', h]
    exact ⟨hbal, by simpa [Lexer.create] using hrep⟩
  · have hts' : ts = ts' := by
      simp [ts, h, List.filterMap_append, List.filterMap_map, Function.comp_def, Except.toOption]
    rw [hts', h]
    -- a capacity error keeps the counters and reports nothing about balance
    refine ⟨hs.bal.trans hbal, ?_⟩
    simpa [Lexer.create] using hrep.trans hs.quiet

end NovelScript

import Mathlib
import NovelScript.Proofs.Lexer.Run
/-!
# The lookahead is invisible

All the work of a token (the cursor, the flags, the counters, the checks of the end, the
diagnostics) is done when `peek` computes it; `peek` keeps the token, and `lex` hands out the
kept one. So a client may look ahead as often as it likes:

* a second `peek` gives the same answer and changes nothing, and `lex` after `peek` does what
  `lex` alone does;
* whatever calls of `Peek`, `Lex`, `Skip`, `Last`, `Flags`, `Balances` and `LastDirective` a
  client makes on a fresh tokenizer, the tokenizer is the one plain `Lex` calls (as many as
  the client took tokens) leave, possibly with the next token already computed; so the
  diagnostics reported are those of plain `Lex` calls, each token's once;
* the next `Peek`, `Lex` or `Skip` sees the token the next plain `Lex` call gives, and `Last`
  answers the last token taken, none before the first.
-/

namespace NovelScript

namespace Lexer

variable {s s' : Lexer} {r : Except LexError Token}

/-! ### `peek` and `lex` -/

theorem lex_run_eq (s : Lexer) :
    Lexer.lex.run s = ((Lexer.peek.run s).1, (Lexer.peek.run s).2.handOut (Lexer.peek.run s).1) := by
  rcases h : Lexer.peek.run s with ⟨r, s₁⟩
  cases r <;> simp [Lexer.lex, h, handOut] <;> rfl

theorem peek_of_err {e : LexError} (h : s.err = some e) : Lexer.peek.run s = (.error e, s) := by
  simp [Lexer.peek, h]
  rfl

theorem peek_of_look {t : Token} (herr : s.err = none) (hl : s.look = some t) :
    Lexer.peek.run s = (.ok t, s) := by
  simp [Lexer.peek, herr, hl]
  rfl

/-- What `peek` leaves behind, `peek` gives again without change. -/
theorem Peeked.again (h : s.Peeked r s') : Lexer.peek.run s' = (r, s') := by
  unfold Peeked at h
  split at h
  · obtain ⟨rfl, rfl⟩ := h
    exact peek_of_err ‹_›
  · obtain ⟨rfl, rfl⟩ := h
    exact peek_of_look ‹_› ‹_›
  · obtain ⟨s₁, hc, rfl⟩ := h
    cases r with
    | ok t =>
      -- computing a token keeps the tokenizer's error, which is none
      have herr : s₁.err = s.err := congrArg Fixed.err (hc : s.Stepped t s₁).fixed
      exact peek_of_look (by simpa [keep, herr]) rfl
    | error e => exact peek_of_err rfl

theorem Peeked.last (h : s.Peeked r s') : s'.last = s.last := by
  unfold Peeked at h
  split at h
  · rw [h.2]
  · rw [h.2]
  · obtain ⟨s₁, hc, rfl⟩ := h
    -- computing a token, or stopping, keeps the last token handed out
    have hf : s₁.fixed = s.fixed := by
      cases r with
      | ok t => exact (hc : s.Stepped t s₁).fixed
      | error e => exact (hc : s.Stopped s₁).fixed
    cases r <;> exact congrArg Fixed.last hf

/-- Peeking twice is peeking once. -/
theorem peek_peek (hr : s.Ready) : Lexer.peek.run (Lexer.peek.run s).2 = Lexer.peek.run s :=
  (peek_run hr).again

/-- Taking a token after looking at it is taking it. -/
theorem lex_peek (hr : s.Ready) : Lexer.lex.run (Lexer.peek.run s).2 = Lexer.lex.run s := by
  rw [lex_run_eq, lex_run_eq s, peek_peek hr]

theorem peek_lex_result (s : Lexer) : (Lexer.lex.run s).1 = (Lexer.peek.run s).1 := by
  rw [lex_run_eq]

/-- Handing a token out touches only the kept token and the last one. -/
theorem handOut_env (s : Lexer) (r : Except LexError Token) : (s.handOut r).env = s.env := by
  cases r <;> rfl

/-- The tokenizer after `lex` is the one after `peek`, with the token handed out. -/
theorem lex_env (s : Lexer) : (Lexer.lex.run s).2.env = (Lexer.peek.run s).2.env := by
  rw [lex_run_eq, handOut_env]

theorem lex_last (hr : s.Ready) :
    (Lexer.lex.run s).2.last = (Lexer.lex.run s).1.toOption.or s.last := by
  rw [lex_run_eq]
  have hl := (peek_run hr).last
  cases h : (Lexer.peek.run s).1 with
  | ok t => simp [handOut, Except.toOption]
  | error e => simp [handOut, Except.toOption, hl]

/-! ### Runs of `lex` -/

theorem lexRun_succ (n : Nat) (s : Lexer) :
    s.lexRun (n + 1) =
      ((s.lexRun n).1 ++ [(Lexer.lex.run (s.lexRun n).2).1], (Lexer.lex.run (s.lexRun n).2).2) := by
  induction n generalizing s with
  | zero => rfl
  | succ n ih =>
    rcases hrun : Lexer.lex.run s with ⟨r, s₁⟩
    have h := ih s₁
    simp only [lexRun, hrun] at h ⊢
    rw [h]
    rfl

theorem Reachable.lexRun {u : SourceUnit} (h : Reachable u s) (n : Nat) :
    Reachable u (s.lexRun n).2 := by
  induction n with
  | zero => exact h
  | succ n ih => rw [lexRun_succ]; exact .lex ih

/-- The last token handed out by `n` calls of `lex` from a fresh tokenizer. -/
theorem lexRun_last {u : SourceUnit} (h : Reachable u s) (hl : s.last = none) (n : Nat) :
    (s.lexRun n).2.last = ((s.lexRun n).1.filterMap Except.toOption).getLast? := by
  induction n with
  | zero => simpa [lexRun] using hl
  | succ n ih =>
    rw [lexRun_succ, lex_last (h.lexRun n).sound.1.ready, ih, List.filterMap_append]
    cases (Lexer.lex.run (s.lexRun n).2).1 <;> simp

/-! ### Calls of the interface -/

/-- A call of the tokenizer's interface, as a client makes it between two resets. -/
inductive Call where
  /-- `Peek`: the next token, not taken. -/
  | peek
  /-- `Lex`: the next token, taken. -/
  | lex
  /-- `Skip`: takes the next token and answers only an error. -/
  | skip
  /-- `Last`: the token taken last. -/
  | last
  /-- `Flags`: the grammar flags. -/
  | flags
  /-- `Balances`: the bracket counters. -/
  | balances
  /-- `LastDirective`: the directive comment remembered last. -/
  | lastDirective
  deriving DecidableEq, Repr

/-- What a call answers. -/
inductive Answer where
  | token (r : Except LexError Token)
  | skipped (err : Option LexError)
  | last (t : Option Token)
  | flags (f : LexFlags)
  | balances (b : Balances)
  | lastDirective (r : Option Range)

/-- Makes one call. -/
def Call.run : Call → StateM Lexer Answer
  | .peek => do return .token (← Lexer.peek)
  | .lex => do return .token (← Lexer.lex)
  | .skip => do
    match ← Lexer.lex with
    | .ok _ => return .skipped none
    | .error e => return .skipped (some e)
  | .last => do return .last (← get).last
  | .flags => do return .flags (← get).flags
  | .balances => do return .balances (← get).bal
  | .lastDirective => do return .lastDirective (← get).lastDir

/-- Whether a call takes a token. -/
def Call.takes : Call → Bool
  | .lex | .skip => true
  | _ => false

/-- The answers of `calls`, made in order from `s`, and the tokenizer after them. -/
def runCalls : List Call → Lexer → List Answer × Lexer
  | [], s => ([], s)
  | c :: cs, s =>
    let (a, s₁) := c.run.run s
    let (as, s') := runCalls cs s₁
    (a :: as, s')

theorem runCalls_append (cs : List Call) (c : Call) (s : Lexer) :
    runCalls (cs ++ [c]) s =
      ((runCalls cs s).1 ++ [(c.run.run (runCalls cs s).2).1], (c.run.run (runCalls cs s).2).2) := by
  induction cs generalizing s with
  | nil => rfl
  | cons c' cs ih =>
    rcases h : c'.run.run s with ⟨a, s₁⟩
    simp only [List.cons_append, runCalls, h, ih]

/-- A call that takes a token runs `lex`; `peek` runs `peek`; the others only read. -/
theorem Call.run_state (c : Call) (s : Lexer) :
    (c.run.run s).2 =
      if c.takes then (Lexer.lex.run s).2 else if c = .peek then (Lexer.peek.run s).2 else s := by
  cases c
  case skip =>
    rcases h : Lexer.lex.run s with ⟨r, s₁⟩
    cases r <;> simp [Call.run, Call.takes, h] <;> rfl
  all_goals rfl

theorem Call.peek_answer (s : Lexer) :
    Call.peek.run.run s = (.token (Lexer.peek.run s).1, (Lexer.peek.run s).2) := rfl

theorem Call.lex_answer (s : Lexer) :
    Call.lex.run.run s = (.token (Lexer.lex.run s).1, (Lexer.lex.run s).2) := rfl

theorem Call.last_answer (s : Lexer) : Call.last.run.run s = (.last s.last, s) := rfl

/-- The tokenizer after a client's calls, as plain calls of `lex` leave it: after the `j`
calls that took a token, possibly with the next token computed. -/
def Tracks (s : Lexer) (j : Nat) (st : Lexer) : Prop :=
  st = (s.lexRun j).2 ∨ st = (Lexer.peek.run (s.lexRun j).2).2

/-- One more call keeps the tokenizer on the track of plain `lex` calls. -/
theorem Tracks.call {u : SourceUnit} (hs : Reachable u s) {j : Nat} {st : Lexer}
    (h : Tracks s j st) (c : Call) :
    Tracks s (j + if c.takes then 1 else 0) (c.run.run st).2 := by
  have hr := (hs.lexRun j).sound.1.ready
  rw [Call.run_state]
  cases c
  case lex | skip =>
    -- taking a token after plain calls, or after a look at it, is the next plain call
    left
    rcases h with rfl | rfl
    · simp [Call.takes, lexRun_succ]
    · simp [Call.takes, lexRun_succ, lex_peek hr]
  case peek =>
    -- a look computes the next token once; a second look changes nothing
    right
    rcases h with rfl | rfl
    · simp [Call.takes]
    · simp [Call.takes, peek_peek hr]
  all_goals simpa [Call.takes] using h

theorem tracks_runCalls {u : SourceUnit} (hs : Reachable u s) (pre : List Call) :
    Tracks s (pre.countP Call.takes) (runCalls pre s).2 := by
  induction pre using List.reverseRecOn with
  | nil => exact .inl rfl
  | append_singleton pre c ih =>
    rw [runCalls_append, List.countP_append]
    have h := ih.call hs c
    cases hc : c.takes <;> simpa [hc] using h

end Lexer

/-- A client's calls on a fresh tokenizer (one just created or reset), in any order, do what
plain `Lex` calls do: after calls that took `j` tokens the tokenizer is the one `j` plain calls
leave, or that one with the next token already computed, so the diagnostics reported are those
of `j` or `j + 1` plain calls, each token's once; the next `Peek`, `Lex` or `Skip` gives or takes
the token of the next plain call; and `Last` answers the last token taken, none before the
first. -/
theorem lookahead_transparent (u : SourceUnit) (mode : DirectiveMode) (env : LexEnv)
    (pre : List Lexer.Call) :
    let s := Lexer.create u mode env
    let j := pre.countP Lexer.Call.takes
    let st := (Lexer.runCalls pre s).2
    (st = (s.lexRun j).2 ∨ st = (Lexer.peek.run (s.lexRun j).2).2) ∧
      (st.env = (s.lexRun j).2.env ∨ st.env = (s.lexRun (j + 1)).2.env) ∧
      (Lexer.Call.peek.run.run st).1 = .token (Lexer.lex.run (s.lexRun j).2).1 ∧
      Lexer.Call.lex.run.run st = (.token (Lexer.lex.run (s.lexRun j).2).1, (s.lexRun (j + 1)).2) ∧
      (Lexer.Call.skip.run.run st).2 = (s.lexRun (j + 1)).2 ∧
      (Lexer.Call.last.run.run st).1 = .last (((s.lexRun j).1.filterMap Except.toOption).getLast?) := by
  intro s j st
  have hs : Lexer.Reachable u s := .create mode env
  have hr := (hs.lexRun j).sound.1.ready
  have htrack : Lexer.Tracks s j st := Lexer.tracks_runCalls hs pre
  -- the next plain call, from the tokenizer or from the one with the token computed
  have hlex : Lexer.lex.run st = Lexer.lex.run (s.lexRun j).2 := by
    rcases htrack with h | h <;> rw [h]
    exact Lexer.lex_peek hr
  have hpeek : (Lexer.peek.run st).1 = (Lexer.lex.run (s.lexRun j).2).1 := by
    rw [Lexer.peek_lex_result]
    rcases htrack with h | h <;> rw [h]
    rw [Lexer.peek_peek hr]
  have hlast : st.last = (s.lexRun j).2.last := by
    rcases htrack with h | h <;> rw [h]
    exact (Lexer.peek_run hr).last
  refine ⟨htrack, ?_, ?_, ?_, ?_, ?_⟩
  · rcases htrack with h | h
    · exact .inl (congrArg Lexer.env h)
    · right
      rw [h, Lexer.lexRun_succ, Lexer.lex_env]
  · rw [Lexer.Call.peek_answer, hpeek]
  · rw [Lexer.Call.lex_answer, hlex, Lexer.lexRun_succ]
  · rw [Lexer.Call.run_state]
    simp [Lexer.Call.takes, hlex, Lexer.lexRun_succ]
  · rw [Lexer.Call.last_answer, hlast, Lexer.lexRun_last hs rfl j]

end NovelScript

import Mathlib
import NovelScript.Proofs.Lexer.Effects
/-!
# One token of the stream

`LexM.next` skips trivia, turns a directive comment into a token, gives the end token at the
end of the text, resumes a split message, or scans one significant token and updates the
grammar state. This module states what one call does, as the contract `Lexer.Stepped`:

* the tokenizer stays `Lexer.Ready`: the cursor inside the text, an open message split at a
  newline under the cursor, a finished tokenizer at the end with nothing open;
* the token starts where the trivia skip ends (at the cursor inside a split message), belongs
  to the unit and spans the bytes the call consumed, up to the length ceiling;
* an end token sits at the end of the text with length 0 and finishes the tokenizer;
* the bracket counters move by `Balances.push` and the only balance diagnostics are those of
  `Lexer.balanceNotes`: a closer at a zero counter, and the open counters at the first end.

A call that stops on a capacity error leaves a ready tokenizer with the same counters and only
quiet reports (`Lexer.Stopped`).
-/

open Std.Do

set_option mvcgen.warning false

namespace NovelScript

open Utf8 Chars

/-! ### The invariant between calls -/

/-- An open literal is a message split at a newline under the cursor; once the blank token
over the gap has been given, the cursor is at the next piece instead. -/
def Lexer.LitReady (s : Lexer) : Prop :=
  ∀ l, s.lit = some l → l.kind = .message ∧ s.off < s.text.size ∧
    (s.flags.wasBlank = true → (decodeAt s.text s.off).1 ≠ 0x0A) ∧
    (s.flags.wasBlank = false → byteAt s.text s.off = 0x0A)

/-- The state a tokenizer is in between two calls. -/
structure Lexer.Ready (s : Lexer) : Prop where
  inside : s.off ≤ s.text.size
  lit : s.LitReady
  blank : s.flags.wasBlank = true → s.lit.isSome = true
  done : s.done = true → s.off = s.text.size ∧ s.lit = none ∧ s.flags.awaitMenu = false

theorem Lexer.ready_create (u : SourceUnit) (mode : DirectiveMode) (env : LexEnv) :
    (Lexer.create u mode env).Ready where
  inside := Nat.zero_le _
  lit := by rintro _ ⟨⟩
  blank := by rintro ⟨⟩
  done := by rintro ⟨⟩

theorem Lexer.Ready.reset {s : Lexer} (_ : s.Ready) : s.reset.Ready :=
  Lexer.ready_create s.unit s.mode s.env

/-- The parts of a tokenizer that computing a token never changes: the unit, the mode, the
token `peek` keeps, the last token handed out and the error that stopped it. -/
structure Lexer.Fixed where
  unit : SourceUnit
  mode : DirectiveMode
  look : Option Token
  last : Option Token
  err : Option LexError

/-- The fixed parts of a frame. -/
def Lexer.Frame.fixed (f : Lexer.Frame) : Lexer.Fixed := ⟨f.unit, f.mode, f.look, f.last, f.err⟩

/-- The fixed parts of a tokenizer. -/
def Lexer.fixed (s : Lexer) : Lexer.Fixed := s.frame.fixed

theorem Lexer.text_eq_of_fixed {s s' : Lexer} (h : s'.fixed = s.fixed) : s'.text = s.text :=
  congrArg (fun f : Lexer.Fixed => f.unit.content) h

theorem Lexer.unit_eq_of_fixed {s s' : Lexer} (h : s'.fixed = s.fixed) : s'.unit = s.unit :=
  congrArg Lexer.Fixed.unit h

/-! ### Bracket counters -/

/-- The counters after a token: an opener counts up, a closer counts down but not below 0. -/
def Balances.push (b : Balances) : TokenKind → Balances
  | .lParen => { b with paren := b.paren + 1 }
  | .rParen => { b with paren := b.paren - 1 }
  | .lBracket => { b with bracket := b.bracket + 1 }
  | .rBracket => { b with bracket := b.bracket - 1 }
  | .lBrace => { b with brace := b.brace + 1 }
  | .rBrace => { b with brace := b.brace - 1 }
  | _ => b

/-- The diagnostic a token of kind `k` over `r` brings: a closer whose counter is 0. -/
def Balances.closeNotes (b : Balances) (k : TokenKind) (r : Range) : List Notice :=
  match k with
  | .rParen => if b.paren = 0 then [(r, Code.lexUnbalancedClose, #[.str ")".toUTF8])] else []
  | .rBracket => if b.bracket = 0 then [(r, Code.lexUnbalancedClose, #[.str "]".toUTF8])] else []
  | .rBrace => if b.brace = 0 then [(r, Code.lexUnbalancedClose, #[.str "\x7d".toUTF8])] else []
  | _ => []

/-- The counters with the spelling of their openers, in the order the end reports them. -/
def Balances.openers (b : Balances) : List (Nat × String) :=
  [(b.paren, "("), (b.bracket, "["), (b.brace, "\x7b")]

/-- The diagnostic of one counter left open at the end, at `r`. -/
def openNotice (r : Range) (p : Nat × String) : List Notice :=
  if p.1 > 0 then [(r, Code.lexUnbalancedOpen, #[.str p.2.toUTF8, .int p.1])] else []

/-- The diagnostics of the counters left open at the end, at `r`. -/
def Balances.openNotes (b : Balances) (r : Range) : List Notice :=
  b.openers.flatMap (openNotice r)

/-- The balance diagnostics the token `t` computed from `s` brings: a closer at a zero
counter, or at the first end token every counter left open, at the empty range at the end. -/
def Lexer.balanceNotes (s : Lexer) (t : Token) : List Notice :=
  if t.kind = .eof then
    if s.done then [] else s.bal.openNotes (Range.make s.unit.id s.text.size s.text.size)
  else s.bal.closeNotes t.kind t.range

@[simp] theorem Lexer.noteReport_bal (s : Lexer) (r : Range) (c : Code) (a : Array Arg) :
    (s.noteReport r c a).bal = s.bal := rfl

@[simp] theorem Lexer.noteReport_flags (s : Lexer) (r : Range) (c : Code) (a : Array Arg) :
    (s.noteReport r c a).flags = s.flags := rfl

theorem Reported.balance {e e' : Option Engine} {bs : List Notice} (h : Reported e e' bs)
    {c : Code} (hc : isBalanceCode c = true) (r : Range) (a : Array Arg) :
    Reported e (e'.map (·.diagnose r c a)) (bs ++ [(r, c, a)]) := by
  simpa [hc] using h.diagnose r c a

/-! ### After a significant token -/

/-- What `after` does with the token `tok` from `s₀`: the token keeps its kind and extent,
the cursor and the open literal stay, the counters move by `push`, and the only balance
report is that of a closer at a zero counter. -/
structure Lexer.Updated (s₀ : Lexer) (tok t : Token) (s : Lexer) : Prop where
  kind : t.kind = tok.kind
  unit : t.unit = tok.unit
  off : t.off = tok.off
  len : t.len = tok.len
  same : s.fixed = s₀.fixed
  cursor : s.off = s₀.off
  lit : s.lit = s₀.lit
  blank : s.flags.wasBlank = s₀.flags.wasBlank
  done : s.done = s₀.done
  bal : s.bal = s₀.bal.push tok.kind
  notes : Reported s₀.env.engine s.env.engine (s₀.bal.closeNotes tok.kind tok.range)

namespace LexM

theorem after_spec (tok : Token) (s₀ : Lexer) :
    ⦃fun s => ⌜s = s₀⌝⦄ after tok ⦃⇓ t s => ⌜Lexer.Updated s₀ tok t s⌝⦄ := by
  mvcgen -trivial [after, close, setFlags]
  all_goals
    subst ‹_ = s₀›
    simp +zetaDelta only at *
    refine ⟨rfl, rfl, rfl, rfl, rfl, rfl, rfl, rfl, rfl, ?_, ?_⟩
    -- each arm of the match knows its kind, and the last one is no bracket's
    · simp_all [Balances.push]
    -- the reports of the path, gathered in one list: only a closer's at a zero counter is
    -- about balance
    · simp_all [Balances.closeNotes, diagnoseAll_single, diagnoseAll_diagnoseAll, Reported.refl,
        Reported.of_diagnoseAll, isBalanceCode, Code.strMissingMenuBody, Code.strNestedMenu,
        Code.lexUnbalancedOpen, Code.lexUnbalancedClose, Token.range]

end LexM

/-! ### Trivia -/

/-- What `applyTrivia t` does from `s₀`: the cursor moves to the end of the trivia and only
quiet reports are made. -/
structure Lexer.AfterTrivia (s₀ : Lexer) (t : Trivia) (s : Lexer) : Prop where
  same : s.fixed = s₀.fixed
  off : s.off = t.stop
  lit : s.lit = s₀.lit
  flags : s.flags = s₀.flags
  done : s.done = s₀.done
  bal : s.bal = s₀.bal
  newline : s.newline = (s₀.newline || t.newline)
  quiet : Reported s₀.env.engine s.env.engine []

namespace Lexer.AfterTrivia

variable {s₀ : Lexer} {t : Trivia} {s : Lexer}

theorem start (s₀ : Lexer) (t : Trivia) :
    s₀.AfterTrivia t { s₀ with off := t.stop, newline := s₀.newline || t.newline } :=
  ⟨rfl, rfl, rfl, rfl, rfl, rfl, rfl, Reported.refl _⟩

theorem noteReport (h : s₀.AfterTrivia t s) {c : Code} (hc : isBalanceCode c = false)
    (r : Range) (a : Array Arg) : s₀.AfterTrivia t (s.noteReport r c a) :=
  ⟨h.same, h.off, h.lit, h.flags, h.done, h.bal, h.newline, h.quiet.quiet hc r a⟩

theorem lastDir (h : s₀.AfterTrivia t s) (r : Option Range) :
    s₀.AfterTrivia t { s with lastDir := r } :=
  ⟨h.same, h.off, h.lit, h.flags, h.done, h.bal, h.newline, h.quiet⟩

end Lexer.AfterTrivia

namespace LexM

/-- One note of the trivia scan, applied. -/
def applyNote : TriviaNote → LexM Unit
  | .unterminatedComment s => reportSpan s (s + 2) Code.lexUnterminatedComment
  | .malformedDirective s e msg => reportSpan s e Code.lexMalformedDirective #[.str msg]
  | .keptDirective s e => do
    let r ← rangeOf s e
    modify fun lx => { lx with lastDir := some r }

theorem applyTrivia_eq (t : Trivia) :
    applyTrivia t = (do
      modify fun lx => { lx with off := t.stop, newline := lx.newline || t.newline }
      for n in t.notes do applyNote n) := by
  unfold applyTrivia
  congr 1
  funext _
  refine congrArg (forIn (m := LexM) t.notes PUnit.unit) (funext fun n => funext fun _ => ?_)
  cases n <;> rfl

theorem applyNote_spec (n : TriviaNote) (s₀ : Lexer) (t : Trivia) :
    ⦃fun s => ⌜Lexer.AfterTrivia s₀ t s⌝⦄ applyNote n ⦃⇓ _ s => ⌜Lexer.AfterTrivia s₀ t s⌝⦄ := by
  cases n <;> mvcgen -trivial [applyNote, reportSpan, rangeOf]
  · exact ‹Lexer.AfterTrivia _ _ _›.noteReport (by decide) _ _
  · exact ‹Lexer.AfterTrivia _ _ _›.noteReport (by decide) _ _
  · exact ‹Lexer.AfterTrivia _ _ _›.lastDir _

theorem applyTrivia_spec (t : Trivia) (s₀ : Lexer) :
    ⦃fun s => ⌜s = s₀⌝⦄ applyTrivia t ⦃⇓ _ s => ⌜Lexer.AfterTrivia s₀ t s⌝⦄ := by
  rw [applyTrivia_eq]
  -- each spec lemma goes to mvcgen as a hypothesis, so that this proof does not wait for the
  -- lemma's own proof to be checked
  have happlyNote := @applyNote_spec
  mvcgen -trivial [happlyNote]
  invariants
  · ⇓⟨_, _⟩ s => ⌜Lexer.AfterTrivia s₀ t s⌝
  -- the note spec's ghost tokenizer and trivia are those of the invariant
  case step.pre => assumption
  case step.post.success => assumption
  case pre => subst ‹_ = s₀›; exact Lexer.AfterTrivia.start _ t
  case post.success => assumption

end LexM

/-! ### The end token -/

/-- The tokenizer part way through the checks of the end, from `s₀`, with the balance
diagnostics `bs` made so far. -/
structure Lexer.Closing (s₀ : Lexer) (bs : List Notice) (s : Lexer) : Prop where
  fixed : s.fixed = s₀.fixed
  cursor : s.off = s₀.off
  lit : s.lit = s₀.lit
  blank : s.flags.wasBlank = s₀.flags.wasBlank
  done : s.done = true
  menu : s.flags.awaitMenu = false
  bal : s.bal = s₀.bal
  notes : Reported s₀.env.engine s.env.engine bs

/-- What `eof` does from `s₀`: the end token at the end of the text; the first time, the
tokenizer is finished and every counter left open is reported. -/
structure Lexer.Ended (s₀ : Lexer) (t : Token) (s : Lexer) : Prop where
  kind : t.kind = .eof
  unit : t.unit = s₀.unit.id
  off : t.off = s₀.text.size
  len : t.len = 0
  fixed : s.fixed = s₀.fixed
  cursor : s.off = s₀.off
  lit : s.lit = s₀.lit
  blank : s.flags.wasBlank = s₀.flags.wasBlank
  done : s.done = true
  menu : s.flags.awaitMenu = true → s₀.done = true ∧ s₀.flags.awaitMenu = true
  bal : s.bal = s₀.bal
  notes : Reported s₀.env.engine s.env.engine
    (if s₀.done then [] else s₀.bal.openNotes (Range.make s₀.unit.id s₀.text.size s₀.text.size))

/-- The end token of `s₀`. -/
def Lexer.endToken (s₀ : Lexer) : Token := ⟨.eof, s₀.unit.id, s₀.text.size, 0, s₀.newline, 0, 0⟩

namespace Lexer.Closing

variable {s₀ s : Lexer} {bs : List Notice}

theorem start (s₀ s : Lexer) (hf : s.fixed = s₀.fixed) (hoff : s.off = s₀.off)
    (hlit : s.lit = s₀.lit) (hblank : s.flags.wasBlank = s₀.flags.wasBlank) (hd : s.done = true)
    (hmenu : s.flags.awaitMenu = false) (hbal : s.bal = s₀.bal)
    (hq : Reported s₀.env.engine s.env.engine []) :
    s₀.Closing [] s :=
  ⟨hf, hoff, hlit, hblank, hd, hmenu, hbal, hq⟩

/-- A counter left open is reported. -/
theorem report (h : s₀.Closing bs s) {p : Nat × String} (hp : p.1 > 0) (r : Range) :
    s₀.Closing (bs ++ openNotice r p)
      (s.noteReport r Code.lexUnbalancedOpen #[.str p.2.toUTF8, .int p.1]) := by
  simp only [openNotice, if_pos hp]
  exact ⟨h.fixed, h.cursor, h.lit, h.blank, h.done, h.menu, h.bal, h.notes.balance rfl _ _⟩

/-- A counter at zero is not. -/
theorem skip (h : s₀.Closing bs s) {p : Nat × String} (hp : ¬p.1 > 0) (r : Range) :
    s₀.Closing (bs ++ openNotice r p) s := by
  simpa [openNotice, hp] using h

theorem ended (h : s₀.Closing (s₀.bal.openNotes (Range.make s₀.unit.id s₀.text.size s₀.text.size)) s)
    (hd : s₀.done = false) : s₀.Ended s₀.endToken s where
  kind := rfl
  unit := rfl
  off := rfl
  len := rfl
  fixed := h.fixed
  cursor := h.cursor
  lit := h.lit
  blank := h.blank
  done := h.done
  menu := by simp [h.menu]
  bal := h.bal
  notes := by simpa [hd] using h.notes

end Lexer.Closing

theorem Lexer.ended_of_done {s₀ : Lexer} (hd : s₀.done = true) : s₀.Ended s₀.endToken s₀ where
  kind := rfl
  unit := rfl
  off := rfl
  len := rfl
  fixed := rfl
  cursor := rfl
  lit := rfl
  blank := rfl
  done := hd
  menu := fun h => ⟨hd, h⟩
  bal := rfl
  notes := by simpa [hd] using Reported.refl _

namespace LexM

theorem eof_spec (s₀ : Lexer) : ⦃fun s => ⌜s = s₀⌝⦄ eof ⦃⇓ t s => ⌜Lexer.Ended s₀ t s⌝⦄ := by
  mvcgen -trivial [eof, rangeOf, setFlags]
  -- the invariant is read off the counters already checked, the cursor's prefix
  invariants
  · ⇓ c s => ⌜Lexer.Closing s₀
      (c.1.1.flatMap (openNotice (Range.make s₀.unit.id s₀.text.size s₀.text.size))) s⌝
  · ⇓ c s => ⌜Lexer.Closing s₀
      (c.1.1.flatMap (openNotice (Range.make s₀.unit.id s₀.text.size s₀.text.size))) s⌝
  all_goals subst ‹_ = s₀›
  case step.isTrue | step.isTrue =>
    rw [List.flatMap_append, List.flatMap_singleton]
    exact ‹Lexer.Closing _ _ _›.report ‹_› _
  case step.isFalse | step.isFalse =>
    rw [List.flatMap_append, List.flatMap_singleton]
    exact ‹Lexer.Closing _ _ _›.skip ‹_› _
  case isTrue.isTrue.pre =>
    exact .start _ _ rfl rfl rfl rfl rfl rfl rfl ((Reported.refl _).quiet (by decide) _ _)
  case isTrue.isFalse.pre =>
    exact .start _ _ rfl rfl rfl rfl rfl (Bool.eq_false_iff.2 ‹¬_ = true›) rfl (Reported.refl _)
  case isTrue.isTrue.post.success | isTrue.isFalse.post.success =>
    exact ‹Lexer.Closing _ _ _›.ended (by simpa using ‹(!_) = true›)
  case isFalse => exact Lexer.ended_of_done (by simpa using ‹¬(!_) = true›)

end LexM

/-! ### The contract of one call -/

/-- The gap between two pieces of a split message ends before a piece, not at a newline. -/
theorem LexM.gapEnd_not_newline (bs : ByteArray) (i : Nat) (h : LexM.gapEnd bs i < bs.size) :
    (decodeAt bs (LexM.gapEnd bs i)).1 ≠ 0x0A := by
  fun_induction LexM.gapEnd bs i with
  | case1 _ _ _ _ ih => exact ih h
  | case2 _ _ _ _ _ ih => exact ih h
  | case3 i _ _ hnl _ =>
    intro hd
    have := (decodeAt_eq_newline hd).2
    simp_all +zetaDelta
  | case4 => omega

/-- The trivia from the cursor, as `next` skips it. -/
def Lexer.trivia (s : Lexer) : Trivia := Trivia.skip s.text s.mode s.off false #[]

/-- Where the next token starts: at the cursor inside a split message, where the trivia
ends otherwise. -/
def Lexer.tokenStart (s : Lexer) : Nat :=
  if s.lit.isSome then s.off else s.trivia.stop

/-- What a call that gives the token `t` does from `s`, leaving `s'`. -/
structure Lexer.Stepped (s : Lexer) (t : Token) (s' : Lexer) : Prop where
  ready : s'.Ready
  fixed : s'.fixed = s.fixed
  unit : t.unit = s.unit.id
  start : t.off = s.tokenStart
  named : t.kind ∈ TokenKind.named
  spans : t.kind ≠ .eof → t.Spans s.unit.id t.off s'.off ∧ t.off < s'.off
  eof : t.kind = .eof → t.off = s.text.size ∧ t.len = 0 ∧ s'.off = s.text.size ∧ s'.done = true
  done : t.kind ≠ .eof → s'.done = s.done
  bal : s'.bal = s.bal.push t.kind
  notes : Reported s.env.engine s'.env.engine (s.balanceNotes t)

/-- What a call that stops on a capacity error does from `s`, leaving `s'`. -/
structure Lexer.Stopped (s s' : Lexer) : Prop where
  ready : s'.Ready
  fixed : s'.fixed = s.fixed
  done : s'.done = s.done
  bal : s'.bal = s.bal
  quiet : Reported s.env.engine s'.env.engine []

/-- The snapshot of a tokenizer, as a scan from its cursor sees it. -/
def Lexer.snap (s : Lexer) : Snap := ⟨s.frame, s.off, s.env.engine⟩

theorem Within.here {s : Lexer} (h : s.off ≤ s.text.size) : Within s.snap s :=
  ⟨rfl, le_rfl, h, Reported.refl _⟩

/-- The counters ignore every kind but the brackets. -/
theorem Balances.push_of_plain (b : Balances) {k : TokenKind}
    (hk : k = .message ∨ k = .blank ∨ k = .directive ∨ k = .error) : b.push k = b := by
  rcases hk with rfl | rfl | rfl | rfl <;> rfl

theorem Lexer.balanceNotes_of_plain (s : Lexer) {t : Token}
    (hk : t.kind = .message ∨ t.kind = .blank ∨ t.kind = .directive ∨ t.kind = .error) :
    s.balanceNotes t = [] := by
  rcases hk with h | h | h | h <;> simp [Lexer.balanceNotes, Balances.closeNotes, h]

namespace Lexer

variable {s₀ s₁ s : Lexer} {t : Token}

/-- A piece of a split message, scanned from `s₁`, the tokenizer `s₀` with the blank flag
cleared. -/
theorem Stepped.piece (hr : s₀.Ready) {lit : OpenLiteral} (hl : s₀.lit = some lit)
    (h₁ : s₁ = { s₀ with flags := { s₀.flags with wasBlank := false } })
    (hs : Scanned s₁.snap t s) (hk : t.kind = lit.kind ∨ t.kind = .error) : s₀.Stepped t s := by
  subst h₁
  obtain ⟨⟨⟨hf, -, hhi, hq⟩, hlit⟩, hmoved, hspans⟩ := hs
  dsimp only [Lexer.snap] at hf hmoved hspans hq
  have hkind : lit.kind = .message := (hr.lit lit hl).1
  have hblank : s.flags.wasBlank = false := congrArg (fun f => f.flags.wasBlank) hf
  have hdone : s.done = s₀.done := congrArg Lexer.Frame.done hf
  have hunit : s.unit = s₀.unit := congrArg Lexer.Frame.unit hf
  have hplain : t.kind = .message ∨ t.kind = .blank ∨ t.kind = .directive ∨ t.kind = .error := by
    rcases hk with h | h
    · exact .inl (h.trans hkind)
    · exact .inr (.inr (.inr h))
  have hnd : s₀.done = false := by
    cases hd : s₀.done
    · rfl
    · simp [(hr.done hd).2.1] at hl
  refine ⟨⟨hhi, ?_, ?_, ?_⟩, by rw [Lexer.fixed, hf]; rfl, ?_, ?_, hspans.named, ?_, ?_, ?_, ?_, ?_⟩
  · intro l hl'
    obtain ⟨hk', hlt, hnl⟩ := hlit l hl'
    exact ⟨hk', hlt, by simp [hblank], fun _ => hnl⟩
  · simp [hblank]
  · simp [hdone, hnd]
  · rw [hspans.unit, hunit]
  · simp [hspans.off, Lexer.tokenStart, hl]
  · intro _
    have hoff := hspans.off
    rw [hunit] at hspans
    rw [hoff]
    exact ⟨hspans, hmoved⟩
  · intro h
    exact absurd h hspans.notEof
  · exact fun _ => hdone
  · rw [Balances.push_of_plain _ hplain]
    exact congrArg Lexer.Frame.bal hf
  · rw [Lexer.balanceNotes_of_plain _ hplain]
    exact hq

theorem Stopped.piece (hr : s₀.Ready) {lit : OpenLiteral} (hl : s₀.lit = some lit)
    (h₁ : s₁ = { s₀ with flags := { s₀.flags with wasBlank := false } })
    (hs : Settled s₁.snap s) : s₀.Stopped s := by
  subst h₁
  obtain ⟨⟨hf, -, hhi, hq⟩, hlit⟩ := hs
  dsimp only [Lexer.snap] at hf hq
  have hblank : s.flags.wasBlank = false := congrArg (fun f => f.flags.wasBlank) hf
  have hdone : s.done = s₀.done := congrArg Lexer.Frame.done hf
  have hnd : s₀.done = false := by
    cases hd : s₀.done
    · rfl
    · simp [(hr.done hd).2.1] at hl
  refine ⟨⟨hhi, ?_, ?_, ?_⟩, by rw [Lexer.fixed, hf]; rfl, hdone, congrArg Lexer.Frame.bal hf, hq⟩
  · intro l hl'
    obtain ⟨hk', hlt, hnl⟩ := hlit l hl'
    exact ⟨hk', hlt, by simp [hblank], fun _ => hnl⟩
  · simp [hblank]
  · simp [hdone, hnd]

/-- The blank token over the whitespace between two pieces of a split message. The message
stays open when a piece follows, and is closed as unterminated at the end of the text. -/
theorem Stepped.blank (hr : s₀.Ready) {lit : OpenLiteral} (hl : s₀.lit = some lit)
    (hb : s₀.flags.wasBlank = false) (hfixed : s.fixed = s₀.fixed)
    (hoff : s.off = LexM.gapEnd s₀.text s₀.off)
    (hlit : s.lit = if LexM.gapEnd s₀.text s₀.off < s₀.text.size then s₀.lit else none)
    (hblank : s.flags.wasBlank = decide (LexM.gapEnd s₀.text s₀.off < s₀.text.size))
    (hdone : s.done = s₀.done) (hbal : s.bal = s₀.bal)
    (hq : Reported s₀.env.engine s.env.engine []) :
    s₀.Stepped ⟨.blank, s₀.unit.id, s₀.off,
      min (LexM.gapEnd s₀.text s₀.off - s₀.off) maxTokenLen, false, 0, 0⟩ s := by
  obtain ⟨hkind, hlt, -, hnl⟩ := hr.lit lit hl
  have htext : s.text = s₀.text := Lexer.text_eq_of_fixed hfixed
  have hmoved := LexM.lt_gapEnd s₀.text s₀.off hlt (hnl hb)
  have hle := LexM.gapEnd_le s₀.text s₀.off hr.inside
  have hnd : s₀.done = false := by
    cases hd : s₀.done
    · rfl
    · simp [(hr.done hd).2.1] at hl
  have hnamed : TokenKind.blank ∈ TokenKind.named := by decide
  refine ⟨⟨?_, ?_, ?_, ?_⟩, hfixed, rfl, ?_, hnamed, fun _ => ⟨?_, ?_⟩, nofun, fun _ => hdone,
    ?_, ?_⟩
  · rw [hoff, htext]; exact hle
  · intro l hl'
    by_cases hstop : LexM.gapEnd s₀.text s₀.off < s₀.text.size
    · rw [hlit, if_pos hstop, hl] at hl'
      cases hl'
      refine ⟨hkind, by rw [hoff, htext]; exact hstop, fun _ => ?_, by simp [hblank, hstop]⟩
      rw [hoff, htext]
      exact LexM.gapEnd_not_newline s₀.text s₀.off hstop
    · simp [hlit, hstop] at hl'
  · intro h
    by_cases hstop : LexM.gapEnd s₀.text s₀.off < s₀.text.size
    · simp [hlit, hstop, hl]
    · simp [hblank, hstop] at h
  · simp [hdone, hnd]
  · simp [Lexer.tokenStart, hl]
  · exact ⟨rfl, rfl, by rw [hoff], fun _ => .inr rfl, hnamed, nofun⟩
  · rw [hoff]; exact hmoved
  · rw [hbal]; rfl
  · rw [Lexer.balanceNotes_of_plain _ (.inr (.inl rfl))]; exact hq

end Lexer

/-- A kind, unit, offset and length equal to those of `e`: the same token up to its flags
and payload. -/
structure Token.SameSpan (t e : Token) : Prop where
  kind : t.kind = e.kind
  unit : t.unit = e.unit
  off : t.off = e.off
  len : t.len = e.len

theorem Token.Spans.of_sameSpan {t e : Token} {unit start stop : Nat} (h : e.Spans unit start stop)
    (he : t.SameSpan e) : t.Spans unit start stop :=
  ⟨he.unit ▸ h.unit, he.off ▸ h.off, he.len ▸ h.len, he.kind ▸ h.clamped, he.kind ▸ h.named,
    he.kind ▸ h.notEof⟩

/-- A directive token with its test flag and line-start bit keeps the extent of the emitted
token. -/
theorem Token.sameSpan_retag (c : Bool) (e : Token) (f : UInt8) (b : Bool) :
    ({ (if c then { e with flags := f } else e) with lineStart := b } : Token).SameSpan e := by
  cases c <;> exact ⟨rfl, rfl, rfl, rfl⟩

theorem Lexer.reported_noteEmit {e : Option Engine} {s : Lexer} {bs : List Notice}
    (h : Reported e s.env.engine bs) (kind : TokenKind) (start : Nat) :
    Reported e (s.noteEmit kind start).env.engine bs := by
  unfold Lexer.noteEmit
  split
  · have hc : isBalanceCode Code.lexTokenTooLong = false := by decide
    simpa [hc] using
      h.diagnose (Range.make s.unit.id start s.off) Code.lexTokenTooLong #[.int maxTokenLen]
  · exact h

namespace Lexer

variable {s₀ s₁ s₂ s₃ s : Lexer} {t tok : Token}

@[simp] theorem noteEmit_flags (kind : TokenKind) (start : Nat) (s : Lexer) :
    (s.noteEmit kind start).flags = s.flags := by
  unfold noteEmit; split <;> rfl

@[simp] theorem noteEmit_done (kind : TokenKind) (start : Nat) (s : Lexer) :
    (s.noteEmit kind start).done = s.done := by
  unfold noteEmit; split <;> rfl

@[simp] theorem noteEmit_bal (kind : TokenKind) (start : Nat) (s : Lexer) :
    (s.noteEmit kind start).bal = s.bal := by
  unfold noteEmit; split <;> rfl

/-- Without an open literal the blank flag is clear. -/
theorem Ready.blank_false (hr : s.Ready) (hlit : s.lit = none) : s.flags.wasBlank = false := by
  cases hb : s.flags.wasBlank
  · rfl
  · simpa [hlit] using hr.blank hb

theorem Ready.trivia_stop (hr : s.Ready) : s.off ≤ s.trivia.stop ∧ s.trivia.stop ≤ s.text.size :=
  Trivia.skip_stop _ _ _ _ _ hr.inside

/-- Trivia that stops inside the text was skipped by a tokenizer that had not finished. -/
theorem Ready.not_done (hr : s₀.Ready) (ht : s₀.AfterTrivia s₀.trivia s₁)
    (hlt : s₁.off < s₁.text.size) : s₀.done = false := by
  cases hd : s₀.done
  · rfl
  · have hend := (hr.done hd).1
    have hstop : s₀.trivia.stop = s₀.off := by
      rw [Lexer.trivia, Trivia.skip_of_size_le _ _ _ _ _ (by omega)]
    rw [ht.off, hstop, Lexer.text_eq_of_fixed ht.same] at hlt
    omega

/-- A directive comment turned into a token. -/
theorem Stepped.directive (hr : s₀.Ready) (hlit : s₀.lit = none)
    (ht : s₀.AfterTrivia s₀.trivia s₁) {hit : DirectiveHit} (hd : s₀.trivia.directive = some hit)
    (hs : s = { s₁ with off := hit.stop }.noteEmit .directive hit.start)
    (htok : t.SameSpan (emitted .directive s₁.unit.id hit.start hit.stop).1) :
    s₀.Stepped t s := by
  obtain ⟨hstart, hlt, hle⟩ : hit.start = s₀.trivia.stop ∧ hit.start < hit.stop ∧
      hit.stop ≤ s₀.text.size := Trivia.skip_directive _ _ _ _ _ hr.inside hd
  have hunit : s₁.unit = s₀.unit := Lexer.unit_eq_of_fixed ht.same
  have htext : s₁.text = s₀.text := Lexer.text_eq_of_fixed ht.same
  have hnd : s₀.done = false := hr.not_done ht (by rw [ht.off, htext]; omega)
  have hspans := emitted_spans .directive (by decide) (by decide) s₁.unit.id hit.start hit.stop
  have hkind : t.kind = .directive ∨ t.kind = .error := htok.kind ▸ emitted_kind _ _ _ _
  have hplain : t.kind = .message ∨ t.kind = .blank ∨ t.kind = .directive ∨ t.kind = .error := by
    rcases hkind with h | h
    · exact .inr (.inr (.inl h))
    · exact .inr (.inr (.inr h))
  have hblank := hr.blank_false hlit
  have hoff : t.off = hit.start := htok.off.trans hspans.off
  subst hs
  refine ⟨⟨?_, ?_, ?_, ?_⟩, ?_, ?_, ?_, (hspans.of_sameSpan htok).named, fun _ => ⟨?_, ?_⟩, ?_,
    ?_, ?_, ?_⟩
  · simp only [Lexer.noteEmit_off, Lexer.noteEmit_text]
    rw [show ({ s₁ with off := hit.stop } : Lexer).text = s₀.text from htext]
    exact hle
  · intro l hl
    simp [ht.lit, hlit] at hl
  · simp [ht.flags, hblank]
  · simp [ht.done, hnd]
  · simp only [Lexer.fixed, Lexer.noteEmit_frame]
    exact ht.same
  · rw [htok.unit, hspans.unit, hunit]
  · simp [hoff, hstart, Lexer.tokenStart, hlit]
  · rw [← hunit, Lexer.noteEmit_off, hoff]
    exact hspans.of_sameSpan htok
  · rw [Lexer.noteEmit_off, hoff]
    exact hlt
  · intro h
    rcases hkind with h' | h' <;> simp [h'] at h
  · intro _
    simp [ht.done]
  · simp [Balances.push_of_plain _ hplain, ht.bal]
  · rw [Lexer.balanceNotes_of_plain _ hplain]
    exact Lexer.reported_noteEmit (s := { s₁ with off := hit.stop }) ht.quiet _ _

/-- The end token, given once the trivia reaches the end of the text. -/
theorem Stepped.atEnd (hr : s₀.Ready) (hlit : s₀.lit = none)
    (ht : s₀.AfterTrivia s₀.trivia s₁) (hge : s₁.off ≥ s₁.text.size) (he : s₁.Ended t s) :
    s₀.Stepped t s := by
  have hunit : s₁.unit = s₀.unit := Lexer.unit_eq_of_fixed ht.same
  have htext : s₁.text = s₀.text := Lexer.text_eq_of_fixed ht.same
  have hstop := hr.trivia_stop
  have hend : s₁.off = s₀.text.size := by rw [htext] at hge; rw [ht.off] at hge ⊢; omega
  have hblank := hr.blank_false hlit
  refine ⟨⟨?_, ?_, ?_, ?_⟩, he.fixed.trans ht.same, ?_, ?_, ?_, fun h => absurd he.kind h, ?_,
    fun h => absurd he.kind h, ?_, ?_⟩
  · rw [he.cursor, Lexer.text_eq_of_fixed he.fixed, htext, hend]
  · intro l hl
    simp [he.lit, ht.lit, hlit] at hl
  · simp [he.blank, ht.flags, hblank]
  · intro _
    refine ⟨by rw [he.cursor, Lexer.text_eq_of_fixed he.fixed, htext, hend], by
      rw [he.lit, ht.lit, hlit], ?_⟩
    cases hm : s.flags.awaitMenu
    · rfl
    · obtain ⟨hd, ha⟩ := he.menu hm
      rw [ht.done] at hd
      rw [ht.flags] at ha
      simp [(hr.done hd).2.2] at ha
  · rw [he.unit, hunit]
  · rw [he.off, Lexer.tokenStart, hlit, htext]
    simp only [Option.isSome_none, Bool.false_eq_true, if_false]
    rw [← ht.off, hend]
  · rw [he.kind]; decide
  · refine fun _ => ⟨by rw [he.off, htext], he.len, ?_, he.done⟩
    rw [he.cursor, hend]
  · rw [he.bal, ht.bal, he.kind]; rfl
  · have hn := ht.quiet.trans he.notes
    rw [ht.done, ht.bal, hunit, htext] at hn
    simpa [Lexer.balanceNotes, he.kind] using hn

/-- A significant token scanned from `s₂`, the tokenizer past the trivia with the line-start
bit taken, and updated by `after` into `s`. -/
theorem Stepped.scanned (hr : s₀.Ready) (hlit : s₀.lit = none)
    (ht : s₀.AfterTrivia s₀.trivia s₁) (hlt : s₁.off < s₁.text.size) {a d ls : Bool}
    (h₂ : s₂ = { s₁ with
      newline := false, flags := { s₁.flags with acceptLabel := a, acceptDialogue := d } })
    (hs : Scanned s₂.snap tok s₃) (hu : s₃.Updated { tok with lineStart := ls } t s) :
    s₀.Stepped t s := by
  subst h₂
  obtain ⟨⟨⟨hf, -, hhi, hq⟩, hlit₃⟩, hmoved, hspans⟩ := hs
  dsimp only [Lexer.snap] at hf hmoved hspans hq
  have hunit : s₁.unit = s₀.unit := Lexer.unit_eq_of_fixed ht.same
  have htext : s₁.text = s₀.text := Lexer.text_eq_of_fixed ht.same
  have hfixed : s.fixed = s₀.fixed := by
    rw [hu.same, Lexer.fixed, hf]
    exact ht.same
  -- the scan keeps the frame of `s₂`, which is that of `s₁` but for the line-start bits
  have hunit₃ : s₃.unit = s₀.unit := (congrArg Lexer.Frame.unit hf).trans hunit
  have hbal₃ : s₃.bal = s₁.bal := congrArg Lexer.Frame.bal hf
  have hdone₃ : s₃.done = s₁.done := congrArg Lexer.Frame.done hf
  have hblank₃ : s₃.flags.wasBlank = s₁.flags.wasBlank := congrArg (fun f => f.flags.wasBlank) hf
  have hblank : s.flags.wasBlank = false := by
    rw [hu.blank, hblank₃, ht.flags]
    exact hr.blank_false hlit
  have hdone : s.done = s₀.done := by
    rw [hu.done, hdone₃]
    exact ht.done
  have hnd : s₀.done = false := hr.not_done ht hlt
  have hsame : t.SameSpan tok := ⟨hu.kind, hu.unit, hu.off, hu.len⟩
  have hnotEof : t.kind ≠ .eof := hsame.kind ▸ hspans.notEof
  refine ⟨⟨?_, ?_, ?_, ?_⟩, hfixed, ?_, ?_, (hspans.of_sameSpan hsame).named,
    fun _ => ⟨?_, ?_⟩, fun h => absurd h hnotEof, fun _ => hdone, ?_, ?_⟩
  · rw [hu.cursor, Lexer.text_eq_of_fixed hu.same]
    exact hhi
  · intro l hl
    rw [hu.lit] at hl
    obtain ⟨hk, hlt', hnl⟩ := hlit₃ l hl
    rw [hu.cursor, Lexer.text_eq_of_fixed hu.same]
    exact ⟨hk, hlt', by simp [hblank], fun _ => hnl⟩
  · simp [hblank]
  · simp [hdone, hnd]
  · rw [hsame.unit, hspans.unit, hunit₃]
  · rw [hsame.off, hspans.off, Lexer.tokenStart, hlit]
    exact ht.off
  · rw [hsame.off, hspans.off, ← hunit₃, hu.cursor]
    exact hspans.of_sameSpan hsame
  · rw [hsame.off, hspans.off, hu.cursor]
    exact hmoved
  · rw [hu.bal, hsame.kind, hbal₃, ht.bal]
  · have hn := ht.quiet.trans (hq.trans hu.notes)
    rw [hbal₃, ht.bal] at hn
    have hr' : t.range = ({ tok with lineStart := ls } : Token).range := by
      simp [Token.range, hsame.unit, hsame.off, hsame.len]
    simpa [Lexer.balanceNotes, hr', hsame.kind, hspans.notEof] using hn

/-- A scan stopped by a capacity error. -/
theorem Stopped.scan (hr : s₀.Ready) (hlit : s₀.lit = none)
    (ht : s₀.AfterTrivia s₀.trivia s₁) (hlt : s₁.off < s₁.text.size) {a d : Bool}
    (h₂ : s₂ = { s₁ with
      newline := false, flags := { s₁.flags with acceptLabel := a, acceptDialogue := d } })
    (hs : Settled s₂.snap s) : s₀.Stopped s := by
  subst h₂
  obtain ⟨⟨hf, -, hhi, hq⟩, hlit₃⟩ := hs
  dsimp only [Lexer.snap] at hf hq
  have hbal : s.bal = s₁.bal := congrArg Lexer.Frame.bal hf
  have hblank : s.flags.wasBlank = false := by
    have h : s.flags.wasBlank = s₁.flags.wasBlank := congrArg (fun f => f.flags.wasBlank) hf
    rw [h, ht.flags]
    exact hr.blank_false hlit
  have hdone : s.done = s₀.done := by
    have h : s.done = s₁.done := congrArg Lexer.Frame.done hf
    rw [h]
    exact ht.done
  have hnd : s₀.done = false := hr.not_done ht hlt
  refine ⟨⟨hhi, ?_, by simp [hblank], by simp [hdone, hnd]⟩, ?_, hdone, ?_, ?_⟩
  · intro l hl
    obtain ⟨hk, hlt', hnl⟩ := hlit₃ l hl
    exact ⟨hk, hlt', by simp [hblank], fun _ => hnl⟩
  · rw [Lexer.fixed, hf]
    exact ht.same
  · rw [hbal, ht.bal]
  · simpa using ht.quiet.trans hq

end Lexer

namespace LexM

theorem continueMessage_spec (lit : OpenLiteral) (s₀ : Lexer) :
    ⦃fun s => ⌜s = s₀ ∧ s₀.Ready ∧ s₀.lit = some lit⌝⦄ continueMessage lit
    ⦃post⟨fun t s => ⌜Lexer.Stepped s₀ t s⌝, fun _ s => ⌜Lexer.Stopped s₀ s⌝⟩⦄ := by
  have hscanLiteral := @scanLiteral_spec
  mvcgen -trivial [continueMessage, hscanLiteral, setFlags, seek]
  -- the piece is scanned from the tokenizer with the blank flag cleared
  case g => exact Lexer.snap ‹Unit × Lexer›.2
  case isTrue.pre =>
    obtain ⟨rfl, hr, hl⟩ := ‹_ = s₀ ∧ _›
    obtain ⟨hkind, hlt, hnl, -⟩ := hr.lit lit hl
    refine ⟨by rw [hkind]; decide, by rw [hkind]; decide, Within.here ?_, rfl,
      .inr ⟨hlt, hnl ‹_›⟩⟩
    exact hr.inside
  all_goals obtain ⟨rfl, hr, hl⟩ := ‹_ = s₀ ∧ _›
  case isTrue.post.success => exact fun hs hk => Lexer.Stepped.piece hr hl rfl hs hk
  case isTrue.post.except.handle => exact fun hs => Lexer.Stopped.piece hr hl rfl hs
  case isFalse.isTrue =>
    have hstop : ¬LexM.gapEnd _ _ < _ := not_lt.2 ‹_ ≥ _›
    exact Lexer.Stepped.blank hr hl (by simpa using ‹¬_ = true›) rfl rfl (by rw [if_neg hstop]; rfl)
      (by rw [decide_eq_false hstop]; rfl) rfl rfl ((Reported.refl _).quiet (by decide) _ _)
  case isFalse.isFalse =>
    have hstop : LexM.gapEnd _ _ < _ := not_le.1 ‹¬_ ≥ _›
    exact Lexer.Stepped.blank hr hl (by simpa using ‹¬_ = true›) rfl rfl (by rw [if_pos hstop])
      (by rw [decide_eq_true hstop]) rfl rfl (Reported.refl _)

theorem next_spec (s₀ : Lexer) :
    ⦃fun s => ⌜s = s₀ ∧ s₀.Ready⌝⦄ next
    ⦃post⟨fun t s => ⌜Lexer.Stepped s₀ t s⌝, fun _ s => ⌜Lexer.Stopped s₀ s⌝⟩⦄ := by
  have hcontinueMessage := @continueMessage_spec
  have happlyTrivia := @applyTrivia_spec
  have heof := @eof_spec
  have hafter := @after_spec
  mvcgen -trivial [next, hcontinueMessage, happlyTrivia, heof, scan_spec,
    hafter, setFlags, seek]
  -- each scan starts from the tokenizer past the trivia, with the line-start bits taken
  case g => exact Lexer.snap ‹Unit × Lexer›.2
  case g => exact Lexer.snap ‹Unit × Lexer›.2
  all_goals obtain ⟨rfl, hr⟩ := ‹_ = s₀ ∧ _›
  case h_1 => exact ⟨rfl, hr, ‹_›⟩
  -- past the test for an open literal: none is open, and the trivia has been applied
  all_goals
    have hlit : _ = none := Eq.trans ‹(_ : Lexer).lit = _›
      (Option.eq_none_iff_forall_ne_some.2 ‹∀ lit : OpenLiteral, _ = some lit → False›)
    have ht := ‹Lexer.AfterTrivia _ _ _›
  case h_2.post.success.h_1 =>
    exact Lexer.Stepped.directive hr hlit ht ‹_› rfl (Token.sameSpan_retag _ _ _ _)
  case h_2.post.success.h_2.isTrue.post.success =>
    exact fun he => Lexer.Stepped.atEnd hr hlit ht ‹_ ≥ _› he
  case isTrue.pre | isFalse.pre =>
    have hlt := not_le.1 ‹¬_ ≥ _›
    exact ⟨Within.here (le_of_lt hlt), rfl, hlt, ht.lit.trans hlit⟩
  case isTrue.post.success.post.success | isFalse.post.success.post.success =>
    exact fun hu => Lexer.Stepped.scanned hr hlit ht (not_le.1 ‹¬_ ≥ _›) rfl ‹Scanned _ _ _› hu
  case isTrue.post.except.handle | isFalse.post.except.handle =>
    exact fun hs => Lexer.Stopped.scan hr hlit ht (not_le.1 ‹¬_ ≥ _›) rfl hs

end LexM

end NovelScript

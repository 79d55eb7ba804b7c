import Mathlib
import NovelScript.Proofs.Lexer.Core
import NovelScript.Proofs.Lexer.Cover
import NovelScript.Proofs.Lexer.Lookahead
/-!
# Directive modes

The directive mode decides only what becomes of `//::` comments.
-/

namespace NovelScript

open Utf8 Chars

namespace Trivia

/-- The trivia `t`, read after trivia that crossed a newline when `nl` holds and noted `ns`. -/
def preceded (t : Trivia) (nl : Bool) (ns : Array TriviaNote) : Trivia :=
  ⟨t.stop, nl || t.newline, ns ++ t.notes, t.directive⟩

theorem skip_preceded (bs : ByteArray) (m : DirectiveMode) (i : Nat) (nl : Bool)
    (ns : Array TriviaNote) (nl' : Bool) (ns' : Array TriviaNote) :
    (skip bs m i nl ns).preceded nl' ns' = skip bs m i (nl' || nl) (ns' ++ ns) := by
  fun_induction skip bs m i nl ns with
  | case1 i nl ns hi b hb ih =>
    rw [ih]
    conv_rhs => rw [skip]
    simp +zetaDelta [hi, hb]
  | case2 i nl ns hi b hnb hb ih =>
    rw [ih]
    conv_rhs => rw [skip]
    simp +zetaDelta [hi, hnb, hb]
  | case3 i nl ns hi b hnb hnl hsp ih =>
    rw [ih]
    conv_rhs => rw [skip]
    simp +zetaDelta [hi, hnb, hnl, hsp]
  | case4 i nl ns hi b b1 hnb hnl hsp hsl hocc stop hm ih =>
    subst hm
    rw [ih]
    conv_rhs => rw [skip]
    simp +zetaDelta [hi, hnb, hnl, hsp, hsl, hocc]
  | case5 i nl ns hi b b1 hnb hnl hsp hsl hocc stop hm ih =>
    subst hm
    rw [ih]
    conv_rhs => rw [skip]
    simp +zetaDelta [hi, hnb, hnl, hsp, hsl, hocc]
  | case6 i nl ns hi b b1 hnb hnl hsp hsl hocc stop test err hcl notes htest hni hnk ih =>
    rw [if_pos htest, ih]
    conv_rhs => rw [skip]
    -- the call went on only in the tests mode, past a comment that is no expectation
    obtain ⟨rfl, rfl⟩ : m = .tests ∧ test = false := by simpa using htest
    cases err <;> simp +zetaDelta [hi, hnb, hnl, hsp, hsl, hocc, hcl]
  | case7 i nl ns hi b b1 hnb hnl hsp hsl hocc stop test err hcl notes htest hni hnk =>
    rw [if_neg htest]
    conv_rhs => rw [skip]
    -- a directive is returned in the emit mode, and in the tests mode for an expectation
    obtain rfl | ⟨rfl, rfl⟩ : m = .emit ∨ m = .tests ∧ test = true := by
      cases m <;> simp_all
    all_goals cases err <;> simp +zetaDelta [hi, hnb, hnl, hsp, hsl, hocc, hcl, preceded]
  | case8 i nl ns hi b b1 hnb hnl hsp hsl hocc ih =>
    rw [ih]
    conv_rhs => rw [skip]
    simp +zetaDelta [hi, hnb, hnl, hsp, hsl, hocc]
  | case9 i nl ns hi b b1 hnb hnl hsp hsl hbl stop closed nl2 hblk notes ih =>
    rw [ih]
    conv_rhs => rw [skip]
    cases closed <;> simp +zetaDelta [hi, hnb, hnl, hsp, hsl, hbl, hblk, Bool.or_assoc]
  | case10 i nl ns hi b b1 hnb hnl hsp hsl hbl =>
    conv_rhs => rw [skip]
    simp +zetaDelta [hi, hnb, hnl, hsp, hsl, hbl, preceded]
  | case11 i nl ns hi =>
    conv_rhs => rw [skip]
    simp [hi, preceded]

@[simp] theorem preceded_preceded (t : Trivia) (nl nl' : Bool) (ns ns' : Array TriviaNote) :
    (t.preceded nl ns).preceded nl' ns' = t.preceded (nl' || nl) (ns' ++ ns) := by
  simp [preceded, Bool.or_assoc]

@[simp] theorem preceded_none (t : Trivia) : t.preceded false #[] = t := by
  simp [preceded]

/-- Trivia read after a newline and some notes is the trivia read fresh, preceded by them. -/
theorem skip_eq_preceded (bs : ByteArray) (m : DirectiveMode) (i : Nat) (nl : Bool)
    (ns : Array TriviaNote) : skip bs m i nl ns = (skip bs m i false #[]).preceded nl ns := by
  simp [skip_preceded]

/-- A directive comment opens with two slashes. -/
theorem prefix_bytes {bs : ByteArray} {i : Nat} (h : Bytes.occursAt bs Directive.prefixText i = true) :
    byteAt bs i = 0x2F ∧ byteAt bs (i + 1) = 0x2F := by
  simp only [Bytes.occursAt, Bool.and_eq_true, List.all_eq_true, List.mem_range, beq_iff_eq] at h
  have h4 : Directive.prefixText.size = 4 := by decide
  exact ⟨by simpa using (h.2 0 (by omega)).trans (by decide), (h.2 1 (by omega)).trans (by decide)⟩

/-- The notes of a directive comment from `i` to `stop` whose body claims to be an
expectation and does not parse. -/
def malformedNotes (bs : ByteArray) (i stop : Nat) : Array TriviaNote :=
  match (classify (bs.extract i stop)).2 with
  | some msg => #[.malformedDirective i stop msg]
  | none => #[]

/-- What mode `m` notes about a directive comment from `i` to `stop` that it skips: nothing
when directives are ignored, the comment itself when the last one is kept, and in tests mode
a body that claims to be an expectation and does not parse. -/
def commentNotes (m : DirectiveMode) (bs : ByteArray) (i stop : Nat) : Array TriviaNote :=
  match m with
  | .ignore => #[]
  | .keepLast => #[.keptDirective i stop]
  | _ => malformedNotes bs i stop

/-- In tests mode a directive comment is trivia exactly when the scan finds no test in it. -/
theorem skipsComment_tests_iff (c : ByteArray) :
    DirectiveMode.tests.SkipsComment c ↔ (classify c).1 = false := by
  refine ⟨fun h => ?_, parse_ne_of_classify⟩
  unfold classify
  dsimp only
  split
  · split
    · next e he => exact absurd he (h e)
    · rfl
  · rfl

section AtDirective

variable {bs : ByteArray} {i : Nat} (hocc : Bytes.occursAt bs Directive.prefixText i = true)
  (m : DirectiveMode) (nl : Bool) (ns : Array TriviaNote)
include hocc

/-- The trivia scan at a directive comment, by the mode: unfolded once. -/
theorem skip_at_directive :
    skip bs m i nl ns = match m with
      | .ignore => skip bs m (directiveEnd bs i) nl ns
      | .keepLast => skip bs m (directiveEnd bs i) nl (ns.push (.keptDirective i (directiveEnd bs i)))
      | _ =>
        if m = .tests ∧ (classify (bs.extract i (directiveEnd bs i))).1 = false then
          skip bs m (directiveEnd bs i) nl (ns ++ malformedNotes bs i (directiveEnd bs i))
        else ⟨i, nl, ns ++ malformedNotes bs i (directiveEnd bs i),
          some ⟨i, directiveEnd bs i, (classify (bs.extract i (directiveEnd bs i))).1⟩⟩ := by
  obtain ⟨hstop, -, -⟩ := directive_extent hocc
  have hroom := prefix_room hocc
  obtain ⟨h0, h1⟩ := prefix_bytes hocc
  have hsp : spaceAt bs i = false := by simp [spaceAt, h0]
  rw [skip, if_pos (by omega)]
  simp only [h0, h1, hsp, hocc, hstop]
  rw [if_neg (by decide), if_neg (by decide), if_neg (by decide), if_pos (by decide), if_pos trivial]
  -- emit and tests mode note a malformed body first, then hand the comment out or skip it
  cases m <;> simp only
  all_goals
    unfold malformedNotes
    rcases classify (bs.extract i (directiveEnd bs i)) with ⟨test, _ | msg⟩ <;> simp

/-- A mode that skips the directive comment goes on after it, with its notes on it. -/
theorem skip_of_skips (hs : m.SkipsComment (bs.extract i (directiveEnd bs i))) :
    skip bs m i nl ns =
      skip bs m (directiveEnd bs i) nl (ns ++ commentNotes m bs i (directiveEnd bs i)) := by
  rw [skip_at_directive hocc]
  cases m with
  | ignore => simp [commentNotes]
  | keepLast => simp [commentNotes]
  | emit => exact hs.elim
  | tests => exact if_pos ⟨rfl, (skipsComment_tests_iff _).1 hs⟩

/-- A mode that does not skip the directive comment stops at it and hands it out. -/
theorem skip_of_not_skips (hs : ¬m.SkipsComment (bs.extract i (directiveEnd bs i))) :
    skip bs m i nl ns = ⟨i, nl, ns ++ malformedNotes bs i (directiveEnd bs i),
      some ⟨i, directiveEnd bs i, (classify (bs.extract i (directiveEnd bs i))).1⟩⟩ := by
  rw [skip_at_directive hocc]
  cases m with
  | ignore | keepLast => exact absurd trivial hs
  | emit => exact if_neg (by simp)
  | tests => exact if_neg fun h => hs ((skipsComment_tests_iff _).2 h.2)

end AtDirective

/-- The directive comment `hit` is one at its start, ends where such a comment ends, and is a
test exactly when its text classifies as one. -/
def HitAt (bs : ByteArray) (hit : DirectiveHit) : Prop :=
  Bytes.occursAt bs Directive.prefixText hit.start = true ∧ hit.stop = directiveEnd bs hit.start ∧
    hit.test = (classify (bs.extract hit.start hit.stop)).1

/-- How every mode reads the trivia from `i`, given what emit mode reads there (`t`): all alike
when emit mode meets no directive comment, and alike up to the one it stops at otherwise. -/
def EmitSplit (bs : ByteArray) (i : Nat) (nl : Bool) (ns : Array TriviaNote) (t : Trivia) : Prop :=
  match t.directive with
  | none => ∀ m, skip bs m i nl ns = t
  | some hit => HitAt bs hit ∧ t.stop = hit.start ∧
      ∃ nl' pre, ∀ m, skip bs m i nl ns = skip bs m hit.start nl' pre

theorem EmitSplit.step {bs : ByteArray} {i i' : Nat} {nl nl' : Bool} {ns ns' : Array TriviaNote}
    {t : Trivia} (h : ∀ m, skip bs m i nl ns = skip bs m i' nl' ns') (ih : EmitSplit bs i' nl' ns' t) :
    EmitSplit bs i nl ns t := by
  unfold EmitSplit at ih ⊢
  split
  · next hd =>
    simp only [hd] at ih
    exact fun m => (h m).trans (ih m)
  · next hit hd =>
    simp only [hd] at ih
    obtain ⟨hat, hst, nl'', pre, hp⟩ := ih
    exact ⟨hat, hst, nl'', pre, fun m => (h m).trans (hp m)⟩

/-- Every mode reads trivia as emit mode does, up to the first directive comment. -/
theorem skip_by_emit (bs : ByteArray) (i : Nat) (nl : Bool) (ns : Array TriviaNote) :
    EmitSplit bs i nl ns (skip bs .emit i nl ns) := by
  fun_induction skip bs .emit i nl ns with
  | case1 i nl ns hi b hb ih =>
    refine ih.step fun m => ?_
    conv_lhs => rw [skip]
    simp +zetaDelta [hi, hb]
  | case2 i nl ns hi b hnb hb ih =>
    refine ih.step fun m => ?_
    conv_lhs => rw [skip]
    simp +zetaDelta [hi, hnb, hb]
  | case3 i nl ns hi b hnb hnl hsp ih =>
    refine ih.step fun m => ?_
    conv_lhs => rw [skip]
    simp +zetaDelta [hi, hnb, hnl, hsp]
  | case4 _ _ _ _ _ _ _ _ _ _ _ _ hm | case5 _ _ _ _ _ _ _ _ _ _ _ _ hm => cases hm
  | case6 _ _ _ _ _ _ _ _ _ _ _ _ _ _ _ _ htest => simp at htest
  | case7 i nl ns hi b b1 hnb hnl hsp hsl hocc stop test err hcl notes htest =>
    rw [if_neg htest]
    obtain ⟨hstop, -, -⟩ := directive_extent hocc
    simp only [stop, hstop] at hcl ⊢
    exact ⟨⟨hocc, rfl, by rw [hcl]⟩, rfl, nl, ns, fun _ => rfl⟩
  | case8 i nl ns hi b b1 hnb hnl hsp hsl hocc ih =>
    refine ih.step fun m => ?_
    conv_lhs => rw [skip]
    simp +zetaDelta [hi, hnb, hnl, hsp, hsl, hocc]
  | case9 i nl ns hi b b1 hnb hnl hsp hsl hbl stop closed nl2 hblk notes ih =>
    refine ih.step fun m => ?_
    conv_lhs => rw [skip]
    cases closed <;> simp +zetaDelta [hi, hnb, hnl, hsp, hsl, hbl, hblk]
  | case10 i nl ns hi b b1 hnb hnl hsp hsl hbl =>
    intro m
    conv_lhs => rw [skip]
    simp +zetaDelta [hi, hnb, hnl, hsp, hsl, hbl]
  | case11 i nl ns hi => exact fun m => skip_of_size_le bs m i nl ns (by omega)

end Trivia

namespace TriviaNote

/-- What a trivia note reports to the engine, for the unit `uid`. -/
def notices (uid : Nat) : TriviaNote → List Notice
  | .unterminatedComment s => [(Range.make uid s (s + 2), Code.lexUnterminatedComment, #[])]
  | .malformedDirective s e msg => [(Range.make uid s e, Code.lexMalformedDirective, #[.str msg])]
  | .keptDirective _ _ => []

/-- The reports the notes `ns` make, in order. -/
def noticesOf (uid : Nat) (ns : List TriviaNote) : List Notice :=
  ns.flatMap (notices uid)

theorem noticesOf_append (uid : Nat) (ns ns' : List TriviaNote) :
    noticesOf uid (ns ++ ns') = noticesOf uid ns ++ noticesOf uid ns' :=
  List.flatMap_append

/-- The last directive remembered once the note is applied, `l` before it. -/
def keep (uid : Nat) (l : Option Range) : TriviaNote → Option Range
  | .keptDirective s e => some (Range.make uid s e)
  | _ => l

end TriviaNote

/-- Emit mode remembers no directive: its notes leave the last directive as it was. -/
theorem Trivia.skip_emit_keep (bs : ByteArray) (i : Nat) (nl : Bool) (ns : Array TriviaNote)
    (uid : Nat) (l : Option Range) :
    (Trivia.skip bs .emit i nl ns).notes.toList.foldl (TriviaNote.keep uid) l =
      ns.toList.foldl (TriviaNote.keep uid) l := by
  fun_induction Trivia.skip bs .emit i nl ns with
  | case4 _ _ _ _ _ _ _ _ _ _ _ _ hm | case5 _ _ _ _ _ _ _ _ _ _ _ _ hm => cases hm
  | case6 _ _ _ _ _ _ _ _ _ _ _ _ _ _ _ _ htest => simp at htest
  | case7 i nl ns hi b b1 hnb hnl hsp hsl hocc stop test err hcl notes htest =>
    rw [if_neg htest]
    cases err <;> simp [notes, TriviaNote.keep]
  | case9 i nl ns hi b b1 hnb hnl hsp hsl hbl stop closed nl2 hblk notes ih =>
    rw [ih]
    cases closed <;> simp [notes, TriviaNote.keep]
  | case1 _ _ _ _ _ _ ih | case2 _ _ _ _ _ _ _ ih | case3 _ _ _ _ _ _ _ _ ih
  | case8 _ _ _ _ _ _ _ _ _ _ _ ih => exact ih
  | case10 | case11 => rfl

/-- The tokenizer `s` moved to `i`, having crossed a newline when `nl` holds. -/
def Lexer.moved (s : Lexer) (i : Nat) (nl : Bool) : Lexer :=
  { s with off := i, newline := s.newline || nl }

@[simp] theorem Lexer.moved_moved (s : Lexer) (i j : Nat) (a b : Bool) :
    (s.moved i a).moved j b = s.moved j (a || b) := by
  simp [Lexer.moved, Bool.or_assoc]

theorem Lexer.core_moved (s : Lexer) (i : Nat) (nl : Bool) : (s.moved i nl).core = s.core.moved i nl :=
  rfl

/-- The tokenizer after the notes `ns` are applied: their reports handed to the engine in
order, and the last directive remembered. -/
def Lexer.noted (s : Lexer) (ns : List TriviaNote) : Lexer :=
  { s with lastDir := ns.foldl (TriviaNote.keep s.unit.id) s.lastDir,
           env := { s.env with engine := diagnoseAll (ns.flatMap (TriviaNote.notices s.unit.id)) s.env.engine } }

@[simp] theorem Lexer.moved_unit (s : Lexer) (i : Nat) (nl : Bool) : (s.moved i nl).unit = s.unit := rfl

@[simp] theorem Lexer.moved_env (s : Lexer) (i : Nat) (nl : Bool) : (s.moved i nl).env = s.env := rfl

@[simp] theorem Lexer.moved_lastDir (s : Lexer) (i : Nat) (nl : Bool) :
    (s.moved i nl).lastDir = s.lastDir := rfl

@[simp] theorem Lexer.noted_lastDir (s : Lexer) (ns : List TriviaNote) :
    (s.noted ns).lastDir = ns.foldl (TriviaNote.keep s.unit.id) s.lastDir := rfl

@[simp] theorem Lexer.noted_engine (s : Lexer) (ns : List TriviaNote) :
    (s.noted ns).env.engine = diagnoseAll (TriviaNote.noticesOf s.unit.id ns) s.env.engine := rfl

theorem Lexer.noted_cons (s : Lexer) (n : TriviaNote) (ns : List TriviaNote) :
    s.noted (n :: ns) = (s.noted [n]).noted ns := by
  simp only [Lexer.noted, List.foldl_cons, List.foldl_nil, List.flatMap_cons, List.flatMap_nil,
    List.append_nil, diagnoseAll_append]

namespace LexM

/-- The token of the directive comment `hit` that the trivia scan stopped at. -/
def hitToken (hit : DirectiveHit) : ScanM Token := do
  seek hit.stop
  let (tok, ok) ← emit .directive hit.start
  let tok := if ok && hit.test then { tok with flags := TokenFlag.testDirective } else tok
  return { tok with lineStart := (← get).newline }

/-- After the trivia: the end token at the end of the text, otherwise one significant token. -/
def significant : ScanM Token := do
  let lx ← get
  if lx.off ≥ lx.text.size then return (← eof)
  let lineStart := lx.newline
  modify fun lx => { lx with newline := false }
  if lineStart then setFlags fun f => { f with acceptLabel := true, acceptDialogue := true }
  let tok ← scan
  after { tok with lineStart := lineStart }

theorem applyNote_run (n : TriviaNote) (s : Lexer) : (applyNote n).run s = ((), s.noted [n]) := by
  -- the engine, if any, gets the note's report
  obtain ⟨_, _, ⟨_, _, _ | _⟩⟩ := s <;> cases n <;> rfl

theorem applyNotes_run (ns : List TriviaNote) (s : Lexer) :
    (forIn ns PUnit.unit fun n _ => do applyNote n; pure (ForInStep.yield PUnit.unit)).run s =
      ((), s.noted ns) := by
  induction ns generalizing s with
  | nil => rfl
  | cons n ns ih =>
    rw [List.forIn_cons, OnCore.run_bind, OnCore.run_bind, applyNote_run]
    exact (ih _).trans (by rw [Lexer.noted_cons s n ns]; rfl)

/-- Applying the trivia moves the cursor to its end, records a crossed newline, and applies
its notes. -/
theorem applyTrivia_run (t : Trivia) (s : Lexer) :
    (applyTrivia t).run s = ((), (s.moved t.stop t.newline).noted t.notes.toList) := by
  rw [applyTrivia_eq, OnCore.run_bind, ← Array.forIn_toList]
  exact applyNotes_run _ _

theorem seek_run (i : Nat) (s : Lexer) : (seek i).run s = ((), { s with off := i }) := rfl

theorem run_get_bind {β : Type} (k : Lexer → ScanM β) (s : Lexer) :
    (get >>= k).run.run s = (k s).run.run s := rfl

theorem run_lift_bind {α β : Type} (x : LexM α) (k : α → ScanM β) (s : Lexer) :
    (liftM x >>= k : ScanM β).run.run s = (k (x.run s).1).run.run (x.run s).2 := rfl

/-- The token of the directive comment `hit` in the unit `uid`, starting a line when `nl` holds:
a directive token over the comment, flagged as a test when it is one, or an error token when the
comment is longer than the ceiling. -/
def hitTokenOf (hit : DirectiveHit) (uid : Nat) (nl : Bool) : Token :=
  { (emitted .directive uid hit.start hit.stop).1 with
    lineStart := nl,
    flags := if (emitted .directive uid hit.start hit.stop).2 && hit.test then
      TokenFlag.testDirective else 0 }

/-- The token of a directive comment starts at it: a directive token over the whole comment,
or an error token of the ceiling's length at a longer one. -/
theorem hitTokenOf_shape (hit : DirectiveHit) (uid : Nat) (nl : Bool) :
    (hitTokenOf hit uid nl).off = hit.start ∧ (hitTokenOf hit uid nl).unit = uid ∧
      ((hitTokenOf hit uid nl).kind = .directive ∧ (hitTokenOf hit uid nl).len = hit.stop - hit.start ∨
        (hitTokenOf hit uid nl).kind = .error ∧ (hitTokenOf hit uid nl).len = maxTokenLen ∧
          maxTokenLen < hit.stop - hit.start) := by
  unfold hitTokenOf emitted
  by_cases h : hit.stop - hit.start > maxTokenLen
  · rw [if_pos h]
    exact ⟨rfl, rfl, .inr ⟨rfl, rfl, h⟩⟩
  · rw [if_neg h]
    exact ⟨rfl, rfl, .inl ⟨rfl, rfl⟩⟩

/-- A directive comment yields `hitTokenOf`; the ceiling's report is the only other effect. -/
theorem hitToken_run (hit : DirectiveHit) (s : Lexer) :
    (hitToken hit).run.run s =
      (.ok (hitTokenOf hit s.unit.id s.newline),
        ({ s with off := hit.stop } : Lexer).noteEmit .directive hit.start) := by
  unfold hitToken hitTokenOf
  rw [run_lift_bind, seek_run, run_lift_bind, emit_run]
  obtain ⟨start, stop, test⟩ := hit
  by_cases h : stop - start > maxTokenLen <;> cases test <;> simp [h, emitted, Lexer.noteEmit] <;> rfl

theorem next_run_of_hit {s : Lexer} (h : s.lit = none) {hit : DirectiveHit}
    (hd : s.trivia.directive = some hit) :
    next.run.run s = (hitToken hit).run.run ((applyTrivia s.trivia).run s).2 := by
  unfold next
  rw [run_get_bind]
  simp only [h]
  rw [run_lift_bind, show Trivia.skip s.text s.mode s.off false #[] = s.trivia from rfl, hd]
  rfl

theorem next_run_of_no_hit {s : Lexer} (h : s.lit = none) (hd : s.trivia.directive = none) :
    next.run.run s = significant.run.run ((applyTrivia s.trivia).run s).2 := by
  unfold next
  rw [run_get_bind]
  simp only [h]
  rw [run_lift_bind, show Trivia.skip s.text s.mode s.off false #[] = s.trivia from rfl, hd]
  rfl

theorem next_run_of_lit {s : Lexer} {lit : OpenLiteral} (h : s.lit = some lit) :
    next.run.run s = (continueMessage lit).run.run s := by
  unfold next
  rw [run_get_bind]
  simp only [h]

end LexM

namespace ScanM.OnCore

theorem hitToken (hit : DirectiveHit) : OnCore (LexM.hitToken hit) :=
  bind (lift (LexM.OnCore.seek _)) fun _ => bind (lift (LexM.OnCore.emit _ _)) fun _ =>
    get_bind (fun _ _ => rfl) fun _ => pure _

theorem significant : OnCore LexM.significant := by
  unfold LexM.significant
  refine get_bind (fun _ _ => rfl) fun lx => ite (lift LexM.OnCore.eof) ?_
  refine bind (modify fun _ _ => rfl) fun _ => ?_
  extract_lets token
  exact ite (bind (lift (LexM.OnCore.setFlags _)) fun _ => bind scan fun _ => lift (LexM.OnCore.after _))
    (bind scan fun _ => lift (LexM.OnCore.after _))

end ScanM.OnCore

namespace Lexer

variable {s : Lexer}

/-- `lex` on a tokenizer that keeps nothing and has not stopped: the next token is computed,
handed out and becomes the last one; a capacity error stops the tokenizer. -/
theorem lex_run_of_fresh (herr : s.err = none) (hlook : s.look = none) :
    Lexer.lex.run s = ((LexM.next.run.run s).1,
      ((LexM.next.run.run s).2.keep (LexM.next.run.run s).1).handOut (LexM.next.run.run s).1) := by
  rcases hn : LexM.next.run.run s with ⟨_ | t, s'⟩ <;>
    simp [Lexer.lex, Lexer.peek, herr, hlook, hn, keep, handOut] <;> rfl

/-- A stopped tokenizer gives its error again and stays as it is. -/
theorem lex_run_of_err {e : LexError} (h : s.err = some e) : Lexer.lex.run s = (.error e, s) := by
  simp [Lexer.lex, Lexer.peek, h]
  rfl

end Lexer

/-! ### Streams with some elements left out -/

/-- `ys` is `xs` with the elements `ds` left out, each of them satisfying `p`. -/
inductive Drops {α : Type} (p : α → Prop) : List α → List α → List α → Prop
  | nil : Drops p [] [] []
  | keep (a : α) {xs ys ds : List α} : Drops p xs ys ds → Drops p (a :: xs) (a :: ys) ds
  | drop (a : α) {xs ys ds : List α} (h : p a) : Drops p xs ys ds → Drops p (a :: xs) ys (a :: ds)

namespace Drops

variable {α : Type} {p : α → Prop}

theorem refl : ∀ xs : List α, Drops p xs xs []
  | [] => .nil
  | a :: xs => .keep a (refl xs)

theorem all : ∀ {xs : List α}, (∀ a ∈ xs, p a) → Drops p xs [] xs
  | [], _ => .nil
  | a :: _, h => .drop a (h a List.mem_cons_self) (all fun b hb => h b (List.mem_cons_of_mem _ hb))

theorem append {xs ys ds xs' ys' ds' : List α} (h : Drops p xs ys ds) (h' : Drops p xs' ys' ds') :
    Drops p (xs ++ xs') (ys ++ ys') (ds ++ ds') := by
  induction h with
  | nil => exact h'
  | keep a _ ih => exact .keep a ih
  | drop a ha _ ih => exact .drop a ha ih

/-- A tail of elements that all satisfy `p` is left out. -/
theorem append_dropped (xs : List α) {ys : List α} (h : ∀ a ∈ ys, p a) : Drops p (xs ++ ys) xs ys := by
  simpa using (refl xs).append (all h)

/-- A head of elements that all satisfy `p` is left out. -/
theorem dropped_append {xs : List α} (h : ∀ a ∈ xs, p a) (ys : List α) : Drops p (xs ++ ys) ys xs := by
  simpa using (all h).append (refl ys)

/-- What is left out satisfies `p`. -/
theorem dropped {xs ys ds : List α} (h : Drops p xs ys ds) : ∀ a ∈ ds, p a := by
  induction h with
  | nil => simp
  | keep a _ ih => exact ih
  | drop a ha _ ih => exact fun b hb => (List.mem_cons.1 hb).elim (fun e => e ▸ ha) (ih b)

end Drops

/-! ### Tokens and reports of directive comments -/

/-- The range of the `//::` comment that starts where the token `t` starts. -/
def Token.commentRange (u : SourceUnit) (t : Token) : Range :=
  Range.make u.id t.off (Trivia.directiveEnd u.content t.off)

/-- A token that emit mode makes of a `//::` comment of `u` which mode `m` skips: a directive
token over the whole comment, or, when the comment is longer than the ceiling, an error token
at it. -/
def Token.OfSkippedComment (u : SourceUnit) (m : DirectiveMode) (t : Token) : Prop :=
  Bytes.occursAt u.content Directive.prefixText t.off = true ∧
    m.SkipsComment (u.content.extract t.off (Trivia.directiveEnd u.content t.off)) ∧
    t.unit = u.id ∧
    (t.kind = .directive ∧ t.len = Trivia.directiveEnd u.content t.off - t.off ∨
      t.kind = .error ∧ t.len = maxTokenLen ∧ maxTokenLen < Trivia.directiveEnd u.content t.off - t.off)

/-- A result of `lex` that is the token of a `//::` comment of `u` which mode `m` skips. -/
def SkippedComment (u : SourceUnit) (m : DirectiveMode) (r : Except LexError Token) : Prop :=
  ∃ t, r = .ok t ∧ t.OfSkippedComment u m

/-- The next call of `lex` in emit mode meets a directive comment that mode `m` skips: the
tokenizer has not stopped, is in no split message, and the trivia ahead end at such a
comment. -/
def Lexer.AtSkipped (s : Lexer) (m : DirectiveMode) : Prop :=
  s.err = none ∧ s.lit = none ∧
    ∃ hit, s.trivia.directive = some hit ∧ m.SkipsComment (s.text.extract hit.start hit.stop)

/-- Whether mode `m` skips the `//::` comment `c`, as a test. -/
def DirectiveMode.skipsComment (c : ByteArray) : DirectiveMode → Bool
  | .ignore | .keepLast => true
  | .emit => false
  | .tests => (Directive.parse (Directive.body c)).toOption.isNone

theorem DirectiveMode.skipsComment_iff (c : ByteArray) (m : DirectiveMode) :
    m.skipsComment c = true ↔ m.SkipsComment c := by
  cases m with
  | tests =>
    simp only [skipsComment, SkipsComment]
    cases Directive.parse (Directive.body c) <;> simp [Except.toOption]
  | _ => simp [skipsComment, SkipsComment]

/-- Whether the next call of `lex` meets a `//::` comment that mode `m` skips, as a test. -/
def Lexer.atSkipped (s : Lexer) (m : DirectiveMode) : Bool :=
  s.err.isNone && s.lit.isNone &&
    match s.trivia.directive with
    | some hit => m.skipsComment (s.text.extract hit.start hit.stop)
    | none => false

theorem Lexer.atSkipped_iff (s : Lexer) (m : DirectiveMode) : s.atSkipped m = true ↔ s.AtSkipped m := by
  unfold atSkipped AtSkipped
  cases s.trivia.directive <;> simp [DirectiveMode.skipsComment_iff, and_assoc]

/-- A report about a `//::` comment of `u` that only some modes make: its body claims to be an
expectation and does not parse, or the comment is longer than the ceiling. -/
def Notice.OnComment (u : SourceUnit) (n : Notice) : Prop :=
  ∃ i, Bytes.occursAt u.content Directive.prefixText i = true ∧
    n.1 = Range.make u.id i (Trivia.directiveEnd u.content i) ∧
    (n.2.1 = Code.lexMalformedDirective ∨ n.2.1 = Code.lexTokenTooLong)

section CommentNotes

variable (bs : ByteArray) (i j uid : Nat) (l : Option Range)

theorem malformedNotes_keep :
    (Trivia.malformedNotes bs i j).toList.foldl (TriviaNote.keep uid) l = l := by
  unfold Trivia.malformedNotes
  split <;> rfl

theorem commentNotes_keep (m : DirectiveMode) :
    (Trivia.commentNotes m bs i j).toList.foldl (TriviaNote.keep uid) l =
      if m = .keepLast then some (Range.make uid i j) else l := by
  cases m with
  | keepLast => rfl
  | ignore => rfl
  | emit | tests => exact malformedNotes_keep bs i j uid l

/-- The malformed-body report of a directive comment is one on that comment. -/
theorem malformedNotes_onComment (u : SourceUnit) (hocc : Bytes.occursAt u.content Directive.prefixText i = true) :
    ∀ n ∈ TriviaNote.noticesOf u.id
      (Trivia.malformedNotes u.content i (Trivia.directiveEnd u.content i)).toList,
      Notice.OnComment u n := by
  unfold Trivia.malformedNotes
  split
  · simp only [List.flatMap_cons, List.flatMap_nil, TriviaNote.noticesOf,
      TriviaNote.notices, List.append_nil, List.mem_singleton, forall_eq]
    exact ⟨i, hocc, rfl, .inl rfl⟩
  · simp [TriviaNote.noticesOf]

end CommentNotes

/-- The engines `e₁` and `e₂` both started from `e₀`; the reports `e₂` got, followed by the
reports `pend` still to come, are those `e₁` got with some reports on directive comments left
out. -/
def EnginesAgree (u : SourceUnit) (e₀ : Option Engine) (pend : List Notice)
    (e₁ e₂ : Option Engine) : Prop :=
  ∃ ns₁ ns₂ ds, Drops (Notice.OnComment u) ns₁ (ns₂ ++ pend) ds ∧
    e₁ = diagnoseAll ns₁ e₀ ∧ e₂ = diagnoseAll ns₂ e₀

namespace EnginesAgree

variable {u : SourceUnit} {e₀ e₁ e₂ : Option Engine} {pend : List Notice}

/-- Both engines get the reports `ns` after the second one has caught up with `pend`. -/
theorem catch_up (h : EnginesAgree u e₀ pend e₁ e₂) (ns : List Notice) :
    EnginesAgree u e₀ [] (diagnoseAll ns e₁) (diagnoseAll (pend ++ ns) e₂) := by
  obtain ⟨ns₁, ns₂, ds, hd, rfl, rfl⟩ := h
  refine ⟨ns₁ ++ ns, ns₂ ++ (pend ++ ns), ds ++ [], ?_, ?_, ?_⟩
  · simpa [List.append_assoc] using hd.append (Drops.refl ns)
  · rw [diagnoseAll_append]
  · rw [diagnoseAll_append, diagnoseAll_append, diagnoseAll_append]

/-- The first engine gets the reports `ns`, of which the second will get `ns'` after `pend`. -/
theorem ahead (h : EnginesAgree u e₀ pend e₁ e₂) {ns ns' ds' : List Notice}
    (hd : Drops (Notice.OnComment u) ns ns' ds') :
    EnginesAgree u e₀ (pend ++ ns') (diagnoseAll ns e₁) e₂ := by
  obtain ⟨ns₁, ns₂, ds, hd₀, rfl, rfl⟩ := h
  refine ⟨ns₁ ++ ns, ns₂, ds ++ ds', ?_, ?_, rfl⟩
  · simpa [List.append_assoc] using hd₀.append hd
  · rw [diagnoseAll_append]

end EnginesAgree

theorem Lexer.core_noted (s : Lexer) (ns : List TriviaNote) : (s.noted ns).core = s.core := rfl

theorem Lexer.core_seek (s : Lexer) (j : Nat) : ({ s with off := j } : Lexer).core = { s.core with off := j } :=
  rfl

namespace Lexer

variable {s : Lexer}

/-- `lex` keeps a ready tokenizer that keeps no token ready, with its unit and mode, and keeps
no token afterwards either. -/
theorem lex_run_frame (hr : s.Ready) (hl : s.look = none) :
    (Lexer.lex.run s).2.Ready ∧ (Lexer.lex.run s).2.look = none ∧
      (Lexer.lex.run s).2.unit = s.unit ∧ (Lexer.lex.run s).2.mode = s.mode := by
  have hlexed := lex_run hr
  rcases hrun : Lexer.lex.run s with ⟨r, s'⟩
  rw [hrun] at hlexed
  obtain ⟨s₁, hp, hs⟩ := hlexed
  dsimp only at hp hs ⊢
  subst hs
  unfold Peeked at hp
  split at hp
  · obtain ⟨rfl, rfl⟩ := hp
    exact ⟨hr, hl, rfl, rfl⟩
  · next t hlook => exact absurd (hl.symm.trans hlook) (by simp)
  · obtain ⟨s₂, hc, rfl⟩ := hp
    -- what `next` computed keeps the fixed part; `keep` and `handOut` leave nothing kept
    obtain ⟨hf, hr₂⟩ : s₂.fixed = s.fixed ∧ s₂.Ready := by
      cases r with
      | ok t => exact ⟨hc.fixed, hc.ready⟩
      | error e => exact ⟨hc.fixed, hc.ready⟩
    have hl₂ : s₂.look = none := (congrArg Fixed.look hf).trans hl
    refine ⟨(hr₂.keep _).handOut _, ?_⟩
    cases r <;> exact ⟨by simp [keep, handOut, hl₂], congrArg Fixed.unit hf, congrArg Fixed.mode hf⟩

theorem core_handOut_keep (s : Lexer) (r : Except LexError Token) :
    ((s.keep r).handOut r).core = ((s.core.keep r).handOut r).core := by
  cases r <;> rfl

theorem ambient_handOut_keep (s : Lexer) (r : Except LexError Token) :
    ((s.keep r).handOut r).mode = s.mode ∧ ((s.keep r).handOut r).lastDir = s.lastDir ∧
      ((s.keep r).handOut r).env.engine = s.env.engine := by
  cases r <;> exact ⟨rfl, rfl, rfl⟩

/-- A handed-out token leaves the core of a tokenizer that kept none as it was. -/
theorem core_handOut_keep_ok (hl : s.look = none) (t : Token) :
    ((s.keep (.ok t)).handOut (.ok t)).core = s.core := by
  rcases s with ⟨_, _, _, _, _ | _⟩
  · rfl
  · cases hl

theorem core_noteEmit (kind : TokenKind) (start : Nat) (s : Lexer) :
    (s.noteEmit kind start).core = s.core := by
  unfold noteEmit
  split <;> rfl

theorem lastDir_noteEmit (kind : TokenKind) (start : Nat) (s : Lexer) :
    (s.noteEmit kind start).lastDir = s.lastDir := by
  unfold noteEmit
  split <;> rfl

/-- An over-long directive token is the one report of its emission. -/
theorem noteEmit_directive (start : Nat) (s : Lexer) :
    (s.noteEmit .directive start).env.engine =
      diagnoseAll (if s.off - start > maxTokenLen then
        [(Range.make s.unit.id start s.off, Code.lexTokenTooLong, #[.int maxTokenLen])] else [])
        s.env.engine := by
  unfold noteEmit
  split
  · next hc => simp [hc.1, noteReport, LexEnv.noteReport, diagnoseAll]
  · next hc =>
    have : ¬s.off - start > maxTokenLen := fun h => hc ⟨h, by decide⟩
    simp [this, diagnoseAll]

end Lexer

/-- The emit-mode tokenizer `s₁` and the mode-`m` tokenizer `s₂` over the unit `u`, whose engines
started from `e₀`, where emit mode has handed out the tokens `D` of comments that `m` skips.
`s₁` may be ahead of `s₂` over trivia, past directive comments that `s₂` has still to skip:
it crossed a newline there when `nl` holds, and `pend` are the notes `s₂` will make on the
way. Otherwise the two agree: one core, reports that differ only by reports on directive
comments, and in keep-last mode the last directive remembered is that of the last token in
`D`. -/
structure ModeSim (u : SourceUnit) (m : DirectiveMode) (e₀ : Option Engine) (D : List Token)
    (nl : Bool) (pend : Array TriviaNote) (s₁ s₂ : Lexer) : Prop where
  unit : s₂.unit = u
  mode₁ : s₁.mode = .emit
  mode₂ : s₂.mode = m
  lastDir₁ : s₁.lastDir = none
  ready₁ : s₁.Ready
  ready₂ : s₂.Ready
  look : s₂.look = none
  core : s₁.core = (s₂.moved s₁.off nl).core
  skip : Trivia.skip u.content m s₂.off false #[] =
    (Trivia.skip u.content m s₁.off false #[]).preceded nl pend
  apart : (s₂.lit = none ∧ s₂.err = none) ∨ (s₁.off = s₂.off ∧ nl = false ∧ pend = #[])
  engines : EnginesAgree u e₀ (TriviaNote.noticesOf u.id pend.toList) s₁.env.engine s₂.env.engine
  lastDir₂ : pend.toList.foldl (TriviaNote.keep u.id) s₂.lastDir =
    if m = .keepLast then D.getLast?.map (Token.commentRange u) else none

/-- One call of `lex`, then the rest of a run. -/
theorem Lexer.lexRun_cons (n : Nat) (s : Lexer) :
    s.lexRun (n + 1) = ((Lexer.lex.run s).1 :: ((Lexer.lex.run s).2.lexRun n).1,
      ((Lexer.lex.run s).2.lexRun n).2) := by
  rcases hrun : Lexer.lex.run s with ⟨r, s₁⟩
  simp only [Lexer.lexRun, hrun]

/-- Two runs one after the other. -/
theorem Lexer.lexRun_add (a b : Nat) (s : Lexer) :
    s.lexRun (a + b) = ((s.lexRun a).1 ++ ((s.lexRun a).2.lexRun b).1, ((s.lexRun a).2.lexRun b).2) := by
  induction a generalizing s with
  | zero => simp [Lexer.lexRun]
  | succ a ih =>
    rw [Nat.add_right_comm, Lexer.lexRun_cons, ih, Lexer.lexRun_cons]
    rfl

/-! ### Emit mode's stream without the comments another mode skips -/

namespace Lexer

variable (m : DirectiveMode)

/-- The results of `n` calls of `lex` from `s`, but for the calls that meet a `//::` comment
mode `m` skips. Which calls those are is a matter of where the tokenizer stands, not of the
token handed out: a piece of a split message can read just like such a comment. -/
def keptRun (s : Lexer) : Nat → List (Except LexError Token)
  | 0 => []
  | n + 1 => (if s.atSkipped m then [] else [(Lexer.lex.run s).1]) ++ keptRun (Lexer.lex.run s).2 n

/-- The results of the calls among `n` calls of `lex` from `s` that meet a `//::` comment mode
`m` skips. -/
def skippedRun (s : Lexer) : Nat → List (Except LexError Token)
  | 0 => []
  | n + 1 => (if s.atSkipped m then [(Lexer.lex.run s).1] else []) ++ skippedRun (Lexer.lex.run s).2 n

variable {m}

theorem keptRun_add (a b : Nat) (s : Lexer) :
    s.keptRun m (a + b) = s.keptRun m a ++ (s.lexRun a).2.keptRun m b := by
  induction a generalizing s with
  | zero => simp [keptRun, lexRun]
  | succ a ih => rw [Nat.add_right_comm, keptRun, ih, keptRun, lexRun_cons, List.append_assoc]

theorem skippedRun_add (a b : Nat) (s : Lexer) :
    s.skippedRun m (a + b) = s.skippedRun m a ++ (s.lexRun a).2.skippedRun m b := by
  induction a generalizing s with
  | zero => simp [skippedRun, lexRun]
  | succ a ih => rw [Nat.add_right_comm, skippedRun, ih, skippedRun, lexRun_cons, List.append_assoc]

/-- Calls that meet skipped comments, then one that does not: only the last call's result is
kept, and every other one is skipped. -/
theorem keptRun_catch_up {s : Lexer} {k : Nat} (hb : ∀ j < k, (s.lexRun j).2.AtSkipped m)
    (hn : ¬(s.lexRun k).2.AtSkipped m) :
    s.keptRun m (k + 1) = [(Lexer.lex.run (s.lexRun k).2).1] ∧
      s.skippedRun m (k + 1) = (s.lexRun k).1 := by
  induction k generalizing s with
  | zero =>
    have hn' : s.atSkipped m = false := by
      rw [Bool.eq_false_iff, ne_eq, atSkipped_iff]
      exact hn
    simp [keptRun, skippedRun, lexRun, hn']
  | succ k ih =>
    have h₀ : s.atSkipped m = true := (atSkipped_iff s m).2 (hb 0 (Nat.succ_pos k))
    obtain ⟨hk, hs⟩ := ih (s := (Lexer.lex.run s).2)
      (fun j hj => by simpa only [lexRun_cons] using hb (j + 1) (by omega))
      (by simpa only [lexRun_cons] using hn)
    refine ⟨?_, ?_⟩
    · rw [keptRun, if_pos h₀, List.nil_append, hk, lexRun_cons]
    · rw [skippedRun, if_pos h₀, hs, lexRun_cons]
      rfl

end Lexer

namespace ModeSim

variable {u : SourceUnit} {m : DirectiveMode} {e₀ : Option Engine} {D : List Token} {nl : Bool}
  {pend : Array TriviaNote} {s₁ s₂ : Lexer}

theorem unit₁ (h : ModeSim u m e₀ D nl pend s₁ s₂) : s₁.unit = u :=
  (congrArg Lexer.unit h.core).trans h.unit

theorem text₁ (h : ModeSim u m e₀ D nl pend s₁ s₂) : s₁.text = u.content := by
  rw [Lexer.text, h.unit₁]

theorem text₂ (h : ModeSim u m e₀ D nl pend s₁ s₂) : s₂.text = u.content := by
  rw [Lexer.text, h.unit]

theorem err_eq (h : ModeSim u m e₀ D nl pend s₁ s₂) : s₁.err = s₂.err :=
  show s₁.core.err = (s₂.moved s₁.off nl).core.err from congrArg Lexer.err h.core

theorem lit_eq (h : ModeSim u m e₀ D nl pend s₁ s₂) : s₁.lit = s₂.lit :=
  show s₁.core.lit = (s₂.moved s₁.off nl).core.lit from congrArg Lexer.lit h.core

theorem look₁ (h : ModeSim u m e₀ D nl pend s₁ s₂) : s₁.look = none :=
  (show s₁.core.look = (s₂.moved s₁.off nl).core.look from congrArg Lexer.look h.core).trans h.look

/-- Two tokenizers at one place agree on their whole core. -/
theorem core_eq (h : ModeSim u m e₀ D false pend s₁ s₂) (ho : s₁.off = s₂.off) :
    s₁.core = s₂.core := by
  rw [h.core, ho]
  simp [Lexer.moved]

/-- Both tokenizers compute the next token by one computation `x` that works on the core, from
states with one core, the same modes and last directives as before, and engines that agree:
then `lex` hands out one result on both sides and leaves them at one place. -/
theorem lex_matched (h : ModeSim u m e₀ D nl pend s₁ s₂) (herr : s₁.err = none)
    {x : ScanM Token} (hx : ScanM.OnCore x) {a₁ a₂ : Lexer}
    (hn₁ : LexM.next.run.run s₁ = x.run.run a₁) (hn₂ : LexM.next.run.run s₂ = x.run.run a₂)
    (hc : a₁.core = a₂.core) (hl₁ : a₁.lastDir = none)
    (hl₂ : a₂.lastDir = if m = .keepLast then D.getLast?.map (Token.commentRange u) else none)
    (he : EnginesAgree u e₀ [] a₁.env.engine a₂.env.engine) :
    (Lexer.lex.run s₁).1 = (Lexer.lex.run s₂).1 ∧
      ModeSim u m e₀ D false #[] (Lexer.lex.run s₁).2 (Lexer.lex.run s₂).2 ∧
      (Lexer.lex.run s₁).2.off = (Lexer.lex.run s₂).2.off := by
  obtain ⟨hr, hcore, ns, -, he₁, he₂⟩ := LexM.OnCore.twin hx hc
  obtain ⟨-, hd₁, -⟩ := LexM.OnCore.frame hx a₁
  obtain ⟨-, hd₂, -⟩ := LexM.OnCore.frame hx a₂
  have herr₂ : s₂.err = none := h.err_eq ▸ herr
  rw [Lexer.lex_run_of_fresh herr h.look₁, Lexer.lex_run_of_fresh herr₂ h.look, hn₁, hn₂]
  obtain ⟨hr₁', hlook₁', hunit₁', hmode₁'⟩ := Lexer.lex_run_frame h.ready₁ h.look₁
  obtain ⟨hr₂', hlook₂', hunit₂', hmode₂'⟩ := Lexer.lex_run_frame h.ready₂ h.look
  rw [Lexer.lex_run_of_fresh herr h.look₁, hn₁] at hr₁' hlook₁' hunit₁' hmode₁'
  rw [Lexer.lex_run_of_fresh herr₂ h.look, hn₂] at hr₂' hlook₂' hunit₂' hmode₂'
  rw [← hr] at hr₂' hlook₂' hunit₂' hmode₂' ⊢
  generalize (x.run.run a₁).1 = r at *
  dsimp only at hr₁' hlook₁' hunit₁' hmode₁' hr₂' hlook₂' hunit₂' hmode₂' ⊢
  obtain ⟨hm₁, hd₁', he₁'⟩ := Lexer.ambient_handOut_keep (x.run.run a₁).2 r
  obtain ⟨hm₂, hd₂', he₂'⟩ := Lexer.ambient_handOut_keep (x.run.run a₂).2 r
  -- the two tokenizers end at one place with one core
  have hc' : (((x.run.run a₁).2.keep r).handOut r).core = (((x.run.run a₂).2.keep r).handOut r).core := by
    rw [Lexer.core_handOut_keep, hcore, ← Lexer.core_handOut_keep]
  have hoff : (((x.run.run a₁).2.keep r).handOut r).off = (((x.run.run a₂).2.keep r).handOut r).off :=
    show Lexer.off (Lexer.core _) = Lexer.off (Lexer.core _) from congrArg Lexer.off hc'
  refine ⟨rfl, ⟨h.unit ▸ hunit₂', h.mode₁ ▸ hmode₁', h.mode₂ ▸ hmode₂', ?_, hr₁', hr₂', hlook₂', ?_,
    ?_, .inr ⟨hoff, rfl, rfl⟩, ?_, ?_⟩, hoff⟩
  · rw [hd₁', hd₁, hl₁]
  · rw [hc', hoff]
    simp [Lexer.moved]
  · rw [hoff, Trivia.preceded_none]
  · rw [he₁', he₂', he₁, he₂]
    simpa [TriviaNote.noticesOf] using he.catch_up ns
  · rw [Array.toList_empty, List.foldl_nil, hd₂', hd₂, hl₂]

/-- Both tokenizers read trivia that end at one place, the second's preceded by what it has
still to skip, and the first's remembering no directive: both then hand out one result. -/
theorem lex_same_trivia (h : ModeSim u m e₀ D nl pend s₁ s₂) (herr : s₁.err = none)
    (hlit : s₁.lit = none) {t : Trivia} (ht₁ : s₁.trivia = t) (ht₂ : s₂.trivia = t.preceded nl pend)
    (hkeep : ∀ l, t.notes.toList.foldl (TriviaNote.keep u.id) l = l) :
    (Lexer.lex.run s₁).1 = (Lexer.lex.run s₂).1 ∧
      ModeSim u m e₀ D false #[] (Lexer.lex.run s₁).2 (Lexer.lex.run s₂).2 ∧
      (Lexer.lex.run s₁).2.off = (Lexer.lex.run s₂).2.off := by
  have hlit₂ : s₂.lit = none := h.lit_eq ▸ hlit
  have hid₁ : s₁.unit.id = u.id := by rw [h.unit₁]
  have hid₂ : s₂.unit.id = u.id := by rw [h.unit]
  -- after the trivia: one core, the notes still to come made by the second
  have hc : ((s₁.moved t.stop t.newline).noted t.notes.toList).core =
      ((s₂.moved t.stop (nl || t.newline)).noted (pend ++ t.notes).toList).core := by
    rw [Lexer.core_noted, Lexer.core_noted, Lexer.core_moved, h.core, ← Lexer.core_moved,
      Lexer.moved_moved]
  have hl₁ : ((s₁.moved t.stop t.newline).noted t.notes.toList).lastDir = none := by
    simp only [Lexer.noted, Lexer.moved, hid₁, hkeep, h.lastDir₁]
  have hl₂ : ((s₂.moved t.stop (nl || t.newline)).noted (pend ++ t.notes).toList).lastDir =
      if m = .keepLast then D.getLast?.map (Token.commentRange u) else none := by
    simp only [Lexer.noted, Lexer.moved, hid₂, Array.toList_append, List.foldl_append, hkeep]
    exact h.lastDir₂
  have he : EnginesAgree u e₀ []
      ((s₁.moved t.stop t.newline).noted t.notes.toList).env.engine
      ((s₂.moved t.stop (nl || t.newline)).noted (pend ++ t.notes).toList).env.engine := by
    simpa [Lexer.noted, Lexer.moved, hid₁, hid₂, TriviaNote.noticesOf, diagnoseAll_append]
      using h.engines.catch_up (TriviaNote.noticesOf u.id t.notes.toList)
  have hs₂ : (LexM.applyTrivia s₂.trivia).run s₂ =
      ((), (s₂.moved t.stop (nl || t.newline)).noted (pend ++ t.notes).toList) := by
    rw [LexM.applyTrivia_run, ht₂]
    rfl
  -- then the directive comment both stop at, or the end or a significant token
  cases hd : t.directive with
  | none =>
    refine h.lex_matched herr ScanM.OnCore.significant ?_ ?_ hc hl₁ hl₂ he
    · rw [LexM.next_run_of_no_hit hlit (ht₁ ▸ hd), ht₁, LexM.applyTrivia_run]
    · rw [LexM.next_run_of_no_hit hlit₂ (by rw [ht₂]; exact hd), hs₂]
  | some hit =>
    refine h.lex_matched herr (ScanM.OnCore.hitToken hit) ?_ ?_ hc hl₁ hl₂ he
    · rw [LexM.next_run_of_hit hlit (ht₁ ▸ hd), ht₁, LexM.applyTrivia_run]
    · rw [LexM.next_run_of_hit hlit₂ (by rw [ht₂]; exact hd), hs₂]

/-- Emit mode hands out the token of a directive comment that `m` skips: the first tokenizer
moves past the comment, the second stays where it was, and the token joins `D`. -/
theorem lex_drop (h : ModeSim u m e₀ D nl pend s₁ s₂) (herr : s₁.err = none) (hlit : s₁.lit = none)
    {i : Nat} {nl' : Bool} {pre : Array TriviaNote} {test : Bool}
    (hocc : Bytes.occursAt u.content Directive.prefixText i = true)
    (ht₁ : s₁.trivia = ⟨i, nl', pre ++ Trivia.malformedNotes u.content i (Trivia.directiveEnd u.content i),
      some ⟨i, Trivia.directiveEnd u.content i, test⟩⟩)
    (ht₂ : Trivia.skip u.content m s₁.off false #[] = Trivia.skip u.content m i nl' pre)
    (hs : m.SkipsComment (u.content.extract i (Trivia.directiveEnd u.content i)))
    (hkeep : ∀ l, pre.toList.foldl (TriviaNote.keep u.id) l = l) :
    ∃ tok, (Lexer.lex.run s₁).1 = .ok tok ∧ tok.OfSkippedComment u m ∧
      ModeSim u m e₀ (D ++ [tok]) (nl || nl')
        (pend ++ (pre ++ Trivia.commentNotes m u.content i (Trivia.directiveEnd u.content i)))
        (Lexer.lex.run s₁).2 s₂ ∧
      (Lexer.lex.run s₁).2.off = Trivia.directiveEnd u.content i := by
  obtain ⟨j, hj⟩ : ∃ j, j = Trivia.directiveEnd u.content i := ⟨_, rfl⟩
  rw [← hj] at ht₁ ⊢
  have hid₁ : s₁.unit.id = u.id := by rw [h.unit₁]
  -- the state after the trivia, the comment's token, and the state that emits it
  obtain ⟨a, ha⟩ : ∃ a, a = (s₁.moved i nl').noted
      (pre ++ Trivia.malformedNotes u.content i j).toList := ⟨_, rfl⟩
  obtain ⟨tok, htok⟩ : ∃ tok, tok = LexM.hitTokenOf ⟨i, j, test⟩ a.unit.id a.newline := ⟨_, rfl⟩
  obtain ⟨b, hb⟩ : ∃ b, b = ({ a with off := j } : Lexer).noteEmit .directive i := ⟨_, rfl⟩
  have hlex : Lexer.lex.run s₁ = (.ok tok, (b.keep (.ok tok)).handOut (.ok tok)) := by
    subst htok hb
    rw [Lexer.lex_run_of_fresh herr h.look₁, LexM.next_run_of_hit hlit (by rw [ht₁]), ht₁,
      LexM.applyTrivia_run, LexM.hitToken_run, ← ha]
  have hfr := Lexer.lex_run_frame h.ready₁ h.look₁
  rw [hlex] at hfr
  rw [hlex]
  have hida : a.unit.id = u.id := by rw [ha]; exact hid₁
  have hbc : b.core = (s₁.moved j nl').core := by
    rw [hb, Lexer.core_noteEmit, Lexer.core_seek, ha, Lexer.core_noted, Lexer.core_moved]
    rfl
  have hyc : ((b.keep (.ok tok)).handOut (.ok tok)).core = (s₁.moved j nl').core :=
    (Lexer.core_handOut_keep_ok ((congrArg Lexer.look hbc).trans h.look₁) tok).trans hbc
  have hyo : ((b.keep (.ok tok)).handOut (.ok tok)).off = j := congrArg Lexer.off hyc
  obtain ⟨-, hyl, hye⟩ := Lexer.ambient_handOut_keep b (.ok tok)
  obtain ⟨hto, htu, htk⟩ := htok ▸ LexM.hitTokenOf_shape ⟨i, j, test⟩ a.unit.id a.newline
  refine ⟨tok, rfl, ?_, ?_, hyo⟩
  · unfold Token.OfSkippedComment
    rw [hto]
    exact ⟨hocc, hs, htu.trans hida, hj ▸ htk⟩
  -- the notes of the trivia keep no directive, so emit mode still remembers none
  have hal : a.lastDir = s₁.lastDir := by
    rw [ha, Lexer.noted_lastDir, Lexer.moved_unit, Lexer.moved_lastDir, hid₁, Array.toList_append,
      List.foldl_append, malformedNotes_keep, hkeep]
  -- emit mode reports the trivia's notes, then the comment when it is over-long
  have hae : a.env.engine = diagnoseAll
      (TriviaNote.noticesOf u.id (pre ++ Trivia.malformedNotes u.content i j).toList) s₁.env.engine := by
    rw [ha, Lexer.noted_engine, Lexer.moved_unit, Lexer.moved_env, hid₁]
  have hbe : b.env.engine = diagnoseAll
      (TriviaNote.noticesOf u.id (pre ++ Trivia.malformedNotes u.content i j).toList ++
        if j - i > maxTokenLen then [(Range.make u.id i j, Code.lexTokenTooLong, #[.int maxTokenLen])]
        else []) s₁.env.engine := by
    rw [hb, Lexer.noteEmit_directive, diagnoseAll_append, ← hae, ← hida]
  refine ⟨h.unit, hfr.2.2.2.trans h.mode₁, h.mode₂, ?_, hfr.1, h.ready₂, h.look, ?_, ?_,
    .inl ⟨h.lit_eq.symm.trans hlit, h.err_eq.symm.trans herr⟩, ?_, ?_⟩
  · rw [hyl, hb, Lexer.lastDir_noteEmit]
    exact hal.trans h.lastDir₁
  · rw [hyc, hyo, Lexer.core_moved, h.core, ← Lexer.core_moved, Lexer.moved_moved]
  · rw [h.skip, ht₂, Trivia.skip_of_skips hocc m nl' pre hs, ← hj, hyo,
      Trivia.skip_eq_preceded u.content m j nl', Trivia.preceded_preceded]
  · -- `m` makes the trivia's notes and its own on the comment; the rest were on the comment
    have htl : ∀ n ∈ (if j - i > maxTokenLen then
        [(Range.make u.id i j, Code.lexTokenTooLong, #[Arg.int maxTokenLen])] else []),
        Notice.OnComment u n := by
      split
      · simp only [List.mem_singleton, forall_eq]
        exact ⟨i, hocc, by rw [hj], .inr rfl⟩
      · simp
    have hmal := hj ▸ malformedNotes_onComment i u hocc
    -- ignore and keep-last mode make no report on the comment, tests mode the malformed one
    obtain ⟨ds, hc⟩ : ∃ ds, Drops (Notice.OnComment u) (TriviaNote.noticesOf u.id
        (Trivia.malformedNotes u.content i j).toList ++ if j - i > maxTokenLen then
          [(Range.make u.id i j, Code.lexTokenTooLong, #[Arg.int maxTokenLen])] else [])
        (TriviaNote.noticesOf u.id (Trivia.commentNotes m u.content i j).toList) ds := by
      cases m with
      | emit => exact hs.elim
      | ignore | keepLast =>
        exact ⟨_, Drops.all fun n hn => (List.mem_append.1 hn).elim (hmal n) (htl n)⟩
      | tests => exact ⟨_, Drops.append_dropped _ htl⟩
    rw [hye, hbe, Array.toList_append, TriviaNote.noticesOf_append, Array.toList_append,
      TriviaNote.noticesOf_append, Array.toList_append, TriviaNote.noticesOf_append, List.append_assoc]
    exact h.engines.ahead ((Drops.refl _).append hc)
  · rw [Array.toList_append, Array.toList_append, List.foldl_append, List.foldl_append,
      commentNotes_keep, hkeep, h.lastDir₂]
    by_cases hm : m = .keepLast
    · simp [hm, Token.commentRange, hto, hj]
    · simp [hm]

/-- One call of `lex` in emit mode: when emit mode is at a directive comment that `m` skips,
it hands out the comment's token and moves on past it, the second tokenizer staying where it
is; otherwise both tokenizers give the same result and meet again. -/
theorem lex_step (h : ModeSim u m e₀ D nl pend s₁ s₂) :
    (s₁.AtSkipped m ∧ ∃ tok nl' pend', (Lexer.lex.run s₁).1 = .ok tok ∧ tok.OfSkippedComment u m ∧
        ModeSim u m e₀ (D ++ [tok]) nl' pend' (Lexer.lex.run s₁).2 s₂ ∧
        s₁.off < (Lexer.lex.run s₁).2.off) ∨
      (¬s₁.AtSkipped m ∧ (Lexer.lex.run s₁).1 = (Lexer.lex.run s₂).1 ∧
        ModeSim u m e₀ D false #[] (Lexer.lex.run s₁).2 (Lexer.lex.run s₂).2 ∧
        (Lexer.lex.run s₁).2.off = (Lexer.lex.run s₂).2.off) := by
  cases herr : s₁.err with
  | some e =>
    -- a stopped tokenizer: the second one stopped with it, at the same place
    obtain ⟨ho, rfl, rfl⟩ := h.apart.resolve_left <| by
      rintro ⟨-, he⟩
      rw [← h.err_eq, herr] at he
      cases he
    right
    rw [Lexer.lex_run_of_err herr, Lexer.lex_run_of_err (h.err_eq ▸ herr)]
    exact ⟨by rintro ⟨he, -⟩; simp [herr] at he, rfl, h, ho⟩
  | none =>
  cases hlit : s₁.lit with
  | some lit =>
    -- inside a split message both read on from one place
    obtain ⟨ho, rfl, rfl⟩ := h.apart.resolve_left <| by
      rintro ⟨hl, -⟩
      rw [← h.lit_eq, hlit] at hl
      cases hl
    right
    exact ⟨by rintro ⟨-, hl, -⟩; simp [hlit] at hl,
      h.lex_matched herr (ScanM.OnCore.continueMessage lit) (LexM.next_run_of_lit hlit)
        (LexM.next_run_of_lit (h.lit_eq ▸ hlit)) (h.core_eq ho) h.lastDir₁ h.lastDir₂ h.engines⟩
  | none =>
  have hsz : s₁.off ≤ u.content.size := h.text₁ ▸ h.ready₁.inside
  have ht₁ : s₁.trivia = Trivia.skip u.content .emit s₁.off false #[] := by
    rw [Lexer.trivia, h.text₁, h.mode₁]
  have ht₂ : s₂.trivia = (Trivia.skip u.content m s₁.off false #[]).preceded nl pend := by
    rw [Lexer.trivia, h.text₂, h.mode₂, h.skip]
  have hkeep : ∀ l, (Trivia.skip u.content .emit s₁.off false #[]).notes.toList.foldl
      (TriviaNote.keep u.id) l = l := fun l => Trivia.skip_emit_keep _ _ _ _ _ l
  have hstop := (Trivia.skip_stop u.content .emit s₁.off false #[] hsz).1
  have hdir := @Trivia.skip_directive u.content .emit s₁.off false #[] hsz
  have hsplit := Trivia.skip_by_emit u.content s₁.off false #[]
  generalize hte : Trivia.skip u.content .emit s₁.off false #[] = t at ht₁ hkeep hstop hdir hsplit
  -- every mode reads the trivia as emit mode does, up to the directive comment emit mode meets
  unfold Trivia.EmitSplit at hsplit
  split at hsplit
  · next hd =>
    right
    refine ⟨?_, h.lex_same_trivia herr hlit ht₁ (by rw [ht₂, hsplit m]) hkeep⟩
    rintro ⟨-, -, hit, hd', -⟩
    rw [ht₁, hd] at hd'
    cases hd'
  · next hit hd =>
    obtain ⟨⟨hocc, hend, -⟩, hst, nl', pre, hsplit⟩ := hsplit
    have ht : t = ⟨hit.start, nl', pre ++ Trivia.malformedNotes u.content hit.start
        (Trivia.directiveEnd u.content hit.start), some ⟨hit.start, Trivia.directiveEnd u.content hit.start,
          (Trivia.classify (u.content.extract hit.start (Trivia.directiveEnd u.content hit.start))).1⟩⟩ := by
      rw [← hte, hsplit .emit, Trivia.skip_of_not_skips hocc .emit nl' pre id]
    have hat : s₁.AtSkipped m ↔
        m.SkipsComment (u.content.extract hit.start (Trivia.directiveEnd u.content hit.start)) := by
      refine ⟨?_, fun hs => ⟨herr, hlit, hit, by rw [ht₁, hd], ?_⟩⟩
      · rintro ⟨-, -, hit', hd', hs⟩
        rw [ht₁, hd] at hd'
        cases hd'
        rwa [h.text₁, hend] at hs
      · rwa [h.text₁, hend]
    by_cases hs : m.SkipsComment (u.content.extract hit.start (Trivia.directiveEnd u.content hit.start))
    · -- `m` skips the comment emit mode hands out
      left
      have hpre : ∀ l, pre.toList.foldl (TriviaNote.keep u.id) l = l := fun l => by
        have hl := hkeep l
        rw [ht] at hl
        dsimp only at hl
        rwa [Array.toList_append, List.foldl_append, malformedNotes_keep] at hl
      obtain ⟨tok, hr, htok, hsim, hoff⟩ := h.lex_drop herr hlit hocc (ht₁.trans ht) (hsplit m) hs hpre
      have hlt := (hdir hd).2.1
      refine ⟨hat.2 hs, tok, _, _, hr, htok, hsim, ?_⟩
      omega
    · right
      refine ⟨mt hat.1 hs, h.lex_same_trivia herr hlit ht₁ ?_ hkeep⟩
      rw [ht₂, hsplit m, Trivia.skip_of_not_skips hocc m nl' pre hs, ht]

/-- From any point of the simulation, emit mode hands out tokens of comments that `m` skips
until its next call gives what the next call of the second tokenizer gives, and they meet
again; the calls that hand out such tokens are exactly those made at such a comment. -/
theorem catch_up (h : ModeSim u m e₀ D nl pend s₁ s₂) :
    ∃ k ts, (∀ j < k, (s₁.lexRun j).2.AtSkipped m) ∧ ¬(s₁.lexRun k).2.AtSkipped m ∧
      (s₁.lexRun (k + 1)).1 = ts.map .ok ++ [(Lexer.lex.run s₂).1] ∧
      (∀ t ∈ ts, t.OfSkippedComment u m) ∧
      ModeSim u m e₀ (D ++ ts) false #[] (s₁.lexRun (k + 1)).2 (Lexer.lex.run s₂).2 ∧
      (s₁.lexRun (k + 1)).2.off = (Lexer.lex.run s₂).2.off := by
  -- each comment handed out on the way moves emit mode on: induction on the text left
  obtain ⟨r, hr⟩ : ∃ r, u.content.size - s₁.off = r := ⟨_, rfl⟩
  induction r using Nat.strong_induction_on generalizing D nl pend s₁ with
  | _ r ih =>
  rcases h.lex_step with ⟨hat, tok, nl', pend', hlex, htok, hsim, hlt⟩ | ⟨hat, hlex, hsim, hoff⟩
  · have hin : (Lexer.lex.run s₁).2.off ≤ u.content.size := hsim.text₁ ▸ hsim.ready₁.inside
    obtain ⟨k, ts, hbefore, hnot, hrun, hts, hsim', hoff⟩ := ih _ (by omega) hsim rfl
    refine ⟨k + 1, tok :: ts, ?_, ?_, ?_, ?_, ?_, ?_⟩
    · intro j hj
      cases j with
      | zero => exact hat
      | succ j =>
        rw [Lexer.lexRun_cons]
        exact hbefore j (by omega)
    · rw [Lexer.lexRun_cons]
      exact hnot
    · rw [Lexer.lexRun_cons, hlex, hrun, List.map_cons, List.cons_append]
    · exact fun t ht => (List.mem_cons.1 ht).elim (fun e => e ▸ htok) (hts t)
    · rw [Lexer.lexRun_cons, ← List.singleton_append, ← List.append_assoc]
      exact hsim'
    · rw [Lexer.lexRun_cons]
      exact hoff
  · refine ⟨0, [], fun j hj => absurd hj (Nat.not_lt_zero j), hat, ?_, by simp, ?_, ?_⟩
    · rw [Lexer.lexRun_cons, hlex]
      rfl
    · rw [Lexer.lexRun_cons, List.append_nil]
      exact hsim
    · rw [Lexer.lexRun_cons]
      exact hoff

/-- Over whole runs: whatever number of calls the second tokenizer makes, emit mode makes a
number of calls whose results are the same once those of the calls that meet a comment `m` skips
are left out; the results left out are the tokens of those comments, and the two tokenizers meet
again. -/
theorem keptRun (h : ModeSim u m e₀ D false #[] s₁ s₂) (ho : s₁.off = s₂.off) (n : Nat) :
    ∃ n₁ ts, s₁.keptRun m n₁ = (s₂.lexRun n).1 ∧ s₁.skippedRun m n₁ = ts.map .ok ∧
      (∀ t ∈ ts, t.OfSkippedComment u m) ∧
      ModeSim u m e₀ (D ++ ts) false #[] (s₁.lexRun n₁).2 (s₂.lexRun n).2 ∧
      (s₁.lexRun n₁).2.off = (s₂.lexRun n).2.off := by
  induction n with
  | zero => exact ⟨0, [], rfl, rfl, by simp, by rw [List.append_nil]; exact h, ho⟩
  | succ n ih =>
    obtain ⟨n₁, ts, hk, hs, hts, hsim, -⟩ := ih
    obtain ⟨k, ts', hb, hn, hrun, hts', hsim', hoff⟩ := hsim.catch_up
    -- catching up is `k` calls at skipped comments and one that meets the second tokenizer
    rw [Lexer.lexRun_succ] at hrun
    obtain ⟨hpre, hlast⟩ := List.append_inj' hrun rfl
    obtain ⟨hk', hs'⟩ := Lexer.keptRun_catch_up hb hn
    refine ⟨n₁ + (k + 1), ts ++ ts', ?_, ?_, ?_, ?_, ?_⟩
    · rw [Lexer.keptRun_add, hk, hk', hlast, Lexer.lexRun_succ n s₂]
    · rw [Lexer.skippedRun_add, hs, hs', hpre, List.map_append]
    · intro t ht
      rcases List.mem_append.1 ht with ht | ht
      exacts [hts t ht, hts' t ht]
    · rw [Lexer.lexRun_add, Lexer.lexRun_succ n s₂, ← List.append_assoc]
      exact hsim'
    · rw [Lexer.lexRun_add, Lexer.lexRun_succ n s₂]
      exact hoff

/-- Emit mode and mode `m` start alike. -/
theorem start (u : SourceUnit) (m : DirectiveMode) (env : LexEnv) :
    ModeSim u m env.engine [] false #[] (Lexer.create u .emit env) (Lexer.create u m env) where
  unit := rfl
  mode₁ := rfl
  mode₂ := rfl
  lastDir₁ := rfl
  ready₁ := Lexer.ready_create u .emit env
  ready₂ := Lexer.ready_create u m env
  look := rfl
  core := rfl
  skip := (Trivia.preceded_none _).symm
  apart := .inr ⟨rfl, rfl, rfl⟩
  engines := ⟨[], [], [], .nil, rfl, rfl⟩
  lastDir₂ := by cases m <;> rfl

/-- Ignore and keep-last mode skip the same comments, so from one emit-mode tokenizer they
give the same next result and meet it again together. -/
theorem lex_ignore_keepLast {D' : List Token} {s₃ : Lexer}
    (h₂ : ModeSim u .ignore e₀ D false #[] s₁ s₂) (h₃ : ModeSim u .keepLast e₀ D' false #[] s₁ s₃) :
    (Lexer.lex.run s₂).1 = (Lexer.lex.run s₃).1 ∧ ∃ s₁' D₂ D₃,
      ModeSim u .ignore e₀ D₂ false #[] s₁' (Lexer.lex.run s₂).2 ∧
      ModeSim u .keepLast e₀ D₃ false #[] s₁' (Lexer.lex.run s₃).2 := by
  obtain ⟨k₂, ts₂, hb₂, hn₂, hr₂, -, hs₂, -⟩ := h₂.catch_up
  obtain ⟨k₃, ts₃, hb₃, hn₃, hr₃, -, hs₃, -⟩ := h₃.catch_up
  -- both catch up at the first call that meets no skipped comment
  have hk : k₂ = k₃ := by
    rcases Nat.lt_trichotomy k₂ k₃ with hlt | heq | hlt
    · exact absurd (hb₃ k₂ hlt) hn₂
    · exact heq
    · exact absurd (hb₂ k₃ hlt) hn₃
  subst hk
  have hlast := congrArg List.getLast? (hr₂.symm.trans hr₃)
  simp only [List.getLast?_append, List.getLast?_singleton, Option.some_or, Option.some.injEq] at hlast
  exact ⟨hlast, _, _, _, hs₂, hs₃⟩

/-- Ignore and keep-last mode give the same results on every run that starts alike. -/
theorem lexRun_ignore_keepLast {D' : List Token} {s₃ : Lexer}
    (h₂ : ModeSim u .ignore e₀ D false #[] s₁ s₂) (h₃ : ModeSim u .keepLast e₀ D' false #[] s₁ s₃)
    (n : Nat) : (s₂.lexRun n).1 = (s₃.lexRun n).1 := by
  induction n generalizing D D' s₁ s₂ s₃ with
  | zero => rfl
  | succ n ih =>
    obtain ⟨hr, _, _, _, h₂', h₃'⟩ := lex_ignore_keepLast h₂ h₃
    rw [Lexer.lexRun_cons, Lexer.lexRun_cons, hr, ih h₂' h₃']

end ModeSim

/-- The four directive modes agree on everything but `//::` comments. Whatever number of calls
of `lex` mode `m` makes from the start of a unit, emit mode makes a number of calls whose results
are exactly those of mode `m` once the results of the calls that meet a comment `m` skips are
left out; each result left out is the token of that comment, a directive token over it or the
error token of an over-long one. After them the two tokenizers agree on everything but the mode,
the last token, the engine and the remembered directive (cursor, flags, bracket counters, open
literal, dictionary and store included); the engine of mode `m` got the reports of emit mode's
but for some on `//::` comments; and in keep-last mode the remembered directive is the range of
the last comment skipped. Ignore and keep-last mode give the same results. -/
theorem directive_modes_agree (u : SourceUnit) (env : LexEnv) :
    (∀ m n, ∃ (n₁ : Nat) (D : List Token),
      (Lexer.create u .emit env).keptRun m n₁ = ((Lexer.create u m env).lexRun n).1 ∧
      (Lexer.create u .emit env).skippedRun m n₁ = D.map .ok ∧ (∀ t ∈ D, t.OfSkippedComment u m) ∧
      ((Lexer.create u .emit env).lexRun n₁).2.core = ((Lexer.create u m env).lexRun n).2.core ∧
      EnginesAgree u env.engine [] ((Lexer.create u .emit env).lexRun n₁).2.env.engine
        ((Lexer.create u m env).lexRun n).2.env.engine ∧
      ((Lexer.create u m env).lexRun n).2.lastDir =
        if m = .keepLast then D.getLast?.map (Token.commentRange u) else none) ∧
    ∀ n, ((Lexer.create u .ignore env).lexRun n).1 = ((Lexer.create u .keepLast env).lexRun n).1 := by
  refine ⟨fun m n => ?_, (ModeSim.start u .ignore env).lexRun_ignore_keepLast (ModeSim.start u .keepLast env)⟩
  obtain ⟨n₁, D, hk, hs, hD, hsim, hoff⟩ := (ModeSim.start u m env).keptRun rfl n
  rw [List.nil_append] at hsim
  exact ⟨n₁, D, hk, hs, hD, hsim.core_eq hoff, hsim.engines, hsim.lastDir₂⟩

end NovelScript

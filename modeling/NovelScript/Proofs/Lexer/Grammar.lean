import Mathlib
import NovelScript.Proofs.Lexer.Directives
/-!
# The grammar state along a token stream

Between two significant tokens the tokenizer keeps a small grammar state: whether a `menu`
keyword waits for its body, whether a body is open and at which brace count it closes, the
bracket counters, and whether a label or a dialogue opener may come next. Only `after`
changes it, once for each significant token, and the end of the text, once; directive tokens,
blank tokens and the pieces of a split message leave it alone, and so does a scan.

The menu part is a machine of its own here (`MenuState.next`, with the flag it puts on a brace,
`MenuState.mark`, and the reports it makes, `MenuState.notes`). Along every run from a fresh
tokenizer (`Lexer.follows_run`) the tokenizer follows it over the tokens that went through
`after` (`Lexer.afterRun`): its menu state is the machine's, each of those tokens carries the
flag the machine gives it, no other token is a brace, the two acceptance flags are those the
last of them set, and the menu reports handed to the engine are the machine's, then the report
of a keyword still waiting at the end.
-/

open Std.Do

set_option mvcgen.warning false

namespace NovelScript

/-! ### The menu machine -/

/-- What the tokenizer keeps about menus: a `menu` keyword, over `kw`, waiting for its body;
an open body, which the closer met at brace count `depth` ends; and the bracket counters. -/
structure MenuState where
  await : Bool
  inMenu : Bool
  depth : Nat
  kw : Range
  bal : Balances

/-- The menu part of a tokenizer. -/
def Lexer.menu (s : Lexer) : MenuState :=
  ⟨s.flags.awaitMenu, s.flags.inMenu, s.menuDepth, s.menuKw, s.bal⟩

/-- Whether a token is the keyword `menu`. -/
def Token.isMenu (t : Token) : Bool := t.keyword == keywordMenu

/-- Whether a token is the keyword `goto`. -/
def Token.isGoto (t : Token) : Bool := t.keyword == keywordGoto

/-- Whether a token names who speaks: a speaker literal or a character. -/
def Token.isSpeaker (t : Token) : Bool := t.kind = .speaker || t.kind = .character

/-- Whether a token is a brace. -/
def Token.isBrace (t : Token) : Bool := t.kind = .lBrace || t.kind = .rBrace

namespace MenuState

/-- The menu state of a fresh tokenizer. -/
def init : MenuState := ⟨false, false, 0, Range.none, {}⟩

/-- Whether `tok` opens a menu body: a `{` right after a `menu` keyword. -/
def opens (m : MenuState) (tok : Token) : Bool := tok.kind = .lBrace && m.await

/-- Whether `tok` closes the open menu body: the `}` met at the body's brace count. -/
def closes (m : MenuState) (tok : Token) : Bool :=
  tok.kind = .rBrace && m.inMenu && m.bal.brace = m.depth

/-- The menu state after the significant token `tok`. -/
def next (m : MenuState) (tok : Token) : MenuState where
  await := tok.isMenu && !m.inMenu
  inMenu := m.opens tok || (m.inMenu && !m.closes tok)
  depth := if m.opens tok then m.bal.brace + 1 else if m.closes tok then 0 else m.depth
  kw := if tok.isMenu && !m.inMenu then tok.range else m.kw
  bal := m.bal.push tok.kind

/-- The token with its menu flag: a brace that opens or closes a body is marked. -/
def mark (m : MenuState) (tok : Token) : Token :=
  if m.opens tok then { tok with flags := TokenFlag.menuOpen }
  else if m.closes tok then { tok with flags := TokenFlag.menuClose }
  else tok

/-- The menu reports of `tok`: the waiting `menu` keyword when `tok` is not its `{`, then
`tok` itself when it is a `menu` keyword inside a body. -/
def notes (m : MenuState) (tok : Token) : List Notice :=
  (if m.await && tok.kind ≠ .lBrace then [(m.kw, Code.strMissingMenuBody, #[])] else []) ++
    (if tok.isMenu && m.inMenu then [(tok.range, Code.strNestedMenu, #[])] else [])

/-- The report the end of the text makes: a `menu` keyword still waiting for its body. -/
def endNotes (m : MenuState) : List Notice :=
  if m.await then [(m.kw, Code.strMissingMenuBody, #[])] else []

/-- The menu state at the end of the text: no keyword waits any more. -/
def finish (m : MenuState) : MenuState := { m with await := false }

/-- The menu state after the significant tokens `ts`. -/
def run (m : MenuState) (ts : List Token) : MenuState := ts.foldl next m

/-- The menu reports of the significant tokens `ts`, in order. -/
def notesOf : MenuState → List Token → List Notice
  | _, [] => []
  | m, t :: ts => m.notes t ++ notesOf (m.next t) ts

/-- The token `t` carries the menu flags the machine in state `m` gives it. -/
def Marked (m : MenuState) (t : Token) : Prop := t.menuOpen = m.opens t ∧ t.menuClose = m.closes t

/-- Each token of `ts` carries the menu flags the machine gives it, from `m`. -/
def Traces : MenuState → List Token → Prop
  | _, [] => True
  | m, t :: ts => m.Marked t ∧ Traces (m.next t) ts

variable (m : MenuState) (tok : Token)

@[simp] theorem run_nil : m.run [] = m := rfl

@[simp] theorem run_append (ts us : List Token) : m.run (ts ++ us) = (m.run ts).run us :=
  List.foldl_append

@[simp] theorem run_cons (ts : List Token) : m.run (tok :: ts) = (m.next tok).run ts := rfl

theorem run_concat (ts : List Token) : m.run (ts ++ [tok]) = (m.run ts).next tok := by simp

theorem notesOf_append (ts us : List Token) :
    m.notesOf (ts ++ us) = m.notesOf ts ++ (m.run ts).notesOf us := by
  induction ts generalizing m with
  | nil => rfl
  | cons t ts ih => simp [notesOf, ih]

theorem notesOf_concat (ts : List Token) :
    m.notesOf (ts ++ [tok]) = m.notesOf ts ++ (m.run ts).notes tok := by
  simp [notesOf_append, notesOf]

theorem traces_append (ts us : List Token) :
    m.Traces (ts ++ us) ↔ m.Traces ts ∧ (m.run ts).Traces us := by
  induction ts generalizing m with
  | nil => simp [Traces]
  | cons t ts ih => simp [Traces, ih, and_assoc]

theorem traces_concat (ts : List Token) :
    m.Traces (ts ++ [tok]) ↔ m.Traces ts ∧ (m.run ts).Marked tok := by
  simp [traces_append, Traces]

/-! Marking a brace changes its flags only, which the machine never reads. -/

@[simp] theorem mark_kind : (m.mark tok).kind = tok.kind := by
  unfold mark; split_ifs <;> rfl

@[simp] theorem mark_range : (m.mark tok).range = tok.range := by
  unfold mark; split_ifs <;> rfl

@[simp] theorem mark_lineStart : (m.mark tok).lineStart = tok.lineStart := by
  unfold mark; split_ifs <;> rfl

@[simp] theorem mark_keyword : (m.mark tok).keyword = tok.keyword := by
  unfold mark
  split_ifs with ho hc
  · simp_all [opens, Token.keyword]
  · simp_all [closes, Token.keyword]
  · rfl

@[simp] theorem mark_isMenu : (m.mark tok).isMenu = tok.isMenu := by simp [Token.isMenu]

@[simp] theorem mark_isGoto : (m.mark tok).isGoto = tok.isGoto := by simp [Token.isGoto]

@[simp] theorem mark_isSpeaker : (m.mark tok).isSpeaker = tok.isSpeaker := by
  simp [Token.isSpeaker]

@[simp] theorem mark_isBrace : (m.mark tok).isBrace = tok.isBrace := by simp [Token.isBrace]

@[simp] theorem opens_mark (m' : MenuState) : m.opens (m'.mark tok) = m.opens tok := by
  simp [opens]

@[simp] theorem closes_mark (m' : MenuState) : m.closes (m'.mark tok) = m.closes tok := by
  simp [closes]

@[simp] theorem next_mark (m' : MenuState) : m.next (m'.mark tok) = m.next tok := by
  simp [next]

@[simp] theorem notes_mark (m' : MenuState) : m.notes (m'.mark tok) = m.notes tok := by
  simp [notes]

/-- A scanned token, whose braces carry no flags, leaves `after` with exactly the flags the
machine gives it. -/
theorem marked_mark {tok : Token} (h : tok.Scannable) : m.Marked (m.mark tok) := by
  unfold Marked mark
  split_ifs with ho hc
  · simp_all [opens, closes, Token.menuOpen, Token.menuClose, TokenFlag.menuOpen]
  · simp_all [opens, closes, Token.menuOpen, Token.menuClose, TokenFlag.menuClose]
  · -- an unmarked brace has no flags; any other token is no brace
    by_cases hb : tok.kind = .lBrace ∨ tok.kind = .rBrace
    · simp_all [opens, closes, Token.menuOpen, Token.menuClose, h.2 hb]
    · simp_all [opens, closes, Token.menuOpen, Token.menuClose]

end MenuState

/-! ### Reports picked out by their code -/

/-- `e'` is `e` after some reports, of which `bs` are those whose code `p` picks, in order. -/
def ReportedBy (p : Code → Bool) (e e' : Option Engine) (bs : List Notice) : Prop :=
  ∃ rs : List Notice, rs.filter (fun r => p r.2.1) = bs ∧ e' = diagnoseAll rs e

namespace ReportedBy

variable {p : Code → Bool} {e e' e'' : Option Engine} {bs cs : List Notice}

theorem refl (p : Code → Bool) (e : Option Engine) : ReportedBy p e e [] := ⟨[], rfl, rfl⟩

theorem of_eq (h : ReportedBy p e e' bs) (hbs : bs = cs) : ReportedBy p e e' cs := hbs ▸ h

theorem trans (h₁ : ReportedBy p e e' bs) (h₂ : ReportedBy p e' e'' cs) :
    ReportedBy p e e'' (bs ++ cs) := by
  obtain ⟨rs, rfl, rfl⟩ := h₁
  obtain ⟨qs, rfl, rfl⟩ := h₂
  exact ⟨rs ++ qs, List.filter_append .., (diagnoseAll_append ..).symm⟩

theorem of_diagnoseAll (p : Code → Bool) (rs : List Notice) (e : Option Engine) :
    ReportedBy p e (diagnoseAll rs e) (rs.filter fun r => p r.2.1) :=
  ⟨rs, rfl, rfl⟩

/-- Reports none of whose codes `p` picks. -/
theorem none_of {ns : List Notice} (hns : ∀ n ∈ ns, p n.2.1 = false) (e : Option Engine) :
    ReportedBy p e (diagnoseAll ns e) [] :=
  ⟨ns, List.filter_eq_nil_iff.2 fun n hn => by simp [hns n hn], rfl⟩

/-- A report with a code `p` picks is recorded. -/
theorem picked (h : ReportedBy p e e' bs) {c : Code} (hc : p c = true) (r : Range) (a : Array Arg) :
    ReportedBy p e (e'.map (·.diagnose r c a)) (bs ++ [(r, c, a)]) :=
  h.trans ⟨[(r, c, a)], by simp [hc], rfl⟩

/-- A report with a code `p` does not pick is not. -/
theorem skipped (h : ReportedBy p e e' bs) {c : Code} (hc : p c = false) (r : Range)
    (a : Array Arg) : ReportedBy p e (e'.map (·.diagnose r c a)) bs := by
  have h' : ReportedBy p e' (diagnoseAll [(r, c, a)] e') [] := none_of (by simpa using hc) e'
  exact of_eq (h.trans h') (List.append_nil bs)

end ReportedBy

/-- The two codes of menu structure. -/
def isMenuCode (c : Code) : Bool := c == Code.strNestedMenu || c == Code.strMissingMenuBody

/-- A scan reports no problem of menu structure. -/
theorem isMenuCode_of_fromScan {c : Nat} (h : Code.FromScan c) : isMenuCode c = false := by
  unfold Code.FromScan at h
  have h₁ : c ≠ 2001 := by omega
  have h₂ : c ≠ 2002 := by omega
  simp [isMenuCode, Code.strNestedMenu, Code.strMissingMenuBody, h₁, h₂]

theorem LexM.OnCoreWith.quiet {α : Type} {x : LexM α} (h : LexM.OnCoreWith Code.FromScan x)
    (s : Lexer) : ReportedBy isMenuCode s.env.engine (x.run s).2.env.engine [] := by
  obtain ⟨ns, hns, h⟩ := h.run_eq s
  rw [h]
  exact ReportedBy.none_of (fun n hn => isMenuCode_of_fromScan (hns n hn)) _

theorem MenuState.notes_menuCodes (m : MenuState) (tok : Token) :
    (m.notes tok).filter (fun r => isMenuCode r.2.1) = m.notes tok := by
  unfold notes
  split_ifs <;> rfl

theorem Balances.closeNotes_menuCodes (b : Balances) (k : TokenKind) (r : Range) :
    (b.closeNotes k r).filter (fun r => isMenuCode r.2.1) = [] := by
  unfold closeNotes
  split <;> (try split_ifs) <;> rfl

/-! ### `after` and the end of the text -/

/-- What `after tok` does from `s₀` to the grammar state, giving `t`: the machine's step, the
acceptance flags `tok` sets, and the engine handed the menu reports, then the balance report
of a closer at a zero counter. -/
structure Lexer.AfterMenu (s₀ : Lexer) (tok t : Token) (s : Lexer) : Prop where
  mark : t = s₀.menu.mark tok
  menu : s.menu = s₀.menu.next tok
  label : s.flags.acceptLabel = tok.isGoto
  dialogue : s.flags.acceptDialogue = tok.isSpeaker
  done : s.done = s₀.done
  engine : s.env.engine =
    diagnoseAll (s₀.menu.notes tok ++ s₀.bal.closeNotes tok.kind tok.range) s₀.env.engine

theorem Lexer.AfterMenu.notes {s₀ s : Lexer} {tok t : Token} (h : s₀.AfterMenu tok t s) :
    ReportedBy isMenuCode s₀.env.engine s.env.engine (s₀.menu.notes tok) := by
  rw [h.engine]
  refine (ReportedBy.of_diagnoseAll _ _ _).of_eq ?_
  rw [List.filter_append, MenuState.notes_menuCodes, Balances.closeNotes_menuCodes,
    List.append_nil]

namespace LexM

theorem after_menu (tok : Token) (s₀ : Lexer) :
    ⦃fun s => ⌜s = s₀⌝⦄ after tok ⦃⇓ t s => ⌜Lexer.AfterMenu s₀ tok t s⌝⦄ := by
  mvcgen -trivial [after, close, setFlags]
  all_goals
    subst ‹_ = s₀›
    simp +zetaDelta only at *
    refine ⟨?_, ?_, ?_, ?_, rfl, ?_⟩
    · simp_all [Lexer.menu, MenuState.mark, MenuState.opens, MenuState.closes, Lexer.noteReport]
    · simp_all [Lexer.menu, MenuState.next, MenuState.opens, MenuState.closes, Token.isMenu,
        Token.keyword, keywordMenu, keywordGoto, Balances.push, Lexer.noteReport]
    · simp_all [Token.isGoto, Token.keyword, keywordGoto]
    · simp_all [Token.isSpeaker]
    · simp_all [Lexer.menu, MenuState.notes, Token.isMenu, Token.keyword, keywordMenu, keywordGoto,
        Lexer.noteReport, LexEnv.noteReport, Balances.closeNotes, diagnoseAll, Token.range]

end LexM

/-- What `eof` does from `s₀` to the grammar state: the first time, a waiting `menu` keyword
is reported and no longer waits, and the tokenizer is finished. -/
structure Lexer.Closed (s₀ s : Lexer) : Prop where
  menu : s.menu = if s₀.done then s₀.menu else s₀.menu.finish
  label : s.flags.acceptLabel = s₀.flags.acceptLabel
  dialogue : s.flags.acceptDialogue = s₀.flags.acceptDialogue
  done : s.done = true
  notes : ReportedBy isMenuCode s₀.env.engine s.env.engine
    (if s₀.done then [] else s₀.menu.endNotes)

namespace Lexer.Closed

variable {s₀ s : Lexer}

/-- A report that is not about menus keeps the end's contract. -/
theorem noteReport (h : s₀.Closed s) {c : Code} (hc : isMenuCode c = false) (r : Range)
    (a : Array Arg) : s₀.Closed (s.noteReport r c a) :=
  ⟨h.menu, h.label, h.dialogue, h.done, h.notes.skipped hc r a⟩

/-- A finished tokenizer gives the end token again and changes nothing. -/
theorem of_done (hd : s₀.done = true) : s₀.Closed s₀ :=
  ⟨by simp [hd], rfl, rfl, hd, by simpa [hd] using ReportedBy.refl _ _⟩

end Lexer.Closed

namespace LexM

theorem eof_menu (s₀ : Lexer) : ⦃fun s => ⌜s = s₀⌝⦄ eof ⦃⇓ _ s => ⌜Lexer.Closed s₀ s⌝⦄ := by
  mvcgen [eof, rangeOf, setFlags]
  -- the reports of brackets left open are no menu reports
  invariants
  · ⇓ _ s => ⌜Lexer.Closed s₀ s⌝
  · ⇓ _ s => ⌜Lexer.Closed s₀ s⌝
  all_goals subst ‹_ = s₀›
  case vc1.step.isTrue | vc5.step.isTrue => exact ‹Lexer.Closed _ _›.noteReport (by decide) _ _
  case vc9.isFalse => exact Lexer.Closed.of_done (by simpa using ‹¬(!_) = true›)
  -- the first end: the tokenizer is finished, and a waiting `menu` keyword reported
  all_goals
    simp +zetaDelta only at *
    refine ⟨?_, rfl, rfl, rfl, ?_⟩
  · simp_all [Lexer.menu, MenuState.finish, Lexer.noteReport]
  · refine ((ReportedBy.refl _ _).picked (by decide) _ _).of_eq ?_
    simp_all [MenuState.endNotes, Lexer.menu]
  · simp_all [Lexer.menu, MenuState.finish]
  · refine (ReportedBy.refl _ _).of_eq ?_
    simp_all [MenuState.endNotes, Lexer.menu]

end LexM

/-! ### What leaves the grammar state alone -/

/-- The grammar state stays: the menu state, the acceptance flags and whether the tokenizer is
finished, and no menu report is made. -/
structure Lexer.SameGrammar (s₀ s : Lexer) : Prop where
  menu : s.menu = s₀.menu
  label : s.flags.acceptLabel = s₀.flags.acceptLabel
  dialogue : s.flags.acceptDialogue = s₀.flags.acceptDialogue
  done : s.done = s₀.done
  quiet : ReportedBy isMenuCode s₀.env.engine s.env.engine []

namespace Lexer.SameGrammar

variable {s₀ s₁ s : Lexer}

theorem refl (s : Lexer) : s.SameGrammar s := ⟨rfl, rfl, rfl, rfl, ReportedBy.refl _ _⟩

theorem trans (h₁ : s₀.SameGrammar s₁) (h₂ : s₁.SameGrammar s) : s₀.SameGrammar s :=
  ⟨h₂.menu.trans h₁.menu, h₂.label.trans h₁.label, h₂.dialogue.trans h₁.dialogue,
    h₂.done.trans h₁.done, h₁.quiet.trans h₂.quiet⟩

/-- A tokenizer with the frame of `s₀`, and no menu report since. -/
theorem of_frame (hf : s.frame = s₀.frame)
    (hq : ReportedBy isMenuCode s₀.env.engine s.env.engine []) : s₀.SameGrammar s := by
  have hflags : s.flags = s₀.flags := congrArg Lexer.Frame.flags hf
  have hdepth : s.menuDepth = s₀.menuDepth := congrArg Lexer.Frame.menuDepth hf
  have hkw : s.menuKw = s₀.menuKw := congrArg Lexer.Frame.menuKw hf
  have hbal : s.bal = s₀.bal := congrArg Lexer.Frame.bal hf
  refine ⟨?_, by rw [hflags], by rw [hflags], congrArg Lexer.Frame.done hf, hq⟩
  simp only [Lexer.menu, hflags, hdepth, hkw, hbal]

theorem noteReport (h : s₀.SameGrammar s) {c : Code} (hc : isMenuCode c = false) (r : Range)
    (a : Array Arg) : s₀.SameGrammar (s.noteReport r c a) :=
  ⟨h.menu, h.label, h.dialogue, h.done, h.quiet.skipped hc r a⟩

end Lexer.SameGrammar

theorem TriviaNote.noticesOf_quiet (uid : Nat) (ns : List TriviaNote) :
    ∀ n ∈ TriviaNote.noticesOf uid ns, isMenuCode n.2.1 = false := by
  intro n hn
  obtain ⟨note, -, hn⟩ := List.mem_flatMap.1 hn
  cases note <;> simp [TriviaNote.notices] at hn <;> subst hn <;> rfl

/-- Skipping trivia moves the cursor and reports comments and malformed directives only. -/
theorem Lexer.sameGrammar_noted (s : Lexer) (i : Nat) (nl : Bool) (ns : List TriviaNote) :
    s.SameGrammar ((s.moved i nl).noted ns) :=
  ⟨rfl, rfl, rfl, rfl, by simpa using ReportedBy.none_of (TriviaNote.noticesOf_quiet _ ns) _⟩

/-- Emitting a token reports at most its length. -/
theorem Lexer.sameGrammar_noteEmit (s : Lexer) (kind : TokenKind) (start : Nat) :
    s.SameGrammar (s.noteEmit kind start) := by
  unfold Lexer.noteEmit
  split
  · exact (SameGrammar.refl s).noteReport (by decide) _ _
  · exact .refl s

namespace LexM

/-- A scan leaves the grammar state alone, and the token it gives carries no flag on a
brace. -/
theorem scan_sameGrammar {s : Lexer} (hlt : s.off < s.text.size) (hl : s.lit = none) :
    s.SameGrammar (scan.run.run s).2 ∧ ∀ t, (scan.run.run s).1 = .ok t → t.Scannable := by
  have hf := ScanM.of_triple (scan_spec s.snap) ⟨Within.here hlt.le, rfl, hlt, hl⟩
  have hsc := ScanM.of_triple scan_scannable trivial (s := s)
  have hq := ScanM.OnCoreWith.scan.quiet s
  rcases hx : scan.run.run s with ⟨_ | t, s'⟩ <;> rw [hx] at hf hsc hq
  · exact ⟨.of_frame hf.within.frame hq, nofun⟩
  · exact ⟨.of_frame hf.settled.within.frame hq, fun _ h => by cases h; exact hsc⟩

/-- The next piece of a split message, after its blank token. -/
theorem continueMessage_run_piece {s : Lexer} {lit : OpenLiteral} (hb : s.flags.wasBlank = true) :
    (continueMessage lit).run.run s =
      (scanLiteral s.off lit true).run.run { s with flags := { s.flags with wasBlank := false } } := by
  unfold continueMessage
  rw [run_get_bind]
  simp only [hb, if_true]
  rw [run_lift_bind]
  rfl

/-- The blank token between two pieces of a split message; at the end of the text the message
is closed as unterminated. -/
theorem continueMessage_run_blank {s : Lexer} {lit : OpenLiteral} (hb : s.flags.wasBlank = false) :
    (continueMessage lit).run.run s =
      (.ok ⟨.blank, s.unit.id, s.off, min (gapEnd s.text s.off - s.off) maxTokenLen, false, 0, 0⟩,
        if gapEnd s.text s.off ≥ s.text.size then
          { s with off := gapEnd s.text s.off, lit := none,
                   flags := { s.flags with wasBlank := false } }.noteReport lit.opener
            Code.lexUnterminatedString #[]
        else { s with off := gapEnd s.text s.off, flags := { s.flags with wasBlank := true } }) := by
  unfold continueMessage
  rw [run_get_bind]
  simp only [hb, Bool.false_eq_true, if_false]
  rw [run_lift_bind, run_lift_bind]
  simp only [report_eq]
  split
  · rfl
  · rfl

/-- Resuming a split message leaves the grammar state alone, and gives neither a brace nor the
end token. -/
theorem continueMessage_sameGrammar {s : Lexer} (hr : s.Ready) {lit : OpenLiteral}
    (hl : s.lit = some lit) :
    s.SameGrammar ((continueMessage lit).run.run s).2 ∧
      ∀ t, ((continueMessage lit).run.run s).1 = .ok t → t.isBrace = false ∧ t.kind ≠ .eof := by
  obtain ⟨hkind, hlt, hnl, -⟩ := hr.lit lit hl
  cases hb : s.flags.wasBlank with
  | true =>
    -- the piece: a message literal scanned from the cursor, with the blank flag cleared
    rw [continueMessage_run_piece hb]
    set s₁ : Lexer := { s with flags := { s.flags with wasBlank := false } }
    have h₁ : s.SameGrammar s₁ := ⟨rfl, rfl, rfl, rfl, ReportedBy.refl _ _⟩
    have hf := ScanM.of_triple (scanLiteral_spec s.off lit true s₁.snap)
      ⟨by rw [hkind]; decide, by rw [hkind]; decide, Within.here hr.inside, rfl, .inr ⟨hlt, hnl hb⟩⟩
    have hq := (ScanM.OnCoreWith.scanLiteral s.off lit true).quiet s₁
    rcases hx : (scanLiteral s.off lit true).run.run s₁ with ⟨_ | t, s'⟩ <;> rw [hx] at hf hq
    · exact ⟨h₁.trans (.of_frame hf.within.frame hq), nofun⟩
    · refine ⟨h₁.trans (.of_frame hf.1.settled.within.frame hq), fun _ h => ?_⟩
      cases h
      rcases hf.2 with hk | hk <;> simp [Token.isBrace, hk, hkind]
  | false =>
    rw [continueMessage_run_blank hb]
    refine ⟨?_, fun _ h => by cases h; exact ⟨rfl, nofun⟩⟩
    split
    · -- at the end of the text the message is closed as unterminated
      refine Lexer.SameGrammar.noteReport ?_ (c := Code.lexUnterminatedString) (by decide) _ _
      exact ⟨rfl, rfl, rfl, rfl, ReportedBy.refl _ _⟩
    · exact ⟨rfl, rfl, rfl, rfl, ReportedBy.refl _ _⟩

end LexM

/-! ### One call of `next` -/

/-- Whether the call from `s` scans a significant token and hands it to `after`: no split
message is open, the trivia ahead does not stop at a directive comment, and text is left
after it. -/
def Lexer.scanning (s : Lexer) : Bool :=
  s.lit.isNone && s.trivia.directive.isNone && decide (s.trivia.stop < s.text.size)

/-- Whether the next significant token from `s` starts a line. -/
def Lexer.atLineStart (s : Lexer) : Bool := s.newline || s.trivia.newline

/-- The tokenizer `s` past the trivia ahead, its notes applied. -/
def Lexer.pastTrivia (s : Lexer) : Lexer :=
  (s.moved s.trivia.stop s.trivia.newline).noted s.trivia.notes.toList

/-- The tokenizer a significant scan starts from: the line-start bit taken, and at the start
of a line a label or a dialogue opener allowed. -/
def Lexer.scanFrom (s : Lexer) : Lexer :=
  { s with newline := false,
           flags := if s.newline then { s.flags with acceptLabel := true, acceptDialogue := true }
             else s.flags }

/-- The tokenizer the significant scan from `s` starts from. -/
def Lexer.scanState (s : Lexer) : Lexer := s.pastTrivia.scanFrom

namespace Lexer

variable (s : Lexer)

@[simp] theorem pastTrivia_off : s.pastTrivia.off = s.trivia.stop := rfl

@[simp] theorem pastTrivia_text : s.pastTrivia.text = s.text := rfl

@[simp] theorem pastTrivia_lit : s.pastTrivia.lit = s.lit := rfl

@[simp] theorem pastTrivia_newline : s.pastTrivia.newline = s.atLineStart := rfl

@[simp] theorem scanFrom_off : s.scanFrom.off = s.off := rfl

@[simp] theorem scanFrom_text : s.scanFrom.text = s.text := rfl

@[simp] theorem scanFrom_lit : s.scanFrom.lit = s.lit := rfl

@[simp] theorem scanFrom_done : s.scanFrom.done = s.done := rfl

@[simp] theorem scanFrom_engine : s.scanFrom.env.engine = s.env.engine := rfl

@[simp] theorem scanFrom_menu : s.scanFrom.menu = s.menu := by
  unfold scanFrom
  cases s.newline <;> rfl

/-- The scan starts with a label allowed at a line start or where it was allowed already. -/
theorem scanFrom_acceptLabel : s.scanFrom.flags.acceptLabel = (s.newline || s.flags.acceptLabel) := by
  unfold scanFrom
  cases s.newline <;> rfl

theorem scanFrom_acceptDialogue :
    s.scanFrom.flags.acceptDialogue = (s.newline || s.flags.acceptDialogue) := by
  unfold scanFrom
  cases s.newline <;> rfl

theorem sameGrammar_pastTrivia : s.SameGrammar s.pastTrivia := sameGrammar_noted _ _ _ _

end Lexer

/-- What a call that scans a significant token does from `s`, giving `t`: the scan from
`Lexer.scanState` gives a token, which takes the line-start bit and becomes `tok`; `tok` goes
through the machine, sets the acceptance flags, and brings the machine's menu reports. -/
structure Lexer.Graded (s : Lexer) (tok t : Token) (s' : Lexer) : Prop where
  scanned : ∃ tok₀ s₂, LexM.scan.run.run s.scanState = (.ok tok₀, s₂) ∧
    tok = { tok₀ with lineStart := s.atLineStart }
  scannable : tok.Scannable
  mark : t = s.menu.mark tok
  menu : s'.menu = s.menu.next tok
  label : s'.flags.acceptLabel = tok.isGoto
  dialogue : s'.flags.acceptDialogue = tok.isSpeaker
  done : s'.done = s.done
  notes : ReportedBy isMenuCode s.env.engine s'.env.engine (s.menu.notes tok)

/-- What any other call giving a token does from `s`, giving `t`: no brace; only the first end
token changes the grammar state, as `eof` does. -/
structure Lexer.Ungraded (s : Lexer) (t : Token) (s' : Lexer) : Prop where
  brace : t.isBrace = false
  menu : s'.menu = if t.kind = .eof then (if s.done then s.menu else s.menu.finish) else s.menu
  label : s'.flags.acceptLabel = s.flags.acceptLabel
  dialogue : s'.flags.acceptDialogue = s.flags.acceptDialogue
  done : s'.done = (s.done || t.kind = .eof)
  notes : ReportedBy isMenuCode s.env.engine s'.env.engine
    (if t.kind = .eof ∧ s.done = false then s.menu.endNotes else [])

/-- What a call stopped by a capacity error does from `s`: the menu state and whether the
tokenizer is finished stay, and no menu report is made. -/
structure Lexer.Halted (s s' : Lexer) : Prop where
  menu : s'.menu = s.menu
  done : s'.done = s.done
  quiet : ReportedBy isMenuCode s.env.engine s'.env.engine []

theorem Lexer.SameGrammar.halted {s s' : Lexer} (h : s.SameGrammar s') : s.Halted s' :=
  ⟨h.menu, h.done, h.quiet⟩

theorem Lexer.SameGrammar.ungraded {s s' : Lexer} (h : s.SameGrammar s') {t : Token}
    (hb : t.isBrace = false) (he : t.kind ≠ .eof) : s.Ungraded t s' :=
  ⟨hb, by simp [h.menu, he], h.label, h.dialogue, by simp [h.done, he], by simpa [he] using h.quiet⟩

/-- What one call of `next` does from `s` to the grammar state, with its outcome. -/
def Lexer.Regraded (s : Lexer) : Except LexError Token → Lexer → Prop
  | .ok t, s' => (s.scanning = true ∧ ∃ tok, s.Graded tok t s') ∨
      (s.scanning = false ∧ s.Ungraded t s')
  | .error _, s' => s.Halted s'

namespace LexM

variable {s : Lexer}

theorem applyTrivia_pastTrivia (s : Lexer) : ((applyTrivia s.trivia).run s).2 = s.pastTrivia := by
  rw [applyTrivia_run]
  rfl

theorem run_bind_ok {α β : Type} {x : ScanM α} {k : α → ScanM β} {s s' : Lexer} {a : α}
    (h : x.run.run s = (.ok a, s')) : (x >>= k).run.run s = (k a).run.run s' := by
  simp only [ExceptT.run_bind, StateT.run_bind, h]
  rfl

theorem run_bind_error {α β : Type} {x : ScanM α} {k : α → ScanM β} {s s' : Lexer} {e : LexError}
    (h : x.run.run s = (.error e, s')) : (x >>= k).run.run s = (.error e, s') := by
  simp only [ExceptT.run_bind, StateT.run_bind, h]
  rfl

theorem run_liftM {α : Type} (x : LexM α) (s : Lexer) :
    (liftM x : ScanM α).run.run s = (.ok (x.run s).1, (x.run s).2) := rfl

theorem run_modify_bind {β : Type} (f : Lexer → Lexer) (k : Unit → ScanM β) (s : Lexer) :
    (modify f >>= k : ScanM β).run.run s = (k ()).run.run (f s) := rfl

/-- Inside the text, `significant` scans from `Lexer.scanFrom` and hands the token, with its
line-start bit, to `after`. -/
theorem significant_run_of_lt (h : s.off < s.text.size) :
    significant.run.run s =
      (scan >>= fun tok => liftM (after { tok with lineStart := s.newline })).run.run s.scanFrom := by
  unfold significant
  rw [run_get_bind]
  simp only [show ¬ s.off ≥ s.text.size from Nat.not_le.2 h, if_false]
  rw [run_modify_bind]
  -- at the start of a line the two acceptance flags are set before the scan
  cases hn : s.newline <;> simp only [Lexer.scanFrom, hn, Bool.false_eq_true, if_false, if_true]
  rw [run_lift_bind]
  rfl

theorem significant_run_of_ge (h : s.text.size ≤ s.off) :
    significant.run.run s = (.ok (eof.run s).1, (eof.run s).2) := by
  unfold significant
  rw [run_get_bind]
  simp only [show s.off ≥ s.text.size from h, if_true]
  rfl

/-- A piece of a split message or the blank token before it. -/
theorem regraded_of_lit (hr : s.Ready) {lit : OpenLiteral} (hl : s.lit = some lit) :
    s.Regraded (next.run.run s).1 (next.run.run s).2 := by
  rw [next_run_of_lit hl]
  have hsc : s.scanning = false := by simp [Lexer.scanning, hl]
  obtain ⟨hg, ht⟩ := continueMessage_sameGrammar hr hl
  rcases hx : (continueMessage lit).run.run s with ⟨_ | t, s'⟩ <;> rw [hx] at hg ht
  · exact hg.halted
  · exact .inr ⟨hsc, hg.ungraded (ht t rfl).1 (ht t rfl).2⟩

/-- A directive comment the trivia stopped at. -/
theorem regraded_of_hit (hl : s.lit = none) {hit : DirectiveHit}
    (hd : s.trivia.directive = some hit) : s.Regraded (next.run.run s).1 (next.run.run s).2 := by
  rw [next_run_of_hit hl hd, hitToken_run, applyTrivia_pastTrivia]
  have hsc : s.scanning = false := by simp [Lexer.scanning, hd]
  have hseek : s.pastTrivia.SameGrammar { s.pastTrivia with off := hit.stop } :=
    ⟨rfl, rfl, rfl, rfl, ReportedBy.refl _ _⟩
  have hg : s.SameGrammar
      (({ s.pastTrivia with off := hit.stop } : Lexer).noteEmit .directive hit.start) :=
    s.sameGrammar_pastTrivia.trans (hseek.trans (Lexer.sameGrammar_noteEmit _ _ _))
  -- the token of a directive comment is a directive or an error token
  obtain ⟨-, -, hk⟩ := hitTokenOf_shape hit s.pastTrivia.unit.id s.atLineStart
  refine .inr ⟨hsc, hg.ungraded ?_ ?_⟩ <;>
    rcases hk with ⟨hk, -⟩ | ⟨hk, -⟩ <;> simp [hk, Token.isBrace]

/-- The end of the text, past the trivia. -/
theorem regraded_of_end (hl : s.lit = none) (hd : s.trivia.directive = none)
    (hge : s.text.size ≤ s.trivia.stop) : s.Regraded (next.run.run s).1 (next.run.run s).2 := by
  rw [next_run_of_no_hit hl hd, applyTrivia_pastTrivia, significant_run_of_ge (by simpa using hge)]
  have hsc : s.scanning = false := by simp [Lexer.scanning, hge]
  have hg := s.sameGrammar_pastTrivia
  have hc := LexM.of_triple (eof_menu s.pastTrivia) rfl
  have hk : (eof.run s.pastTrivia).1.kind = .eof := LexM.of_triple eof_kind trivial
  refine .inr ⟨hsc, ⟨by simp [hk, Token.isBrace], ?_, ?_, ?_, by simp [hc.done, hk], ?_⟩⟩
  · rw [hc.menu, hg.menu, hg.done]
    simp [hk]
  · rw [hc.label, hg.label]
  · rw [hc.dialogue, hg.dialogue]
  · refine (hg.quiet.trans hc.notes).of_eq ?_
    cases hdone : s.done <;> simp [hk, hg.done, hg.menu, hdone]

/-- A significant token: scanned past the trivia, then handed to `after`. -/
theorem regraded_of_scan (hl : s.lit = none) (hd : s.trivia.directive = none)
    (hlt : s.trivia.stop < s.text.size) : s.Regraded (next.run.run s).1 (next.run.run s).2 := by
  rw [next_run_of_no_hit hl hd, applyTrivia_pastTrivia, significant_run_of_lt (by simpa using hlt),
    show s.pastTrivia.scanFrom = s.scanState from rfl, Lexer.pastTrivia_newline]
  have hsc : s.scanning = true := by simp [Lexer.scanning, hl, hd, hlt]
  have hg := s.sameGrammar_pastTrivia
  obtain ⟨hg₂, hscan⟩ := scan_sameGrammar (s := s.scanState) (by simpa [Lexer.scanState] using hlt)
    (by simpa [Lexer.scanState] using hl)
  -- the menu state and the engine seen by the scan are those of `s`
  have hmenu : s.scanState.menu = s.menu := by simp [Lexer.scanState, hg.menu]
  have hdone : s.scanState.done = s.done := by simp [Lexer.scanState, hg.done]
  have hq : ReportedBy isMenuCode s.env.engine s.scanState.env.engine [] := by
    simpa [Lexer.scanState] using hg.quiet
  rcases hx : scan.run.run s.scanState with ⟨_ | tok₀, s₂⟩ <;> rw [hx] at hg₂ hscan
  · rw [run_bind_error hx]
    exact ⟨hg₂.menu.trans hmenu, hg₂.done.trans hdone, hq.trans hg₂.quiet⟩
  · rw [run_bind_ok hx, run_liftM]
    have ha := LexM.of_triple (after_menu { tok₀ with lineStart := s.atLineStart } s₂) rfl
    have hm : s₂.menu = s.menu := hg₂.menu.trans hmenu
    refine .inl ⟨hsc, _, ⟨tok₀, s₂, hx, rfl⟩, ⟨(hscan _ rfl).1, (hscan _ rfl).2⟩, ?_, ?_, ha.label,
      ha.dialogue, ?_, ?_⟩
    · rw [ha.mark, hm]
    · rw [ha.menu, hm]
    · rw [ha.done, hg₂.done, hdone]
    · rw [← hm]
      exact (hq.trans hg₂.quiet).trans ha.notes

/-- One call of `next` from a tokenizer between calls. -/
theorem next_regraded (hr : s.Ready) : s.Regraded (next.run.run s).1 (next.run.run s).2 := by
  cases hl : s.lit with
  | some lit => exact regraded_of_lit hr hl
  | none =>
    cases hd : s.trivia.directive with
    | some hit => exact regraded_of_hit hl hd
    | none =>
      by_cases hlt : s.trivia.stop < s.text.size
      · exact regraded_of_scan hl hd hlt
      · exact regraded_of_end hl hd (Nat.le_of_not_lt hlt)

end LexM

/-! ### Along a run -/

namespace LexM

variable {s : Lexer}

theorem next_ready (hr : s.Ready) : (next.run.run s).2.Ready ∧ (next.run.run s).2.look = s.look := by
  have h := ScanM.of_triple (next_spec s) ⟨rfl, hr⟩
  rcases hx : next.run.run s with ⟨_ | t, s'⟩ <;> rw [hx] at h
  · exact ⟨h.ready, congrArg Lexer.Fixed.look h.fixed⟩
  · exact ⟨h.ready, congrArg Lexer.Fixed.look h.fixed⟩

theorem next_text (hr : s.Ready) : (next.run.run s).2.text = s.text := by
  have h := ScanM.of_triple (next_spec s) ⟨rfl, hr⟩
  rcases hx : next.run.run s with ⟨_ | t, s'⟩ <;> rw [hx] at h
  · exact Lexer.text_eq_of_fixed h.fixed
  · exact Lexer.text_eq_of_fixed h.fixed

end LexM

namespace Lexer

/-- The token a call of `lex` from `s` with outcome `r` handed to `after`, if any: a token
computed by a significant scan. -/
def gradedOf (s : Lexer) (r : Except LexError Token) : List Token :=
  if s.err.isNone && s.look.isNone && s.scanning then r.toOption.toList else []

/-- The tokens that went through `after` in the first `n` calls of `lex` from `s`. -/
def afterRun : Nat → Lexer → List Token
  | 0, _ => []
  | n + 1, s => s.gradedOf (Lexer.lex.run s).1 ++ afterRun n (Lexer.lex.run s).2

theorem afterRun_succ (n : Nat) (s : Lexer) :
    s.afterRun (n + 1) = s.afterRun n ++ (s.lexRun n).2.gradedOf (Lexer.lex.run (s.lexRun n).2).1 := by
  induction n generalizing s with
  | zero => simp [afterRun, lexRun]
  | succ n ih =>
    rw [afterRun, ih, afterRun, List.append_assoc]
    rfl

/-- The grammar state of `s` after a run from a fresh tokenizer whose engine was `e₀`: the run
handed out the tokens `ts`, of which `gs` went through `after`. Each of `gs` carries the menu
flags the machine gives it and no other token is a brace; the menu state is the machine's
after `gs`, with no keyword waiting once the end is reached; the acceptance flags are those
the last of `gs` set; and the menu reports are the machine's, then those of the end. -/
structure Follows (e₀ : Option Engine) (ts gs : List Token) (s : Lexer) : Prop where
  ready : s.Ready
  look : s.look = none
  traces : MenuState.init.Traces gs
  braces : ts.filter Token.isBrace = gs.filter Token.isBrace
  menu : s.menu = if s.done then (MenuState.init.run gs).finish else MenuState.init.run gs
  label : s.err = none → s.flags.acceptLabel = gs.getLast?.any Token.isGoto
  dialogue : s.err = none → s.flags.acceptDialogue = gs.getLast?.any Token.isSpeaker
  notes : ReportedBy isMenuCode e₀ s.env.engine
    (MenuState.init.notesOf gs ++ if s.done then (MenuState.init.run gs).endNotes else [])

theorem follows_create (u : SourceUnit) (mode : DirectiveMode) (env : LexEnv) :
    (Lexer.create u mode env).Follows env.engine [] [] where
  ready := ready_create u mode env
  look := rfl
  traces := trivial
  braces := rfl
  menu := rfl
  label _ := rfl
  dialogue _ := rfl
  notes := ReportedBy.refl _ _

namespace Follows

variable {e₀ : Option Engine} {ts gs : List Token} {s s' : Lexer}

/-- A tokenizer that scans a significant token has not finished. -/
theorem not_done (hr : s.Ready) (hsc : s.scanning = true) : s.done = false := by
  cases hd : s.done
  · rfl
  · obtain ⟨hend, hlit, -⟩ := hr.done hd
    have hstop := (hr.trivia_stop).1
    simp [scanning] at hsc
    omega

/-- A call that scans a significant token `tok` adds the marked token to both streams. -/
theorem graded (h : s.Follows e₀ ts gs) (hsc : s.scanning = true) {tok t : Token}
    (hg : s.Graded tok t s') (hr : s'.Ready) (hl : s'.look = none) :
    s'.Follows e₀ (ts ++ [t]) (gs ++ [t]) := by
  have hd := not_done h.ready hsc
  have hm : s.menu = MenuState.init.run gs := by simpa [hd] using h.menu
  have ht : t = (MenuState.init.run gs).mark tok := hm ▸ hg.mark
  refine ⟨hr, hl, ?_, ?_, ?_, ?_, ?_, ?_⟩
  · rw [MenuState.traces_concat, ht]
    exact ⟨h.traces, MenuState.marked_mark _ hg.scannable⟩
  · simp [List.filter_append, h.braces]
  · simp [hg.menu, hg.done, hd, hm, ht]
  · intro _
    simp [hg.label, ht]
  · intro _
    simp [hg.dialogue, ht]
  · rw [hg.done, hd, MenuState.notesOf_concat, ht, MenuState.notes_mark, ← hm]
    simpa [hd] using h.notes.trans hg.notes

/-- Any other call that gives a token adds it to the stream only. -/
theorem ungraded (h : s.Follows e₀ ts gs) {t : Token} (hg : s.Ungraded t s') (hr : s'.Ready)
    (hl : s'.look = none) (herr : s.err = none) : s'.Follows e₀ (ts ++ [t]) gs := by
  refine ⟨hr, hl, h.traces, ?_, ?_, fun _ => ?_, fun _ => ?_, ?_⟩
  · simp [List.filter_append, h.braces, hg.brace]
  · rw [hg.menu, hg.done, h.menu]
    by_cases he : t.kind = .eof <;> cases s.done <;> simp [he, MenuState.finish]
  · rw [hg.label, h.label herr]
  · rw [hg.dialogue, h.dialogue herr]
  · refine (h.notes.trans hg.notes).of_eq ?_
    rw [hg.done, h.menu]
    by_cases he : t.kind = .eof <;> cases s.done <;> simp [he, MenuState.endNotes]

/-- A call stopped by a capacity error adds nothing. -/
theorem halted (h : s.Follows e₀ ts gs) (hg : s.Halted s') (hr : s'.Ready)
    (hl : s'.look = none) (herr : s'.err ≠ none) : s'.Follows e₀ ts gs where
  ready := hr
  look := hl
  traces := h.traces
  braces := h.braces
  menu := by rw [hg.menu, hg.done, h.menu]
  label he := absurd he herr
  dialogue he := absurd he herr
  notes := by simpa [hg.done] using h.notes.trans hg.quiet

/-- One call of `lex` keeps the invariant, with the token it hands out and the one it handed
to `after`. -/
theorem lex (h : s.Follows e₀ ts gs) :
    (Lexer.lex.run s).2.Follows e₀ (ts ++ (Lexer.lex.run s).1.toOption.toList)
      (gs ++ s.gradedOf (Lexer.lex.run s).1) := by
  cases herr : s.err with
  | some e =>
    rw [lex_run_of_err herr]
    simpa [gradedOf, herr, Except.toOption] using h
  | none =>
    rw [lex_run_of_fresh herr h.look]
    have hreg := LexM.next_regraded h.ready
    obtain ⟨hr, hl⟩ := LexM.next_ready h.ready
    rw [h.look] at hl
    rcases hx : LexM.next.run.run s with ⟨e | t, s'⟩ <;> rw [hx] at hreg hr hl
    · -- the error is kept and stops the tokenizer; the grammar state is that of `s'`
      simpa [gradedOf, Except.toOption] using
        h.halted (⟨hreg.menu, hreg.done, hreg.quiet⟩ :
            s.Halted ((s'.keep (.error e)).handOut (.error e)))
          (hr.keep _ |>.handOut _) hl (by simp [keep, handOut])
    · -- the token is handed out at once; the grammar state is that of `s'`
      rcases hreg with ⟨hsc, tok, hg⟩ | ⟨hsc, hg⟩
      · simpa [gradedOf, herr, h.look, hsc, Except.toOption] using
          h.graded hsc (⟨hg.scanned, hg.scannable, hg.mark, hg.menu, hg.label, hg.dialogue, hg.done,
            hg.notes⟩ : s.Graded tok t ((s'.keep (.ok t)).handOut (.ok t))) (hr.keep _ |>.handOut _) rfl
      · simpa [gradedOf, herr, h.look, hsc, Except.toOption] using
          h.ungraded (⟨hg.brace, hg.menu, hg.label, hg.dialogue, hg.done, hg.notes⟩ :
            s.Ungraded t ((s'.keep (.ok t)).handOut (.ok t))) (hr.keep _ |>.handOut _) rfl herr

end Follows

/-- Along every run from a fresh tokenizer the grammar state follows the menu machine over
the tokens that went through `after`, the acceptance flags are those the last of them set,
and the menu reports handed to the engine are the machine's. -/
theorem follows_run (u : SourceUnit) (mode : DirectiveMode) (env : LexEnv) (n : Nat) :
    ((Lexer.create u mode env).lexRun n).2.Follows env.engine
      (((Lexer.create u mode env).lexRun n).1.filterMap Except.toOption)
      ((Lexer.create u mode env).afterRun n) := by
  induction n with
  | zero => exact follows_create u mode env
  | succ n ih =>
    have hone : ∀ r : Except LexError Token, [r].filterMap Except.toOption = r.toOption.toList := by
      intro r
      cases r <;> rfl
    rw [lexRun_succ, afterRun_succ, List.filterMap_append, hone]
    exact ih.lex

end Lexer

end NovelScript

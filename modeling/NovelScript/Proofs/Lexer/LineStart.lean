import Mathlib
import NovelScript.Proofs.Lexer.Position
/-!
# Line starts

A token starts a line when a newline was crossed since the last significant token, the one
handed to `after`. The tokenizer keeps this in one bit: the trivia scan sets it at a newline
byte (plain, the one ending a `//` comment, or one inside a `/* */` comment), a significant
token takes and clears it, and a directive token, the end token, a blank token between two
pieces of a message and a resumed piece leave it alone.

This module states the rule over what the tokenizer has read (`Lexer.Event`): the stretches of
trivia it skipped and the significant tokens it handed on. `LineBroken` says that no
significant token was read yet, or that trivia read after the last one holds a newline byte.
The main statement, `lineStart_iff_lineBroken`, says that along every run from a fresh
tokenizer a token starts a line exactly when it can start one (`Token.Leading`: no blank
token, no resumed piece) and a line was broken before it.

It rests on three facts: the trivia scan notes exactly the newlines it passes
(`Trivia.skip_newline`), no scan gives a blank token or a resumed piece (`LexM.scan_leading`),
and what one call does to the bit (`Lexer.LineStep`), carried along the run by the invariant
`Lexer.LineTracked`.
-/

open Std.Do

set_option mvcgen.warning false

namespace NovelScript

open Utf8 Chars

/-! ### Newlines in a stretch of text -/

/-- A newline byte stands in `bs` from `a` up to `b`. -/
def NewlineIn (bs : ByteArray) (a b : Nat) : Prop :=
  ∃ p, a ≤ p ∧ p < b ∧ byteAt bs p = 0x0A

namespace NewlineIn

variable {bs : ByteArray} {a b c : Nat}

theorem not_of_le (h : b ≤ a) : ¬ NewlineIn bs a b := by
  rintro ⟨p, h1, h2, -⟩
  omega

theorem split (hab : a ≤ b) (hbc : b ≤ c) :
    NewlineIn bs a c ↔ NewlineIn bs a b ∨ NewlineIn bs b c := by
  constructor
  · rintro ⟨p, h1, h2, hp⟩
    by_cases hpb : p < b
    · exact .inl ⟨p, h1, hpb, hp⟩
    · exact .inr ⟨p, by omega, h2, hp⟩
  · rintro (⟨p, h1, h2, hp⟩ | ⟨p, h1, h2, hp⟩)
    · exact ⟨p, h1, by omega, hp⟩
    · exact ⟨p, by omega, h2, hp⟩

/-- Bytes that are no newline can be passed over. -/
theorem skip_clear (hab : a ≤ b) (hclear : ∀ p, a ≤ p → p < b → byteAt bs p ≠ 0x0A) :
    NewlineIn bs a c ↔ NewlineIn bs b c := by
  constructor
  · rintro ⟨p, h1, h2, hp⟩
    refine ⟨p, Nat.le_of_not_lt fun hlt => hclear p h1 hlt hp, h2, hp⟩
  · rintro ⟨p, h1, h2, hp⟩
    exact ⟨p, by omega, h2, hp⟩

theorem skip_byte (hb : byteAt bs a ≠ 0x0A) : NewlineIn bs a c ↔ NewlineIn bs (a + 1) c :=
  skip_clear (Nat.le_succ a) fun p h1 h2 => by rwa [show p = a by omega]

/-- Two bytes that are no newline can be passed over. -/
theorem skip_pair {x y : UInt8} (hx : x ≠ 0x0A) (hy : y ≠ 0x0A)
    (h : (byteAt bs a == x && byteAt bs (a + 1) == y) = true) :
    NewlineIn bs a c ↔ NewlineIn bs (a + 2) c := by
  simp only [Bool.and_eq_true, beq_iff_eq] at h
  rw [skip_byte (h.1 ▸ hx), skip_byte (h.2 ▸ hy)]

theorem of_newline (hb : byteAt bs a = 0x0A) (hac : a < c) : NewlineIn bs a c :=
  ⟨a, le_rfl, hac, hb⟩

end NewlineIn

/-! ### The trivia scan notes exactly the newlines it passes -/

theorem Chars.ne_newline_of_isBlank {b : UInt8} (h : isBlank b = true) : b ≠ 0x0A := by
  rintro rfl
  exact absurd h (by decide)

namespace Trivia

/-- The bytes of a `//::` opening and of the comment after it up to its end are no newline. -/
theorem DirectiveEnd.clear {bs : ByteArray} {i j : Nat}
    (hocc : Bytes.occursAt bs Directive.prefixText i = true) (h : DirectiveEnd bs i j) :
    ∀ p, i ≤ p → p < j → byteAt bs p ≠ 0x0A := by
  obtain ⟨e, he, hj⟩ := h
  have hje : j ≤ e := by
    rcases hj with ⟨k, -, hk, -, -, rfl⟩ | ⟨-, rfl⟩
    · exact hk
    · exact le_rfl
  intro p h1 h2
  by_cases hp : p < i + 4
  · have hsize : Directive.prefixText.size = 4 := by decide
    rw [show p = i + (p - i) by omega, Bytes.byteAt_of_occursAt hocc (by omega)]
    have hbytes : ∀ k < 4, byteAt Directive.prefixText k ≠ 0x0A := by with_unfolding_all decide
    exact hbytes _ (by omega)
  · exact he.no_newline p (by omega) (by omega)

theorem blockEnd_newline (bs : ByteArray) (i depth : Nat) (nl : Bool) :
    (blockEnd bs i depth nl).2.2 = true ↔ nl = true ∨ NewlineIn bs i (blockEnd bs i depth nl).1 := by
  fun_induction blockEnd bs i depth nl with
  | case1 i depth nl hi b b1 hc ih | case3 i depth nl hi b b1 _ hc _ ih =>
    rw [ih, NewlineIn.skip_pair (by decide) (by decide) hc]
  | case2 i depth nl hi b b1 _ hc _ =>
    rw [NewlineIn.skip_pair (by decide) (by decide) hc]
    simp [NewlineIn.not_of_le (le_refl (i + 2))]
  | case4 i depth nl hi b b1 ho hc ih =>
    rw [ih]
    by_cases hb : b = 0x0A
    · -- the newline is inside the comment, which runs past it
      have hstop := (blockEnd_stop bs (i + 1) depth true hi).1
      simp only [hb, BEq.rfl, Bool.or_true, true_or, true_iff]
      exact .inr (NewlineIn.of_newline hb hstop)
    · rw [NewlineIn.skip_byte hb]
      simp [hb]
  | case5 i depth nl hi =>
    simp [NewlineIn.not_of_le (le_refl i)]

/-- The trivia scan notes a newline exactly when it passes one: plain, after a line comment
or inside a block comment. Directive comments hold none. -/
theorem skip_newline (bs : ByteArray) (mode : DirectiveMode) (i : Nat) (nl : Bool)
    (notes : Array TriviaNote) (h : i ≤ bs.size) :
    (skip bs mode i nl notes).newline = true ↔
      nl = true ∨ NewlineIn bs i (skip bs mode i nl notes).stop := by
  fun_induction skip bs mode i nl notes with
  | case1 i _ _ hi b hb ih =>
    rw [ih (by omega), NewlineIn.skip_byte (ne_newline_of_isBlank hb)]
  | case2 i _ notes hi b _ hb ih =>
    have hnl : byteAt bs i = 0x0A := by simpa +zetaDelta using hb
    have hstop := (skip_stop bs mode (i + 1) true notes hi).1
    simp only [(ih hi).2 (.inl rfl), true_iff]
    exact .inr (NewlineIn.of_newline hnl hstop)
  | case3 i _ _ _ b _ _ hsp ih =>
    have h3 : byteAt bs i = 0xE3 ∧ byteAt bs (i + 1) = 0x80 ∧ byteAt bs (i + 2) = 0x80 := by
      simp only [spaceAt, Bool.and_eq_true, beq_iff_eq] at hsp
      exact ⟨hsp.1.1.1, hsp.1.1.2, hsp.1.2⟩
    have hclear : ∀ p, i ≤ p → p < i + 3 → byteAt bs p ≠ 0x0A := by
      intro p h1 h2
      rcases (show p = i ∨ p = i + 1 ∨ p = i + 2 by omega) with h | h | h <;> simp [h, h3]
    rw [ih (spaceAt_le hsp), NewlineIn.skip_clear (by omega) hclear]
  | case4 i _ _ _ _ _ _ _ _ _ hocc stop hm ih | case5 i _ _ _ _ _ _ _ _ _ hocc stop hm ih =>
    subst hm
    obtain ⟨hstop, hend, hle⟩ := directive_extent hocc
    rw [show stop = directiveEnd bs i from hstop] at ih ⊢
    rw [ih hle, NewlineIn.skip_clear (by have := hend.le; omega) (DirectiveEnd.clear hocc hend)]
  | case6 i _ _ _ _ _ _ _ _ _ hocc stop _ _ _ _ htest _ _ ih =>
    rw [if_pos htest]
    obtain ⟨hstop, hend, hle⟩ := directive_extent hocc
    rw [show stop = directiveEnd bs i from hstop] at ih ⊢
    rw [ih hle, NewlineIn.skip_clear (by have := hend.le; omega) (DirectiveEnd.clear hocc hend)]
  | case7 _ _ _ _ _ _ _ _ _ _ _ _ _ _ _ _ htest _ _ =>
    rw [if_neg htest]
    simp [NewlineIn.not_of_le le_rfl]
  | case8 i _ _ hi b b1 _ _ _ hc _ ih =>
    have hp : byteAt bs i = 0x2F := by simpa +zetaDelta using (Bool.and_eq_true_iff.1 hc).1
    have hend := lineEnd_spec bs i (by omega)
    have hstep : i + 1 ≤ lineEnd bs i := hend.lt hi (by rw [hp]; decide)
    rw [max_eq_left hstep] at ih ⊢
    rw [ih hend.le_size, NewlineIn.skip_clear hend.le hend.no_newline]
  | case9 i nl _ hi b b1 _ _ _ _ hc stop closed nl2 hblk notes ih =>
    have hb := blockEnd_stop bs (i + 2) 1 false (lt_size_of_byteAt_eq (Bool.and_eq_true_iff.1 hc).2 (by decide))
    have hnl2 := blockEnd_newline bs (i + 2) 1 false
    rw [hblk] at hb hnl2
    rw [max_eq_left (by omega : i + 1 ≤ stop)] at ih ⊢
    have hfinal := skip_stop bs mode stop (nl || nl2) notes hb.2
    -- the comment's own newlines come first, then those after it
    rw [ih hb.2, NewlineIn.skip_pair (by decide) (by decide) hc, NewlineIn.split hb.1 hfinal.1]
    simp only at hnl2
    simp [hnl2, or_assoc]
  | case10 | case11 => simp [NewlineIn.not_of_le le_rfl]

end Trivia

@[simp] theorem Lexer.noteEmit_newline (kind : TokenKind) (start : Nat) (lx : Lexer) :
    (lx.noteEmit kind start).newline = lx.newline := by
  unfold Lexer.noteEmit
  split <;> rfl

/-! ### Tokens that can start a line -/

/-- A token that can start a line: neither the blank token between two pieces of a message
nor a piece that resumes one. -/
def Token.Leading (t : Token) : Prop := t.kind ≠ .blank ∧ t.continuation = false

theorem Token.leading_of_kind {t : Token} (hb : t.kind ≠ .blank) (hl : t.kind.isLiteral = false) :
    t.Leading :=
  ⟨hb, by simp [Token.continuation, hl]⟩

namespace LexM

theorem leading_emitted {kind : TokenKind} (hk : kind ≠ .blank) (unit start stop : Nat) :
    (emitted kind unit start stop).1.Leading := by
  unfold emitted
  split
  · exact ⟨nofun, by simp [Token.continuation]⟩
  · exact ⟨hk, by simp [Token.continuation]⟩

/-- An emitted token of a kind that is no literal may be given new flags. -/
theorem leading_retag {kind : TokenKind} (hk : kind ≠ .blank ∧ kind.isLiteral = false)
    {unit start stop : Nat} {t : Token} (ht : t.kind = (emitted kind unit start stop).1.kind) :
    t.Leading := by
  rcases emitted_kind kind unit start stop with h | h <;> rw [h] at ht
  · exact Token.leading_of_kind (ht ▸ hk.1) (ht ▸ hk.2)
  · exact Token.leading_of_kind (by rw [ht]; decide) (by rw [ht]; decide)

theorem bracketKind?_leading {b : UInt8} {k : TokenKind} (h : bracketKind? b = some k) :
    k ≠ .blank ∧ k.isLiteral = false := by
  unfold bracketKind? at h
  split_ifs at h <;> cases h <;> decide

/-- A literal token of a kept extent, flagged as no resumed piece. -/
theorem leading_literal {kind : TokenKind} (hk : kind ≠ .blank) {unit start stop : Nat}
    {t : Token} (ht : t.kind = (emitted kind unit start stop).1.kind) (st : Style) (cjk : Bool)
    (fl : Flow) (a : Bool)
    (hf : t.flags = literalFlags st.code cjk fl.code ||| (if a then TokenFlag.continued else 0) ||| 0) :
    t.Leading := by
  have hb : t.kind ≠ .blank := by
    rcases emitted_kind kind unit start stop with h | h <;> rw [ht, h]
    · exact hk
    · decide
  have hc := (literalFlags_fields st cjk fl a false).2.2.2.2
  simp only [Bool.false_eq_true, if_false] at hc
  refine ⟨hb, ?_⟩
  unfold Token.continuation
  rw [hf, hc, Bool.and_false]

theorem scanLiteral_leading (start : Nat) (lit : OpenLiteral) :
    ⦃⌜lit.kind ≠ .blank⌝⦄ scanLiteral start lit false
    ⦃post⟨fun t _ => ⌜t.Leading⌝, fun _ _ => ⌜True⌝⟩⦄ := by
  mvcgen -trivial [scanLiteral, content, pos, seek, advance, store, outOfMemory, rangeOf, reportSpan]
  case inv1 => exact ⇓ _ _ => ⌜lit.kind ≠ .blank⌝
  case vc1.step | vc2.pre => simpa using ‹lit.kind ≠ _›
  -- a literal over the length ceiling is returned as emitted; one that kept its kind is retagged
  case vc3 | vc5 | vc7 | vc9 | vc11 => exact leading_emitted ‹lit.kind ≠ .blank› _ _ _
  all_goals exact leading_literal ‹lit.kind ≠ .blank› rfl _ _ _ _ rfl

theorem scanIdent_leading (start : Nat) :
    ⦃⌜True⌝⦄ scanIdent start ⦃post⟨fun t _ => ⌜t.Leading⌝, fun _ _ => ⌜True⌝⟩⦄ := by
  mvcgen -trivial [scanIdent, content, pos, seek, internName, intern, resolve, outOfMemory, rangeOf]
  · exact leading_emitted (by decide) _ _ _
  · -- the kind comes from the dictionary's tag or from the case of the first letter
    refine leading_retag ?_ rfl
    rename_i tag
    clear_value tag
    rcases tag with _ | _ | _ | _ <;> dsimp only <;> (try split) <;> decide

theorem scanSigilName_leading (start : Nat) (kind : TokenKind) :
    ⦃⌜kind ≠ .blank ∧ kind.isLiteral = false⌝⦄ scanSigilName start kind
    ⦃post⟨fun t _ => ⌜t.Leading⌝, fun _ _ => ⌜True⌝⟩⦄ := by
  mvcgen -trivial [scanSigilName, content, pos, seek, internName, intern, outOfMemory, rangeOf]
  · exact leading_emitted ‹kind ≠ .blank ∧ _›.1 _ _ _
  · exact leading_retag ‹_› rfl

theorem loneSigil_leading (start : Nat) :
    ⦃⌜True⌝⦄ loneSigil start ⦃⇓ t _ => ⌜t.Leading⌝⦄ := by
  mvcgen -trivial [loneSigil, peek, advance, reportSpan, rangeOf]
  exact leading_emitted (by decide) _ _ _

theorem scanBracketed_leading (start : Nat) (kind : TokenKind) :
    ⦃⌜kind ≠ .blank ∧ kind.isLiteral = false⌝⦄ scanBracketed start kind
    ⦃post⟨fun t _ => ⌜t.Leading⌝, fun _ _ => ⌜True⌝⟩⦄ := by
  mvcgen -trivial [scanBracketed, content, pos, seek, internName, intern, outOfMemory, rangeOf, reportSpan]
  case vc2 => exact leading_emitted ‹kind ≠ .blank ∧ _›.1 _ _ _
  case vc3 => exact leading_retag ‹_› rfl
  all_goals exact leading_emitted (by decide) _ _ _

theorem openLiteral_leading (start stop : Nat) (kind : TokenKind) (style : Style) (cjk : Bool)
    (closer : Nat) :
    ⦃⌜kind ≠ .blank⌝⦄ openLiteral start stop kind style cjk closer
    ⦃post⟨fun t _ => ⌜t.Leading⌝, fun _ _ => ⌜True⌝⟩⦄ := by
  -- each spec lemma goes to mvcgen as a hypothesis, so that this proof does not wait for the
  -- lemma's own proof to be checked
  have hscanLiteral := @scanLiteral_leading
  mvcgen -trivial [openLiteral, seek, rangeOf, hscanLiteral, -openLiteral_spec]
  -- the literal is scanned with the kind the call was given
  assumption

theorem scanAt_leading (start : Nat) :
    ⦃⌜True⌝⦄ scanAt start ⦃post⟨fun t _ => ⌜t.Leading⌝, fun _ _ => ⌜True⌝⟩⦄ := by
  have hopenLiteral := @openLiteral_leading
  have hscanSigilName := @scanSigilName_leading
  have hloneSigil := @loneSigil_leading
  mvcgen -trivial [scanAt, content, seek, hopenLiteral, hscanSigilName,
    hloneSigil, -scanAt_spec, -openLiteral_spec]
  -- the speaker literal opened here, or a character name
  all_goals decide

theorem scanVar_leading (start : Nat) (kind : TokenKind) :
    ⦃⌜kind ≠ .blank ∧ kind.isLiteral = false⌝⦄ scanVar start kind
    ⦃post⟨fun t _ => ⌜t.Leading⌝, fun _ _ => ⌜True⌝⟩⦄ := by
  have hscanBracketed := @scanBracketed_leading
  have hscanSigilName := @scanSigilName_leading
  have hloneSigil := @loneSigil_leading
  mvcgen -trivial [scanVar, content, seek, hscanBracketed, hscanSigilName,
    hloneSigil, -scanVar_spec]
  -- both name forms are read with the kind the call was given
  all_goals assumption

theorem scanPunct_leading (start : Nat) : ⦃⌜True⌝⦄ scanPunct start ⦃⇓ t _ => ⌜t.Leading⌝⦄ := by
  mvcgen -trivial [scanPunct, content, advance, reportSpan, rangeOf, -scanPunct_spec]
  -- a bracket keeps the emitted token; an operator is flagged when compound
  case vc1 => exact leading_emitted (bracketKind?_leading ‹_›).1 _ _ _
  case vc2 => exact leading_retag (by decide) rfl
  all_goals exact leading_emitted (by decide) _ _ _

theorem finishInt_leading (start val : Nat) (overflow : Bool) (suffix : ByteArray) :
    ⦃⌜True⌝⦄ finishInt start val overflow suffix ⦃⇓ t _ => ⌜t.Leading⌝⦄ := by
  mvcgen -trivial [finishInt, suffixInfo, pos, reportSpan, rangeOf, -finishInt_spec]
  case vc1 => exact leading_emitted (by decide) _ _ _
  all_goals exact leading_retag (by decide) rfl

theorem finishFloat_leading (start : Nat) (bits : UInt64) (suffix : ByteArray) :
    ⦃⌜True⌝⦄ finishFloat start bits suffix ⦃⇓ t _ => ⌜t.Leading⌝⦄ := by
  mvcgen -trivial [finishFloat, suffixInfo, pos, reportSpan, rangeOf, -finishFloat_spec]
  case vc1 => exact leading_emitted (by decide) _ _ _
  all_goals exact leading_retag (by decide) rfl

theorem scanNumber_leading (start : Nat) :
    ⦃⌜True⌝⦄ scanNumber start ⦃⇓ t _ => ⌜t.Leading⌝⦄ := by
  have hfinishInt := @finishInt_leading
  have hfinishFloat := @finishFloat_leading
  mvcgen -trivial [scanNumber, content, seek, reportSpan, rangeOf, hfinishInt,
    hfinishFloat, -scanNumber_spec, -finishInt_spec, -finishFloat_spec]
  all_goals exact leading_emitted (by decide) _ _ _

theorem scanUnicode_leading (start : Nat) :
    ⦃⌜True⌝⦄ scanUnicode start ⦃post⟨fun t _ => ⌜t.Leading⌝, fun _ _ => ⌜True⌝⟩⦄ := by
  have hopenLiteral := @openLiteral_leading
  have hscanIdent := @scanIdent_leading
  mvcgen -trivial [scanUnicode, content, advance, reportSpan, rangeOf, hopenLiteral,
    hscanIdent, -scanUnicode_spec, -openLiteral_spec]
  -- a CJK opener starts a message or a speaker name
  case vc2.isFalse.h_1 | vc3.isFalse.h_2.isTrue => decide
  all_goals exact leading_emitted (by decide) _ _ _

/-- A scan gives neither a blank token nor a resumed piece of a message. -/
theorem scan_leading :
    ⦃⌜True⌝⦄ scan ⦃post⟨fun t _ => ⌜t.Leading⌝, fun _ _ => ⌜True⌝⟩⦄ := by
  have hscanIdent := @scanIdent_leading
  have hscanNumber := @scanNumber_leading
  have hopenLiteral := @openLiteral_leading
  have hscanAt := @scanAt_leading
  have hscanVar := @scanVar_leading
  have hscanSigilName := @scanSigilName_leading
  have hscanUnicode := @scanUnicode_leading
  have hscanPunct := @scanPunct_leading
  mvcgen -trivial [scan, seek, hscanIdent, hscanNumber, hopenLiteral,
    hscanAt, hscanVar, hscanSigilName, hscanUnicode,
    hscanPunct, -scan_spec, -scanNumber_spec, -openLiteral_spec, -scanAt_spec,
    -scanVar_spec, -scanUnicode_spec, -scanPunct_spec]
  -- the kinds asked of the literal and sigil scanners
  all_goals decide

@[simp] theorem emitted_lineStart (kind : TokenKind) (unit start stop : Nat) :
    (emitted kind unit start stop).1.lineStart = false := by
  unfold emitted
  split <;> rfl

/-! ### What a call does to the line-start bit -/


/-- A literal piece never starts a line, and reading it keeps the bit. -/
theorem scanLiteral_newline (start : Nat) (lit : OpenLiteral) (c b : Bool) :
    ⦃fun s => ⌜s.newline = b⌝⦄ scanLiteral start lit c
    ⦃post⟨fun t s => ⌜t.lineStart = false ∧ s.newline = b⌝, fun _ s => ⌜s.newline = b⌝⟩⦄ := by
  mvcgen -trivial [scanLiteral, content, pos, seek, advance, store, outOfMemory, rangeOf, reportSpan]
  case inv1 => exact ⇓ _ s => ⌜s.newline = b⌝
  all_goals simp_all +zetaDelta [Lexer.noteReport, Lexer.noteEmit_newline]

theorem after_newline (tok : Token) (b : Bool) :
    ⦃fun s => ⌜s.newline = b⌝⦄ after tok ⦃⇓ t s => ⌜t.lineStart = tok.lineStart ∧ s.newline = b⌝⦄ := by
  mvcgen [after, close, setFlags]

theorem eof_newline (b : Bool) (l : Option OpenLiteral) :
    ⦃fun s => ⌜s.newline = b ∧ s.lit = l⌝⦄ eof ⦃⇓ t s => ⌜t.lineStart = b ∧ s.newline = b ∧ s.lit = l⌝⦄ := by
  mvcgen -trivial [eof, setFlags, rangeOf]
  case inv1 | inv2 => exact ⇓ _ s => ⌜s.newline = b ∧ s.lit = l⌝
  all_goals simp_all +zetaDelta [Lexer.noteReport]

end LexM

/-! ### What the tokenizer has read -/

/-- What a call of `lex` reads on its way, as far as line starts go: the trivia it skips, from
`start` to `stop`, and the significant token it hands to `after`. -/
inductive Lexer.Event where
  | trivia (start stop : Nat)
  | graded (t : Token)

/-- A line was broken after the last significant token read in `evs`: none was read yet, or
the trivia read since holds a newline. -/
def LineBroken (bs : ByteArray) (evs : List Lexer.Event) : Prop :=
  (∀ t, .graded t ∉ evs) ∨
    ∃ pre post a b, evs = pre ++ .trivia a b :: post ∧ NewlineIn bs a b ∧ ∀ t, .graded t ∉ post

namespace LineBroken

variable {bs : ByteArray} {evs : List Lexer.Event}

theorem nil (bs : ByteArray) : LineBroken bs [] := .inl fun _ => List.not_mem_nil

theorem append_trivia {a b : Nat} :
    LineBroken bs (evs ++ [.trivia a b]) ↔ LineBroken bs evs ∨ NewlineIn bs a b := by
  constructor
  · rintro (h | ⟨pre, post, a', b', heq, hn, hpost⟩)
    · exact .inl (.inl fun t ht => h t (List.mem_append_left _ ht))
    · rcases List.eq_nil_or_concat post with rfl | ⟨post, x, rfl⟩
      · -- the trivia with the newline is the one just read
        obtain ⟨-, he⟩ := List.append_singleton_inj.1 heq
        cases he
        exact .inr hn
      · rw [List.concat_eq_append] at heq hpost
        rw [← List.cons_append, ← List.append_assoc] at heq
        obtain ⟨rfl, -⟩ := List.append_singleton_inj.1 heq
        exact .inl (.inr ⟨pre, post, a', b', rfl, hn, fun t ht => hpost t (List.mem_append_left _ ht)⟩)
  · rintro ((h | ⟨pre, post, a', b', rfl, hn, hpost⟩) | hn)
    · refine .inl fun t ht => ?_
      rcases List.mem_append.1 ht with ht | ht
      · exact h t ht
      · simp at ht
    · refine .inr ⟨pre, post ++ [.trivia a b], a', b', by simp, hn, fun t ht => ?_⟩
      rcases List.mem_append.1 ht with ht | ht
      · exact hpost t ht
      · simp at ht
    · exact .inr ⟨evs, [], a, b, rfl, hn, fun _ => List.not_mem_nil⟩

theorem not_append_graded {t : Token} : ¬ LineBroken bs (evs ++ [.graded t]) := by
  rintro (h | ⟨pre, post, a, b, heq, -, hpost⟩)
  · exact h t (by simp)
  · rcases List.eq_nil_or_concat post with rfl | ⟨post, x, rfl⟩
    · obtain ⟨-, he⟩ := List.append_singleton_inj.1 heq
      cases he
    · rw [List.concat_eq_append] at heq hpost
      rw [← List.cons_append, ← List.append_assoc] at heq
      obtain ⟨-, rfl⟩ := List.append_singleton_inj.1 heq
      exact hpost t (by simp)

end LineBroken

namespace Lexer

/-- The trivia a call of `lex` from `s` skips: none when it gives back a kept error or token,
or resumes a split message. -/
def triviaOf (s : Lexer) : List Event :=
  if s.err.isNone && s.look.isNone && s.lit.isNone then [.trivia s.off s.trivia.stop] else []

/-- What a call of `lex` from `s` with outcome `r` reads. -/
def eventsOf (s : Lexer) (r : Except LexError Token) : List Event :=
  s.triviaOf ++ (s.gradedOf r).map .graded

/-- What the first `n` calls of `lex` from `s` read. -/
def eventRun : Nat → Lexer → List Event
  | 0, _ => []
  | n + 1, s => s.eventsOf (Lexer.lex.run s).1 ++ eventRun n (Lexer.lex.run s).2

theorem eventRun_succ (n : Nat) (s : Lexer) :
    s.eventRun (n + 1) = s.eventRun n ++ (s.lexRun n).2.eventsOf (Lexer.lex.run (s.lexRun n).2).1 := by
  induction n generalizing s with
  | zero => simp [eventRun, lexRun]
  | succ n ih =>
    rw [eventRun, ih, eventRun, List.append_assoc]
    rfl

/-- What one call of `next` from `s` does to the line-start bits, leaving `s'` with outcome
`r`: the token starts a line when the call resumes no message and a newline was crossed, by
the bit or by the trivia skipped; a resumed message keeps the bit, a significant token clears
it, and any other call keeps what the trivia made of it. -/
structure LineStep (s : Lexer) (r : Except LexError Token) (s' : Lexer) : Prop where
  token : ∀ t, r = .ok t → t.lineStart = (s.lit.isNone && s.atLineStart) ∧ (s.lit = none → t.Leading)
  newline : s'.newline = if s.lit.isSome then s.newline else s.atLineStart && !s.scanning
  lit : s'.lit.isSome = true → s.lit.isSome = true ∨ s.scanning = true

end Lexer

theorem MenuState.leading_mark (m : MenuState) {tok : Token} (h : tok.Leading) :
    (m.mark tok).Leading := by
  unfold MenuState.mark
  split_ifs with ho hc
  · have hk : tok.kind = .lBrace := by simp_all [MenuState.opens]
    exact Token.leading_of_kind (by simp [hk]) (by simp [hk]; rfl)
  · have hk : tok.kind = .rBrace := by simp_all [MenuState.closes]
    exact Token.leading_of_kind (by simp [hk]) (by simp [hk]; rfl)
  · exact h

namespace LexM

variable {s : Lexer}

/-- Resuming a split message: a blank token or a piece, and the bit stays. -/
theorem lineStep_of_lit {lit : OpenLiteral} (hl : s.lit = some lit) :
    s.LineStep (next.run.run s).1 (next.run.run s).2 := by
  rw [next_run_of_lit hl]
  have hsome : s.lit.isSome = true := by simp [hl]
  cases hb : s.flags.wasBlank
  · rw [continueMessage_run_blank hb]
    refine ⟨fun t ht => ?_, ?_, fun _ => .inl hsome⟩
    · cases ht
      simp [hl]
    · split <;> simp [Lexer.noteReport]
  · rw [continueMessage_run_piece hb]
    have h := ScanM.of_triple (scanLiteral_newline s.off lit true s.newline)
      (s := { s with flags := { s.flags with wasBlank := false } }) rfl
    rcases hx : (scanLiteral s.off lit true).run.run
      { s with flags := { s.flags with wasBlank := false } } with ⟨_ | t, s'⟩ <;> rw [hx] at h
    · exact ⟨fun t ht => (by cases ht), by simp [h, hsome], fun _ => .inl hsome⟩
    · refine ⟨fun t' ht => ?_, by simp [h.2, hsome], fun _ => .inl hsome⟩
      cases ht
      simp [h.1, hl]

/-- A directive comment: its token starts a line by the bit the trivia leaves, which stays for
the next token. -/
theorem lineStep_of_hit (hl : s.lit = none) {hit : DirectiveHit}
    (hd : s.trivia.directive = some hit) : s.LineStep (next.run.run s).1 (next.run.run s).2 := by
  rw [next_run_of_hit hl hd, hitToken_run, applyTrivia_pastTrivia]
  have hsc : s.scanning = false := by simp [Lexer.scanning, hd]
  obtain ⟨-, -, hk⟩ := hitTokenOf_shape hit s.pastTrivia.unit.id s.pastTrivia.newline
  refine ⟨fun t ht => ?_, by simp [hl, hsc], by simp [hl]⟩
  cases ht
  refine ⟨by simp [hitTokenOf, hl], fun _ => Token.leading_of_kind ?_ ?_⟩ <;>
    rcases hk with ⟨hk, -⟩ | ⟨hk, -⟩ <;> rw [hk] <;> decide

/-- The end of the text: the end token starts a line by the bit the trivia leaves. -/
theorem lineStep_of_end (hl : s.lit = none) (hd : s.trivia.directive = none)
    (hge : s.text.size ≤ s.trivia.stop) : s.LineStep (next.run.run s).1 (next.run.run s).2 := by
  rw [next_run_of_no_hit hl hd, applyTrivia_pastTrivia, significant_run_of_ge (by simpa using hge)]
  have hsc : s.scanning = false := by simp [Lexer.scanning, hge]
  have he := LexM.of_triple (eof_newline s.atLineStart s.lit) (s := s.pastTrivia) ⟨rfl, rfl⟩
  have hk : (eof.run s.pastTrivia).1.kind = .eof := LexM.of_triple eof_kind trivial
  refine ⟨fun t ht => ?_, by simp [he.2.1, hl, hsc], by simp [he.2.2, hl]⟩
  cases ht
  exact ⟨by simp [he.1, hl], fun _ => Token.leading_of_kind (by rw [hk]; decide) (by rw [hk]; decide)⟩

/-- A significant token: it starts a line by the bit the trivia leaves, and clears it. -/
theorem lineStep_of_scan (hl : s.lit = none) (hd : s.trivia.directive = none)
    (hlt : s.trivia.stop < s.text.size) : s.LineStep (next.run.run s).1 (next.run.run s).2 := by
  rw [next_run_of_no_hit hl hd, applyTrivia_pastTrivia, significant_run_of_lt (by simpa using hlt),
    show s.pastTrivia.scanFrom = s.scanState from rfl, Lexer.pastTrivia_newline]
  have hsc : s.scanning = true := by simp [Lexer.scanning, hl, hd, hlt]
  -- the scan starts with the bit cleared and keeps its frame
  have hs := ScanM.of_triple (scan_spec s.scanState.snap) (s := s.scanState)
    ⟨Within.here (by simpa using hlt.le), rfl, by simpa using hlt, by simpa using hl⟩
  have hlead := ScanM.of_triple scan_leading (s := s.scanState) trivial
  rcases hx : scan.run.run s.scanState with ⟨_ | tok₀, s₂⟩ <;> rw [hx] at hs hlead
  · rw [run_bind_error hx]
    have hf : s₂.newline = false := congrArg Lexer.Frame.newline hs.within.frame
    exact ⟨fun t ht => (by cases ht), by simp [hf, hl, hsc], fun _ => .inr hsc⟩
  · rw [run_bind_ok hx, run_liftM]
    have hf : s₂.newline = false := congrArg Lexer.Frame.newline hs.settled.within.frame
    have ha := LexM.of_triple (after_newline { tok₀ with lineStart := s.atLineStart } false)
      (s := s₂) hf
    have hm := LexM.of_triple (after_menu { tok₀ with lineStart := s.atLineStart } s₂) rfl
    refine ⟨fun t ht => ?_, by simp [ha.2, hl, hsc], fun _ => .inr hsc⟩
    cases ht
    refine ⟨by simp [ha.1, hl], fun _ => ?_⟩
    rw [hm.mark]
    exact s₂.menu.leading_mark ⟨hlead.1, hlead.2⟩

/-- One call of `next` from a tokenizer between calls. -/
theorem next_lineStep : s.LineStep (next.run.run s).1 (next.run.run s).2 := by
  cases hl : s.lit with
  | some lit => exact lineStep_of_lit hl
  | none =>
    cases hd : s.trivia.directive with
    | some hit => exact lineStep_of_hit hl hd
    | none =>
      by_cases hlt : s.trivia.stop < s.text.size
      · exact lineStep_of_scan hl hd hlt
      · exact lineStep_of_end hl hd (Nat.le_of_not_lt hlt)

end LexM

namespace Lexer

variable {s s' : Lexer} {r : Except LexError Token} {bs : ByteArray} {evs : List Event}

/-- Keeping the outcome and handing it out touch none of the bits. -/
theorem LineStep.handOut_keep (hs : s.LineStep r s') : s.LineStep r ((s'.keep r).handOut r) := by
  cases r <;> exact ⟨hs.token, hs.newline, hs.lit⟩

/-- A split message left open holds the bit clear. -/
theorem LineStep.inMessage (hs : s.LineStep r s') (h : s.lit.isSome = true → s.newline = false) :
    s'.lit.isSome = true → s'.newline = false := by
  intro h'
  rw [hs.newline]
  rcases hs.lit h' with hl | hsc
  · simp [hl, h hl]
  · split <;> simp_all

/-- The line-start bit of `s` on the text `bs` after the calls that read `evs`: while the
tokenizer runs, it tells whether a line was broken since the last significant token, and it
is clear while a split message is open. -/
structure LineTracked (bs : ByteArray) (evs : List Event) (s : Lexer) : Prop where
  ready : s.Ready
  look : s.look = none
  text : s.text = bs
  newline : s.err = none → (s.newline = true ↔ LineBroken bs evs)
  inMessage : s.lit.isSome = true → s.newline = false

theorem lineTracked_create (u : SourceUnit) (mode : DirectiveMode) (env : LexEnv) :
    (create u mode env).LineTracked u.content [] where
  ready := ready_create u mode env
  look := rfl
  text := rfl
  newline _ := by simp [create, LineBroken.nil]
  inMessage h := by simp [create] at h

/-- With the trivia the next call skips, a line was broken exactly when the bit or the trivia
says so. -/
theorem LineTracked.atLineStart (h : s.LineTracked bs evs) (herr : s.err = none)
    (hl : s.lit = none) : s.atLineStart = true ↔ LineBroken bs (evs ++ s.triviaOf) := by
  have hto : s.triviaOf = [.trivia s.off s.trivia.stop] := by simp [triviaOf, herr, h.look, hl]
  rw [hto, LineBroken.append_trivia, ← h.newline herr, Lexer.atLineStart, Bool.or_eq_true,
    Lexer.trivia, Trivia.skip_newline _ _ _ _ _ h.ready.inside, h.text]
  simp

/-- The bit a call that gives a token leaves tells whether a line was broken after all that
was read, the call's own reading included. -/
theorem LineTracked.newline_after (h : s.LineTracked bs evs) (herr : s.err = none) {t : Token}
    (hs : s.LineStep (.ok t) s') : s'.newline = true ↔ LineBroken bs (evs ++ s.eventsOf (.ok t)) := by
  rw [hs.newline]
  cases hl : s.lit with
  | some lit =>
    -- a resumed message reads nothing
    have hev : s.eventsOf (.ok t) = [] := by simp [eventsOf, triviaOf, gradedOf, scanning, hl]
    simp [hev, h.newline herr]
  | none =>
    by_cases hsc : s.scanning = true
    · have hev : s.eventsOf (.ok t) = s.triviaOf ++ [.graded t] := by
        simp [eventsOf, gradedOf, herr, h.look, hsc, Except.toOption]
      rw [hev, ← List.append_assoc]
      simp only [hsc, Option.isSome_none, Bool.false_eq_true, if_false, Bool.not_true,
        Bool.and_false, false_iff]
      exact LineBroken.not_append_graded
    · have hev : s.eventsOf (.ok t) = s.triviaOf := by simp [eventsOf, gradedOf, hsc]
      rw [hev, ← h.atLineStart herr hl]
      simp [hsc]

/-- One call of `lex` keeps the bit in step with what was read. -/
theorem LineTracked.lex (h : s.LineTracked bs evs) :
    (Lexer.lex.run s).2.LineTracked bs (evs ++ s.eventsOf (Lexer.lex.run s).1) := by
  cases herr : s.err with
  | some e =>
    rw [lex_run_of_err herr]
    have hev : s.eventsOf (.error e) = [] := by simp [eventsOf, triviaOf, gradedOf, herr]
    rw [hev, List.append_nil]
    exact h
  | none =>
    rw [lex_run_of_fresh herr h.look]
    have hst := LexM.next_lineStep (s := s)
    have htext := LexM.next_text h.ready
    obtain ⟨hr, hl⟩ := LexM.next_ready h.ready
    rw [h.look] at hl
    rcases hx : LexM.next.run.run s with ⟨e | t, s'⟩ <;> rw [hx] at hst hr hl htext <;>
      dsimp only at hst hr hl htext ⊢
    · -- the error stops the tokenizer
      exact ⟨hr.keep _ |>.handOut _, hl, htext.trans h.text, fun he => by simp [keep, handOut] at he,
        hst.handOut_keep.inMessage h.inMessage⟩
    · exact ⟨hr.keep _ |>.handOut _, rfl, htext.trans h.text,
        fun _ => h.newline_after herr hst.handOut_keep, hst.handOut_keep.inMessage h.inMessage⟩

/-- Along every run from a fresh tokenizer the bit tells whether a line was broken after the
last significant token. -/
theorem lineTracked_run (u : SourceUnit) (mode : DirectiveMode) (env : LexEnv) (n : Nat) :
    ((create u mode env).lexRun n).2.LineTracked u.content ((create u mode env).eventRun n) := by
  induction n with
  | zero => exact lineTracked_create u mode env
  | succ n ih =>
    rw [lexRun_succ, eventRun_succ]
    exact ih.lex

end Lexer

/-! ### Line starts along a run -/

/-- Along every run from a fresh tokenizer, the token of the next call starts a line exactly
when it can start one and a line was broken after the last significant token: none was read
yet, or trivia skipped since, up to this token, holds a newline byte. Directive tokens and the
end token follow the same rule and leave the newline to the next token; newlines inside
literals are never trivia. -/
theorem lineStart_iff_lineBroken (u : SourceUnit) (mode : DirectiveMode) (env : LexEnv) (n : Nat)
    {t : Token} (ht : (Lexer.lex.run ((Lexer.create u mode env).lexRun n).2).1 = .ok t) :
    t.lineStart = true ↔ t.Leading ∧
      LineBroken u.content ((Lexer.create u mode env).eventRun n ++
        ((Lexer.create u mode env).lexRun n).2.triviaOf) := by
  have h := Lexer.lineTracked_run u mode env n
  generalize ((Lexer.create u mode env).lexRun n).2 = s at h ht ⊢
  cases herr : s.err with
  | some e =>
    rw [Lexer.lex_run_of_err herr] at ht
    cases ht
  | none =>
    rw [Lexer.lex_run_of_fresh herr h.look] at ht
    obtain ⟨hls, hlead⟩ := LexM.next_lineStep.token t ht
    cases hl : s.lit with
    | some lit =>
      -- a resumed message: no line start, and none broken since the message opened
      have hto : s.triviaOf = [] := by simp [Lexer.triviaOf, hl]
      rw [hls, hto, List.append_nil, ← h.newline herr, h.inMessage (by simp [hl])]
      simp [hl]
    | none =>
      rw [hls, ← h.atLineStart herr hl]
      simp [hl, hlead hl]

/-- In `1`, newline, `2`, the second number starts a line: the trivia between the two holds
the newline. -/
theorem number_after_newline_starts_line :
    let u : SourceUnit := ⟨0, "", ⟨#[0x31, 0x0A, 0x32]⟩, #[], {}⟩
    let s := ((Lexer.create u .ignore {}).lexRun 1).2
    let t : Token := ⟨.number, 0, 2, 1, true, 1, 2⟩
    (Lexer.lex.run s).1 = .ok t ∧
      (t.lineStart = true ↔ t.Leading ∧
        LineBroken u.content ((Lexer.create u .ignore {}).eventRun 1 ++ s.triviaOf)) := by
  intro u s t
  have hrun : (Lexer.lex.run s).1 = .ok t := by
    have h : (Lexer.lex.run s).1.toOption = some t := by with_unfolding_all decide
    generalize (Lexer.lex.run s).1 = r at h
    cases r <;> simp_all [Except.toOption]
  exact ⟨hrun, lineStart_iff_lineBroken u .ignore {} 1 hrun⟩

end NovelScript

import Mathlib
import NovelScript.Proofs.Lexer.Modes
/-!
# Directive tokens

Only a `//::` comment becomes a directive token: no scanner of significant tokens, no piece of
a split message and no end token has that kind. So a directive token that `lex` hands out is
the token of the directive comment the trivia scan stopped at, and it carries the test flag
only when the scan classified the comment's text as an expectation and the token covers the
whole comment.

Main statement: the tokenizer and the self-test runner agree on test directives. The runner
reads a directive token's text back and parses its body; for every token that `lex` flags as a
test, that parse succeeds (`Lexer.lex_test_parses`).
-/

open Std.Do

set_option mvcgen.warning false

namespace NovelScript

/-- A token of any kind but a directive. -/
def Token.Plain (t : Token) : Prop := t.kind ≠ .directive

/-- A token a scan may give: of any kind but a directive, and a brace only without flags, so
that whether a brace opens or closes a menu body is decided after the scan. -/
def Token.Scannable (t : Token) : Prop :=
  t.kind ≠ .directive ∧ (t.kind = .lBrace ∨ t.kind = .rBrace → t.flags = 0)

theorem Token.plain_of_kind {t : Token} (k : TokenKind) (hk : t.kind = k) (h : k ≠ .directive) :
    t.Plain := by
  rw [Token.Plain, hk]
  exact h

theorem Token.Scannable.plain {t : Token} (h : t.Scannable) : t.Plain := h.1

/-- A token that is neither a directive nor a brace may carry any flags. -/
theorem Token.scannable_of_kind {t : Token}
    (h : t.kind ≠ .directive ∧ t.kind ≠ .lBrace ∧ t.kind ≠ .rBrace) : t.Scannable :=
  ⟨h.1, fun hb => (hb.elim h.2.1 h.2.2).elim⟩

namespace LexM

open Utf8 Chars

/-- An emitted token carries no flags. -/
theorem scannable_emitted {kind : TokenKind} (hk : kind ≠ .directive) (unit start stop : Nat) :
    (emitted kind unit start stop).1.Scannable := by
  unfold emitted
  split
  · exact ⟨nofun, fun _ => rfl⟩
  · exact ⟨hk, fun _ => rfl⟩

/-- An emitted token of a kind that is neither a directive nor a brace may be given new flags. -/
theorem scannable_retag {kind : TokenKind}
    (hk : kind ≠ .directive ∧ kind ≠ .lBrace ∧ kind ≠ .rBrace) {unit start stop : Nat}
    {t : Token} (ht : t.kind = (emitted kind unit start stop).1.kind) : t.Scannable := by
  refine Token.scannable_of_kind ?_
  rw [ht]
  rcases emitted_kind kind unit start stop with h | h <;> rw [h]
  · exact hk
  · decide

theorem bracketKind?_plain {b : UInt8} {k : TokenKind} (h : bracketKind? b = some k) :
    k ≠ .directive := by
  unfold bracketKind? at h
  split_ifs at h <;> cases h <;> decide

/-! ### What a scan gives

No scan makes a directive token, and a brace leaves a scan without flags. Each scanner's triple
names the scanners it calls; their own triples about extents, which are global specifications,
are set aside. -/

theorem scanIdent_scannable (start : Nat) :
    ⦃⌜True⌝⦄ scanIdent start ⦃post⟨fun t _ => ⌜t.Scannable⌝, fun _ _ => ⌜True⌝⟩⦄ := by
  mvcgen -trivial [scanIdent, content, pos, seek, internName, intern, resolve, outOfMemory, rangeOf]
  · exact scannable_emitted (by decide) _ _ _
  · -- the kind comes from the dictionary's tag or from the case of the first letter
    refine scannable_retag ?_ rfl
    rename_i tag
    clear_value tag
    rcases tag with _ | _ | _ | _ <;> dsimp only <;> (try split) <;> decide

theorem scanSigilName_scannable (start : Nat) (kind : TokenKind) :
    ⦃⌜kind ≠ .directive ∧ kind ≠ .lBrace ∧ kind ≠ .rBrace⌝⦄ scanSigilName start kind
    ⦃post⟨fun t _ => ⌜t.Scannable⌝, fun _ _ => ⌜True⌝⟩⦄ := by
  mvcgen -trivial [scanSigilName, content, pos, seek, internName, intern, outOfMemory, rangeOf]
  · exact scannable_emitted ‹kind ≠ .directive ∧ _›.1 _ _ _
  · exact scannable_retag ‹_› rfl

theorem loneSigil_scannable (start : Nat) :
    ⦃⌜True⌝⦄ loneSigil start ⦃⇓ t _ => ⌜t.Scannable⌝⦄ := by
  mvcgen -trivial [loneSigil, peek, advance, reportSpan, rangeOf]
  exact scannable_emitted (by decide) _ _ _

theorem scanBracketed_scannable (start : Nat) (kind : TokenKind) :
    ⦃⌜kind ≠ .directive ∧ kind ≠ .lBrace ∧ kind ≠ .rBrace⌝⦄ scanBracketed start kind
    ⦃post⟨fun t _ => ⌜t.Scannable⌝, fun _ _ => ⌜True⌝⟩⦄ := by
  mvcgen -trivial [scanBracketed, content, pos, seek, internName, intern, outOfMemory, rangeOf, reportSpan]
  -- the bracketed name keeps the kind asked for, flagged; the rest are error tokens
  case vc2 => exact scannable_emitted ‹kind ≠ .directive ∧ _›.1 _ _ _
  case vc3 => exact scannable_retag ‹_› rfl
  all_goals exact scannable_emitted (by decide) _ _ _

theorem scanLiteral_scannable (start : Nat) (lit : OpenLiteral) (continuation : Bool) :
    ⦃⌜lit.kind ≠ .directive ∧ lit.kind ≠ .lBrace ∧ lit.kind ≠ .rBrace⌝⦄
      scanLiteral start lit continuation
    ⦃post⟨fun t _ => ⌜t.Scannable⌝, fun _ _ => ⌜True⌝⟩⦄ := by
  mvcgen -trivial [scanLiteral, content, pos, seek, advance, store, outOfMemory, rangeOf, reportSpan]
  -- the loop over the escape notes only reports
  case inv1 => exact ⇓ _ _ => ⌜lit.kind ≠ .directive ∧ lit.kind ≠ .lBrace ∧ lit.kind ≠ .rBrace⌝
  case vc1.step | vc2.pre => simpa using ‹lit.kind ≠ _ ∧ _›
  -- a literal over the length ceiling is returned as emitted; one that kept its kind is retagged
  case vc3 | vc5 | vc7 | vc9 | vc11 => exact scannable_emitted ‹lit.kind ≠ .directive ∧ _›.1 _ _ _
  all_goals exact scannable_retag ‹_› rfl

theorem openLiteral_scannable (start stop : Nat) (kind : TokenKind) (style : Style) (cjk : Bool)
    (closer : Nat) :
    ⦃⌜kind ≠ .directive ∧ kind ≠ .lBrace ∧ kind ≠ .rBrace⌝⦄
      openLiteral start stop kind style cjk closer
    ⦃post⟨fun t _ => ⌜t.Scannable⌝, fun _ _ => ⌜True⌝⟩⦄ := by
  -- each spec lemma goes to mvcgen as a hypothesis, so that this proof does not wait for the
  -- lemma's own proof to be checked
  have hscanLiteral := @scanLiteral_scannable
  mvcgen -trivial [openLiteral, seek, rangeOf, hscanLiteral, -openLiteral_spec]
  -- the literal is scanned with the kind the call was given
  assumption

theorem scanAt_scannable (start : Nat) :
    ⦃⌜True⌝⦄ scanAt start ⦃post⟨fun t _ => ⌜t.Scannable⌝, fun _ _ => ⌜True⌝⟩⦄ := by
  have hopenLiteral := @openLiteral_scannable
  have hscanSigilName := @scanSigilName_scannable
  have hloneSigil := @loneSigil_scannable
  mvcgen -trivial [scanAt, content, seek, hopenLiteral, hscanSigilName,
    hloneSigil, -scanAt_spec, -openLiteral_spec]
  -- a speaker or a character name is read
  all_goals decide

theorem scanVar_scannable (start : Nat) (kind : TokenKind) :
    ⦃⌜kind ≠ .directive ∧ kind ≠ .lBrace ∧ kind ≠ .rBrace⌝⦄ scanVar start kind
    ⦃post⟨fun t _ => ⌜t.Scannable⌝, fun _ _ => ⌜True⌝⟩⦄ := by
  have hscanBracketed := @scanBracketed_scannable
  have hscanSigilName := @scanSigilName_scannable
  have hloneSigil := @loneSigil_scannable
  mvcgen -trivial [scanVar, content, seek, hscanBracketed, hscanSigilName,
    hloneSigil, -scanVar_spec]
  -- both name forms are read with the kind the call was given
  all_goals assumption

theorem scanPunct_scannable (start : Nat) : ⦃⌜True⌝⦄ scanPunct start ⦃⇓ t _ => ⌜t.Scannable⌝⦄ := by
  mvcgen -trivial [scanPunct, content, advance, reportSpan, rangeOf, -scanPunct_spec]
  -- a bracket keeps the emitted token; an operator is flagged when compound
  case vc1 => exact scannable_emitted (bracketKind?_plain ‹_›) _ _ _
  case vc2 => exact scannable_retag (by decide) rfl
  all_goals exact scannable_emitted (by decide) _ _ _

theorem finishInt_scannable (start val : Nat) (overflow : Bool) (suffix : ByteArray) :
    ⦃⌜True⌝⦄ finishInt start val overflow suffix ⦃⇓ t _ => ⌜t.Scannable⌝⦄ := by
  mvcgen -trivial [finishInt, suffixInfo, pos, reportSpan, rangeOf, -finishInt_spec]
  case vc1 => exact scannable_emitted (by decide) _ _ _
  all_goals exact scannable_retag (by decide) rfl

theorem finishFloat_scannable (start : Nat) (bits : UInt64) (suffix : ByteArray) :
    ⦃⌜True⌝⦄ finishFloat start bits suffix ⦃⇓ t _ => ⌜t.Scannable⌝⦄ := by
  mvcgen -trivial [finishFloat, suffixInfo, pos, reportSpan, rangeOf, -finishFloat_spec]
  case vc1 => exact scannable_emitted (by decide) _ _ _
  all_goals exact scannable_retag (by decide) rfl

theorem scanNumber_scannable (start : Nat) :
    ⦃⌜True⌝⦄ scanNumber start ⦃⇓ t _ => ⌜t.Scannable⌝⦄ := by
  have hfinishInt := @finishInt_scannable
  have hfinishFloat := @finishFloat_scannable
  mvcgen -trivial [scanNumber, content, seek, reportSpan, rangeOf, hfinishInt,
    hfinishFloat, -scanNumber_spec, -finishInt_spec, -finishFloat_spec]
  all_goals exact scannable_emitted (by decide) _ _ _

theorem scanUnicode_scannable (start : Nat) :
    ⦃⌜True⌝⦄ scanUnicode start ⦃post⟨fun t _ => ⌜t.Scannable⌝, fun _ _ => ⌜True⌝⟩⦄ := by
  have hopenLiteral := @openLiteral_scannable
  have hscanIdent := @scanIdent_scannable
  mvcgen -trivial [scanUnicode, content, advance, reportSpan, rangeOf, hopenLiteral,
    hscanIdent, -scanUnicode_spec, -openLiteral_spec]
  -- a CJK opener starts a message or a speaker name
  case vc2.isFalse.h_1 | vc3.isFalse.h_2.isTrue => decide
  all_goals exact scannable_emitted (by decide) _ _ _

/-- A scanned token is no directive, and a scanned brace carries no flags. -/
theorem scan_scannable :
    ⦃⌜True⌝⦄ scan ⦃post⟨fun t _ => ⌜t.Scannable⌝, fun _ _ => ⌜True⌝⟩⦄ := by
  have hscanIdent := @scanIdent_scannable
  have hscanNumber := @scanNumber_scannable
  have hopenLiteral := @openLiteral_scannable
  have hscanAt := @scanAt_scannable
  have hscanVar := @scanVar_scannable
  have hscanSigilName := @scanSigilName_scannable
  have hscanUnicode := @scanUnicode_scannable
  have hscanPunct := @scanPunct_scannable
  mvcgen -trivial [scan, seek, hscanIdent, hscanNumber, hopenLiteral,
    hscanAt, hscanVar, hscanSigilName, hscanUnicode,
    hscanPunct, -scan_spec, -scanNumber_spec, -openLiteral_spec, -scanAt_spec,
    -scanVar_spec, -scanUnicode_spec, -scanPunct_spec]
  -- the kinds asked of the literal and sigil scanners
  all_goals decide

theorem after_kind (tok : Token) : ⦃⌜True⌝⦄ after tok ⦃⇓ t _ => ⌜t.kind = tok.kind⌝⦄ :=
  LexM.triple_of_run fun s _ => (LexM.of_triple (after_spec tok s) rfl).kind

theorem eof_kind : ⦃⌜True⌝⦄ eof ⦃⇓ t _ => ⌜t.kind = .eof⌝⦄ :=
  LexM.triple_of_run fun s _ => (LexM.of_triple (eof_spec s) rfl).kind

theorem continueMessage_plain (lit : OpenLiteral) :
    ⦃⌜lit.kind ≠ .directive ∧ lit.kind ≠ .lBrace ∧ lit.kind ≠ .rBrace⌝⦄ continueMessage lit
    ⦃post⟨fun t _ => ⌜t.Plain⌝, fun _ _ => ⌜True⌝⟩⦄ := by
  have hscanLiteral := @scanLiteral_scannable
  mvcgen -trivial [continueMessage, setFlags, seek, hscanLiteral]
  -- the next piece is read with the literal's kind; the gap before it is a blank token
  case vc1.isTrue.pre => assumption
  case vc2.isTrue.post.success => exact fun h => h.plain
  all_goals exact Token.plain_of_kind .blank rfl (by decide)

theorem significant_plain :
    ⦃⌜True⌝⦄ significant ⦃post⟨fun t _ => ⌜t.Plain⌝, fun _ _ => ⌜True⌝⟩⦄ := by
  have heof := @eof_kind
  have hscan := @scan_scannable
  have hafter := @after_kind
  mvcgen -trivial [significant, setFlags, heof, hscan, hafter, -scan_spec]
  case vc1 => exact fun h => Token.plain_of_kind .eof h (by decide)
  all_goals
    intro h
    rw [Token.Plain, h]
    exact ‹Token.Scannable _›.1

theorem ok_plain {x : ScanM Token} {P₀ : Prop}
    (h : ⦃⌜P₀⌝⦄ x ⦃post⟨fun t _ => ⌜t.Plain⌝, fun _ _ => ⌜True⌝⟩⦄) (hP : P₀) (s : Lexer)
    {t : Token} (ht : (x.run.run s).1 = .ok t) : t.Plain := by
  have hwp := h s hP
  simp [wp] at hwp
  simp only [Id.run, ht] at hwp
  exact hwp

end LexM

/-! ### Directive tokens come from directive comments -/

namespace Trivia

/-- Every directive comment the trivia scan stops at is a whole `//::` comment, a test exactly
when its text classifies as one. -/
theorem hitAt_of_skip (bs : ByteArray) (m : DirectiveMode) (i : Nat) (nl : Bool)
    (ns : Array TriviaNote) {hit : DirectiveHit} (h : (skip bs m i nl ns).directive = some hit) :
    HitAt bs hit := by
  fun_induction skip bs m i nl ns with
  | case7 i _ _ _ _ _ _ _ _ _ hocc stop test _ hcl _ htest =>
    rw [if_neg htest] at h
    cases h
    obtain ⟨hstop, -, -⟩ := directive_extent hocc
    simp only [stop, hstop] at hcl ⊢
    exact ⟨hocc, rfl, by rw [hcl]⟩
  | case10 | case11 => cases h
  | case1 _ _ _ _ _ _ ih | case2 _ _ _ _ _ _ _ ih | case3 _ _ _ _ _ _ _ _ ih => exact ih h
  | case4 _ _ _ _ _ _ _ _ _ _ _ _ hm ih | case5 _ _ _ _ _ _ _ _ _ _ _ _ hm ih =>
    subst hm
    exact ih h
  | case6 _ _ _ _ _ _ _ _ _ _ _ _ _ _ _ _ htest _ _ ih =>
    rw [if_pos htest] at h
    exact ih h
  | case8 _ _ _ _ _ _ _ _ _ _ _ ih => exact ih h
  | case9 _ _ _ _ _ _ _ _ _ _ _ _ _ _ _ _ ih => exact ih h

/-- A comment text that classifies as a test parses as an expectation. -/
theorem classify_parses {c : ByteArray} (h : (classify c).1 = true) :
    ∃ e, Directive.parse (Directive.body c) = .ok e := by
  unfold classify at h
  dsimp only at h
  split at h
  · split at h
    · exact ⟨_, ‹_›⟩
    · cases h
  · cases h

end Trivia

namespace LexM

/-- A call of `next` that gives a directive token has met a directive comment: the token is
that comment's. -/
theorem next_directive {s : Lexer} (hr : s.Ready) {t : Token}
    (ht : (next.run.run s).1 = .ok t) (hk : t.kind = .directive) :
    ∃ hit nl, Trivia.HitAt s.text hit ∧ t = hitTokenOf hit s.unit.id nl := by
  cases hlit : s.lit with
  | some lit =>
    rw [next_run_of_lit hlit] at ht
    exact absurd hk (ok_plain (continueMessage_plain lit) (by rw [(hr.lit lit hlit).1]; decide) s ht)
  | none =>
    cases hd : s.trivia.directive with
    | none =>
      rw [next_run_of_no_hit hlit hd] at ht
      exact absurd hk (ok_plain significant_plain trivial _ ht)
    | some hit =>
      rw [next_run_of_hit hlit hd, applyTrivia_run, hitToken_run] at ht
      cases ht
      exact ⟨hit, _, Trivia.hitAt_of_skip _ _ _ _ _ hd, rfl⟩

/-- The token of a directive comment is flagged as a test only when its whole text was taken:
then it covers the comment, and the comment classifies as a test. -/
theorem hitTokenOf_test {hit : DirectiveHit} {uid : Nat} {nl : Bool}
    (hf : (hitTokenOf hit uid nl).has TokenFlag.testDirective = true) :
    hit.test = true ∧ (hitTokenOf hit uid nl).range = Range.make uid hit.start hit.stop := by
  unfold hitTokenOf at hf ⊢
  by_cases hlong : hit.stop - hit.start > maxTokenLen
  · simp [emitted, hlong, Token.has, TokenFlag.testDirective] at hf
  · cases htest : hit.test
    · simp [emitted, hlong, htest, Token.has, TokenFlag.testDirective] at hf
    · simp [emitted, hlong, Token.range, Range.make]

end LexM

/-- The tokenizer and the self-test runner agree on test directives: a directive token that
`lex` flags as a test has a body that parses as an expectation. -/
theorem Lexer.lex_test_parses {s : Lexer} (hr : s.Ready) (hl : s.look = none) {t : Token}
    (ht : (Lexer.lex.run s).1 = .ok t) (hk : t.kind = .directive)
    (hf : t.has TokenFlag.testDirective = true) :
    ∃ e, Directive.parse (Directive.body (s.unit.slice t.range)) = .ok e := by
  cases herr : s.err with
  | some e =>
    rw [Lexer.lex_run_of_err herr] at ht
    cases ht
  | none =>
    rw [Lexer.lex_run_of_fresh herr hl] at ht
    obtain ⟨hit, nl, ⟨hocc, hstop, htest⟩, rfl⟩ := LexM.next_directive hr ht hk
    obtain ⟨htrue, hrange⟩ := LexM.hitTokenOf_test hf
    obtain ⟨-, hend, hle⟩ := Trivia.directive_extent hocc
    have h4 := hend.le
    rw [← hstop] at hle h4
    -- the slice of the token's range is the comment's text
    have hslice : s.unit.slice (Range.make s.unit.id hit.start hit.stop) =
        s.text.extract hit.start hit.stop := by
      simp only [SourceUnit.slice, Range.make, Range.endOff, SourceUnit.size, Lexer.text] at hle ⊢
      rw [Nat.min_eq_left (by omega), Nat.min_eq_left (by omega), Nat.add_sub_cancel' (by omega)]
    rw [hrange, hslice]
    exact Trivia.classify_parses (htest ▸ htrue)

end NovelScript

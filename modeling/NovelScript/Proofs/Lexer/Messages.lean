import Mathlib
import NovelScript.Proofs.Lexer.LineStart
import NovelScript.Proofs.Lexer.Decoding
import NovelScript.Proofs.Lexer.Restart
import NovelScript.Proofs.Lexer.LiteralStore
/-!
# Messages split by blank lines

A blank line inside a message splits it into pieces. Between two calls the tokenizer keeps the
open message in `lit`, and one bit, `wasBlank`, that tells whether the blank token over the gap
was given: a piece that stops before a blank line leaves the message open at the newline; the
next call gives a blank token from that newline over the newlines and indentation after it, up
to the length ceiling, and raises the bit; the call after that reads the next piece, marked as
resumed. A gap that runs to the end of the text closes the message instead.

`Literal.PieceRead` states what reading one piece gives, against the reference decoding of the
body (`Literal.decode`): a token of the literal's kind carrying its style, its full-width bit, a
flow only after the closer, the continued bit exactly when the body stops before a blank line
and the resume bit as asked (`Literal.PieceRead.bits` reads them back), or the error token cut
to the ceiling; the literal stays open exactly at a split, with the cursor on the newline. Only
a message splits, and only before a line of indentation that ends in a newline
(`Literal.decode_split`); `Literal.OpensAt` names the openers of a message, and
`Literal.runesAt_gapEnd` the extent of a gap.

`Lexer.MessageStep` is what one call does to all this, and the main statement,
`split_message_steps`, says that every call along every run from a fresh tokenizer does it. It
rests on one lemma per scanner (only a message opener leaves a literal open or gives a message
token, `LexM.scan_message`) and one per way a call can go (`LexM.next_messageCall`).

A piece is read as message text wherever it starts, so a piece that starts with `//::` is no
directive comment, and a piece too long for a token is cut into an error token like the token
of an over-long comment (`Lexer.lex_long_piece`). Such a token is handed out in every
directive mode (`comment_like_piece_is_kept`): what tells a comment's token apart is where the
tokenizer stands, not the token.
-/

open Std.Do

set_option mvcgen.warning false

namespace NovelScript

open Utf8 Chars

/-- What the flags of a message piece say: its style, its full-width bit, its flow, whether a
blank line splits it from the next piece and whether it resumes one. -/
theorem literalFlags_bits {t : Token} (hk : t.kind = .message) (st : Style) (hst : st ≠ .none)
    (cjk : Bool) (fl : Flow) (a b : Bool)
    (hf : t.flags = literalFlags st.code cjk fl.code ||| (if a then TokenFlag.continued else 0) |||
      (if b then TokenFlag.continuation else 0)) :
    t.style = st.code ∧ t.has TokenFlag.cjk = cjk ∧ t.flow = fl.code ∧ t.continued = a ∧
      t.continuation = b := by
  obtain ⟨-, hc, hfl, ha, hb⟩ := literalFlags_fields st cjk fl a b
  simp only [Token.style, Token.has, Token.flow, Token.continued, Token.continuation, hk, hf,
    if_true, TokenKind.isLiteral, Bool.true_and]
  exact ⟨literalFlags_style st hst cjk fl a b, hc, hfl, ha, hb⟩

namespace Literal

/-! ### Where a body splits, and the gap after it -/

/-- A body splits only in a message, and only before a newline whose next line holds nothing but
indentation and ends in a newline. -/
theorem decode_split {l : OpenLiteral} {cs : List Rune} (h : (decode l cs).ending = .split) :
    l.kind = .message ∧ ∃ c cs', (decode l cs).rest = c :: cs' ∧ c.cp = 0x0A ∧ blankLine cs' = true := by
  fun_induction decode l cs with
  | case1 | case2 | case4 => cases h
  | case3 _ _ _ _ _ ih | case6 _ _ _ _ _ _ _ ih | case7 _ _ _ _ _ ih => exact ih h
  | case5 c cs _ _ hnl _ hsplit => exact ⟨hsplit.1, c, cs, rfl, hnl, hsplit.2⟩

/-- A character of the gap between two pieces of a message: a newline or indentation. -/
def isGap (c : Rune) : Bool := c.cp = 0x0A || isIndent c

/-- The gap between two pieces ends where the newlines and indentation from its start end. -/
theorem runesAt_gapEnd (bs : ByteArray) (i : Nat) :
    runesAt bs (LexM.gapEnd bs i) = (runesAt bs i).dropWhile isGap := by
  fun_induction LexM.gapEnd bs i with
  | case1 i hi b hb ih =>
    -- a newline or a blank byte: one ASCII character of the gap
    have hb' : byteAt bs i = 0x0A ∨ isBlank (byteAt bs i) = true := by simpa [b] using hb
    have ha : byteAt bs i < 0x80 := by
      rcases hb' with h | h
      · rw [h]; decide
      · exact lt_of_isBlank h
    have hind := isIndent_decodeAt hi [byteAt bs i]
    rw [decodeAt_ascii hi ha] at hind
    rw [ih, runesAt_ascii hi ha, List.dropWhile_cons]
    rcases hb' with h | h
    · simp [isGap, h]
    · simp [isGap, hind, h]
  | case2 i hi b hb hs ih =>
    rw [ih, runesAt_of_lt hi, List.dropWhile_cons, decodeAt_spaceAt hs]
    simp [isGap, isIndent]
  | case3 i hi b hb hs =>
    -- any other character ends the gap
    have hb' : byteAt bs i ≠ 0x0A ∧ isBlank (byteAt bs i) = false := by simpa [b] using hb
    have hcp : (decodeAt bs i).1 ≠ 0x0A := fun h => hb'.1 (decodeAt_eq_newline h).2
    rw [runesAt_of_lt hi, List.dropWhile_cons, isGap, isIndent_decodeAt hi]
    simp [hb'.2, hs, hcp]
  | case4 i hi =>
    rw [runesAt_of_le (Nat.le_of_not_lt hi)]
    rfl

/-! ### One piece -/

/-- The token `t` and the tokenizer `s` left by reading a piece of the literal `l` whose body
starts at `i` of `bs`; `c` tells whether the piece resumes a split message. -/
structure PieceRead (l : OpenLiteral) (c : Bool) (bs : ByteArray) (i : Nat) (t : Token)
    (s : Lexer) : Prop where
  /-- A token of the literal's kind with its style and full-width bit, a flow only after the
  closer, the continued bit at a split and the resume bit as asked; or the error token cut to
  the ceiling. -/
  token : (t.kind = l.kind ∧ ∃ f : Flow,
      t.flags = literalFlags l.style.code l.cjk f.code |||
        (if (decode l (runesAt bs i)).ending = .split then TokenFlag.continued else 0) |||
        (if c then TokenFlag.continuation else 0) ∧
      (f ≠ .none → (decode l (runesAt bs i)).ending = .closed)) ∨ t.Clamped
  /-- The literal stays open exactly when its body stops before a blank line. -/
  lit : s.lit = if (decode l (runesAt bs i)).ending = .split then some l else none
  /-- At a split the cursor stands where the decoding stopped: at the newline. -/
  rest : (decode l (runesAt bs i)).ending = .split →
    runesAt bs s.off = (decode l (runesAt bs i)).rest

section

variable {l : OpenLiteral} {c : Bool} {bs : ByteArray} {i : Nat} {t : Token} {s : Lexer}

/-- The same, stated of the body the model reads. -/
theorem PieceRead.of_body
    (hlit : s.lit = if (body bs l i .empty #[]).ending = .split then some l else none)
    (hoff : (body bs l i .empty #[]).ending = .split → s.off = (body bs l i .empty #[]).stop)
    (htok : (t.kind = l.kind ∧ ∃ f : Flow,
      t.flags = literalFlags l.style.code l.cjk f.code |||
        (if (body bs l i .empty #[]).ending = .split then TokenFlag.continued else 0) |||
        (if c then TokenFlag.continuation else 0) ∧
      (f ≠ .none → (body bs l i .empty #[]).ending = .closed)) ∨ t.Clamped) :
    PieceRead l c bs i t s := by
  obtain ⟨-, -, he, hr⟩ := body_decode bs l i .empty #[]
  rw [he] at hlit hoff htok
  exact ⟨htok, hlit, fun h => by rw [hoff h, hr]⟩

/-- A piece speaks of its token only through the kind, the flags and the length, and of the
tokenizer only through the open literal and the cursor. -/
theorem PieceRead.congr {t' : Token} {s' : Lexer} (h : PieceRead l c bs i t s)
    (hk : t'.kind = t.kind) (hf : t'.flags = t.flags) (hlen : t'.len = t.len)
    (hl : s'.lit = s.lit) (ho : s'.off = s.off) : PieceRead l c bs i t' s' := by
  refine ⟨?_, hl ▸ h.lit, fun hs => ho ▸ h.rest hs⟩
  rcases h.token with ⟨hkind, f, hflags, hflow⟩ | ⟨hkind, hl⟩
  · exact .inl ⟨hk.trans hkind, f, hf.trans hflags, hflow⟩
  · exact .inr ⟨hk.trans hkind, hlen.trans hl⟩

/-- A piece of a message gives a message token or the error token cut to the ceiling. -/
theorem PieceRead.kind_message (h : PieceRead l c bs i t s) (hk : l.kind = .message) :
    t.kind = .message ∨ t.kind = .error := by
  rcases h.token with ⟨h, -⟩ | ⟨h, -⟩
  · exact .inl (h.trans hk)
  · exact .inr h

/-- A message piece carries the message's style and full-width bit, is continued exactly when a
blank line splits it from the next piece, resumes exactly as asked, and has a flow only after
the closer. -/
theorem PieceRead.bits (h : PieceRead l c bs i t s) (hk : t.kind = .message)
    (hst : l.style ≠ .none) :
    t.style = l.style.code ∧ t.has TokenFlag.cjk = l.cjk ∧
      t.continued = decide ((decode l (runesAt bs i)).ending = .split) ∧ t.continuation = c ∧
      (t.flow ≠ 0 → (decode l (runesAt bs i)).ending = .closed) := by
  rcases h.token with ⟨-, f, hf, hflow⟩ | ⟨hkind, -⟩
  · obtain ⟨h1, h2, h3, h4, h5⟩ := literalFlags_bits hk l.style hst l.cjk f
      (decide ((decode l (runesAt bs i)).ending = .split)) c (by simpa using hf)
    refine ⟨h1, h2, h4, h5, fun hne => hflow fun hf => hne ?_⟩
    rw [h3, hf]
    rfl
  · rw [hk] at hkind
    cases hkind

/-- A string or speaker piece leaves no literal open. -/
theorem PieceRead.unopened (h : PieceRead l c bs i t s) (hk : l.kind ≠ .message) :
    t.kind ≠ .message ∧ s.lit = none := by
  have hns : (decode l (runesAt bs i)).ending ≠ .split := fun hs => hk (decode_split hs).1
  refine ⟨?_, by rw [h.lit, if_neg hns]⟩
  rcases h.token with ⟨hkind, -⟩ | ⟨hkind, -⟩ <;> rw [hkind]
  · exact hk
  · decide

end

/-! ### Openers -/

/-- The literal `l` is a message opened at `i` of `bs`: by `>`, `<`, `~` or `!` and a quote where
dialogue may start (`dialogue`), in the style of the first byte, or by 「, 『, （ or ｛, in the
style and with the closer of that character. -/
def OpensAt (bs : ByteArray) (dialogue : Bool) (i : Nat) (l : OpenLiteral) : Prop :=
  l.kind = .message ∧ l.opener.off = i ∧
    ((dialogue = true ∧ l.style = asciiStyle (byteAt bs i) ∧ l.style ≠ .none ∧
        byteAt bs (i + 1) = 0x22 ∧ l.cjk = false ∧ l.closer = 0x22 ∧ l.opener.len = 2) ∨
      (cjkMessage? (decodeAt bs i).1 = some (l.closer, l.style) ∧ l.cjk = true ∧
        l.opener.len = (decodeAt bs i).2))

/-- A message opened by a full-width character, whose body starts right after it. -/
theorem OpensAt.cjk {bs : ByteArray} {i closer u : Nat} {style : Style} (d : Bool)
    (hc : cjkMessage? (decodeAt bs i).1 = some (closer, style)) {t : Token} {s : Lexer}
    (h : PieceRead ⟨.message, style, true, closer, Range.make u i (i + (decodeAt bs i).2)⟩ false bs
      (i + (decodeAt bs i).2) t s) :
    ∃ l, OpensAt bs d i l ∧ PieceRead l false bs (i + l.opener.len) t s := by
  have hlen : (Range.make u i (i + (decodeAt bs i).2)).len = (decodeAt bs i).2 :=
    Nat.add_sub_cancel_left _ _
  refine ⟨⟨.message, style, true, closer, Range.make u i (i + (decodeAt bs i).2)⟩,
    ⟨rfl, rfl, .inr ⟨hc, rfl, hlen⟩⟩, ?_⟩
  dsimp only
  rwa [hlen]

/-- A message opened by a style byte and a quote where dialogue may start. -/
theorem OpensAt.ascii {bs : ByteArray} {i u : Nat} {d : Bool} (hd : d = true)
    (hs : asciiStyle (byteAt bs i) ≠ .none) (hq : byteAt bs (i + 1) = 0x22) {t : Token} {s : Lexer}
    (h : PieceRead ⟨.message, asciiStyle (byteAt bs i), false, 0x22, Range.make u i (i + 2)⟩ false
      bs (i + 2) t s) :
    ∃ l, OpensAt bs d i l ∧ PieceRead l false bs (i + l.opener.len) t s := by
  have hlen : (Range.make u i (i + 2)).len = 2 := Nat.add_sub_cancel_left _ _
  refine ⟨⟨.message, asciiStyle (byteAt bs i), false, 0x22, Range.make u i (i + 2)⟩,
    ⟨rfl, rfl, .inl ⟨hd, rfl, hs, hq, rfl, rfl, hlen⟩⟩, ?_⟩
  dsimp only
  rwa [hlen]

end Literal

/-! ### What a scan reads -/

namespace LexM

/-- Reading a piece of `l` from a cursor at `i`: the piece, with the flags kept. -/
theorem scanLiteral_piece (start : Nat) (l : OpenLiteral) (c : Bool) (bs : ByteArray) (i : Nat)
    (fl : LexFlags) :
    ⦃fun s => ⌜s.text = bs ∧ s.off = i ∧ s.flags = fl⌝⦄ scanLiteral start l c
    ⦃post⟨fun t s => ⌜Literal.PieceRead l c bs i t s ∧ s.flags = fl⌝, fun _ _ => ⌜True⌝⟩⦄ := by
  mvcgen -trivial [scanLiteral, content, pos, seek, advance, store, outOfMemory, rangeOf, reportSpan]
  case inv1 =>
    exact ⇓ _ s' => ⌜s'.text = bs ∧ s'.off = (Literal.body bs l i .empty #[]).stop ∧ s'.flags = fl⌝
  all_goals obtain ⟨rfl, rfl, rfl⟩ := ‹_ = bs ∧ _ = i ∧ _ = fl›
  case vc1.step => simpa using ‹_›
  case vc2.pre => exact ⟨rfl, rfl, rfl⟩
  all_goals
    obtain ⟨htext, hoff, hfl⟩ : _ ∧ _ ∧ _ := ‹_›
    refine ⟨Literal.PieceRead.of_body ?_ ?_ ?_, ?_⟩
  -- a token cut to the ceiling is the error token
  case vc3.post.success.h_1.h_1.isTrue.isTrue.refine_3 |
      vc5.post.success.h_1.h_1.isFalse.isTrue.refine_3 | vc7.post.success.h_1.h_2.isTrue.refine_3 |
      vc9.post.success.h_2.isTrue.refine_3 | vc11.post.success.h_3.isTrue.refine_3 =>
    exact .inr (emitted_clamped (by simpa using ‹(!(emitted _ _ _ _).2) = true›))
  -- a kept token: a flow only after the closer
  case vc4.post.success.h_1.h_1.isTrue.isFalse.h_1.refine_3 =>
    exact .inl ⟨emitted_kind_of_kept (by simpa using ‹¬(!(emitted _ _ _ _).2) = true›), ‹Flow›,
      by simp +zetaDelta, fun _ => ‹_›⟩
  case vc6.post.success.h_1.h_1.isFalse.isFalse.h_1.refine_3 |
      vc8.post.success.h_1.h_2.isFalse.h_1.refine_3 | vc10.post.success.h_2.isFalse.h_1.refine_3 |
      vc12.post.success.h_3.isFalse.h_1.refine_3 =>
    exact .inl ⟨emitted_kind_of_kept (by simpa using ‹¬(!(emitted _ _ _ _).2) = true›), .none,
      by simp +zetaDelta, fun h => absurd rfl h⟩
  all_goals simp +zetaDelta [*]

/-- Opening a literal reads its first piece from the end of the opener. -/
theorem openLiteral_piece (start stop : Nat) (kind : TokenKind) (style : Style) (cjk : Bool)
    (closer : Nat) (s₀ : Lexer) :
    ⦃fun s => ⌜s = s₀⌝⦄ openLiteral start stop kind style cjk closer
    ⦃post⟨fun t s => ⌜Literal.PieceRead ⟨kind, style, cjk, closer, Range.make s₀.unit.id start stop⟩
      false s₀.text stop t s ∧ s.flags = s₀.flags⌝, fun _ _ => ⌜True⌝⟩⦄ := by
  -- each spec lemma goes to mvcgen as a hypothesis, so that this proof does not wait for the
  -- lemma's own proof to be checked
  have hscanLiteral := @scanLiteral_piece
  mvcgen -trivial [openLiteral, seek, rangeOf, hscanLiteral, -openLiteral_spec]
  subst ‹_ = s₀›
  exact fun h hf => ⟨h, hf⟩

/-! Every other scanner gives no message token and leaves no literal open. -/

theorem emitted_ne_message {kind : TokenKind} (hk : kind ≠ .message) (unit start stop : Nat) :
    (emitted kind unit start stop).1.kind ≠ .message := by
  unfold emitted
  split
  · simp
  · exact hk

theorem scanIdent_unopened (start : Nat) :
    ⦃fun s => ⌜s.lit = none⌝⦄ scanIdent start
    ⦃post⟨fun t s => ⌜t.kind ≠ .message ∧ s.lit = none⌝, fun _ _ => ⌜True⌝⟩⦄ := by
  mvcgen -trivial [scanIdent, content, pos, seek, internName, intern, resolve, outOfMemory, rangeOf]
  all_goals refine ⟨emitted_ne_message ?_ _ _ _, by simp_all +zetaDelta⟩
  · decide
  · -- the kind comes from the dictionary's tag or from the case of the first letter
    rename_i tag
    clear_value tag
    rcases tag with _ | _ | _ | _ <;> dsimp only <;> (try split) <;> decide

theorem scanSigilName_unopened (start : Nat) (kind : TokenKind) :
    ⦃fun s => ⌜kind ≠ .message ∧ s.lit = none⌝⦄ scanSigilName start kind
    ⦃post⟨fun t s => ⌜t.kind ≠ .message ∧ s.lit = none⌝, fun _ _ => ⌜True⌝⟩⦄ := by
  mvcgen -trivial [scanSigilName, content, pos, seek, internName, intern, outOfMemory, rangeOf]
  all_goals exact ⟨emitted_ne_message ‹kind ≠ _ ∧ _›.1 _ _ _, by simp_all +zetaDelta⟩

theorem loneSigil_unopened (start : Nat) :
    ⦃fun s => ⌜s.lit = none⌝⦄ loneSigil start ⦃⇓ t s => ⌜t.kind ≠ .message ∧ s.lit = none⌝⦄ := by
  mvcgen -trivial [loneSigil, peek, advance, reportSpan, rangeOf]
  exact ⟨emitted_ne_message (by decide) _ _ _, by simp_all +zetaDelta⟩

theorem scanBracketed_unopened (start : Nat) (kind : TokenKind) :
    ⦃fun s => ⌜kind ≠ .message ∧ s.lit = none⌝⦄ scanBracketed start kind
    ⦃post⟨fun t s => ⌜t.kind ≠ .message ∧ s.lit = none⌝, fun _ _ => ⌜True⌝⟩⦄ := by
  mvcgen -trivial [scanBracketed, content, pos, seek, internName, intern, outOfMemory, rangeOf, reportSpan]
  -- the bracketed name keeps the kind asked for, flagged; the rest are error tokens
  case vc2 | vc3 => exact ⟨emitted_ne_message ‹kind ≠ _ ∧ _›.1 _ _ _, by simp_all +zetaDelta⟩
  all_goals exact ⟨emitted_ne_message (by decide) _ _ _, by simp_all +zetaDelta⟩

theorem openLiteral_unopened (start stop : Nat) (kind : TokenKind) (style : Style) (cjk : Bool)
    (closer : Nat) :
    ⦃⌜kind ≠ .message⌝⦄ openLiteral start stop kind style cjk closer
    ⦃post⟨fun t s => ⌜t.kind ≠ .message ∧ s.lit = none⌝, fun _ _ => ⌜True⌝⟩⦄ := by
  have hopenLiteral := @openLiteral_piece
  mvcgen -trivial [hopenLiteral, -openLiteral_spec]
  exact fun h _ => h.unopened ‹_›

theorem scanAt_unopened (start : Nat) :
    ⦃fun s => ⌜s.lit = none⌝⦄ scanAt start
    ⦃post⟨fun t s => ⌜t.kind ≠ .message ∧ s.lit = none⌝, fun _ _ => ⌜True⌝⟩⦄ := by
  have hopenLiteral := @openLiteral_unopened
  have hscanSigilName := @scanSigilName_unopened
  have hloneSigil := @loneSigil_unopened
  mvcgen -trivial [scanAt, content, seek, hopenLiteral, hscanSigilName,
    hloneSigil, -scanAt_spec, -openLiteral_spec]
  -- the speaker literal opened here, a character name, or a lone sigil
  case vc1 => decide
  case vc2 => exact ⟨by decide, ‹_›⟩
  case vc3 => assumption

theorem scanVar_unopened (start : Nat) (kind : TokenKind) :
    ⦃fun s => ⌜kind ≠ .message ∧ s.lit = none⌝⦄ scanVar start kind
    ⦃post⟨fun t s => ⌜t.kind ≠ .message ∧ s.lit = none⌝, fun _ _ => ⌜True⌝⟩⦄ := by
  have hscanBracketed := @scanBracketed_unopened
  have hscanSigilName := @scanSigilName_unopened
  have hloneSigil := @loneSigil_unopened
  mvcgen -trivial [scanVar, content, seek, hscanBracketed, hscanSigilName,
    hloneSigil, -scanVar_spec]
  -- both name forms are read with the kind the call was given
  case vc1 | vc2 => exact ‹_ ∧ _›
  case vc3 => exact ‹_ ∧ _›.2

theorem scanPunct_unopened (start : Nat) :
    ⦃fun s => ⌜s.lit = none⌝⦄ scanPunct start ⦃⇓ t s => ⌜t.kind ≠ .message ∧ s.lit = none⌝⦄ := by
  mvcgen -trivial [scanPunct, content, advance, reportSpan, rangeOf, -scanPunct_spec]
  all_goals refine ⟨emitted_ne_message ?_ _ _ _, by simp_all +zetaDelta⟩
  -- a bracket's kind is no literal
  case vc1.h_1 => exact fun hk => absurd (bracketKind?_leading ‹_›).2 (by rw [hk]; decide)
  all_goals decide

theorem finishInt_unopened (start val : Nat) (overflow : Bool) (suffix : ByteArray) :
    ⦃fun s => ⌜s.lit = none⌝⦄ finishInt start val overflow suffix
    ⦃⇓ t s => ⌜t.kind ≠ .message ∧ s.lit = none⌝⦄ := by
  mvcgen -trivial [finishInt, suffixInfo, pos, reportSpan, rangeOf, -finishInt_spec]
  all_goals exact ⟨emitted_ne_message (by decide) _ _ _, by simp_all +zetaDelta⟩

theorem finishFloat_unopened (start : Nat) (bits : UInt64) (suffix : ByteArray) :
    ⦃fun s => ⌜s.lit = none⌝⦄ finishFloat start bits suffix
    ⦃⇓ t s => ⌜t.kind ≠ .message ∧ s.lit = none⌝⦄ := by
  mvcgen -trivial [finishFloat, suffixInfo, pos, reportSpan, rangeOf, -finishFloat_spec]
  all_goals exact ⟨emitted_ne_message (by decide) _ _ _, by simp_all +zetaDelta⟩

theorem scanNumber_unopened (start : Nat) :
    ⦃fun s => ⌜s.lit = none⌝⦄ scanNumber start ⦃⇓ t s => ⌜t.kind ≠ .message ∧ s.lit = none⌝⦄ := by
  have hfinishInt := @finishInt_unopened
  have hfinishFloat := @finishFloat_unopened
  mvcgen -trivial [scanNumber, content, seek, reportSpan, rangeOf, hfinishInt,
    hfinishFloat, -scanNumber_spec, -finishInt_spec, -finishFloat_spec]
  case vc1 | vc2 => exact ⟨emitted_ne_message (by decide) _ _ _, by simp_all +zetaDelta⟩
  -- the numeral is finished from a tokenizer with no literal open
  all_goals assumption

/-- A character outside ASCII opens a message when it is a full-width opener. -/
theorem scanUnicode_message (start : Nat) (s₀ : Lexer) (d : Bool) :
    ⦃fun s => ⌜s = s₀ ∧ s.lit = none⌝⦄ scanUnicode start
    ⦃post⟨fun t s => ⌜(t.kind ≠ .message ∧ s.lit = none) ∨ ∃ l, Literal.OpensAt s₀.text d start l ∧
      Literal.PieceRead l false s₀.text (start + l.opener.len) t s⌝, fun _ _ => ⌜True⌝⟩⦄ := by
  have hopenLiteral := @openLiteral_piece
  have hscanIdent := @scanIdent_unopened
  mvcgen -trivial [scanUnicode, content, advance, reportSpan, rangeOf, hopenLiteral,
    hscanIdent, -scanUnicode_spec, -openLiteral_spec]
  all_goals obtain ⟨rfl, hl⟩ := ‹_ = s₀ ∧ _›
  case vc2.isFalse.h_1.post.success =>
    -- a full-width opener: the body starts right after its character
    exact fun h _ => .inr (Literal.OpensAt.cjk d ‹_› h)
  case vc3.isFalse.h_2.isTrue.post.success => exact fun h _ => .inl (h.unopened (by simp))
  case vc4.isFalse.h_2.isFalse.isTrue.pre => exact hl
  case vc5.isFalse.h_2.isFalse.isTrue.post.success => exact fun hk hl => .inl ⟨hk, hl⟩
  -- a byte that starts no character, or a character that starts no token
  all_goals exact .inl ⟨emitted_ne_message (by decide) _ _ _, hl⟩

/-- A scan with no literal open gives the first piece of a message opened at the cursor, or a
token that is no message and leaves no literal open. -/
theorem scan_message (s₀ : Lexer) :
    ⦃fun s => ⌜s = s₀ ∧ s.lit = none⌝⦄ scan
    ⦃post⟨fun t s => ⌜(t.kind ≠ .message ∧ s.lit = none) ∨
      ∃ l, Literal.OpensAt s₀.text s₀.flags.acceptDialogue s₀.off l ∧
        Literal.PieceRead l false s₀.text (s₀.off + l.opener.len) t s⌝, fun _ _ => ⌜True⌝⟩⦄ := by
  have hscanIdent := @scanIdent_unopened
  have hscanNumber := @scanNumber_unopened
  have hopenLiteral := @openLiteral_piece
  have hscanAt := @scanAt_unopened
  have hscanVar := @scanVar_unopened
  have hscanSigilName := @scanSigilName_unopened
  have hscanUnicode := @scanUnicode_message
  have hscanPunct := @scanPunct_unopened
  mvcgen -trivial [scan, seek, hscanIdent, hscanNumber, hopenLiteral,
    hscanAt, hscanVar, hscanSigilName, hscanUnicode,
    hscanPunct, -scan_spec, -scanNumber_spec, -openLiteral_spec, -scanAt_spec,
    -scanVar_spec, -scanUnicode_spec, -scanPunct_spec]
  case vc15.d => exact s₀.flags.acceptDialogue
  all_goals obtain ⟨rfl, hl⟩ := ‹_ = s₀ ∧ _›
  -- the string literal opened at a quote
  case vc5.isFalse.isFalse.isTrue.post.success => exact fun h _ => .inl (h.unopened (by simp))
  -- a message opened by a style byte and a quote, where dialogue may start
  case vc14.isFalse.isFalse.isFalse.isFalse.isFalse.isFalse.isFalse.isTrue.post.success =>
    obtain ⟨hopen, hs⟩ := Bool.and_eq_true_iff.1 ‹(_ && _ && (_ != _)) = true›
    obtain ⟨hq, hd⟩ := Bool.and_eq_true_iff.1 hopen
    exact fun h _ => .inr (Literal.OpensAt.ascii hd (bne_iff_ne.1 hs) (beq_iff_eq.1 hq) h)
  case vc17.isFalse.isFalse.isFalse.isFalse.isFalse.isFalse.isFalse.isFalse.isTrue.post.success =>
    exact id
  -- every other scanner starts with no literal open, and a variable or label kind is no message
  case vc1 | vc3 | vc6 | vc18 => exact hl
  case vc8 | vc10 | vc12 => exact ⟨by decide, hl⟩
  case vc16 => exact ⟨trivial, hl⟩
  all_goals exact fun hk hl => .inl ⟨hk, hl⟩

end LexM

/-! ### One call -/

namespace Lexer

/-- What one call that gives the token `t` does from `s` to messages, leaving `s'`. -/
structure MessageStep (s : Lexer) (t : Token) (s' : Lexer) : Prop where
  /-- A blank token comes exactly where a split message is open and its gap not yet given. -/
  blank : t.kind = .blank ↔ s.lit.isSome = true ∧ s.flags.wasBlank = false
  /-- The blank flag is up exactly between a blank token and the piece after it. -/
  wasBlank : s'.flags.wasBlank = (t.kind == .blank && s'.lit.isSome)
  /-- The blank token starts at the newline that split the message, never starts a line, and
  covers the newlines and indentation after it up to the ceiling; the message stays open
  unless they run to the end of the text. -/
  gap : ∀ l, s.lit = some l → s.flags.wasBlank = false →
    byteAt s.text s.off = 0x0A ∧ t.off = s.off ∧
      t.len = min (LexM.gapEnd s.text s.off - s.off) maxTokenLen ∧ t.lineStart = false ∧
      s'.off = LexM.gapEnd s.text s.off ∧
      s'.lit = if LexM.gapEnd s.text s.off < s.text.size then some l else none
  /-- After the blank token comes the next piece of the same message, marked as resumed. -/
  resumed : ∀ l, s.lit = some l → s.flags.wasBlank = true →
    t.off = s.off ∧ Literal.PieceRead l true s.text s.off t s'
  /-- Any other message token, or any token leaving a literal open, is the first piece of a
  message opened where the token starts. -/
  opened : s.lit = none → (t.kind = .message ∨ s'.lit.isSome = true) →
    ∃ l, Literal.OpensAt s.text s.scanState.flags.acceptDialogue t.off l ∧
      Literal.PieceRead l false s.text (t.off + l.opener.len) t s'

/-- What one call with outcome `r` does to messages; a call stopped by a capacity error
stops the tokenizer and has no token. -/
def MessageCall (s : Lexer) : Except LexError Token → Lexer → Prop
  | .ok t, s' => s.MessageStep t s'
  | .error _, _ => True

variable {s s' : Lexer} {t : Token}

/-- A call with no literal open before or after, whose token is neither a blank token nor a
message. -/
theorem MessageStep.of_plain (hl : s.lit = none) (hb : t.kind ≠ .blank) (hm : t.kind ≠ .message)
    (hl' : s'.lit = none) (hw : s'.flags.wasBlank = false) : s.MessageStep t s' where
  blank := by simp [hb, hl]
  wasBlank := by simp [hw, hl']
  gap l h := by simp [hl] at h
  resumed l h := by simp [hl] at h
  opened _ h := by simp [hm, hl'] at h

/-- A step speaks of the tokenizer it leaves only through its open literal, its cursor and its
flags. -/
theorem MessageStep.of_state (h : s.MessageStep t s') {s'' : Lexer} (hl : s''.lit = s'.lit)
    (ho : s''.off = s'.off) (hw : s''.flags = s'.flags) : s.MessageStep t s'' where
  blank := h.blank
  wasBlank := by rw [hw, hl]; exact h.wasBlank
  gap l h₁ h₂ := by rw [ho, hl]; exact h.gap l h₁ h₂
  resumed l h₁ h₂ := ⟨(h.resumed l h₁ h₂).1, (h.resumed l h₁ h₂).2.congr rfl rfl rfl hl ho⟩
  opened h₁ h₂ := by
    obtain ⟨l, hopen, hp⟩ := h.opened h₁ (by rwa [hl] at h₂)
    exact ⟨l, hopen, hp.congr rfl rfl rfl hl ho⟩

@[simp] theorem scanState_wasBlank : s.scanState.flags.wasBlank = s.flags.wasBlank := by
  unfold Lexer.scanState Lexer.scanFrom
  split <;> rfl

end Lexer

/-- The menu machine marks braces only. -/
theorem MenuState.mark_of_message (m : MenuState) (tok : Token)
    (h : tok.kind = .message ∨ tok.kind = .error) : m.mark tok = tok := by
  rcases h with h | h <;> simp [MenuState.mark, MenuState.opens, MenuState.closes, h]

namespace LexM

variable {s : Lexer}

/-- Resuming a split message: the blank token over the gap, then the next piece. -/
theorem messageCall_of_lit (hr : s.Ready) {l : OpenLiteral} (hl : s.lit = some l) :
    s.MessageCall (next.run.run s).1 (next.run.run s).2 := by
  rw [next_run_of_lit hl]
  obtain ⟨hkind, -, -, hnl⟩ := hr.lit l hl
  cases hb : s.flags.wasBlank with
  | false =>
    rw [continueMessage_run_blank hb]
    refine ⟨by simp [hl, hb], ?_, fun l' hl' _ => ?_, fun _ _ h => by simp [hb] at h,
      fun h => by simp [hl] at h⟩
    · split <;> simp_all
    · -- the gap runs to the end of the text, closing the message, or a piece follows
      cases hl.symm.trans hl'
      refine ⟨hnl hb, rfl, rfl, rfl, by split <;> rfl, ?_⟩
      split <;> simp_all
  | true =>
    rw [continueMessage_run_piece hb]
    have hp := ScanM.of_triple (scanLiteral_piece s.off l true s.text s.off
      { s.flags with wasBlank := false }) (s := { s with flags := { s.flags with wasBlank := false } })
      ⟨rfl, rfl, rfl⟩
    have ho := ScanM.of_triple (scanLiteral_token s.off l true
      { s with flags := { s.flags with wasBlank := false } }) rfl
    rcases hx : (scanLiteral s.off l true).run.run
      { s with flags := { s.flags with wasBlank := false } } with ⟨_ | t, s'⟩ <;> rw [hx] at hp ho
    · trivial
    · obtain ⟨hpiece, hflags⟩ := hp
      have hk : t.kind ≠ .blank := by
        rcases hpiece.kind_message hkind with h | h <;> rw [h] <;> decide
      refine ⟨by simp [hk, hb], by simp [hflags, hk], fun _ _ h => by simp [hb] at h,
        fun l' hl' _ => ?_, fun h => by simp [hl] at h⟩
      cases hl.symm.trans hl'
      exact ⟨ho.1, hpiece⟩

/-- A call that scans nothing with no literal open gives a directive token or the end token,
and leaves no literal open. -/
theorem messageCall_of_unscanned (hr : s.Ready) (hl : s.lit = none) (hsc : s.scanning = false)
    (hm : ∀ t, (next.run.run s).1 = .ok t → t.kind ≠ .message) :
    s.MessageCall (next.run.run s).1 (next.run.run s).2 := by
  have hls := next_lineStep (s := s)
  have hr' := (next_ready hr).1
  rcases hx : next.run.run s with ⟨_ | t, s'⟩ <;> rw [hx] at hls hr' hm
  · trivial
  · have hl' : s'.lit = none := by
      cases h : s'.lit with
      | none => rfl
      | some _ => simpa [hl, hsc, h] using hls.lit
    exact .of_plain hl ((hls.token t rfl).2 hl).1 (hm t rfl) hl' (hr'.blank_false hl')

/-- A directive comment. -/
theorem messageCall_of_hit (hr : s.Ready) (hl : s.lit = none) {hit : DirectiveHit}
    (hd : s.trivia.directive = some hit) : s.MessageCall (next.run.run s).1 (next.run.run s).2 := by
  refine messageCall_of_unscanned hr hl (by simp [Lexer.scanning, hd]) fun t ht => ?_
  rw [next_run_of_hit hl hd, hitToken_run] at ht
  cases ht
  obtain ⟨-, -, hk⟩ := hitTokenOf_shape hit ((applyTrivia s.trivia).run s).2.unit.id
    ((applyTrivia s.trivia).run s).2.newline
  rcases hk with ⟨hk, -⟩ | ⟨hk, -⟩ <;> rw [hk] <;> decide

/-- The end of the text. -/
theorem messageCall_of_end (hr : s.Ready) (hl : s.lit = none) (hd : s.trivia.directive = none)
    (hge : s.text.size ≤ s.trivia.stop) : s.MessageCall (next.run.run s).1 (next.run.run s).2 := by
  refine messageCall_of_unscanned hr hl (by simp [Lexer.scanning, hge]) fun t ht => ?_
  rw [next_run_of_no_hit hl hd, applyTrivia_pastTrivia,
    significant_run_of_ge (by simpa using hge)] at ht
  cases ht
  rw [LexM.of_triple eof_kind trivial]
  decide

/-- A significant token: a piece of a message opened where it starts, or a token that leaves no
literal open and is no message. -/
theorem messageCall_of_scan (hr : s.Ready) (hl : s.lit = none) (hsc : s.scanning = true) :
    s.MessageCall (next.run.run s).1 (next.run.run s).2 := by
  have hlt : s.scanState.off < s.scanState.text.size := by
    simp only [Lexer.scanning, Bool.and_eq_true, decide_eq_true_eq] at hsc
    simpa using hsc.2
  rw [next_run_of_scanning hsc]
  have hs := ScanM.of_triple (scan_spec s.scanState.snap) (s := s.scanState)
    ⟨Within.here hlt.le, rfl, hlt, by simpa using hl⟩
  have hm := ScanM.of_triple (scan_message s.scanState) (s := s.scanState) ⟨rfl, by simpa using hl⟩
  have hlead := ScanM.of_triple scan_leading (s := s.scanState) trivial
  rcases hx : scan.run.run s.scanState with ⟨_ | tok₀, s₂⟩ <;> rw [hx] at hs hm hlead
  · rw [run_bind_error hx]
    trivial
  · rw [run_bind_ok hx, run_liftM]
    have hu := LexM.of_triple (after_spec { tok₀ with lineStart := s.atLineStart } s₂) rfl
    have ham := LexM.of_triple (after_menu { tok₀ with lineStart := s.atLineStart } s₂) rfl
    -- the scan keeps the blank flag, which is down while no literal is open
    have hw : s₂.flags.wasBlank = false := by
      have h : s₂.flags.wasBlank = s.scanState.flags.wasBlank :=
        congrArg (fun f => f.flags.wasBlank) hs.settled.within.frame
      simpa [h] using hr.blank_false hl
    have hb : (after { tok₀ with lineStart := s.atLineStart } |>.run s₂).1.kind ≠ .blank := by
      rw [hu.kind]
      exact hlead.1
    have hw' := hu.blank.trans hw
    rcases hm with ⟨hk, hl₂⟩ | ⟨l, hopen, hpiece⟩
    · exact .of_plain hl hb (by rw [hu.kind]; exact hk) (hu.lit.trans hl₂) hw'
    · -- the menu machine leaves a message piece as it is
      have hmark := ham.mark
      rw [MenuState.mark_of_message _ { tok₀ with lineStart := s.atLineStart }
        (hpiece.kind_message hopen.1)] at hmark
      have hoff : (after { tok₀ with lineStart := s.atLineStart } |>.run s₂).1.off = s.scanState.off :=
        hu.off.trans hs.spans.off
      refine ⟨by simp [hb, hl], by simp [hw', hb], fun _ h => by simp [hl] at h,
        fun _ h => by simp [hl] at h, fun _ _ => ⟨l, ?_, ?_⟩⟩
      · rw [hoff]
        exact hopen
      · rw [hoff]
        exact hpiece.congr (by rw [hmark]) (by rw [hmark]) (by rw [hmark]) hu.lit hu.cursor

/-- One call of `next` from a tokenizer between calls. -/
theorem next_messageCall (hr : s.Ready) : s.MessageCall (next.run.run s).1 (next.run.run s).2 := by
  cases hl : s.lit with
  | some l => exact messageCall_of_lit hr hl
  | none =>
    cases hd : s.trivia.directive with
    | some hit => exact messageCall_of_hit hr hl hd
    | none =>
      by_cases hlt : s.trivia.stop < s.text.size
      · exact messageCall_of_scan hr hl (by simp [Lexer.scanning, hl, hd, hlt])
      · exact messageCall_of_end hr hl hd (Nat.le_of_not_lt hlt)

end LexM

namespace Lexer

/-- Keeping the outcome and handing it out touch neither the open literal, the cursor nor the
flags. -/
theorem MessageCall.handOut_keep {s s' : Lexer} {r : Except LexError Token}
    (h : s.MessageCall r s') : s.MessageCall r ((s'.keep r).handOut r) := by
  cases r
  · trivial
  · exact MessageStep.of_state h rfl rfl rfl

/-- One call of `lex` from a tokenizer between calls. -/
theorem messageCall_lex {s : Lexer} (hr : s.Ready) (hlook : s.look = none) :
    s.MessageCall (Lexer.lex.run s).1 (Lexer.lex.run s).2 := by
  cases herr : s.err with
  | some e =>
    rw [lex_run_of_err herr]
    trivial
  | none =>
    rw [lex_run_of_fresh herr hlook]
    exact (LexM.next_messageCall hr).handOut_keep

end Lexer

/-! ### Along a run -/

/-- Along every run from a fresh tokenizer, each call follows the pieces of split messages: a
blank token comes exactly between two pieces, starts at the newline that split the message and
covers the gap after it; the piece after it resumes the same message; and every other message
token is the first piece of a message opened where it starts. -/
theorem split_message_steps (u : SourceUnit) (mode : DirectiveMode) (env : LexEnv) (n : Nat) :
    ((Lexer.create u mode env).lexRun n).2.MessageCall
      (Lexer.lex.run ((Lexer.create u mode env).lexRun n).2).1
      (Lexer.lex.run ((Lexer.create u mode env).lexRun n).2).2 := by
  obtain ⟨hr, hlook, -, -⟩ := Lexer.lexRun_frame n (Lexer.ready_create u mode env) rfl
  exact Lexer.messageCall_lex hr hlook

/-! ### A piece that reads like a comment -/

namespace Lexer

/-- A call inside a split message, past its blank token, that reads a piece too long for a
token hands out the error token the piece is cut into, where the piece starts. -/
theorem lex_long_piece {s : Lexer} {lit : OpenLiteral} (herr : s.err = none)
    (hlook : s.look = none) (hlit : s.lit = some lit) (hb : s.flags.wasBlank = true)
    (hk : lit.kind ≠ .error)
    (hlong : maxTokenLen < (Literal.body s.text lit s.off .empty #[]).stop - s.off) :
    ∃ t, (Lexer.lex.run s).1 = .ok t ∧ t.Clamped ∧ t.off = s.off := by
  let s' : Lexer := { s with flags := { s.flags with wasBlank := false } }
  have hc := ScanM.of_triple (LexM.scanLiteral_clamped s.off lit true s' hlong) rfl
  have ht := ScanM.of_triple (LexM.scanLiteral_token s.off lit true s') rfl
  rw [← LexM.continueMessage_run_piece hb, ← LexM.next_run_of_lit hlit] at hc ht
  rw [lex_run_of_fresh herr hlook]
  rcases hx : LexM.next.run.run s with ⟨e | tok, s₂⟩ <;> rw [hx] at hc ht
  · exact hc.elim
  · -- the piece's own kind is ruled out: the token is the error token
    obtain ⟨hoff, hkind | hcl⟩ := ht
    · exact absurd (hkind.1.symm.trans hc.1) hk
    · exact ⟨tok, rfl, hcl, hoff⟩

/-- The bytes of `p`, then `n` copies of `c`. -/
def padded (p : List UInt8) (c : UInt8) (n : Nat) : ByteArray := ⟨⟨p ++ List.replicate n c⟩⟩

theorem padded_size (p : List UInt8) (c : UInt8) (n : Nat) : (padded p c n).size = p.length + n := by
  simp [padded, ByteArray.size]

theorem padded_byteAt_pad (p : List UInt8) (c : UInt8) {n j : Nat} (h₁ : p.length ≤ j)
    (h₂ : j < p.length + n) : byteAt (padded p c n) j = c := by
  rw [byteAt, dif_pos (by rw [padded_size]; exact h₂)]
  simp [padded, ByteArray.getElem_eq_getElem_data, List.getElem_append_right h₁]

end Lexer

/-- A message opened with no text, a blank line, and a line of `//::` followed by five thousand
`b`s that the input ends inside. -/
def commentLikePieceUnit : SourceUnit :=
  ⟨0, "", Lexer.padded [0x3E, 0x22, 0x0A, 0x0A, 0x2F, 0x2F, 0x3A, 0x3A] 0x62 5000, #[], {}⟩

/-- In ignore mode the third token of `commentLikePieceUnit` is an error token cut to the
ceiling whose text starts with `//::`, the shape of the token of an over-long `//::` comment. It
is the second piece of the split message, and emit mode hands it out too, so leaving out of
emit mode's stream every error token whose text starts with `//::` does not give ignore mode's
stream. -/
theorem comment_like_piece_is_kept :
    ∃ t, ((Lexer.create commentLikePieceUnit .ignore {}).lexRun 3).1.getLast? = some (.ok t) ∧
      t.Clamped ∧ Bytes.occursAt commentLikePieceUnit.content Directive.prefixText t.off = true := by
  -- the first two calls read only the opener and the blank line: the kernel runs them
  set s := ((Lexer.create commentLikePieceUnit .ignore {}).lexRun 2).2 with hs
  have hu : s.unit = commentLikePieceUnit :=
    (Lexer.lexRun_frame 2 (Lexer.ready_create _ _ _) rfl).2.2.1
  have hlook : s.look = none := (Lexer.lexRun_frame 2 (Lexer.ready_create _ _ _) rfl).2.1
  have herr : s.err = none := Option.isNone_iff_eq_none.1 (by decide +kernel)
  have hoff : s.off = 4 := by decide +kernel
  have hb : s.flags.wasBlank = true := by decide +kernel
  obtain ⟨lit, hlit⟩ : ∃ lit, s.lit = some lit := Option.isSome_iff_exists.1 (by decide +kernel)
  have hkind : lit.kind = .message := by
    have h : (s.lit.map (·.kind)) = some .message := by decide +kernel
    rw [hlit] at h
    exact Option.some_injective _ h
  have hcl : lit.closer = 0x22 := by
    have h : (s.lit.map (·.closer)) = some 0x22 := by decide +kernel
    rw [hlit] at h
    exact Option.some_injective _ h
  -- the piece is plain text from the cursor to the end of the input
  have htext : s.text = Lexer.padded [0x3E, 0x22, 0x0A, 0x0A, 0x2F, 0x2F, 0x3A, 0x3A] 0x62 5000 := by
    rw [Lexer.text, hu]
    rfl
  have hsize : s.text.size = 5008 := by rw [htext, Lexer.padded_size]; rfl
  have hbody : (Literal.body s.text lit 4 .empty #[]).stop = 5008 := by
    refine (Literal.body_stop_of_plain _ _ 4 _ _ (by omega) fun j h₁ h₂ => ?_).trans hsize
    rw [hsize] at h₂
    rw [htext, hcl]
    by_cases hj : j < 8
    · interval_cases j <;> decide +kernel
    · rw [Lexer.padded_byteAt_pad _ _ (by simp; omega) (by simp; omega)]
      decide
  obtain ⟨t, hr, hclamp, hto⟩ := Lexer.lex_long_piece herr hlook hlit hb (by rw [hkind]; decide)
    (by rw [hoff, hbody]; decide)
  refine ⟨t, ?_, hclamp, ?_⟩
  · rw [Lexer.lexRun_succ, ← hs, hr]
    simp
  · rw [hto, hoff]
    decide +kernel

end NovelScript

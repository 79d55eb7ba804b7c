import Mathlib
import NovelScript.Proofs.Lexer.Grammar
import NovelScript.Proofs.Lexer.Operators
import NovelScript.Proofs.Lexer.Runes
/-!
# Labels and dialogue openers depend on where they stand

A `*` right before an identifier reads as a label, and `>`, `<`, `~` or `!` right before `"`
opens a message, only where the grammar state allows it: at the start of a line, or after a
`goto` (for a label) or a speaker or character token (for a message). Elsewhere the first byte
is one-byte punctuation and the rest is read by the next call, as a name or a string.

`Lexer.sigil_reading_follows_position` states this along every run from a fresh tokenizer, for
the tokens handed to `after`: directives, blank runs and message pieces never are, so they never
change the outcome. The flags it reads are tied to the last such token by `Lexer.follows_run`;
one call is described by `LexM.lex_at_label` and `LexM.lex_at_dialogue`, which rest on the scan
branches (`LexM.scan_at_label`, `LexM.scan_at_dialogue`) and on `Token.Reads`, the token of a
span of bytes or the error token it is clamped into when the span is longer than a token can
be. A label longer than that is clamped even at the start of a line
(`Lexer.long_label_at_line_start_is_error`).
-/

set_option mvcgen.warning false

namespace NovelScript

open Utf8 Chars

namespace Chars

/-- A `*` right before the first character of an identifier. -/
def labelSigilAt (bs : ByteArray) (i : Nat) : Bool :=
  byteAt bs i == 0x2A && identStartAt bs (i + 1)

/-- `>`, `<`, `~` or `!` right before `"`. -/
def dialogueOpenerAt (bs : ByteArray) (i : Nat) : Bool :=
  asciiStyle (byteAt bs i) != .none && byteAt bs (i + 1) == 0x22

/-- No character that starts an identifier opens a literal, is U+FFFD or the ideographic space. -/
theorem isIdentStartRune_ne {r : Nat} (h : isIdentStartRune r = true) :
    r ≠ replacement ∧ cjkMessage? r = none ∧ r ≠ speakerOpen ∧ r ≠ 0x3000 := by
  refine ⟨?_, ?_, ?_, ?_⟩
  · rintro rfl; revert h; decide +kernel
  · unfold cjkMessage?
    split_ifs with h1 h2 h3 h4 <;> simp only [beq_iff_eq] at * <;> subst_vars <;> revert h <;>
      decide +kernel
  · rintro rfl; revert h; decide +kernel
  · rintro rfl; revert h; decide +kernel

/-- The ASCII dialogue openers are `>`, `<`, `~` and `!`. -/
theorem eq_of_asciiStyle_ne {b : UInt8} (h : asciiStyle b ≠ .none) :
    b = 0x3E ∨ b = 0x3C ∨ b = 0x7E ∨ b = 0x21 := by
  revert h
  unfold asciiStyle
  split_ifs <;> simp_all

/-- A run of ASCII identifier bytes that reaches the end of the text is read to the end. -/
theorem identEnd_of_ascii_run {bs : ByteArray} {i : Nat} (hi : i ≤ bs.size)
    (h : ∀ j, i ≤ j → j < bs.size → byteAt bs j < 0x80 ∧ isIdentContinueByte (byteAt bs j) = true) :
    identEnd bs i = bs.size := by
  -- on the bytes left, as identEnd's own termination measure
  induction hn : bs.size - i generalizing i with
  | zero => rw [identEnd, if_neg (by omega)]; omega
  | succ n ih =>
    obtain ⟨hlt, hc⟩ := h i le_rfl (by omega)
    rw [identEnd, if_pos (by omega)]
    simp only [hlt, if_true, hc]
    exact ih (by omega) (fun j hj => h j (by omega)) (by omega)

end Chars

/-! ### The token a scan emits -/

/-- The error token that a token longer than the ceiling is cut to. -/
def Token.Clamped (t : Token) : Prop := t.kind = .error ∧ t.len = maxTokenLen

/-- `t` is the token of the bytes from `start` to `stop`, of a kind satisfying `p`: it covers
them when they fit under the ceiling, and is the clamped error token otherwise. -/
structure Token.Reads (p : TokenKind → Prop) (start stop : Nat) (t : Token) : Prop where
  off : t.off = start
  fits : stop - start ≤ maxTokenLen → p t.kind ∧ t.len = stop - start
  clamped : maxTokenLen < stop - start → t.Clamped

namespace Token.Reads

variable {p : TokenKind → Prop} {start stop : Nat} {t : Token}

theorem kind (h : t.Reads p start stop) : p t.kind ∨ t.Clamped := by
  by_cases hfit : stop - start ≤ maxTokenLen
  · exact .inl (h.fits hfit).1
  · exact .inr (h.clamped (Nat.lt_of_not_le hfit))

theorem same {t' : Token} (h : t.Reads p start stop) (hk : t'.kind = t.kind) (ho : t'.off = t.off)
    (hl : t'.len = t.len) : t'.Reads p start stop :=
  ⟨ho.trans h.off, fun hf => by rw [hk, hl]; exact h.fits hf,
    fun hc => by rw [Token.Clamped, hk, hl]; exact h.clamped hc⟩

/-- The flags and the payload are no part of what a token reads. -/
theorem retag (h : t.Reads p start stop) (flags : UInt8) (value : UInt64) :
    ({ t with flags := flags, value := value } : Token).Reads p start stop :=
  ⟨h.off, h.fits, h.clamped⟩

end Token.Reads

theorem emitted_clamped {kind : TokenKind} {unit start stop : Nat}
    (h : (emitted kind unit start stop).2 = false) : (emitted kind unit start stop).1.Clamped := by
  unfold emitted at h ⊢
  by_cases hc : stop - start > maxTokenLen
  · rw [if_pos hc]
    exact ⟨rfl, rfl⟩
  · rw [if_neg hc] at h
    cases h

theorem emitted_kind_of_kept {kind : TokenKind} {unit start stop : Nat}
    (h : (emitted kind unit start stop).2 = true) : (emitted kind unit start stop).1.kind = kind := by
  unfold emitted at h ⊢
  by_cases hc : stop - start > maxTokenLen
  · rw [if_pos hc] at h
    cases h
  · rw [if_neg hc]

theorem emitted_off (kind : TokenKind) (unit start stop : Nat) :
    (emitted kind unit start stop).1.off = start := by
  unfold emitted
  split <;> rfl

theorem emitted_reads {p : TokenKind → Prop} {kind : TokenKind} (hp : p kind) (unit start stop : Nat) :
    (emitted kind unit start stop).1.Reads p start stop := by
  unfold emitted
  split
  · exact ⟨rfl, fun h => by omega, fun _ => ⟨rfl, rfl⟩⟩
  · exact ⟨rfl, fun _ => ⟨hp, rfl⟩, fun h => by omega⟩

/-- The fields of a literal's flags: its style less one in the low two bits, then the full-width
bit, the flow in bits 3 and 4, the continued bit and the resume bit. -/
theorem literalFlags_fields (st : Style) (cjk : Bool) (fl : Flow) (a b : Bool) :
    let w := literalFlags st.code cjk fl.code ||| (if a then TokenFlag.continued else 0) |||
      (if b then TokenFlag.continuation else 0)
    (w &&& 0x03).toNat = st.code - 1 ∧ (w &&& TokenFlag.cjk == TokenFlag.cjk) = cjk ∧
      ((w &&& 0x18) >>> 3).toNat = fl.code ∧ (w &&& TokenFlag.continued != 0) = a ∧
      (w &&& TokenFlag.continuation != 0) = b := by
  cases st <;> cases cjk <;> cases fl <;> cases a <;> cases b <;> decide

/-- The low two bits of a literal's flags hold its style less one. -/
theorem literalFlags_style (st : Style) (hst : st ≠ .none) (cjk : Bool) (fl : Flow) (a b : Bool) :
    ((literalFlags st.code cjk fl.code ||| (if a then TokenFlag.continued else 0) |||
      (if b then TokenFlag.continuation else 0)) &&& 0x03).toNat + 1 = st.code := by
  -- only the absent style has code zero
  have hpos : 0 < st.code := by
    cases st
    · exact absurd rfl hst
    all_goals decide
  have := (literalFlags_fields st cjk fl a b).1
  omega

/-! ### One-byte operators -/

namespace Bytes

theorem byteAt_of_occursAt {b p : ByteArray} {i k : Nat} (h : occursAt b p i = true)
    (hk : k < p.size) : byteAt b (i + k) = byteAt p k := by
  simp only [occursAt, Bool.and_eq_true, decide_eq_true_eq, List.all_eq_true, List.mem_range,
    beq_iff_eq] at h
  exact h.2 k hk

theorem occursAt_single {b p : ByteArray} {i : Nat} (hp : p.size = 1) (hi : i < b.size)
    (hb : byteAt b i = byteAt p 0) : occursAt b p i = true := by
  simp only [occursAt, hp, Bool.and_eq_true, decide_eq_true_eq, List.all_eq_true, List.mem_range,
    beq_iff_eq]
  refine ⟨by omega, fun k hk => ?_⟩
  obtain rfl : k = 0 := by omega
  exact hb

end Bytes

namespace OpForm

/-- The second byte of every spelling of two or more bytes is an ASCII byte that is neither a
quote nor the start of an identifier. -/
theorem second_byte {g : OpForm} (hg : g ∈ opTable) (h2 : 2 ≤ g.text.toUTF8.size) :
    byteAt g.text.toUTF8 1 ≠ 0x22 ∧ byteAt g.text.toUTF8 1 < 0x80 ∧
      isIdentStartByte (byteAt g.text.toUTF8 1) = false := by
  have h : ∀ f ∈ inCodeOrder, 2 ≤ f.text.toUTF8.size → byteAt f.text.toUTF8 1 ≠ 0x22 ∧
      byteAt f.text.toUTF8 1 < 0x80 ∧ isIdentStartByte (byteAt f.text.toUTF8 1) = false := by
    with_unfolding_all decide
  exact h g (opTable_perm.mem_iff.1 hg) h2

/-- Each of `*`, `>`, `<`, `~` and `!` is a one-byte spelling of the table. -/
theorem single_of_mem {b : UInt8} (hb : b ∈ ([0x2A, 0x3E, 0x3C, 0x7E, 0x21] : List UInt8)) :
    ∃ g ∈ opTable, g.text.toUTF8.size = 1 ∧ byteAt g.text.toUTF8 0 = b ∧ g.compound = false := by
  have h : ∀ b ∈ ([0x2A, 0x3E, 0x3C, 0x7E, 0x21] : List UInt8), ∃ g ∈ inCodeOrder,
      g.text.toUTF8.size = 1 ∧ byteAt g.text.toUTF8 0 = b ∧ g.compound = false := by
    decide +kernel
  obtain ⟨g, hg, h⟩ := h b hb
  exact ⟨g, opTable_perm.mem_iff.2 hg, h⟩

/-- Before a quote or the start of an identifier, the table's first hit at a one-byte spelling is
that spelling: the second byte of any longer one would stand there. -/
theorem find?_single {bs : ByteArray} {i : Nat} {g : OpForm} (hg : g ∈ opTable)
    (h1 : g.text.toUTF8.size = 1) (hocc : Bytes.occursAt bs g.text.toUTF8 i = true)
    (hnext : byteAt bs (i + 1) = 0x22 ∨ identStartAt bs (i + 1) = true) :
    opTable.find? (fun f => Bytes.occursAt bs f.text.toUTF8 i) = some g := by
  have hsome : (opTable.find? fun f => Bytes.occursAt bs f.text.toUTF8 i).isSome :=
    List.find?_isSome.2 ⟨g, hg, hocc⟩
  obtain ⟨f, hf⟩ := Option.isSome_iff_exists.1 hsome
  have hfm := List.mem_of_find?_eq_some hf
  have hfo : Bytes.occursAt bs f.text.toUTF8 i = true := (List.find?_eq_some_iff_append.1 hf).1
  obtain ⟨hle, heq⟩ := find?_longest hf g hg hocc
  have hf1 : f.text.toUTF8.size ≤ 1 := by
    by_contra h2
    obtain ⟨hq, hlt, hid⟩ := second_byte hfm (by omega)
    have hb := Bytes.byteAt_of_occursAt hfo (k := 1) (by omega)
    rcases hnext with hn | hn
    · exact hq (hb ▸ hn)
    · simp only [identStartAt, hb, hlt, hid, if_true, Bool.false_eq_true] at hn
  have hsize : g.text.utf8ByteSize = f.text.utf8ByteSize := by
    simp only [String.toUTF8_eq_toByteArray, String.size_toByteArray] at h1 hf1
    omega
  rw [hf, heq hsize]

end OpForm

/-! ### Trivia before a token that starts at once -/

namespace Trivia

theorem skip_of_start {bs : ByteArray} {i : Nat} (hlt : i < bs.size)
    (hb : isBlank (byteAt bs i) = false) (hnl : (byteAt bs i == 0x0A) = false)
    (hsp : spaceAt bs i = false) (hsl : (byteAt bs i == 0x2F) = false) (mode : DirectiveMode)
    (nl : Bool) (notes : Array TriviaNote) : skip bs mode i nl notes = ⟨i, nl, notes, none⟩ := by
  rw [skip]
  simp [hlt, hb, hnl, hsp, hsl]

/-- No trivia stands before a quote. -/
theorem skip_of_quote {bs : ByteArray} {i : Nat} (hq : byteAt bs i = 0x22) (mode : DirectiveMode)
    (nl : Bool) (notes : Array TriviaNote) : skip bs mode i nl notes = ⟨i, nl, notes, none⟩ := by
  have hlt : i < bs.size := byteAt_ne_zero (by rw [hq]; decide)
  have hsp : spaceAt bs i = false := by simp [spaceAt, hq]
  exact skip_of_start hlt (by rw [hq]; rfl) (by rw [hq]; rfl) hsp (by rw [hq]; rfl) mode nl notes

/-- No trivia stands before the start of an identifier: an ideographic space starts none. -/
theorem skip_of_identStartAt {bs : ByteArray} {i : Nat} (h : identStartAt bs i = true)
    (mode : DirectiveMode) (nl : Bool) (notes : Array TriviaNote) :
    skip bs mode i nl notes = ⟨i, nl, notes, none⟩ := by
  have hlt := lt_size_of_identStartAt h
  have hsp : spaceAt bs i = false := by
    cases hs : spaceAt bs i
    · rfl
    · have hd := decodeAt_spaceAt hs
      have hb : ¬ byteAt bs i < 0x80 := by simp [spaceAt] at hs; rw [hs.1.1.1]; decide
      simp only [identStartAt, hb, if_false, hd] at h
      exact absurd rfl (isIdentStartRune_ne h).2.2.2
  have hbyte : ∀ b : UInt8, (b < 0x80 → isIdentStartByte b = true) →
      isBlank b = false ∧ (b == 0x0A) = false ∧ (b == 0x2F) = false := by
    set_option maxRecDepth 20000 in decide
  obtain ⟨hb, hnl, hsl⟩ := hbyte (byteAt bs i) fun hlt => by simpa [identStartAt, hlt] using h
  exact skip_of_start hlt hb hnl hsp hsl mode nl notes

end Trivia

namespace LexM

open Std.Do

variable {u : Lexer}

/-- Before a quote or an identifier, `*`, `>`, `<`, `~` and `!` are one-byte punctuation. -/
theorem scanPunct_run_of_single (hlt : u.off < u.text.size)
    (hb : byteAt u.text u.off ∈ ([0x2A, 0x3E, 0x3C, 0x7E, 0x21] : List UInt8))
    (hnext : byteAt u.text (u.off + 1) = 0x22 ∨ identStartAt u.text (u.off + 1) = true) :
    ∃ v, (scanPunct u.off).run u = (⟨.punct, u.unit.id, u.off, 1, false, 0, v⟩,
      { u with off := u.off + 1 }) := by
  obtain ⟨g, hg, h1, h0, hc⟩ := OpForm.single_of_mem hb
  have hfind := OpForm.find?_single hg h1 (Bytes.occursAt_single h1 hlt h0.symm) hnext
  have hbr : bracketKind? (byteAt u.text u.off) = none := by
    simp only [List.mem_cons, List.not_mem_nil, or_false] at hb
    rcases hb with h | h | h | h | h <;> rw [h] <;> rfl
  have h1' : g.text.utf8ByteSize = 1 := by
    simpa only [String.toUTF8_eq_toByteArray, String.size_toByteArray] using h1
  refine ⟨g.op.code.toUInt64, ?_⟩
  rw [scanPunct_run_of_find hbr hfind (by rw [h1']; decide), h1', hc]
  rfl

theorem scan_run_of_label (h : labelSigilAt u.text u.off = true) (ha : u.flags.acceptLabel = true) :
    scan.run.run u = (scanSigilName u.off .label).run.run { u with off := u.off + 1 } := by
  obtain ⟨hb, hid⟩ := Bool.and_eq_true_iff.1 h
  have hb : byteAt u.text u.off = 0x2A := by simpa using hb
  unfold scan
  rw [run_get_bind]
  simp only [hb, hid, ha]
  rfl

theorem scan_run_of_star (h : labelSigilAt u.text u.off = true) (ha : u.flags.acceptLabel = false) :
    scan.run.run u = (Except.ok ((scanPunct u.off).run u).1, ((scanPunct u.off).run u).2) := by
  obtain ⟨hb, hid⟩ := Bool.and_eq_true_iff.1 h
  have hb : byteAt u.text u.off = 0x2A := by simpa using hb
  unfold scan
  rw [run_get_bind]
  have hs : asciiStyle 0x2A = .none := rfl
  simp only [hb, ha, hs]
  simp +decide
  rfl

theorem scan_run_of_dialogue (h : dialogueOpenerAt u.text u.off = true)
    (ha : u.flags.acceptDialogue = true) :
    scan.run.run u = (openLiteral u.off (u.off + 2) .message (asciiStyle (byteAt u.text u.off))
      false 0x22).run.run u := by
  obtain ⟨hs, hq⟩ := Bool.and_eq_true_iff.1 h
  have hq : byteAt u.text (u.off + 1) = 0x22 := by simpa using hq
  have hb := eq_of_asciiStyle_ne (by simpa using hs)
  unfold scan
  rw [run_get_bind]
  rcases hb with hb | hb | hb | hb <;> simp only [hb, hq, ha] <;> rfl

/-- A byte outside ASCII starts none of the ASCII forms. -/
theorem high_byte_plain : ∀ b : UInt8, 0x80 ≤ b → isIdentStartByte b = false ∧ isDec b = false ∧
    (b == 0x2E) = false ∧ (b == 0x23) = false ∧ (b == 0x22) = false ∧ (b == 0x40) = false ∧
    (b == 0x24) = false ∧ (b == 0x2A) = false ∧ asciiStyle b = .none := by
  set_option maxRecDepth 20000 in decide

theorem scan_run_of_quote_punct (h : dialogueOpenerAt u.text u.off = true)
    (ha : u.flags.acceptDialogue = false) :
    scan.run.run u = (Except.ok ((scanPunct u.off).run u).1, ((scanPunct u.off).run u).2) := by
  obtain ⟨hs, -⟩ := Bool.and_eq_true_iff.1 h
  have hb := eq_of_asciiStyle_ne (by simpa using hs)
  unfold scan
  rw [run_get_bind]
  rcases hb with hb | hb | hb | hb <;> simp only [hb, ha] <;> simp +decide <;> rfl

theorem openLiteral_run (start stop : Nat) (kind : TokenKind) (style : Style) (cjk : Bool)
    (closer : Nat) :
    (openLiteral start stop kind style cjk closer).run.run u =
      (scanLiteral start ⟨kind, style, cjk, closer, Range.make u.unit.id start stop⟩ false).run.run
        { u with off := stop } := by
  unfold openLiteral
  rw [run_lift_bind, run_lift_bind]
  rfl

theorem scan_run_of_high (hb : 0x80 ≤ byteAt u.text u.off) :
    scan.run.run u = (scanUnicode u.off).run.run u := by
  obtain ⟨hi, hd, h1, h2, h3, h4, h5, h6, hs⟩ := high_byte_plain _ hb
  unfold scan
  rw [run_get_bind]
  simp only [hi, hd, h1, h2, h3, h4, h5, h6, hs, hb, Bool.false_or, Bool.false_and,
    Bool.and_false, bne_self_eq_false, Bool.false_eq_true, if_false, if_true]

/-- A character outside ASCII that starts an identifier is read as one. -/
theorem scanUnicode_run_of_ident (h : isIdentStartRune (decodeAt u.text u.off).1 = true) :
    (scanUnicode u.off).run.run u = (scanIdent u.off).run.run u := by
  obtain ⟨hr, hc, hsp, -⟩ := isIdentStartRune_ne h
  unfold scanUnicode
  rw [run_bind_ok (x := content) rfl]
  rcases hd : decodeAt u.text u.off with ⟨r, sz⟩
  rw [hd] at h hr hc hsp
  dsimp only at h hr hc hsp
  simp only [beq_false_of_ne hr, Bool.false_and, Bool.false_eq_true, if_false, hc, beq_iff_eq, hsp,
    h, if_true]

theorem scan_run_of_identStart (h : identStartAt u.text u.off = true) :
    scan.run.run u = (scanIdent u.off).run.run u := by
  by_cases hb : byteAt u.text u.off < 0x80
  · have hs : isIdentStartByte (byteAt u.text u.off) = true := by simpa [identStartAt, hb] using h
    unfold scan
    rw [run_get_bind]
    dsimp only
    rw [if_pos hs]
  · have hr : isIdentStartRune (decodeAt u.text u.off).1 = true := by simpa [identStartAt, hb] using h
    rw [scan_run_of_high (by simpa using hb), scanUnicode_run_of_ident hr]

theorem scan_run_of_quote (h : byteAt u.text u.off = 0x22) :
    scan.run.run u = (openLiteral u.off (u.off + 1) .string .none false 0x22).run.run u := by
  unfold scan
  rw [run_get_bind]
  simp only [h]
  simp +decide

/-- The name after a sigil gives a token of the sigil's kind over the sigil and the name; only
the interning of a name short enough for a token can fail. -/
theorem scanSigilName_reads (start : Nat) (kind : TokenKind) (s₀ : Lexer) :
    ⦃fun s => ⌜s = s₀⌝⦄ scanSigilName start kind
    ⦃post⟨fun t _ => ⌜t.Reads (· = kind) start (identEnd s₀.text s₀.off)⌝,
      fun _ _ => ⌜identEnd s₀.text s₀.off - start ≤ maxTokenLen⌝⟩⦄ := by
  mvcgen -trivial [scanSigilName, content, pos, seek, internName, intern, outOfMemory, rangeOf]
  all_goals subst ‹_ = s₀›
  · exact @emitted_reads (· = kind) _ rfl _ _ _
  · exact (@emitted_reads (· = kind) _ rfl _ _ _).retag _ _
  case vc3.isFalse.h_2 => exact Nat.le_of_not_lt ‹¬_ > maxTokenLen›

/-- An identifier gives a keyword, name or type name token over it. -/
theorem scanIdent_reads (start : Nat) (s₀ : Lexer) :
    ⦃fun s => ⌜s = s₀⌝⦄ scanIdent start
    ⦃post⟨fun t _ => ⌜t.Reads (fun k => k = .keyword ∨ k = .name ∨ k = .typeName) start
      (identEnd s₀.text start)⌝, fun _ _ => ⌜True⌝⟩⦄ := by
  mvcgen -trivial [scanIdent, content, pos, seek, internName, intern, resolve, outOfMemory, rangeOf]
  all_goals subst ‹_ = s₀›
  · exact @emitted_reads (fun k => k = .keyword ∨ k = .name ∨ k = .typeName) _ (by decide) _ _ _
  · refine (emitted_reads ?_ _ _ _).retag _ _
    -- the kind comes from the dictionary's tag or from the case of the first letter
    rename_i tag
    clear_value tag
    rcases tag with _ | _ | _ | _ <;> dsimp only <;> (try split) <;> decide

/-- A literal gives a token of its kind, whose low flag bits carry its style, or the clamped
error token. -/
theorem scanLiteral_token (start : Nat) (lit : OpenLiteral) (continuation : Bool) (s₀ : Lexer) :
    ⦃fun s => ⌜s = s₀⌝⦄ scanLiteral start lit continuation
    ⦃post⟨fun t _ => ⌜t.off = start ∧ ((t.kind = lit.kind ∧
      (lit.style ≠ .none → (t.flags &&& 0x03).toNat + 1 = lit.style.code)) ∨ t.Clamped)⌝,
      fun _ _ => ⌜True⌝⟩⦄ := by
  mvcgen -trivial [scanLiteral, content, pos, seek, advance, store, outOfMemory, rangeOf, reportSpan]
  case inv1 => exact ⇓_ _ => ⌜True⌝
  case vc1.step | vc2.pre => exact True.intro
  -- a token cut to the ceiling is the error token
  case vc3.post.success.h_1.h_1.isTrue.isTrue | vc5.post.success.h_1.h_1.isFalse.isTrue |
      vc7.post.success.h_1.h_2.isTrue | vc9.post.success.h_2.isTrue | vc11.post.success.h_3.isTrue =>
    exact ⟨emitted_off _ _ _ _,
      .inr (emitted_clamped (by simpa using ‹(!(emitted _ _ _ _).2) = true›))⟩
  -- a kept token has the literal's kind and flags, whatever the flow and the split
  case vc4.post.success.h_1.h_1.isTrue.isFalse.h_1 | vc6.post.success.h_1.h_1.isFalse.isFalse.h_1 |
      vc8.post.success.h_1.h_2.isFalse.h_1 | vc10.post.success.h_2.isFalse.h_1 |
      vc12.post.success.h_3.isFalse.h_1 =>
    refine ⟨emitted_off _ _ _ _, .inl ⟨emitted_kind_of_kept ?_, fun hst =>
      literalFlags_style _ hst _ _ _ _⟩⟩
    simpa using ‹¬(!(emitted _ _ _ _).2) = true›

/-- The offset of a scanned token is the cursor the scan started from. -/
theorem scan_off (hlt : u.off < u.text.size) (hl : u.lit = none) {tok : Token} {u' : Lexer}
    (h : scan.run.run u = (.ok tok, u')) : tok.off = u.off := by
  have hs := ScanM.of_triple (scan_spec u.snap) (s := u) ⟨Within.here hlt.le, rfl, hlt, hl⟩
  rw [h] at hs
  exact hs.spans.off

/-- A scan at a `*` before an identifier reads a label where labels are allowed, and otherwise
only the `*`. -/
theorem scan_at_label (h : labelSigilAt u.text u.off = true) {tok : Token} {u' : Lexer}
    (hscan : scan.run.run u = (.ok tok, u')) :
    (u.flags.acceptLabel = true → tok.Reads (· = .label) u.off (identEnd u.text (u.off + 1))) ∧
    (u.flags.acceptLabel = false → ∃ v, tok = ⟨.punct, u.unit.id, u.off, 1, false, 0, v⟩ ∧
      u' = { u with off := u.off + 1 }) := by
  obtain ⟨hb, hid⟩ := Bool.and_eq_true_iff.1 h
  have hb : byteAt u.text u.off = 0x2A := by simpa using hb
  refine ⟨fun ha => ?_, fun ha => ?_⟩
  · rw [scan_run_of_label h ha] at hscan
    have hr := ScanM.of_triple (scanSigilName_reads u.off .label { u with off := u.off + 1 }) rfl
    rw [hscan] at hr
    exact hr
  · rw [scan_run_of_star h ha] at hscan
    obtain ⟨v, hv⟩ := scanPunct_run_of_single (byteAt_ne_zero (by rw [hb]; decide))
      (by simp [hb]) (.inr hid)
    rw [hv] at hscan
    injection hscan with htok hstate
    injection htok with htok
    exact ⟨v, htok.symm, hstate.symm⟩

/-- A scan at `>`, `<`, `~` or `!` before `"` opens a message of the matching style where
dialogue is allowed, and otherwise reads only the first byte. -/
theorem scan_at_dialogue (h : dialogueOpenerAt u.text u.off = true) {tok : Token} {u' : Lexer}
    (hscan : scan.run.run u = (.ok tok, u')) :
    (u.flags.acceptDialogue = true → tok.off = u.off ∧ ((tok.kind = .message ∧
      (tok.flags &&& 0x03).toNat + 1 = (asciiStyle (byteAt u.text u.off)).code) ∨ tok.Clamped)) ∧
    (u.flags.acceptDialogue = false → ∃ v, tok = ⟨.punct, u.unit.id, u.off, 1, false, 0, v⟩ ∧
      u' = { u with off := u.off + 1 }) := by
  obtain ⟨hs, hq⟩ := Bool.and_eq_true_iff.1 h
  have hs : asciiStyle (byteAt u.text u.off) ≠ .none := by simpa using hs
  have hq : byteAt u.text (u.off + 1) = 0x22 := by simpa using hq
  refine ⟨fun ha => ?_, fun ha => ?_⟩
  · rw [scan_run_of_dialogue h ha, openLiteral_run] at hscan
    have hr := ScanM.of_triple (scanLiteral_token u.off ⟨.message, asciiStyle (byteAt u.text u.off),
      false, 0x22, Range.make u.unit.id u.off (u.off + 2)⟩ false { u with off := u.off + 2 }) rfl
    rw [hscan] at hr
    obtain ⟨hoff, hk | hc⟩ := hr
    · exact ⟨hoff, .inl ⟨hk.1, hk.2 hs⟩⟩
    · exact ⟨hoff, .inr hc⟩
  · rw [scan_run_of_quote_punct h ha] at hscan
    have hb : byteAt u.text u.off ∈ ([0x2A, 0x3E, 0x3C, 0x7E, 0x21] : List UInt8) := by
      simpa using Or.inr (eq_of_asciiStyle_ne hs)
    obtain ⟨v, hv⟩ := scanPunct_run_of_single (byteAt_ne_zero (by intro h0; simp [h0] at hb)) hb
      (.inl hq)
    rw [hv] at hscan
    injection hscan with htok hstate
    injection htok with htok
    exact ⟨v, htok.symm, hstate.symm⟩

end LexM

/-! ### One call that scans -/

namespace Lexer

variable (s : Lexer)

@[simp] theorem scanState_off : s.scanState.off = s.trivia.stop := rfl

@[simp] theorem scanState_text : s.scanState.text = s.text := rfl

@[simp] theorem scanState_lit : s.scanState.lit = s.lit := rfl

@[simp] theorem scanState_err : s.scanState.err = s.err := rfl

@[simp] theorem scanState_unit : s.scanState.unit = s.unit := rfl

@[simp] theorem scanState_acceptLabel :
    s.scanState.flags.acceptLabel = (s.atLineStart || s.flags.acceptLabel) :=
  s.pastTrivia.scanFrom_acceptLabel

@[simp] theorem scanState_acceptDialogue :
    s.scanState.flags.acceptDialogue = (s.atLineStart || s.flags.acceptDialogue) :=
  s.pastTrivia.scanFrom_acceptDialogue

end Lexer

namespace LexM

variable {s s₂ : Lexer}

theorem next_run_of_scanning (hsc : s.scanning = true) :
    next.run.run s = (scan >>= fun tok =>
      liftM (after { tok with lineStart := s.atLineStart })).run.run s.scanState := by
  simp only [Lexer.scanning, Bool.and_eq_true, Option.isNone_iff_eq_none, decide_eq_true_eq] at hsc
  obtain ⟨⟨hl, hd⟩, hlt⟩ := hsc
  rw [next_run_of_no_hit hl hd, applyTrivia_pastTrivia, significant_run_of_lt (by simpa using hlt),
    show s.pastTrivia.scanFrom = s.scanState from rfl, Lexer.pastTrivia_newline]

/-- A call that scans hands out what `after` makes of the scanned token, and keeps nothing. -/
theorem lex_run_of_scan {tok : Token} (herr : s.err = none) (hlook : s.look = none)
    (hsc : s.scanning = true) (hscan : scan.run.run s.scanState = (.ok tok, s₂)) :
    Lexer.lex.run s =
      (.ok ((after { tok with lineStart := s.atLineStart }).run s₂).1,
        (((after { tok with lineStart := s.atLineStart }).run s₂).2.keep
          (.ok ((after { tok with lineStart := s.atLineStart }).run s₂).1)).handOut
          (.ok ((after { tok with lineStart := s.atLineStart }).run s₂).1)) := by
  rw [Lexer.lex_run_of_fresh herr hlook, next_run_of_scanning hsc, run_bind_ok hscan, run_liftM]

/-- A scan stopped by a capacity error stops the call. -/
theorem lex_run_of_scan_error {e : LexError} (herr : s.err = none) (hlook : s.look = none)
    (hsc : s.scanning = true) (hscan : scan.run.run s.scanState = (.error e, s₂)) :
    (Lexer.lex.run s).1 = .error e := by
  rw [Lexer.lex_run_of_fresh herr hlook, next_run_of_scanning hsc, run_bind_error hscan]

/-- A call from a cursor at the start of an identifier scans it: the token goes through `after`
and is the identifier's keyword, name or type name token. -/
theorem lex_at_ident (herr : s.err = none) (hlook : s.look = none) (hl : s.lit = none)
    (hid : identStartAt s.text s.off = true) {t : Token} (ht : (Lexer.lex.run s).1 = .ok t) :
    s.gradedOf (.ok t) = [t] ∧
      t.Reads (fun k => k = .keyword ∨ k = .name ∨ k = .typeName) s.off (identEnd s.text s.off) := by
  have htriv : s.trivia = ⟨s.off, false, #[], none⟩ := Trivia.skip_of_identStartAt hid _ _ _
  have hsc : s.scanning = true := by
    simp [Lexer.scanning, hl, htriv, lt_size_of_identStartAt hid]
  refine ⟨by simp [Lexer.gradedOf, herr, hlook, hsc, Except.toOption], ?_⟩
  rcases hx : scan.run.run s.scanState with ⟨_ | tok, s₂⟩
  · rw [lex_run_of_scan_error herr hlook hsc hx] at ht
    cases ht
  rw [lex_run_of_scan herr hlook hsc hx] at ht
  injection ht with ht
  have hstart : identStartAt s.scanState.text s.scanState.off = true := by simpa [htriv] using hid
  have hr := ScanM.of_triple (scanIdent_reads s.scanState.off s.scanState) rfl
  rw [← scan_run_of_identStart hstart, hx] at hr
  have hu := LexM.of_triple (after_spec { tok with lineStart := s.atLineStart } s₂) rfl
  rw [ht] at hu
  simpa [htriv] using hr.same hu.kind hu.off hu.len

/-- A call from a cursor at a quote reads a string, which goes through `after`. -/
theorem lex_at_quote (herr : s.err = none) (hlook : s.look = none) (hl : s.lit = none)
    (hq : byteAt s.text s.off = 0x22) {t : Token} (ht : (Lexer.lex.run s).1 = .ok t) :
    s.gradedOf (.ok t) = [t] ∧ t.off = s.off ∧ (t.kind = .string ∨ t.Clamped) := by
  have htriv : s.trivia = ⟨s.off, false, #[], none⟩ := Trivia.skip_of_quote hq _ _ _
  have hsc : s.scanning = true := by
    simp [Lexer.scanning, hl, htriv, byteAt_ne_zero (by rw [hq]; decide)]
  refine ⟨by simp [Lexer.gradedOf, herr, hlook, hsc, Except.toOption], ?_⟩
  rcases hx : scan.run.run s.scanState with ⟨_ | tok, s₂⟩
  · rw [lex_run_of_scan_error herr hlook hsc hx] at ht
    cases ht
  rw [lex_run_of_scan herr hlook hsc hx] at ht
  injection ht with ht
  have hquote : byteAt s.scanState.text s.scanState.off = 0x22 := by simpa [htriv] using hq
  have hr := ScanM.of_triple (scanLiteral_token s.scanState.off ⟨.string, .none, false, 0x22,
    Range.make s.scanState.unit.id s.scanState.off (s.scanState.off + 1)⟩ false
    { s.scanState with off := s.scanState.off + 1 }) rfl
  rw [← openLiteral_run, ← scan_run_of_quote hquote, hx] at hr
  have hu := LexM.of_triple (after_spec { tok with lineStart := s.atLineStart } s₂) rfl
  rw [ht] at hu
  obtain ⟨hoff, hk | hc⟩ := hr
  · exact ⟨hu.off.trans (by simpa [htriv] using hoff), .inl (hu.kind.trans hk.1)⟩
  · refine ⟨hu.off.trans (by simpa [htriv] using hoff), .inr ?_⟩
    rw [Token.Clamped, hu.kind, hu.len]
    exact hc

/-- A call whose scan handed `t` to `after`: the token the scan gave from `s.scanState`, and
the tokenizer the call leaves. -/
theorem graded_call {t : Token} (hg : s.gradedOf (Lexer.lex.run s).1 = [t]) :
    s.err = none ∧ s.look = none ∧ s.scanning = true ∧ ∃ tok s₂,
      scan.run.run s.scanState = (.ok tok, s₂) ∧
      ((after { tok with lineStart := s.atLineStart }).run s₂).1 = t ∧
      (Lexer.lex.run s).2 =
        (((after { tok with lineStart := s.atLineStart }).run s₂).2.keep (.ok t)).handOut (.ok t) := by
  unfold Lexer.gradedOf at hg
  -- a call that hands nothing to after gives no token here
  split_ifs at hg with hc
  simp only [Bool.and_eq_true, Option.isNone_iff_eq_none] at hc
  obtain ⟨⟨herr, hlook⟩, hsc⟩ := hc
  refine ⟨herr, hlook, hsc, ?_⟩
  rcases hx : scan.run.run s.scanState with ⟨_ | tok, s₂⟩
  · rw [lex_run_of_scan_error herr hlook hsc hx] at hg
    simp [Except.toOption] at hg
  · have hrun := lex_run_of_scan herr hlook hsc hx
    rw [hrun] at hg
    simp only [Except.toOption, Option.toList_some, List.cons.injEq, and_true] at hg
    exact ⟨tok, s₂, rfl, hg, by rw [hrun, hg]⟩

end LexM

/-- The tokenizer a call leaves once `after` made `t`: the cursor, the open literal and the
fixed parts of the tokenizer `after` started from, with no token kept. -/
theorem Lexer.Updated.handOut {s₀ s : Lexer} {tok t : Token} (hu : s₀.Updated tok t s) :
    ((s.keep (.ok t)).handOut (.ok t)).err = s₀.err ∧
      ((s.keep (.ok t)).handOut (.ok t)).look = none ∧
      ((s.keep (.ok t)).handOut (.ok t)).lit = s₀.lit ∧
      ((s.keep (.ok t)).handOut (.ok t)).off = s₀.off ∧
      ((s.keep (.ok t)).handOut (.ok t)).text = s₀.text := by
  have he : s.err = s₀.err := congrArg Lexer.Fixed.err hu.same
  have hunit : s.unit = s₀.unit := congrArg Lexer.Fixed.unit hu.same
  exact ⟨he, rfl, hu.lit, hu.cursor, congrArg SourceUnit.content hunit⟩

theorem MenuState.mark_style (m : MenuState) (tok : Token) : (m.mark tok).style = tok.style := by
  unfold MenuState.mark
  split_ifs with ho hc
  · simp_all [MenuState.opens, Token.style]
  · simp_all [MenuState.closes, Token.style]
  · rfl

/-- What a call that handed `t` to `after` did: its scan from past the trivia gave `tok` and
left `s₂`; `t` is `tok` flagged with the line start, its kind, place, length and style kept;
and the tokenizer the call leaves goes on from `s₂` with nothing kept. -/
structure Lexer.ScannedTo (s : Lexer) (t tok : Token) (s₂ : Lexer) : Prop where
  scan : LexM.scan.run.run s.scanState = (.ok tok, s₂)
  kind : t.kind = tok.kind
  off : t.off = tok.off
  start : tok.off = s.trivia.stop
  len : t.len = tok.len
  lineStart : t.lineStart = s.atLineStart
  style : t.style = tok.style
  err : (Lexer.lex.run s).2.err = s₂.err
  look : (Lexer.lex.run s).2.look = none
  lit : (Lexer.lex.run s).2.lit = s₂.lit
  cursor : (Lexer.lex.run s).2.off = s₂.off
  text : (Lexer.lex.run s).2.text = s₂.text

namespace LexM

variable {s : Lexer}

theorem scannedTo_of_graded {t : Token} (hg : s.gradedOf (Lexer.lex.run s).1 = [t]) :
    s.err = none ∧ s.lit = none ∧ ∃ tok s₂, s.ScannedTo t tok s₂ := by
  obtain ⟨herr, -, hsc, tok, s₂, hx, ht, hs'⟩ := graded_call hg
  have hu := LexM.of_triple (after_spec { tok with lineStart := s.atLineStart } s₂) rfl
  have hm := LexM.of_triple (after_menu { tok with lineStart := s.atLineStart } s₂) rfl
  rw [ht] at hu hm
  simp only [Lexer.scanning, Bool.and_eq_true, Option.isNone_iff_eq_none, decide_eq_true_eq] at hsc
  obtain ⟨⟨hl, -⟩, hlt⟩ := hsc
  have hstart := scan_off (show s.scanState.off < s.scanState.text.size by simpa using hlt)
    (show s.scanState.lit = none from hl) hx
  obtain ⟨he', hl', hlit', ho', htx'⟩ := hu.handOut
  rw [← hs'] at he' hl' hlit' ho' htx'
  refine ⟨herr, hl, tok, s₂, ⟨hx, hu.kind, hu.off, hstart, hu.len, ?_, ?_, he', hl', hlit', ho', htx'⟩⟩
  · rw [hm.mark]; simp
  · rw [hm.mark, MenuState.mark_style]; rfl

/-- A token handed to `after` at a `*` before an identifier is a label, or the error a
too-long label is clamped into, exactly when it starts a line or labels are accepted;
otherwise it is the `*` alone and the next call reads the identifier. -/
theorem lex_at_label {t : Token} (hg : s.gradedOf (Lexer.lex.run s).1 = [t])
    (hsig : labelSigilAt s.text t.off = true) :
    ((t.kind = .label ∨ t.Clamped) ↔ (t.lineStart = true ∨ s.flags.acceptLabel = true)) ∧
    (t.lineStart = false → s.flags.acceptLabel = false → t.kind = .punct ∧ t.len = 1 ∧
      ∀ t', (Lexer.lex.run (Lexer.lex.run s).2).1 = .ok t' →
        (Lexer.lex.run s).2.gradedOf (.ok t') = [t'] ∧
        t'.Reads (fun k => k = .keyword ∨ k = .name ∨ k = .typeName) (t.off + 1)
          (identEnd s.text (t.off + 1))) := by
  obtain ⟨herr, hl, tok, s₂, h⟩ := scannedTo_of_graded hg
  have hoff : t.off = s.trivia.stop := h.off.trans h.start
  have hsig' : labelSigilAt s.scanState.text s.scanState.off = true := by simpa [← hoff] using hsig
  obtain ⟨hlabel, hstar⟩ := scan_at_label hsig' h.scan
  rw [Lexer.scanState_acceptLabel] at hlabel hstar
  rw [h.lineStart]
  cases ha : (s.atLineStart || s.flags.acceptLabel) with
  | true =>
    have hr := (hlabel ha).same h.kind h.off h.len
    refine ⟨iff_of_true hr.kind (by simpa using ha), fun h₁ h₂ => ?_⟩
    simp [h₁, h₂] at ha
  | false =>
    -- the star is read alone and the name is left to the next call
    obtain ⟨v, rfl, rfl⟩ := hstar ha
    have hk : t.kind = .punct := h.kind
    simp only [Bool.or_eq_false_iff] at ha
    refine ⟨by simp [Token.Clamped, hk, ha], fun _ _ => ⟨hk, h.len, fun t' ht' => ?_⟩⟩
    have hoff' : (Lexer.lex.run s).2.off = t.off + 1 := by rw [h.cursor, hoff]; rfl
    have htext : (Lexer.lex.run s).2.text = s.text := h.text
    have hid := (Bool.and_eq_true_iff.1 hsig).2
    rw [← hoff', ← htext] at hid
    rw [← hoff', ← htext]
    exact lex_at_ident (h.err.trans herr) h.look (h.lit.trans hl) hid ht'

/-- A token handed to `after` at an ASCII dialogue opener before a quote is a message of the
opener's style, or the error a too-long message is clamped into, exactly when it starts a line
or dialogue is accepted; otherwise it is the opener alone and the next call reads a string. -/
theorem lex_at_dialogue {t : Token} (hg : s.gradedOf (Lexer.lex.run s).1 = [t])
    (hop : dialogueOpenerAt s.text t.off = true) :
    ((t.kind = .message ∧ t.style = (asciiStyle (byteAt s.text t.off)).code ∨ t.Clamped) ↔
      (t.lineStart = true ∨ s.flags.acceptDialogue = true)) ∧
    (t.lineStart = false → s.flags.acceptDialogue = false → t.kind = .punct ∧ t.len = 1 ∧
      ∀ t', (Lexer.lex.run (Lexer.lex.run s).2).1 = .ok t' →
        (Lexer.lex.run s).2.gradedOf (.ok t') = [t'] ∧ t'.off = t.off + 1 ∧
        (t'.kind = .string ∨ t'.Clamped)) := by
  obtain ⟨herr, hl, tok, s₂, h⟩ := scannedTo_of_graded hg
  have hoff : t.off = s.trivia.stop := h.off.trans h.start
  have hop' : dialogueOpenerAt s.scanState.text s.scanState.off = true := by simpa [← hoff] using hop
  obtain ⟨hmsg, hpunct⟩ := scan_at_dialogue hop' h.scan
  rw [Lexer.scanState_acceptDialogue] at hmsg hpunct
  rw [h.lineStart]
  cases ha : (s.atLineStart || s.flags.acceptDialogue) with
  | true =>
    have hr : t.kind = .message ∧ t.style = (asciiStyle (byteAt s.text t.off)).code ∨ t.Clamped := by
      rcases (hmsg ha).2 with ⟨hk, hf⟩ | ⟨hk, hlen⟩
      · refine .inl ⟨h.kind.trans hk, ?_⟩
        rw [h.style, Token.style, if_pos hk, hf, hoff]
        rfl
      · exact .inr ⟨h.kind.trans hk, h.len.trans hlen⟩
    refine ⟨iff_of_true hr (by simpa using ha), fun h₁ h₂ => ?_⟩
    simp [h₁, h₂] at ha
  | false =>
    -- the opener is read alone and the quote is left to the next call
    obtain ⟨v, rfl, rfl⟩ := hpunct ha
    have hk : t.kind = .punct := h.kind
    simp only [Bool.or_eq_false_iff] at ha
    refine ⟨by simp [Token.Clamped, hk, ha], fun _ _ => ⟨hk, h.len, fun t' ht' => ?_⟩⟩
    have hoff' : (Lexer.lex.run s).2.off = t.off + 1 := by rw [h.cursor, hoff]; rfl
    have htext : (Lexer.lex.run s).2.text = s.text := h.text
    have hq : byteAt s.text (t.off + 1) = 0x22 := by
      simpa using (Bool.and_eq_true_iff.1 hop).2
    rw [← hoff', ← htext] at hq
    rw [← hoff']
    exact lex_at_quote (h.err.trans herr) h.look (h.lit.trans hl) hq ht'

end LexM

namespace Lexer

/-- Along every run from a fresh tokenizer, in every directive mode: a token handed to
`after` at a `*` before an identifier is a label (or the error a too-long label is clamped
into) exactly when it starts a line or the last token handed to `after` before it was a
`goto`, and otherwise it is the `*` alone, followed by the identifier's own token; a token
handed to `after` at an ASCII dialogue opener before a quote is a message of the opener's
style (or its clamped error) exactly when it starts a line or the last token handed to `after`
was a speaker or character, and otherwise it is the opener alone, followed by a string.
Directives, blank runs and message pieces are never handed to `after` and so never count as
the last token. -/
theorem sigil_reading_follows_position (u : SourceUnit) (mode : DirectiveMode) (env : LexEnv)
    (n : Nat) (t : Token) :
    let s := ((Lexer.create u mode env).lexRun n).2
    let prev := ((Lexer.create u mode env).afterRun n).getLast?
    s.gradedOf (Lexer.lex.run s).1 = [t] →
    (labelSigilAt u.content t.off = true →
      ((t.kind = .label ∨ t.Clamped) ↔ (t.lineStart = true ∨ prev.any Token.isGoto = true)) ∧
      (t.lineStart = false → prev.any Token.isGoto = false → t.kind = .punct ∧ t.len = 1 ∧
        ∀ t', (Lexer.lex.run (Lexer.lex.run s).2).1 = .ok t' →
          (Lexer.lex.run s).2.gradedOf (.ok t') = [t'] ∧
          t'.Reads (fun k => k = .keyword ∨ k = .name ∨ k = .typeName) (t.off + 1)
            (identEnd u.content (t.off + 1)))) ∧
    (dialogueOpenerAt u.content t.off = true →
      ((t.kind = .message ∧ t.style = (asciiStyle (byteAt u.content t.off)).code ∨ t.Clamped) ↔
        (t.lineStart = true ∨ prev.any Token.isSpeaker = true)) ∧
      (t.lineStart = false → prev.any Token.isSpeaker = false → t.kind = .punct ∧ t.len = 1 ∧
        ∀ t', (Lexer.lex.run (Lexer.lex.run s).2).1 = .ok t' →
          (Lexer.lex.run s).2.gradedOf (.ok t') = [t'] ∧ t'.off = t.off + 1 ∧
          (t'.kind = .string ∨ t'.Clamped))) := by
  intro s prev hg
  have hf := follows_run u mode env n
  have herr : s.err = none := (LexM.graded_call hg).1
  -- the acceptance flags are those the last token handed to after set
  have hgoto : prev.any Token.isGoto = s.flags.acceptLabel := (hf.label herr).symm
  have hspeaker : prev.any Token.isSpeaker = s.flags.acceptDialogue := (hf.dialogue herr).symm
  have htext : s.text = u.content := by
    rw [Lexer.text, ((Reachable.create mode env).lexRun n).sound.2]
  rw [hgoto, hspeaker, ← htext]
  exact ⟨LexM.lex_at_label hg, LexM.lex_at_dialogue hg⟩

/-- After a number, a `*` before a name is read alone, and the next call reads the name. -/
theorem star_after_number_reads_name :
    let u : SourceUnit := ⟨0, "", ⟨#[0x31, 0x2A, 0x61]⟩, #[], {}⟩
    let s := ((Lexer.create u .ignore {}).lexRun 1).2
    s.gradedOf (Lexer.lex.run s).1 = [⟨.punct, 0, 1, 1, false, 0, 3⟩] ∧
      ∀ t', (Lexer.lex.run (Lexer.lex.run s).2).1 = .ok t' →
        t'.Reads (fun k => k = .keyword ∨ k = .name ∨ k = .typeName) 2 3 := by
  intro u s
  have hg : s.gradedOf (Lexer.lex.run s).1 = [⟨.punct, 0, 1, 1, false, 0, 3⟩] := by with_unfolding_all decide
  have hlabel := (sigil_reading_follows_position u .ignore {} 1 _ hg).1 (by with_unfolding_all decide)
  refine ⟨hg, fun t' ht' => ?_⟩
  have hend : identEnd u.content 2 = 3 := by with_unfolding_all decide
  simpa [hend] using ((hlabel.2 rfl (by with_unfolding_all decide)).2.2 t' ht').2

/-- One byte, then `n` copies of another. -/
def headRun (b c : UInt8) (n : Nat) : ByteArray := ⟨⟨b :: List.replicate n c⟩⟩

theorem headRun_size (b c : UInt8) (n : Nat) : (headRun b c n).size = n + 1 := by
  simp [headRun, ByteArray.size]

theorem headRun_byteAt_zero (b c : UInt8) (n : Nat) : byteAt (headRun b c n) 0 = b := by
  rw [byteAt, dif_pos (by rw [headRun_size]; omega)]
  simp [headRun, ByteArray.getElem_eq_getElem_data]

theorem headRun_byteAt (b c : UInt8) {n j : Nat} (h₁ : 1 ≤ j) (h₂ : j < n + 1) :
    byteAt (headRun b c n) j = c := by
  obtain ⟨k, rfl⟩ : ∃ k, j = k + 1 := ⟨j - 1, by omega⟩
  rw [byteAt, dif_pos (by rw [headRun_size]; omega)]
  simp [headRun, ByteArray.getElem_eq_getElem_data]

/-- A call that scans a label too long for a token hands the error token it is clamped into
to `after`. -/
theorem lex_long_label {s : Lexer} (herr : s.err = none) (hlook : s.look = none)
    (hsc : s.scanning = true) (hacc : s.scanState.flags.acceptLabel = true)
    (hsig : labelSigilAt s.text s.trivia.stop = true)
    (hlong : maxTokenLen < identEnd s.text (s.trivia.stop + 1) - s.trivia.stop) :
    ∃ t, s.gradedOf (Lexer.lex.run s).1 = [t] ∧ t.off = s.trivia.stop ∧
      t.lineStart = s.atLineStart ∧ t.kind = .error := by
  have hsig' : labelSigilAt s.scanState.text s.scanState.off = true := hsig
  have hr := ScanM.of_triple (LexM.scanSigilName_reads s.scanState.off .label
    { s.scanState with off := s.scanState.off + 1 }) rfl
  rw [← LexM.scan_run_of_label hsig' hacc] at hr
  rcases hx : LexM.scan.run.run s.scanState with ⟨e | tok, s₂⟩
  · -- only a name short enough for a token is interned, and only interning fails
    rw [hx] at hr
    exact absurd hr (Nat.not_le_of_lt hlong)
  · rw [hx] at hr
    have hu := LexM.of_triple (LexM.after_spec { tok with lineStart := s.atLineStart } s₂) rfl
    have hm := LexM.of_triple (LexM.after_menu { tok with lineStart := s.atLineStart } s₂) rfl
    refine ⟨_, ?_, hu.off.trans hr.off, by rw [hm.mark]; simp, hu.kind.trans (hr.clamped hlong).1⟩
    rw [LexM.lex_run_of_scan herr hlook hsc hx]
    simp [Lexer.gradedOf, herr, hlook, hsc, Except.toOption]

/-- A line made of a `*` and five thousand `a`s. -/
def longLabelUnit : SourceUnit := ⟨0, "", headRun 0x2A 0x61 5000, #[], {}⟩

/-- A label at the start of a line, too long for a token, is read as an error token. -/
theorem long_label_at_line_start_is_error :
    let s := Lexer.create longLabelUnit .ignore {}
    ∃ t, s.gradedOf (Lexer.lex.run s).1 = [t] ∧ labelSigilAt longLabelUnit.content t.off = true ∧
      t.lineStart = true ∧ t.kind = .error := by
  intro s
  have hsize : s.text.size = 5001 := headRun_size _ _ _
  have hb₀ : byteAt s.text 0 = 0x2A := headRun_byteAt_zero _ _ _
  have hbj : ∀ j, 1 ≤ j → j < 5001 → byteAt s.text j = 0x61 := fun _ h₁ h₂ => headRun_byteAt _ _ h₁ h₂
  have hsig : labelSigilAt s.text 0 = true := by
    simp [labelSigilAt, identStartAt, hb₀, hbj 1 le_rfl (by omega)]
    decide
  have htriv : s.trivia = ⟨0, false, #[], none⟩ :=
    Trivia.skip_of_start (show 0 < s.text.size by omega) (by rw [hb₀]; rfl) (by rw [hb₀]; rfl)
      (by simp [spaceAt, hb₀]) (by rw [hb₀]; rfl) _ _ _
  have hsc : s.scanning = true := by simp [Lexer.scanning, htriv, hsize]; rfl
  have hline : s.atLineStart = true := by simp [Lexer.atLineStart, show s.newline = true from rfl]
  have hlong : identEnd s.text 1 = 5001 :=
    (identEnd_of_ascii_run (by omega) fun j h₁ h₂ => by
      rw [hbj j h₁ (by omega)]; decide).trans hsize
  obtain ⟨t, hg, hoff, hls, hk⟩ := lex_long_label rfl rfl hsc
    (by simp [hline]) (by rw [htriv]; exact hsig) (by simp [htriv, hlong, maxTokenLen])
  refine ⟨t, hg, ?_, hls.trans hline, hk⟩
  rw [hoff, htriv]
  exact hsig

end Lexer

end NovelScript

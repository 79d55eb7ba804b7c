import Mathlib
import NovelScript.Proofs.Ident.Dictionary
import NovelScript.Proofs.Lexer.Position
/-!
# Identifier tokens name their text

Every keyword, name, type name, label, character and variable token carries a dictionary slot,
and the slot holds the token's text less its sigil (and less the brackets of `$<…>` and
`#<…>`): `Token.nameText`. A plain identifier is moreover classified by its text alone
(`Token.Classified`): a keyword spelling is that keyword, a registered built-in type name is a
built-in type name, a word with an upper-case first letter is a type name, and any other word
is a name. The dictionary is shared and changes as texts are first seen, through plain words
(which resolve keywords) or through sigil forms (which do not), so this rests on the
invariant `Dict.Sound`, which every scan keeps (`LexM.scan_names`).

`identifiers_name_their_text` states it along every run from a tokenizer whose dictionary is
sound, for all the tokens of the run at once: each names its text in the dictionary the run
leaves, so two of them carry one slot exactly when they have one text.
-/

open Std.Do

set_option mvcgen.warning false

namespace NovelScript

open Utf8 Chars

/-! ### What a token names -/

/-- Whether a kind is read as a bare word: a keyword, a name or a type name. -/
def TokenKind.isPlainWord (k : TokenKind) : Bool := k = .keyword || k = .name || k = .typeName

/-- The identifier text of a token, read from the text `bs`: the word itself for a keyword,
name or type name, the word after the sigil of a label, character or variable, and the body
between the brackets of a bracketed variable. -/
def Token.nameText (bs : ByteArray) (t : Token) : ByteArray :=
  if t.kind.isPlainWord then bs.extract t.off t.endOff
  else if t.bracketed then bs.extract (t.off + 2) (t.endOff - 1)
  else bs.extract (t.off + 1) t.endOff

/-- How a bare word is read, decided by its text alone: a keyword spelling is that keyword,
printed as the text; a registered built-in type name is a built-in type name; a word with an
upper-case first letter is a type name; any other word is a name. -/
structure Token.Classified (reg : Nat → Prop) (bs : ByteArray) (t : Token) : Prop where
  keyword : t.kind = .keyword ↔ (lookupKeyword? (t.nameText bs)).isSome
  spelling : t.kind = .keyword → (keywordName t.keyword).toUTF8 = t.nameText bs
  builtin : t.builtin = true ↔ Dict.Registered reg (t.nameText bs)
  upper : (t.kind = .typeName ∧ t.builtin = false) ↔ Letter.isUpper (decodeAt bs t.off).1 = true
  name : t.kind = .name ↔ (lookupKeyword? (t.nameText bs)).isNone ∧
    ¬ Dict.Registered reg (t.nameText bs) ∧ Letter.isUpper (decodeAt bs t.off).1 = false

/-- A token names its text in the dictionary `d`: the slot it carries holds its identifier
text, and a bare word is classified by that text. -/
structure Token.Named (reg : Nat → Prop) (d : Dict) (bs : ByteArray) (t : Token) : Prop where
  slot : d.Holds t.index32 (t.nameText bs)
  word : t.kind.isPlainWord = true → t.Classified reg bs

/-! ### Words that begin with a lower-case letter -/

/-- Keyword spellings begin with a lower-case ASCII letter. -/
theorem lower_of_lookupKeyword {text : ByteArray} {k : Nat} (h : lookupKeyword? text = some k) :
    0x61 ≤ byteAt text 0 ∧ byteAt text 0 ≤ 0x7A := by
  -- every printed name but that of code 0 does, the fallback spelling included
  have hall : ∀ k < 256, k ≠ 0 →
      0x61 ≤ byteAt (keywordName k).toUTF8 0 ∧ byteAt (keywordName k).toUTF8 0 ≤ 0x7A := by
    decide +kernel
  obtain ⟨htext, hk⟩ := keywordName_of_lookup h
  rw [← htext]
  exact hall k hk (lookupKeyword_ne_zero h)

namespace Dict

variable {reg : Nat → Prop} {text : ByteArray}

/-- Built-in type names begin with a lower-case ASCII letter. -/
theorem lower_of_registered (h : Registered reg text) :
    0x61 ≤ byteAt text 0 ∧ byteAt text 0 ≤ 0x7A := by
  have hall : ∀ bt ∈ builtinTypes,
      0x61 ≤ byteAt bt.name.toUTF8 0 ∧ byteAt bt.name.toUTF8 0 ≤ 0x7A := by
    with_unfolding_all decide
  obtain ⟨r, bt, -, hb, rfl⟩ := h
  exact hall bt (builtinType_mem hb)

theorem lookupKeyword_of_registered (h : Registered reg text) : lookupKeyword? text = none := by
  obtain ⟨r, bt, -, hb, rfl⟩ := h
  exact lookupKeyword_builtin hb

/-- A word whose entry carries no tag spells no keyword and names no registered type. -/
theorem plain_of_untagged {e : DictEntry}
    (hkw : ∀ k, e.tag = .keyword k ↔ lookupKeyword? text = some k)
    (hty : (∃ r, e.tag = .type r) ↔ Registered reg text) (htg : e.tag = .unresolved) :
    lookupKeyword? text = none ∧ ¬ Registered reg text := by
  refine ⟨Option.eq_none_iff_forall_ne_some.2 fun k hk => ?_, fun h => ?_⟩
  · have := (hkw k).2 hk
    rw [htg] at this
    cases this
  · obtain ⟨r, hr⟩ := hty.2 h
    rw [htg] at hr
    cases hr

end Dict

/-- A text that begins with a lower-case ASCII letter does not begin with an upper-case one. -/
theorem isUpper_of_lower {bs : ByteArray} {a b : Nat}
    (hl : 0x61 ≤ byteAt (bs.extract a b) 0 ∧ byteAt (bs.extract a b) 0 ≤ 0x7A) :
    Letter.isUpper (decodeAt bs a).1 = false := by
  have hall : ∀ c : UInt8, 0x61 ≤ c → c ≤ 0x7A → c < 0x80 ∧ Letter.isUpper c.toNat = false := by
    decide +kernel
  have hpos : 0 < (bs.extract a b).size := by
    by_contra h0
    rw [byteAt, dif_neg h0] at hl
    exact absurd hl.1 (by decide)
  have ha : a < bs.size := by
    simp only [ByteArray.size_extract] at hpos
    omega
  have hfirst : byteAt (bs.extract a b) 0 = byteAt bs a := by
    rw [byteAt_of_lt hpos, ByteArray.getElem_extract, byteAt_of_lt ha]
    simp only [Nat.add_zero]
  rw [hfirst] at hl
  obtain ⟨hascii, hup⟩ := hall _ hl.1 hl.2
  rw [decodeAt_ascii ha hascii]
  exact hup

/-! ### How a bare word is classified -/

namespace Token

variable {reg : Nat → Prop} {bs : ByteArray} {t : Token}

theorem nameText_word (h : t.kind.isPlainWord = true) :
    t.nameText bs = bs.extract t.off t.endOff := by
  simp [nameText, h]

/-- A keyword token whose code is the keyword its text spells. -/
theorem classified_keyword (hkind : t.kind = .keyword)
    (hk : lookupKeyword? (t.nameText bs) = some t.flags.toNat) : t.Classified reg bs := by
  have hword : t.nameText bs = bs.extract t.off t.endOff :=
    nameText_word (by simp [hkind, TokenKind.isPlainWord])
  have hreg : ¬ Dict.Registered reg (t.nameText bs) := fun hr => by
    rw [Dict.lookupKeyword_of_registered hr] at hk
    cases hk
  have hlow : Letter.isUpper (decodeAt bs t.off).1 = false :=
    isUpper_of_lower (hword ▸ lower_of_lookupKeyword hk)
  refine ⟨by simp [hkind, hk], fun _ => ?_, by simp [Token.builtin, hkind, hreg],
    by simp [hkind, hlow], by simp [hkind, hk]⟩
  rw [Token.keyword, if_pos hkind]
  exact (keywordName_of_lookup hk).1

/-- A built-in type name token whose text names a registered built-in type. -/
theorem classified_builtin (hkind : t.kind = .typeName) (hf : t.flags = TokenFlag.builtin)
    (hr : Dict.Registered reg (t.nameText bs)) : t.Classified reg bs := by
  have hword : t.nameText bs = bs.extract t.off t.endOff :=
    nameText_word (by simp [hkind, TokenKind.isPlainWord])
  have hk := Dict.lookupKeyword_of_registered hr
  have hlow : Letter.isUpper (decodeAt bs t.off).1 = false :=
    isUpper_of_lower (hword ▸ Dict.lower_of_registered hr)
  have hb : t.builtin = true := by simp [Token.builtin, hkind, hf, TokenFlag.builtin]
  refine ⟨by simp [hkind, hk], fun h => by simp [hkind] at h, by simp [hb, hr],
    by simp [hb, hlow], by simp [hkind, hr]⟩

/-- A word that spells no keyword and names no registered type: a type name when its first
letter is upper-case, a name otherwise. -/
theorem classified_plain (hk : lookupKeyword? (t.nameText bs) = none)
    (hr : ¬ Dict.Registered reg (t.nameText bs)) (hf : t.flags = 0)
    (hkind : t.kind = if Letter.isUpper (decodeAt bs t.off).1 then .typeName else .name) :
    t.Classified reg bs := by
  have hb : t.builtin = false := by simp [Token.builtin, hf]
  refine ⟨by simp [hk]; split at hkind <;> simp [hkind], fun h => by split at hkind <;> simp_all,
    by simp [hb, hr], ?_, ?_⟩
  · split at hkind <;> simp_all
  · split at hkind <;> simp_all

/-- A token that carries a slot holding its text names it. -/
theorem named_of_slot {d : Dict} (hd : d.Sound reg) {slot : Nat} (hs : d.Holds slot (t.nameText bs))
    (hv : t.value = slot.toUInt64) (hw : t.kind.isPlainWord = true → t.Classified reg bs) :
    t.Named reg d bs := by
  have hlt := hd.lt_of_holds hs
  have h64 : slot % 18446744073709551616 = slot := Nat.mod_eq_of_lt (by omega)
  have hidx : t.index32 = slot := by
    simp only [index32, hv, Nat.toUInt64_eq, UInt64.toNat_ofNat', h64]
    exact if_pos hlt
  exact ⟨hidx ▸ hs, hw⟩

/-- The identifier text of a bare word is the word. -/
theorem nameText_plain {kind : TokenKind} (hk : kind.isPlainWord = true) {start stop : Nat}
    (hle : start ≤ stop) (unit : Nat) (ls : Bool) (f : UInt8) (v : UInt64) :
    (⟨kind, unit, start, stop - start, ls, f, v⟩ : Token).nameText bs = bs.extract start stop := by
  simp [nameText, hk, endOff, Nat.add_sub_cancel' hle]

/-- A bare word that fits in a token, carries the slot of its text and is classified by it,
names its text. -/
theorem named_word {d : Dict} (hd : d.Sound reg) {kind : TokenKind} {f : UInt8}
    {unit start stop slot : Nat} (hfit : ¬ stop - start > maxTokenLen) (hle : start ≤ stop)
    (hk : kind.isPlainWord = true) (hs : d.Holds slot (bs.extract start stop))
    (hc : (⟨kind, unit, start, stop - start, false, f, slot.toUInt64⟩ : Token).Classified reg bs) :
    ({ (emitted kind unit start stop).1 with flags := f, value := slot.toUInt64 } : Token).Named
      reg d bs := by
  unfold emitted
  rw [if_neg hfit]
  refine named_of_slot hd ?_ rfl fun _ => hc
  rwa [nameText_plain hk hle]

/-- A name after a sigil that fits in a token and carries the slot of its text names it. -/
theorem named_sigil {d : Dict} (hd : d.Sound reg) {kind : TokenKind} {unit start stop slot : Nat}
    (hfit : ¬ stop - start > maxTokenLen) (hle : start + 1 ≤ stop) (hk : kind.isPlainWord = false)
    (hs : d.Holds slot (bs.extract (start + 1) stop)) :
    ({ (emitted kind unit start stop).1 with value := slot.toUInt64 } : Token).Named reg d bs := by
  unfold emitted
  rw [if_neg hfit]
  refine named_of_slot hd ?_ rfl fun h => absurd h (by simp [hk])
  -- no flag is set, so the name is read from after the sigil
  have hend : start + (stop - start) = stop := by omega
  simpa [nameText, hk, bracketed, endOff, hend] using hs

/-- The body of a bracketed name that fits in a token and carries the slot of its text names
it. -/
theorem named_bracketed {d : Dict} (hd : d.Sound reg) {kind : TokenKind}
    {unit start stop slot : Nat} (hfit : ¬ stop + 1 - start > maxTokenLen) (hle : start ≤ stop)
    (hk : kind.isPlainWord = false) (hs : d.Holds slot (bs.extract (start + 2) stop))
    (hid : kind.isIdentLike = true) :
    ({ (emitted kind unit start (stop + 1)).1 with
        flags := TokenFlag.bracketed, value := slot.toUInt64 } : Token).Named reg d bs := by
  unfold emitted
  rw [if_neg hfit]
  refine named_of_slot hd ?_ rfl fun h => absurd h (by simp [hk])
  -- the flag is set, so the body is read between the brackets
  have hkw : kind ≠ .keyword := fun h => by simp [h, TokenKind.isPlainWord] at hk
  have hend : start + (stop + 1 - start) - 1 = stop := by omega
  simpa [nameText, hk, bracketed, endOff, hend, hid, hkw, TokenFlag.bracketed] using hs

end Token

/-- A token that fits keeps its kind. -/
theorem emitted_of_fit {kind : TokenKind} {unit start stop : Nat} (h : ¬ stop - start > maxTokenLen) :
    (emitted kind unit start stop).1 = ⟨kind, unit, start, stop - start, false, 0, 0⟩ := by
  unfold emitted
  rw [if_neg h]

/-- A token cut to the length ceiling is the error token. -/
theorem emitted_of_long {kind : TokenKind} {unit start stop : Nat} (h : stop - start > maxTokenLen) :
    (emitted kind unit start stop).1 = ⟨.error, unit, start, maxTokenLen, false, 0, 0⟩ := by
  unfold emitted
  rw [if_pos h]

/-- An emitted token of a kind that is no identifier is none, clamped or not. -/
theorem identLike_emitted {kind : TokenKind} (hk : kind.isIdentLike = false) (unit start stop : Nat) :
    (emitted kind unit start stop).1.kind.isIdentLike = false := by
  rcases emitted_kind kind unit start stop with h | h <;> rw [h]
  · exact hk
  · rfl

/-- Two tokens named in one sound dictionary carry one slot exactly when they have one text. -/
theorem Token.Named.index32_eq_iff {reg : Nat → Prop} {d : Dict} {bs : ByteArray} {t₁ t₂ : Token}
    (hd : d.Sound reg) (h₁ : t₁.Named reg d bs) (h₂ : t₂.Named reg d bs) :
    t₁.index32 = t₂.index32 ↔ t₁.nameText bs = t₂.nameText bs := by
  constructor
  · -- a slot holds one text
    intro h
    have hs₂ := h₂.slot
    rw [← h] at hs₂
    exact Option.some.inj (h₁.slot.symm.trans hs₂)
  · -- a text has one slot
    intro h
    exact hd.slot_inj h₁.slot (h ▸ h₂.slot)

theorem Token.Named.grows {reg : Nat → Prop} {d d' : Dict} {bs : ByteArray} {t : Token}
    (h : t.Named reg d bs) (hg : d.Grows d') : t.Named reg d' bs :=
  ⟨hg _ _ h.slot, h.word⟩

/-! ### What a scan keeps -/

/-- What a step did to the dictionary `d` it started from, leaving `s`: the dictionary stays
sound and only grows. -/
structure Lexer.DictKept (reg : Nat → Prop) (d : Dict) (s : Lexer) : Prop where
  sound : s.env.dict.Sound reg
  grows : d.Grows s.env.dict

/-- What a scan of the text `bs` did to the dictionary `d` it started from, giving `t` and
leaving `s`: the dictionary stays sound and only grows, and a token of an identifier kind
names its text in it. -/
structure Lexer.NamesKept (reg : Nat → Prop) (d : Dict) (bs : ByteArray) (t : Token) (s : Lexer) :
    Prop extends s.DictKept reg d where
  named : t.kind.isIdentLike = true → t.Named reg s.env.dict bs

namespace Lexer

variable {reg : Nat → Prop} {d : Dict} {bs : ByteArray} {s : Lexer} {t : Token}

/-- A step that leaves the dictionary alone keeps it. -/
theorem DictKept.of_eq (hd : d.Sound reg) (h : s.env.dict = d) : s.DictKept reg d :=
  ⟨h ▸ hd, h ▸ Dict.Grows.refl _⟩

/-- A step that leaves the dictionary alone and gives no identifier keeps all. -/
theorem NamesKept.of_unnamed (hd : d.Sound reg) (h : s.env.dict = d) (hk : t.kind.isIdentLike = false) :
    s.NamesKept reg d bs t :=
  ⟨.of_eq hd h, fun h' => by rw [hk] at h'; cases h'⟩

end Lexer

namespace LexM

variable {reg : Nat → Prop} {d : Dict} {bs : ByteArray}

theorem scanIdent_names (hd : d.Sound reg) (start : Nat) :
    ⦃fun s => ⌜s.text = bs ∧ s.env.dict = d⌝⦄ scanIdent start
    ⦃post⟨fun t s => ⌜s.NamesKept reg d bs t⌝, fun _ s => ⌜s.DictKept reg d⌝⟩⦄ := by
  mvcgen -trivial [scanIdent, content, pos, seek, internName, intern, resolve, outOfMemory, rangeOf]
  all_goals obtain ⟨rfl, rfl⟩ := ‹_ = _ ∧ _›
  case vc2.isFalse.h_1 =>
    rename_i s₀ first stop t hfit slot d₁ hl tag _
    have ht : t = ((), { s₀ with off := stop }) := rfl
    have hfirst : first = (decodeAt s₀.text start).1 := rfl
    have hstop : stop = identEnd s₀.text start := rfl
    clear_value t first stop
    subst ht hfirst hstop
    dsimp only at hl ⊢
    obtain ⟨hd₁, hg₁, hs₁⟩ := Dict.lookup_sound hd hl
    obtain ⟨hd₂, hg₂⟩ := Dict.resolve_sound hd₁ slot
    obtain ⟨e, he, -, hkw, hty⟩ := Dict.resolve_entry hd₁ hs₁
    have htag : tag = some e.tag := by
      show Option.map _ (d₁.resolve slot).1 = _
      rw [he]
      rfl
    clear_value tag
    subst htag
    refine ⟨⟨by simpa using hd₂, by simpa using hg₁.trans hg₂⟩, fun _ => ?_⟩
    simp only [Lexer.noteEmit_dict]
    have hle := Chars.le_identEnd s₀.text start
    have hs₂ := hg₂ _ _ hs₁
    -- the entry's tag decides the kind; an untagged word goes by its first letter
    rcases htg : e.tag with _ | k | r
    · -- an untagged word: its first letter decides between a type name and a name
      obtain ⟨hk, hr⟩ := Dict.plain_of_untagged hkw hty htg
      by_cases hu : Letter.isUpper (decodeAt s₀.text start).1 = true <;> simp only [hu] <;>
        exact Token.named_word hd₂ hfit hle rfl hs₂ (Token.classified_plain
          (by rwa [Token.nameText_plain rfl hle]) (by rwa [Token.nameText_plain rfl hle]) rfl
          (by simp [hu]))
    · have hk := (hkw k).1 htg
      refine Token.named_word hd₂ hfit hle rfl hs₂ (Token.classified_keyword rfl ?_)
      rw [Token.nameText_plain rfl hle, hk]
      simp [Nat.mod_eq_of_lt (keywordName_of_lookup hk).2]
    · exact Token.named_word hd₂ hfit hle rfl hs₂ (Token.classified_builtin rfl rfl
        (by rw [Token.nameText_plain rfl hle]; exact hty.1 ⟨r, htg⟩))
  case vc1.isTrue =>
    exact ⟨.of_eq hd (by rw [Lexer.noteEmit_dict]), fun h => by rw [emitted_of_long ‹_›] at h; cases h⟩
  case vc3.isFalse.h_2 => exact .of_eq hd rfl

theorem scanSigilName_names (hd : d.Sound reg) (start : Nat) (kind : TokenKind) :
    ⦃fun s => ⌜s.text = bs ∧ s.env.dict = d ∧ s.off = start + 1 ∧ kind.isPlainWord = false⌝⦄
      scanSigilName start kind
    ⦃post⟨fun t s => ⌜s.NamesKept reg d bs t⌝, fun _ s => ⌜s.DictKept reg d⌝⟩⦄ := by
  mvcgen -trivial [scanSigilName, content, pos, seek, internName, intern, outOfMemory, rangeOf]
  all_goals obtain ⟨rfl, rfl, ho, hk⟩ := ‹_ = _ ∧ _›
  case vc1.isTrue =>
    exact .of_unnamed hd (by rw [Lexer.noteEmit_dict]) (by rw [emitted_of_long ‹_›]; rfl)
  case vc2.isFalse.h_1 =>
    rename_i s₀ stop t hfit slot d₁ hl _
    have ht : t = ((), { s₀ with off := stop }) := rfl
    have hstop : stop = identEnd s₀.text s₀.off := rfl
    clear_value t stop
    subst ht hstop
    dsimp only at hl ⊢
    obtain ⟨hd₁, hg₁, hs₁⟩ := Dict.lookup_sound hd hl
    refine ⟨⟨by simpa using hd₁, by simpa using hg₁⟩, fun _ => ?_⟩
    rw [Lexer.noteEmit_dict]
    rw [ho] at hs₁ hfit ⊢
    exact Token.named_sigil hd₁ hfit (Chars.le_identEnd _ _) hk hs₁
  case vc3.isFalse.h_2 => exact .of_eq hd rfl

theorem scanBracketed_names (hd : d.Sound reg) (start : Nat) (kind : TokenKind) :
    ⦃fun s => ⌜s.text = bs ∧ s.env.dict = d ∧ s.off = start + 2 ∧ kind.isPlainWord = false⌝⦄
      scanBracketed start kind
    ⦃post⟨fun t s => ⌜s.NamesKept reg d bs t⌝, fun _ s => ⌜s.DictKept reg d⌝⟩⦄ := by
  mvcgen -trivial [scanBracketed, content, pos, seek, internName, intern, outOfMemory, rangeOf, reportSpan]
  all_goals obtain ⟨rfl, rfl, ho, hk⟩ := ‹_ = _ ∧ _›
  case vc2.isTrue.isFalse.isTrue =>
    exact .of_unnamed hd (by rw [Lexer.noteEmit_dict]) (by rw [emitted_of_long ‹_›]; rfl)
  case vc3.isTrue.isFalse.isFalse.h_1 =>
    rename_i s₀ body _ t _ hfit slot d₁ hl _
    have ht : t = ((), { s₀ with off := body + 1 }) := rfl
    have hbody : body = runEnd s₀.text isBracketedNameByte s₀.off := rfl
    clear_value t body
    subst ht hbody
    dsimp only at hl ⊢
    obtain ⟨hd₁, hg₁, hs₁⟩ := Dict.lookup_sound hd hl
    refine ⟨⟨by simpa using hd₁, by simpa using hg₁⟩, fun hid => ?_⟩
    rw [Lexer.noteEmit_dict]
    nth_rewrite 1 [ho] at hs₁
    have hle := Chars.le_runEnd s₀.text isBracketedNameByte s₀.off
    refine Token.named_bracketed hd₁ hfit (by omega) hk hs₁ ?_
    rwa [emitted_of_fit hfit] at hid
  case vc4.isTrue.isFalse.isFalse.h_2 => exact .of_eq hd rfl
  -- an empty or unclosed body gives the error token
  all_goals exact .of_unnamed hd rfl (identLike_emitted rfl _ _ _)

theorem loneSigil_names (hd : d.Sound reg) (start : Nat) :
    ⦃fun s => ⌜s.text = bs ∧ s.env.dict = d⌝⦄ loneSigil start
    ⦃⇓ t s => ⌜s.NamesKept reg d bs t⌝⦄ := by
  mvcgen -trivial [loneSigil, peek, advance, reportSpan, rangeOf]
  obtain ⟨rfl, rfl⟩ := ‹_ = _ ∧ _›
  exact .of_unnamed hd rfl (identLike_emitted rfl _ _ _)

theorem scanLiteral_names (hd : d.Sound reg) (start : Nat) (lit : OpenLiteral) (continuation : Bool) :
    ⦃fun s => ⌜s.text = bs ∧ s.env.dict = d ∧ lit.kind.isIdentLike = false⌝⦄
      scanLiteral start lit continuation
    ⦃post⟨fun t s => ⌜s.NamesKept reg d bs t⌝, fun _ s => ⌜s.DictKept reg d⌝⟩⦄ := by
  mvcgen -trivial [scanLiteral, content, pos, seek, advance, store, outOfMemory, rangeOf, reportSpan]
  case inv1 => exact ⇓ _ s => ⌜s.env.dict = d ∧ lit.kind.isIdentLike = false⌝
  all_goals obtain ⟨-, hdd, hk⟩ := ‹_ = bs ∧ _›
  case vc1.step => exact ⟨‹_ = d ∧ _›.1, hk⟩
  case vc2.pre => exact ⟨hdd, hk⟩
  case vc18.post.except => simp
  -- the notes of the body only report, and the store is another part of the environment
  -- a full store stops lexing with the dictionary as it was
  case vc5 | vc8 | vc11 | vc14 | vc17 => exact .of_eq hd (by simp_all +zetaDelta)
  -- the token, retagged or not, keeps the literal's kind or is an error token
  all_goals exact .of_unnamed hd (by simp_all +zetaDelta) (identLike_emitted hk _ _ _)

theorem openLiteral_names (hd : d.Sound reg) (start stop : Nat) (kind : TokenKind) (style : Style)
    (cjk : Bool) (closer : Nat) :
    ⦃fun s => ⌜s.text = bs ∧ s.env.dict = d ∧ kind.isIdentLike = false⌝⦄
      openLiteral start stop kind style cjk closer
    ⦃post⟨fun t s => ⌜s.NamesKept reg d bs t⌝, fun _ s => ⌜s.DictKept reg d⌝⟩⦄ := by
  have hlit := @scanLiteral_names _ _ bs hd
  mvcgen -trivial [openLiteral, seek, rangeOf, hlit, -openLiteral_spec]
  -- the literal is scanned with the kind the call was given
  assumption

theorem scanAt_names (hd : d.Sound reg) (start : Nat) :
    ⦃fun s => ⌜s.text = bs ∧ s.env.dict = d⌝⦄ scanAt start
    ⦃post⟨fun t s => ⌜s.NamesKept reg d bs t⌝, fun _ s => ⌜s.DictKept reg d⌝⟩⦄ := by
  have hopen := @openLiteral_names _ _ bs hd
  have hsigil := @scanSigilName_names _ _ bs hd
  have hlone := @loneSigil_names _ _ bs hd
  mvcgen -trivial [scanAt, content, seek, hopen, hsigil, hlone, -scanAt_spec, -openLiteral_spec]
  -- the speaker literal and the character name asked of the scanners they go to
  case vc1.isTrue => exact ⟨‹_ ∧ _›.1, ‹_ ∧ _›.2, rfl⟩
  case vc2.isFalse.isTrue => exact ⟨‹_ ∧ _›.1, ‹_ ∧ _›.2, rfl, rfl⟩
  case vc3.isFalse.isFalse.pre => assumption

theorem scanVar_names (hd : d.Sound reg) (start : Nat) (kind : TokenKind) :
    ⦃fun s => ⌜s.text = bs ∧ s.env.dict = d ∧ kind.isPlainWord = false⌝⦄ scanVar start kind
    ⦃post⟨fun t s => ⌜s.NamesKept reg d bs t⌝, fun _ s => ⌜s.DictKept reg d⌝⟩⦄ := by
  have hbr := @scanBracketed_names _ _ bs hd
  have hsigil := @scanSigilName_names _ _ bs hd
  have hlone := @loneSigil_names _ _ bs hd
  mvcgen -trivial [scanVar, content, seek, hbr, hsigil, hlone, -scanVar_spec]
  all_goals obtain ⟨htext, hdict, hk⟩ := ‹_ = bs ∧ _›
  case vc1.isTrue => exact ⟨htext, hdict, rfl, hk⟩
  case vc2.isFalse.isTrue => exact ⟨htext, hdict, rfl, hk⟩
  case vc3.isFalse.isFalse.pre => exact ⟨htext, hdict⟩

theorem bracketKind?_not_identLike {b : UInt8} {k : TokenKind} (h : bracketKind? b = some k) :
    k.isIdentLike = false := by
  unfold bracketKind? at h
  split_ifs at h <;> cases h <;> rfl

theorem scanPunct_names (hd : d.Sound reg) (start : Nat) :
    ⦃fun s => ⌜s.text = bs ∧ s.env.dict = d⌝⦄ scanPunct start ⦃⇓ t s => ⌜s.NamesKept reg d bs t⌝⦄ := by
  mvcgen -trivial [scanPunct, content, advance, reportSpan, rangeOf, -scanPunct_spec]
  case vc1 =>
    exact .of_unnamed hd (by simp_all +zetaDelta) (identLike_emitted (bracketKind?_not_identLike ‹_›) _ _ _)
  all_goals exact .of_unnamed hd (by simp_all +zetaDelta) (identLike_emitted (by decide) _ _ _)

theorem finishInt_names (hd : d.Sound reg) (start val : Nat) (overflow : Bool) (suffix : ByteArray) :
    ⦃fun s => ⌜s.text = bs ∧ s.env.dict = d⌝⦄ finishInt start val overflow suffix
    ⦃⇓ t s => ⌜s.NamesKept reg d bs t⌝⦄ := by
  mvcgen -trivial [finishInt, suffixInfo, pos, reportSpan, rangeOf, -finishInt_spec]
  all_goals exact .of_unnamed hd (by simp_all +zetaDelta) (identLike_emitted (by decide) _ _ _)

theorem finishFloat_names (hd : d.Sound reg) (start : Nat) (bits : UInt64) (suffix : ByteArray) :
    ⦃fun s => ⌜s.text = bs ∧ s.env.dict = d⌝⦄ finishFloat start bits suffix
    ⦃⇓ t s => ⌜s.NamesKept reg d bs t⌝⦄ := by
  mvcgen -trivial [finishFloat, suffixInfo, pos, reportSpan, rangeOf, -finishFloat_spec]
  all_goals exact .of_unnamed hd (by simp_all +zetaDelta) (identLike_emitted (by decide) _ _ _)

theorem scanNumber_names (hd : d.Sound reg) (start : Nat) :
    ⦃fun s => ⌜s.text = bs ∧ s.env.dict = d⌝⦄ scanNumber start ⦃⇓ t s => ⌜s.NamesKept reg d bs t⌝⦄ := by
  have hint := @finishInt_names _ _ bs hd
  have hfloat := @finishFloat_names _ _ bs hd
  mvcgen -trivial [scanNumber, content, seek, reportSpan, rangeOf, hint, hfloat, -scanNumber_spec,
    -finishInt_spec, -finishFloat_spec]
  -- an unknown radix or a malformed number gives the error token
  case vc1 | vc2 => exact .of_unnamed hd (by simp_all +zetaDelta) (identLike_emitted rfl _ _ _)
  -- the numeral is finished from a tokenizer with the same text and dictionary
  all_goals exact ‹_ = bs ∧ _›

theorem scanUnicode_names (hd : d.Sound reg) (start : Nat) :
    ⦃fun s => ⌜s.text = bs ∧ s.env.dict = d⌝⦄ scanUnicode start
    ⦃post⟨fun t s => ⌜s.NamesKept reg d bs t⌝, fun _ s => ⌜s.DictKept reg d⌝⟩⦄ := by
  have hopen := @openLiteral_names _ _ bs hd
  have hident := @scanIdent_names _ _ bs hd
  mvcgen -trivial [scanUnicode, content, advance, reportSpan, rangeOf, hopen, hident,
    -scanUnicode_spec, -openLiteral_spec]
  all_goals obtain ⟨htext, hdict⟩ := ‹_ = bs ∧ _›
  -- the full-width openers open a message or a speaker literal
  case vc2.isFalse.h_1 | vc3.isFalse.h_2.isTrue => exact ⟨htext, hdict, rfl⟩
  case vc4.isFalse.h_2.isFalse.isTrue => exact ⟨htext, hdict⟩
  all_goals exact .of_unnamed hd (by simp_all +zetaDelta) (identLike_emitted rfl _ _ _)

/-- A scan keeps the dictionary sound, and an identifier it gives names its text. -/
theorem scan_names (hd : d.Sound reg) :
    ⦃fun s => ⌜s.text = bs ∧ s.env.dict = d⌝⦄ scan
    ⦃post⟨fun t s => ⌜s.NamesKept reg d bs t⌝, fun _ s => ⌜s.DictKept reg d⌝⟩⦄ := by
  have hident := @scanIdent_names _ _ bs hd
  have hnum := @scanNumber_names _ _ bs hd
  have hopen := @openLiteral_names _ _ bs hd
  have hat := @scanAt_names _ _ bs hd
  have hvar := @scanVar_names _ _ bs hd
  have hsigil := @scanSigilName_names _ _ bs hd
  have huni := @scanUnicode_names _ _ bs hd
  have hpunct := @scanPunct_names _ _ bs hd
  mvcgen -trivial [scan, seek, hident, hnum, hopen, hat, hvar, hsigil, huni, hpunct, -scan_spec,
    -scanNumber_spec, -openLiteral_spec, -scanAt_spec, -scanVar_spec, -scanUnicode_spec,
    -scanPunct_spec]
  all_goals obtain ⟨htext, hdict⟩ := ‹_ = bs ∧ _›
  -- the kinds asked of the literal and sigil scanners; a label's name follows the `*`
  case vc3 | vc5 | vc6 | vc8 => exact ⟨htext, hdict, rfl⟩
  case vc7 => exact ⟨htext, hdict, rfl, rfl⟩
  all_goals exact ⟨htext, hdict⟩

/-- The grammar update after a token leaves the dictionary alone, and only a brace may get
new flags. -/
theorem after_dict (tok : Token) :
    ⦃fun s => ⌜s.env.dict = d⌝⦄ after tok
    ⦃⇓ t s => ⌜s.env.dict = d ∧ (t.kind.isIdentLike = true → t = tok)⌝⦄ := by
  mvcgen -trivial [after, close, setFlags]
  all_goals simp_all +zetaDelta [TokenKind.isIdentLike]

theorem eof_dict : ⦃fun s => ⌜s.env.dict = d⌝⦄ eof ⦃⇓ t s => ⌜s.env.dict = d ∧ t.kind = .eof⌝⦄ := by
  mvcgen -trivial [eof, setFlags, rangeOf]
  case inv1 | inv2 => exact ⇓ _ s => ⌜s.env.dict = d⌝
  all_goals simp_all +zetaDelta

end LexM

/-! ### What a call keeps -/

/-- What a call from `s` did, giving `r` and leaving `s'`: the dictionary stays sound and only
grows, and an identifier given names its text in it. -/
structure Lexer.NamesStep (reg : Nat → Prop) (s : Lexer) (r : Except LexError Token) (s' : Lexer) :
    Prop extends s'.DictKept reg s.env.dict where
  named : ∀ t, r = .ok t → t.kind.isIdentLike = true → t.Named reg s'.env.dict s.text

namespace Lexer

variable {reg : Nat → Prop} {s s' : Lexer} {r : Except LexError Token} {t : Token}

theorem NamesStep.of_ok (h : s'.NamesKept reg s.env.dict s.text t) : s.NamesStep reg (.ok t) s' :=
  ⟨h.toDictKept, fun _ ht hk => by cases ht; exact h.named hk⟩

theorem NamesStep.of_error {e : LexError} (h : s'.DictKept reg s.env.dict) :
    s.NamesStep reg (.error e) s' :=
  ⟨h, fun _ ht => by cases ht⟩

/-- A scan that keeps the dictionary of `s` and names by the text of `s`, run from a
tokenizer its precondition admits. -/
theorem NamesStep.of_triple {x : ScanM Token} {P : Lexer → Prop}
    (h : ⦃fun s₁ => ⌜P s₁⌝⦄ x ⦃post⟨fun t s' => ⌜s'.NamesKept reg s.env.dict s.text t⌝,
      fun _ s' => ⌜s'.DictKept reg s.env.dict⌝⟩⦄) {s₁ : Lexer} (hs : P s₁) :
    s.NamesStep reg (x.run.run s₁).1 (x.run.run s₁).2 := by
  have h' := ScanM.of_triple h hs
  rcases hx : x.run.run s₁ with ⟨_ | t, s'⟩ <;> rw [hx] at h'
  · exact .of_error h'
  · exact .of_ok h'

/-- Keeping the outcome and handing it out leave the dictionary alone. -/
theorem NamesStep.handOut_keep (h : s.NamesStep reg r s') :
    s.NamesStep reg r ((s'.keep r).handOut r) := by
  cases r <;> exact ⟨⟨h.sound, h.grows⟩, h.named⟩

end Lexer

/-- A token read again with another line-start bit names what it named. -/
theorem Token.Named.setLineStart {reg : Nat → Prop} {d : Dict} {bs : ByteArray} {t : Token}
    (h : t.Named reg d bs) (b : Bool) : ({ t with lineStart := b } : Token).Named reg d bs :=
  ⟨h.slot, fun hw =>
    have c := h.word hw
    ⟨c.keyword, c.spelling, c.builtin, c.upper, c.name⟩⟩

namespace LexM

variable {reg : Nat → Prop} {s : Lexer}

/-- One call of `next` from a ready tokenizer whose dictionary is sound. -/
theorem next_names (hr : s.Ready) (hd : s.env.dict.Sound reg) :
    s.NamesStep reg (next.run.run s).1 (next.run.run s).2 := by
  cases hl : s.lit with
  | some lit =>
    rw [next_run_of_lit hl]
    cases hb : s.flags.wasBlank
    · -- the blank token over the gap of a split message
      rw [continueMessage_run_blank hb]
      exact .of_ok (.of_unnamed hd (by split <;> rfl) rfl)
    · -- the next piece of the message
      rw [continueMessage_run_piece hb]
      have hk : lit.kind.isIdentLike = false := by rw [(hr.lit lit hl).1]; rfl
      exact .of_triple (scanLiteral_names hd s.off lit true) ⟨rfl, rfl, hk⟩
  | none =>
    cases hdir : s.trivia.directive with
    | some hit =>
      rw [next_run_of_hit hl hdir, hitToken_run, applyTrivia_pastTrivia]
      exact .of_ok (.of_unnamed hd (by rw [Lexer.noteEmit_dict]; rfl) (identLike_emitted rfl _ _ _))
    | none =>
      rw [next_run_of_no_hit hl hdir, applyTrivia_pastTrivia]
      by_cases hlt : s.trivia.stop < s.text.size
      · rw [significant_run_of_lt (by simpa using hlt),
          show s.pastTrivia.scanFrom = s.scanState from rfl]
        have hs := ScanM.of_triple (@scan_names _ _ s.text hd) (s := s.scanState) ⟨rfl, rfl⟩
        rcases hx : scan.run.run s.scanState with ⟨_ | tok₀, s₂⟩ <;> rw [hx] at hs
        · rw [run_bind_error hx]
          exact .of_error hs
        · rw [run_bind_ok hx, run_liftM]
          -- the grammar update keeps an identifier as the scan gave it
          have ha := LexM.of_triple
            (after_dict (d := s₂.env.dict) { tok₀ with lineStart := s.pastTrivia.newline }) (s := s₂) rfl
          refine ⟨⟨ha.1 ▸ hs.sound, ha.1 ▸ hs.grows⟩, fun t ht hk => ?_⟩
          cases ht
          rw [ha.2 hk, ha.1]
          exact (hs.named (by rwa [ha.2 hk] at hk)).setLineStart _
      · rw [significant_run_of_ge (by simpa using Nat.le_of_not_lt hlt)]
        have he := LexM.of_triple (eof_dict (d := s.env.dict)) (s := s.pastTrivia) rfl
        exact .of_ok (.of_unnamed hd he.1 (by rw [he.2]; rfl))

end LexM

/-! ### Identifiers along a run -/

namespace Lexer

variable {reg : Nat → Prop} {bs : ByteArray} {rs : List (Except LexError Token)} {s : Lexer}

/-- Along a run over the text `bs` whose calls gave `rs`: the tokenizer is ready with nothing
kept, its dictionary is sound, and every identifier given names its text in it. -/
structure NamesTracked (reg : Nat → Prop) (bs : ByteArray) (rs : List (Except LexError Token))
    (s : Lexer) : Prop where
  ready : s.Ready
  look : s.look = none
  text : s.text = bs
  sound : s.env.dict.Sound reg
  named : ∀ t, .ok t ∈ rs → t.kind.isIdentLike = true → t.Named reg s.env.dict bs

theorem namesTracked_create (u : SourceUnit) (mode : DirectiveMode) (env : LexEnv)
    (hd : env.dict.Sound reg) : (create u mode env).NamesTracked reg u.content [] :=
  ⟨ready_create u mode env, rfl, rfl, hd, fun _ h => absurd h List.not_mem_nil⟩

/-- One call of `lex` keeps the identifiers named: those given before in the grown dictionary,
and the new one in it too. -/
theorem NamesTracked.lex (h : s.NamesTracked reg bs rs) :
    (Lexer.lex.run s).2.NamesTracked reg bs (rs ++ [(Lexer.lex.run s).1]) := by
  cases herr : s.err with
  | some e =>
    -- a stopped tokenizer gives its error again and changes nothing
    rw [lex_run_of_err herr]
    refine ⟨h.ready, h.look, h.text, h.sound, fun t ht hk => ?_⟩
    rcases List.mem_append.1 ht with ht | ht
    · exact h.named t ht hk
    · simp at ht
  | none =>
    rw [lex_run_of_fresh herr h.look]
    have hst := (LexM.next_names h.ready h.sound).handOut_keep
    have htext := LexM.next_text h.ready
    obtain ⟨hr, hl⟩ := LexM.next_ready h.ready
    rw [h.look] at hl
    rcases hx : LexM.next.run.run s with ⟨e | t, s'⟩ <;> rw [hx] at hst hr hl htext <;>
      dsimp only at hst hr hl htext ⊢
    · -- the error stops the tokenizer; no token is new
      refine ⟨hr.keep _ |>.handOut _, hl, htext.trans h.text, hst.sound, fun t' ht hk => ?_⟩
      rcases List.mem_append.1 ht with ht | ht
      · exact (h.named t' ht hk).grows hst.grows
      · simp at ht
    · refine ⟨hr.keep _ |>.handOut _, rfl, htext.trans h.text, hst.sound, fun t' ht hk => ?_⟩
      rcases List.mem_append.1 ht with ht | ht
      · exact (h.named t' ht hk).grows hst.grows
      · rw [List.mem_singleton, Except.ok.injEq] at ht
        subst ht
        rw [← h.text]
        exact hst.named t' rfl hk

/-- Along every run from a tokenizer whose dictionary is sound, every identifier given names
its text in the dictionary the run leaves. -/
theorem namesTracked_run (u : SourceUnit) (mode : DirectiveMode) (env : LexEnv)
    (hd : env.dict.Sound reg) (n : Nat) :
    ((create u mode env).lexRun n).2.NamesTracked reg u.content ((create u mode env).lexRun n).1 := by
  induction n with
  | zero => exact namesTracked_create u mode env hd
  | succ n ih =>
    rw [lexRun_succ]
    exact ih.lex

end Lexer

/-- Along every run of a tokenizer over a unit, in any directive mode, from a shared
dictionary that is sound (fresh, with the built-in types registered or not, or grown by earlier
runs), every keyword, name, type name, label, character and variable token carries the slot
that holds its identifier text, the spelling less its sigil and brackets, in the dictionary
the run leaves; two of them carry one slot exactly when they have one text; and a bare word is
classified by its text alone, whatever order texts were first seen in. -/
theorem identifiers_name_their_text (u : SourceUnit) (mode : DirectiveMode) (env : LexEnv)
    {reg : Nat → Prop} (hd : env.dict.Sound reg) (n : Nat) :
    (∀ t, .ok t ∈ ((Lexer.create u mode env).lexRun n).1 → t.kind.isIdentLike = true →
      t.Named reg ((Lexer.create u mode env).lexRun n).2.env.dict u.content) ∧
    (∀ t₁ t₂, .ok t₁ ∈ ((Lexer.create u mode env).lexRun n).1 →
      .ok t₂ ∈ ((Lexer.create u mode env).lexRun n).1 →
      t₁.kind.isIdentLike = true → t₂.kind.isIdentLike = true →
      (t₁.index32 = t₂.index32 ↔ t₁.nameText u.content = t₂.nameText u.content)) := by
  have h := Lexer.namesTracked_run u mode env hd n
  exact ⟨h.named, fun t₁ t₂ h₁ h₂ hk₁ hk₂ =>
    Token.Named.index32_eq_iff h.sound (h.named t₁ h₁ hk₁) (h.named t₂ h₂ hk₂)⟩

/-- A name and the same name after a sigil, lexed from the empty dictionary. -/
theorem name_and_variable_name_their_text :
    let u : SourceUnit := ⟨0, "", ⟨#[0x78, 0x20, 0x24, 0x78]⟩, #[], {}⟩
    let run := (Lexer.create u .ignore {}).lexRun 2
    ({} : LexEnv).dict.Sound (fun _ => False) ∧
      (∀ t, .ok t ∈ run.1 → t.kind.isIdentLike = true →
        t.Named (fun _ => False) run.2.env.dict u.content) ∧
      (∀ t₁ t₂, .ok t₁ ∈ run.1 → .ok t₂ ∈ run.1 →
        t₁.kind.isIdentLike = true → t₂.kind.isIdentLike = true →
        (t₁.index32 = t₂.index32 ↔ t₁.nameText u.content = t₂.nameText u.content)) :=
  ⟨Dict.Sound.empty, identifiers_name_their_text _ .ignore {} Dict.Sound.empty 2⟩

end NovelScript

import Mathlib
import NovelScript.Proofs.Lexer.Run
/-!
# Tokens and trivia cover the text

The bytes of a unit that no token covers are trivia and nothing else: blanks, newlines and the
ideographic space, `//` comments up to their newline, nested `/* */` comments (to the end of
the text when one never closes), and `//::` comments up to their first `://` or the end of
their line, where the mode makes no token of them. The only other bytes outside every token
are those of an over-long error or blank token past the length ceiling.

The grammar of trivia is stated on its own terms: `LineEnd`, `DirectiveEnd` and `BlockRest`
give the extents of comments, `TriviaItem` one piece of trivia. `Trivia.skip` reads exactly a
run of it (`Trivia.skip_run`), and one call of the stream reads such a run and then its token
(`Lexer.Stepped.reads`).
-/

namespace NovelScript

open Utf8 Chars

/-! ### Bytes -/

theorem Utf8.byteAt_of_lt {bs : ByteArray} {i : Nat} (h : i < bs.size) : byteAt bs i = bs[i] := by
  simp [byteAt, h]

theorem Utf8.byteAt_extract {bs : ByteArray} {a e x : Nat} (he : e ≤ bs.size) (hx : x < e - a) :
    byteAt (bs.extract a e) x = byteAt bs (a + x) := by
  have hx' : x < (bs.extract a e).size := by simp only [ByteArray.size_extract]; omega
  rw [byteAt_of_lt hx', ByteArray.getElem_extract, byteAt_of_lt (by omega)]

/-- A pattern occurs in a slice where it occurs in the text, wholly inside the slice. -/
theorem Bytes.occursAt_extract_iff {bs p : ByteArray} {a e x : Nat} (ha : a ≤ e) (he : e ≤ bs.size) :
    Bytes.occursAt (bs.extract a e) p x = true ↔
      a + x + p.size ≤ e ∧ Bytes.occursAt bs p (a + x) = true := by
  simp only [Bytes.occursAt, Bool.and_eq_true, decide_eq_true_eq, List.all_eq_true,
    List.mem_range, beq_iff_eq, ByteArray.size_extract]
  constructor
  · rintro ⟨hfit, hall⟩
    refine ⟨by omega, by omega, fun k hk => ?_⟩
    rw [Nat.add_assoc, ← byteAt_extract he (by omega)]
    exact hall k hk
  · rintro ⟨hfit, -, hall⟩
    refine ⟨by omega, fun k hk => ?_⟩
    rw [byteAt_extract he (by omega), ← Nat.add_assoc]
    exact hall k hk

/-- A match found from `i` on is the first one there. -/
theorem Bytes.indexFrom_first {b p : ByteArray} {i k : Nat} (h : Bytes.indexFrom b p i = some k) :
    i ≤ k ∧ Bytes.occursAt b p k = true ∧ ∀ x, i ≤ x → x < k → Bytes.occursAt b p x = false := by
  fun_induction Bytes.indexFrom b p i with
  | case1 i _ hocc =>
    simp only [Option.some.injEq] at h
    subst h
    exact ⟨le_rfl, hocc, fun x h1 h2 => absurd h2 (by omega)⟩
  | case2 i _ hocc ih =>
    obtain ⟨hle, hk, hbefore⟩ := ih h
    refine ⟨by omega, hk, fun x h1 h2 => ?_⟩
    rcases Nat.eq_or_lt_of_le h1 with rfl | h1
    · simpa using hocc
    · exact hbefore x h1 h2
  | case3 => simp at h

/-- No match from `i` on means none at all there. -/
theorem Bytes.indexFrom_none {b p : ByteArray} {i : Nat} (h : Bytes.indexFrom b p i = none) :
    ∀ x, i ≤ x → Bytes.occursAt b p x = false := by
  fun_induction Bytes.indexFrom b p i with
  | case1 => simp at h
  | case2 i _ hocc ih =>
    intro x hx
    rcases Nat.eq_or_lt_of_le hx with rfl | hx
    · simpa using hocc
    · exact ih h x hx
  | case3 i hfit =>
    intro x hx
    cases hocc : Bytes.occursAt b p x
    · rfl
    · have := occursAt_le hocc
      omega

/-! ### The grammar of trivia -/

/-- `e` ends the line that `k` is on: no newline from `k` up to `e`, and `e` is a newline or
the end of the text. -/
structure LineEnd (bs : ByteArray) (k e : Nat) : Prop where
  le : k ≤ e
  le_size : e ≤ bs.size
  no_newline : ∀ x, k ≤ x → x < e → byteAt bs x ≠ 0x0A
  at_newline : e < bs.size → byteAt bs e = 0x0A

/-- `j` ends the directive comment at `i`: just after the first `://` that lies whole on its
line past the opening `//::`, or at the end of that line when there is none. -/
def DirectiveEnd (bs : ByteArray) (i j : Nat) : Prop :=
  ∃ e, LineEnd bs (i + 4) e ∧
    ((∃ k, i + 4 ≤ k ∧ k + 3 ≤ e ∧ Bytes.occursAt bs Directive.terminator k = true ∧
        (∀ x, i + 4 ≤ x → x < k → Bytes.occursAt bs Directive.terminator x = false) ∧
        j = k + 3) ∨
      ((∀ x, i + 4 ≤ x → x + 3 ≤ e → Bytes.occursAt bs Directive.terminator x = false) ∧
        j = e))

/-- The two bytes `a b` stand at `k`. -/
def pairAt (bs : ByteArray) (k : Nat) (a b : UInt8) : Prop :=
  byteAt bs k = a ∧ byteAt bs (k + 1) = b

/-- The rest of a block comment from `k`, with `n` comments nested inside it still open, ends
at `j`: `/*` opens one more, `*/` closes the innermost (the comment itself when none is open
inside it), any other byte belongs to the comment, and the end of the text leaves it
unterminated. -/
inductive BlockRest (bs : ByteArray) : Nat → Nat → Nat → Prop
  | unterminated {k n : Nat} (h : bs.size ≤ k) : BlockRest bs k n k
  | close {k : Nat} (h : pairAt bs k 0x2A 0x2F) : BlockRest bs k 0 (k + 2)
  | closeInner {k n j : Nat} (h : pairAt bs k 0x2A 0x2F) (rest : BlockRest bs (k + 2) n j) :
      BlockRest bs k (n + 1) j
  | openInner {k n j : Nat} (h : pairAt bs k 0x2F 0x2A) (rest : BlockRest bs (k + 2) (n + 1) j) :
      BlockRest bs k n j
  | byte {k n j : Nat} (hk : k < bs.size) (ho : ¬pairAt bs k 0x2F 0x2A)
      (hc : ¬pairAt bs k 0x2A 0x2F) (rest : BlockRest bs (k + 1) n j) : BlockRest bs k n j

/-- Whether a `//::` comment with text `c` is trivia in the mode: always when directives are
ignored or only remembered, never when each becomes a token, and in tests mode when its body
is no well-formed expectation. -/
def DirectiveMode.SkipsComment (c : ByteArray) : DirectiveMode → Prop
  | .ignore | .keepLast => True
  | .emit => False
  | .tests => ∀ e, Directive.parse (Directive.body c) ≠ .ok e

/-- One piece of trivia, from `i` to `j`, in `mode`. -/
inductive TriviaItem (bs : ByteArray) (mode : DirectiveMode) : Nat → Nat → Prop
  /-- A space, tab or carriage return. -/
  | blank {i : Nat} (h : isBlank (byteAt bs i) = true) : TriviaItem bs mode i (i + 1)
  | newline {i : Nat} (h : byteAt bs i = 0x0A) : TriviaItem bs mode i (i + 1)
  /-- The ideographic space U+3000. -/
  | ideographicSpace {i : Nat} (h : spaceAt bs i = true) : TriviaItem bs mode i (i + 3)
  /-- A `//` comment that is no directive, up to its newline. -/
  | lineComment {i j : Nat} (h : pairAt bs i 0x2F 0x2F)
      (hd : Bytes.occursAt bs Directive.prefixText i = false) (he : LineEnd bs i j) :
      TriviaItem bs mode i j
  | blockComment {i j : Nat} (h : pairAt bs i 0x2F 0x2A) (hb : BlockRest bs (i + 2) 0 j) :
      TriviaItem bs mode i j
  /-- A `//::` comment that the mode makes no token of. -/
  | directive {i j : Nat} (h : Bytes.occursAt bs Directive.prefixText i = true)
      (he : DirectiveEnd bs i j) (hs : mode.SkipsComment (bs.extract i j)) :
      TriviaItem bs mode i j

/-- A line that starts with a byte other than a newline ends past it. -/
theorem LineEnd.lt {bs : ByteArray} {k e : Nat} (h : LineEnd bs k e) (hk : k < bs.size)
    (hb : byteAt bs k ≠ 0x0A) : k < e := by
  by_contra hle
  have he : e = k := by have := h.le; omega
  exact hb (he ▸ h.at_newline (he ▸ hk))

theorem DirectiveEnd.le {bs : ByteArray} {i j : Nat} (h : DirectiveEnd bs i j) : i + 4 ≤ j := by
  obtain ⟨e, he, ⟨k, hk, -, -, -, rfl⟩ | ⟨-, rfl⟩⟩ := h
  · omega
  · exact he.le

/-- A run of trivia from `i` to `j`. -/
def TriviaRun (bs : ByteArray) (mode : DirectiveMode) : Nat → Nat → Prop :=
  Relation.ReflTransGen (TriviaItem bs mode)

/-! ### The trivia scan reads the grammar -/

namespace Trivia

theorem lineEnd_spec (bs : ByteArray) (k : Nat) (h : k ≤ bs.size) :
    LineEnd bs k (lineEnd bs k) := by
  unfold lineEnd
  fun_induction runEnd bs (· != 0x0A) k with
  | case1 i hi hp ih =>
    obtain ⟨hle, hsize, hnone, hstop⟩ := ih (by omega)
    refine ⟨by omega, hsize, fun x h1 h2 => ?_, hstop⟩
    rcases Nat.eq_or_lt_of_le h1 with rfl | h1
    · rw [byteAt_of_lt hi]
      simpa using hp
    · exact hnone x h1 h2
  | case2 i hi hp =>
    refine ⟨le_rfl, hi.le, fun x h1 h2 => absurd h2 (by omega), fun _ => ?_⟩
    rw [byteAt_of_lt hi]
    simpa using hp
  | case3 i hi => exact ⟨le_rfl, h, fun x h1 h2 => absurd h2 (by omega), fun h' => absurd h' hi⟩

theorem directiveEnd_spec (bs : ByteArray) (i : Nat) (h : i + 4 ≤ bs.size) :
    DirectiveEnd bs i (directiveEnd bs i) := by
  have hline := lineEnd_spec bs (i + 4) h
  have h3 : Directive.terminator.size = 3 := by decide
  -- a `://` of the slice is one of the line, and the other way round when it fits the line
  have hslice : ∀ x, i + 4 ≤ x → x + 3 ≤ lineEnd bs (i + 4) →
      Bytes.occursAt (bs.extract (i + 4) (lineEnd bs (i + 4))) Directive.terminator (x - (i + 4)) =
        Bytes.occursAt bs Directive.terminator x := by
    intro x h1 h2
    rw [Bool.eq_iff_iff, Bytes.occursAt_extract_iff hline.le hline.le_size, h3,
      show i + 4 + (x - (i + 4)) = x by omega]
    exact ⟨And.right, fun hx => ⟨by omega, hx⟩⟩
  refine ⟨_, hline, ?_⟩
  unfold directiveEnd Bytes.indexOf
  dsimp only
  split
  · next k hk =>
    obtain ⟨-, hocc, hfirst⟩ := Bytes.indexFrom_first hk
    rw [Bytes.occursAt_extract_iff hline.le hline.le_size, h3] at hocc
    refine .inl ⟨i + 4 + k, by omega, by omega, hocc.2, fun x h1 h2 => ?_, by omega⟩
    -- an earlier `://` on the line would have been found first
    rw [← hslice x h1 (by omega)]
    exact hfirst _ (Nat.zero_le _) (by omega)
  · next hk =>
    refine .inr ⟨fun x h1 h2 => ?_, rfl⟩
    rw [← hslice x h1 h2]
    exact Bytes.indexFrom_none hk _ (Nat.zero_le _)

theorem blockEnd_spec (bs : ByteArray) (k depth : Nat) (nl : Bool) (hd : 1 ≤ depth) :
    BlockRest bs k (depth - 1) (blockEnd bs k depth nl).1 := by
  fun_induction blockEnd bs k depth nl with
  | case1 i depth nl hi b b1 hc ih =>
    have hp : pairAt bs i 0x2F 0x2A := by simpa +zetaDelta [pairAt] using hc
    exact .openInner hp (by simpa [Nat.sub_add_cancel hd] using ih (by omega))
  | case2 i depth nl hi b b1 _ hc hle =>
    have hp : pairAt bs i 0x2A 0x2F := by simpa +zetaDelta [pairAt] using hc
    rw [show depth - 1 = 0 by omega]
    exact .close hp
  | case3 i depth nl hi b b1 _ hc hlt ih =>
    have hp : pairAt bs i 0x2A 0x2F := by simpa +zetaDelta [pairAt] using hc
    have hrest := BlockRest.closeInner hp (ih (by omega))
    rwa [Nat.sub_add_cancel (by omega : 1 ≤ depth - 1)] at hrest
  | case4 i depth nl hi b b1 ho hc ih =>
    refine .byte hi (fun hp => ho ?_) (fun hp => hc ?_) (ih hd)
    · simp +zetaDelta [hp.1, hp.2]
    · simp +zetaDelta [hp.1, hp.2]
  | case5 i depth nl hi => exact .unterminated (by omega)

/-- A directive comment runs past its opening and ends inside the text. -/
theorem directive_extent {bs : ByteArray} {i : Nat}
    (hocc : Bytes.occursAt bs Directive.prefixText i = true) :
    max (directiveEnd bs i) (i + 1) = directiveEnd bs i ∧ DirectiveEnd bs i (directiveEnd bs i) ∧
      directiveEnd bs i ≤ bs.size := by
  have hend := directiveEnd_spec bs i (prefix_room hocc)
  exact ⟨max_eq_left (by have := hend.le; omega), hend, directiveEnd_le bs i (prefix_room hocc)⟩

/-- A directive comment that is no test in tests mode does not parse as an expectation. -/
theorem parse_ne_of_classify {c : ByteArray} (h : (classify c).1 = false) :
    ∀ e, Directive.parse (Directive.body c) ≠ .ok e := by
  intro e he
  unfold classify at h
  dsimp only at h
  by_cases hx : Directive.isExpect (Directive.body c) = true
  · rw [if_pos hx, he] at h
    simp at h
  · simp [Directive.parse, hx] at he

/-- The trivia scan reads a run of trivia: it stops at the first byte that starts none, or at
a directive comment that becomes a token. -/
theorem skip_run (bs : ByteArray) (mode : DirectiveMode) (i : Nat) (nl : Bool)
    (notes : Array TriviaNote) (h : i ≤ bs.size) :
    TriviaRun bs mode i (skip bs mode i nl notes).stop := by
  fun_induction skip bs mode i nl notes with
  | case1 i _ _ hi b hb ih => exact .head (.blank hb) (ih (by omega))
  | case2 i _ _ hi b _ hb ih =>
    exact .head (.newline (by simpa +zetaDelta using hb)) (ih (by omega))
  | case3 i _ _ _ b _ _ hsp ih => exact .head (.ideographicSpace hsp) (ih (spaceAt_le hsp))
  | case4 i _ _ _ _ _ _ _ _ _ hocc stop hm ih | case5 i _ _ _ _ _ _ _ _ _ hocc stop hm ih =>
    subst hm
    obtain ⟨hstop, hend, hle⟩ := directive_extent hocc
    rw [show stop = directiveEnd bs i from hstop] at ih ⊢
    exact .head (.directive hocc hend trivial) (ih hle)
  | case6 i _ _ _ _ _ _ _ _ _ hocc stop test _ hcl _ htest _ _ ih =>
    rw [if_pos htest]
    -- only a comment that is no test is skipped, and only in tests mode
    obtain ⟨hm, ht⟩ : mode = .tests ∧ test = false := by simpa using htest
    subst hm
    obtain ⟨hstop, hend, hle⟩ := directive_extent hocc
    rw [show stop = directiveEnd bs i from hstop] at ih hcl ⊢
    exact .head (.directive hocc hend (parse_ne_of_classify (by rw [hcl, ht]))) (ih hle)
  | case7 _ _ _ _ _ _ _ _ _ _ _ _ _ _ _ _ htest _ _ =>
    rw [if_neg htest]
    exact .refl
  | case8 i _ _ hi b b1 _ _ _ hc hocc ih =>
    have hp : pairAt bs i 0x2F 0x2F := by simpa +zetaDelta [pairAt] using hc
    have hend := lineEnd_spec bs i (by omega)
    -- the comment holds its own `/`, so its line ends past it
    have hstep : i + 1 ≤ lineEnd bs i := hend.lt hi (by rw [hp.1]; decide)
    rw [max_eq_left hstep] at ih ⊢
    exact .head (.lineComment hp (by simpa using hocc) hend) (ih hend.le_size)
  | case9 i _ _ hi b b1 _ _ _ _ hc stop _ _ hblk _ ih =>
    have hp : pairAt bs i 0x2F 0x2A := by simpa +zetaDelta [pairAt] using hc
    have hrest := blockEnd_spec bs (i + 2) 1 false le_rfl
    have hb := blockEnd_stop bs (i + 2) 1 false (byteAt_ne_zero (by rw [hp.2]; decide))
    rw [hblk] at hrest hb
    rw [max_eq_left (by omega : i + 1 ≤ stop)] at ih ⊢
    exact .head (.blockComment hp hrest) (ih hb.2)
  | case10 | case11 => exact .refl

end Trivia

/-! ### What the stream reads -/

/-- The token `t` is read from `i` on, and what follows starts at `q`: trivia up to the token,
then the token's bytes, then, only for an over-long error or blank token, its bytes past the
length ceiling. -/
structure ReadsToken (bs : ByteArray) (mode : DirectiveMode) (i : Nat) (t : Token) (q : Nat) :
    Prop where
  trivia : TriviaRun bs mode i t.off
  covers : t.off + t.len ≤ q
  clamped : t.off + t.len < q → t.len = maxTokenLen ∧ (t.kind = .error ∨ t.kind = .blank)

/-- The tokens `ts` are read one after the other from `i`, up to `j`. -/
inductive ReadsTokens (bs : ByteArray) (mode : DirectiveMode) : Nat → List Token → Nat → Prop
  | nil (i : Nat) : ReadsTokens bs mode i [] i
  | cons {i q j : Nat} {t : Token} {ts : List Token} (h : ReadsToken bs mode i t q)
      (rest : ReadsTokens bs mode q ts j) : ReadsTokens bs mode i (t :: ts) j

namespace Lexer

variable {s s' : Lexer} {t : Token} {ts : List Token}

/-- One call reads trivia up to its token and then the token, all of it but the part of an
over-long error or blank token past the ceiling. -/
theorem Stepped.reads (h : s.Stepped t s') (hr : s.Ready) : ReadsToken s.text s.mode s.off t s'.off := by
  have hmax : maxTokenLen = 4095 := rfl
  refine ⟨?_, ?_, ?_⟩
  · -- inside a split message the token starts at the cursor; otherwise past the trivia
    rw [h.start, tokenStart]
    split
    · exact .refl
    · exact Trivia.skip_run _ _ _ _ _ hr.inside
  · by_cases he : t.kind = .eof
    · obtain ⟨hoff, hlen, hend, -⟩ := h.eof he
      omega
    · obtain ⟨hsp, hlt⟩ := h.spans he
      rw [hsp.len]
      omega
  · intro hlt
    by_cases he : t.kind = .eof
    · obtain ⟨hoff, hlen, hend, -⟩ := h.eof he
      omega
    · obtain ⟨hsp, -⟩ := h.spans he
      have hover : maxTokenLen < s'.off - t.off := by rw [hsp.len] at hlt; omega
      exact ⟨by rw [hsp.len]; omega, hsp.clamped hover⟩

namespace Lexes

theorem reads (h : s.Lexes ts s') (hr : s.Ready) : ReadsTokens s.text s.mode s.off ts s'.off := by
  induction h with
  | nil s => exact .nil _
  | @cons s₀ s₁ s₂ t ts hs rest ih =>
    have hrest := ih (next_ready hs)
    have htext : s₁.text = s₀.text := Lexer.text_eq_of_fixed hs.fixed
    have hmode : s₁.mode = s₀.mode := congrArg Lexer.Fixed.mode hs.fixed
    exact .cons (hs.reads hr) (by simpa [Lexer.text, hs.unit_eq, hmode] using hrest)

/-- Once the end token has been handed out, the cursor is at the end of the text. -/
theorem off_of_eof (h : s.Lexes ts s') (hr : s.Ready) (he : ∃ t ∈ ts, t.kind = .eof) :
    s'.off = s.text.size := by
  induction h with
  | nil s => simp at he
  | @cons s₀ s₁ s₂ t ts hs rest ih =>
    have htext : s₁.text = s₀.text := Lexer.text_eq_of_fixed hs.fixed
    by_cases ht : t.kind = .eof
    · -- the end token puts the cursor at the end, and the cursor stays inside the text
      have hend : s₁.off = s₀.text.size := (hs.eof ht).2.2.1
      have hle : s₁.off ≤ s₂.off := rest.off_le (next_ready hs)
      have hunit : s₂.unit = s₁.unit := rest.unit_eq
      have hin : s₂.off ≤ s₁.text.size := by
        have := (rest.ready (next_ready hs)).inside
        rwa [Lexer.text, hunit] at this
      rw [htext] at hin
      omega
    · obtain ⟨t', ht', he'⟩ := he
      have hmem : t' ∈ ts := by
        rcases List.mem_cons.1 ht' with rfl | hm
        · exact absurd he' ht
        · exact hm
      rw [ih (next_ready hs) ⟨t', hmem, he'⟩]
      exact congrArg ByteArray.size htext

end Lexes

end Lexer

/-- Whatever the directive mode, the text read by any number of `lex` calls on a fresh
tokenizer falls apart into the tokens handed out, one after the other, and the trivia before
each of them; the only other bytes read are those of an over-long error or blank token past
the length ceiling. Once the end token has been handed out, that is the whole text. -/
theorem tokens_and_trivia_cover_text (u : SourceUnit) (mode : DirectiveMode) (env : LexEnv)
    (n : Nat) :
    let ts := ((Lexer.create u mode env).lexRun n).1.filterMap Except.toOption
    ∃ p, ReadsTokens u.content mode 0 ts p ∧ ((∃ t ∈ ts, t.kind = .eof) → p = u.content.size) := by
  intro ts
  have hr := Lexer.ready_create u mode env
  obtain ⟨ts', s₁, hts, hrun⟩ := Lexer.lexRun_spec n hr rfl rfl
  -- the run is the stream's tokens, then possibly the capacity error repeated
  have hts' : ts = ts' := by
    rcases hrun with h | ⟨e, s₂, m, -, h⟩ <;>
      simp [ts, h, List.filterMap_append, List.filterMap_map, Function.comp_def, Except.toOption]
  rw [hts']
  exact ⟨s₁.off, by simpa [Lexer.create, Lexer.text] using hts.reads hr,
    fun he => by simpa [Lexer.create, Lexer.text] using hts.off_of_eof hr he⟩

end NovelScript

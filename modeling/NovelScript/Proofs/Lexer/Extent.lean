import Mathlib
import NovelScript.Lexer.Stream
/-!
# How far each reader of the tokenizer goes

Every reader of the tokenizer walks the text from an offset and returns where it stopped:
identifier and run ends, literal bodies and their escapes, number literals, the gap of a
split message and the trivia between tokens. Each one started inside the text stops inside
it, none moves backwards, and the ones that start a token move on by at least one byte.
These facts keep the cursor of a tokenizer inside its unit and make every token non-empty.

Past the end of the text every read gives the byte 0, which starts nothing: that is why a
reader that matched a byte at `i` may step over it.
-/

namespace NovelScript

open Utf8 Chars

/-! ### Bytes and code points -/

theorem Utf8.byteAt_ne_zero {bs : ByteArray} {i : Nat} (h : byteAt bs i ≠ 0) : i < bs.size := by
  unfold byteAt at h; split at h <;> simp_all

theorem Utf8.seqLength_le (b : UInt8) : seqLength b ≤ 4 := by
  unfold seqLength; split_ifs <;> omega

/-- The lead bytes of one-, two-, three- and four-byte sequences. -/
theorem Utf8.seqLength_range (b : UInt8) :
    (seqLength b = 1 ↔ b.toNat < 128) ∧ (seqLength b = 2 → 194 ≤ b.toNat ∧ b.toNat < 224) ∧
      (seqLength b = 3 → 224 ≤ b.toNat ∧ b.toNat < 240) ∧
      (seqLength b = 4 → 240 ≤ b.toNat ∧ b.toNat < 245) := by
  unfold seqLength
  split_ifs <;> simp_all [UInt8.lt_iff_toNat_lt]

/-- Decoding inside the text reads between one and four bytes, all of them inside it. -/
theorem Utf8.decodeAt_width (bs : ByteArray) (i : Nat) (h : i < bs.size) :
    1 ≤ (decodeAt bs i).2 ∧ i + (decodeAt bs i).2 ≤ bs.size := by
  have := seqLength_le (byteAt bs i)
  unfold decodeAt
  simp only [ge_iff_le, Nat.not_le.2 h, if_false]
  repeat' split
  all_goals simp_all <;> omega

theorem Utf8.decodeAt_width_eq_zero (bs : ByteArray) (i : Nat) :
    (decodeAt bs i).2 = 0 ↔ bs.size ≤ i := by
  constructor
  · intro h
    by_contra hlt
    have := (decodeAt_width bs i (by omega)).1
    omega
  · intro h
    simp [decodeAt, h]

/-- Masking with `2^k - 1` keeps the low `k` bits. -/
theorem Utf8.and_mask (x k : Nat) : x &&& (2 ^ k - 1) = x % 2 ^ k :=
  Nat.and_two_pow_sub_one_eq_mod x k

/-- A decoded code point is U+FFFD, the ASCII byte itself, or lies above ASCII. -/
theorem Utf8.decodeAt_cases (bs : ByteArray) (i : Nat) :
    (decodeAt bs i).1 = replacement ∨ (i < bs.size ∧ (decodeAt bs i).1 = (byteAt bs i).toNat) ∨
      128 ≤ (decodeAt bs i).1 := by
  have hl := seqLength_le (byteAt bs i)
  have hr := seqLength_range (byteAt bs i)
  unfold decodeAt
  dsimp only
  repeat' split
  all_goals try (left; rfl)
  · right; left; exact ⟨by omega, rfl⟩
  all_goals
    right; right
    simp only [beq_iff_eq, Bool.not_eq_true', Bool.or_eq_true, decide_eq_true_eq, not_or,
      not_lt] at *
  · obtain ⟨h1, h2⟩ := hr.2.1 ‹_›
    calc 128 ≤ ((byteAt bs i).toNat % 2 ^ 5) * 2 ^ 6 := by omega
      _ = ((byteAt bs i).toNat &&& 31) <<< 6 := by rw [Nat.shiftLeft_eq, ← and_mask]; rfl
      _ ≤ _ := Nat.left_le_or
  · obtain ⟨h1, h2⟩ := hr.2.2.1 ‹_›
    refine le_trans ?_ Nat.left_le_or
    rcases Nat.lt_or_ge (byteAt bs i).toNat 225 with h0 | h0
    · -- the lead byte E0 needs a second byte of at least A0
      have hb : byteAt bs i = 224 := UInt8.toNat_inj.1 (by simp; omega)
      have hlo : ¬byteAt bs (i + 1) < (secondRange (byteAt bs i)).1 ∧
          ¬byteAt bs (i + 1) > (secondRange (byteAt bs i)).2 := by simp_all
      rw [hb] at hlo
      have h160 : 160 ≤ (byteAt bs (i + 1)).toNat ∧ (byteAt bs (i + 1)).toNat ≤ 191 := by
        simp [secondRange, UInt8.lt_iff_toNat_lt] at hlo; omega
      refine le_trans ?_ Nat.right_le_or
      rw [Nat.shiftLeft_eq, show (63 : Nat) = 2 ^ 6 - 1 from rfl, and_mask]; omega
    · refine le_trans ?_ Nat.left_le_or
      rw [Nat.shiftLeft_eq, show (15 : Nat) = 2 ^ 4 - 1 from rfl, and_mask]; omega
  · have h4 : seqLength (byteAt bs i) = 4 := by omega
    obtain ⟨h1, h2⟩ := hr.2.2.2 h4
    refine le_trans ?_ Nat.left_le_or
    refine le_trans ?_ Nat.left_le_or
    rcases Nat.lt_or_ge (byteAt bs i).toNat 241 with h0 | h0
    · -- the lead byte F0 needs a second byte of at least 90
      have hb : byteAt bs i = 240 := UInt8.toNat_inj.1 (by simp; omega)
      have hlo : ¬byteAt bs (i + 1) < (secondRange (byteAt bs i)).1 ∧
          ¬byteAt bs (i + 1) > (secondRange (byteAt bs i)).2 := by simp_all
      rw [hb] at hlo
      have h144 : 144 ≤ (byteAt bs (i + 1)).toNat ∧ (byteAt bs (i + 1)).toNat ≤ 191 := by
        simp [secondRange, UInt8.lt_iff_toNat_lt] at hlo; omega
      refine le_trans ?_ Nat.right_le_or
      rw [Nat.shiftLeft_eq, show (63 : Nat) = 2 ^ 6 - 1 from rfl, and_mask]; omega
    · refine le_trans ?_ Nat.left_le_or
      rw [Nat.shiftLeft_eq, show (7 : Nat) = 2 ^ 3 - 1 from rfl, and_mask]; omega

/-- A code point decoded as a newline is a newline byte inside the text. -/
theorem Utf8.decodeAt_eq_newline {bs : ByteArray} {i : Nat} (h : (decodeAt bs i).1 = 0x0A) :
    i < bs.size ∧ byteAt bs i = 0x0A := by
  rcases decodeAt_cases bs i with hr | ⟨hi, hb⟩ | hr
  · simp [hr, replacement] at h
  · exact ⟨hi, UInt8.toNat_inj.1 (by rw [← hb, h]; rfl)⟩
  · omega

theorem Chars.isHex_zero : isHex 0 = false := by decide

theorem Chars.lt_size_of_isHex {bs : ByteArray} {i : Nat} (h : isHex (byteAt bs i) = true) :
    i < bs.size :=
  byteAt_ne_zero fun h0 => by rw [h0, isHex_zero] at h; exact Bool.false_ne_true h

theorem Chars.spaceAt_le {bs : ByteArray} {i : Nat} (h : spaceAt bs i = true) :
    i + 3 ≤ bs.size := by
  simp only [spaceAt, Bool.and_eq_true, decide_eq_true_eq] at h; exact h.2

theorem Bytes.occursAt_le {b p : ByteArray} {i : Nat} (h : Bytes.occursAt b p i = true) :
    i + p.size ≤ b.size := by
  simp only [Bytes.occursAt, Bool.and_eq_true, decide_eq_true_eq] at h; exact h.1

/-- A match found from `i` on lies after `i` and inside the text. -/
theorem Bytes.indexFrom_bounds {b p : ByteArray} {i k : Nat} (h : Bytes.indexFrom b p i = some k) :
    i ≤ k ∧ k + p.size ≤ b.size := by
  fun_induction Bytes.indexFrom b p i with
  | case1 i hi _ => simp at h; omega
  | case2 i _ _ ih => have := ih h; omega
  | case3 => simp at h

theorem Utf8.lt_size_of_byteAt_eq {bs : ByteArray} {i : Nat} {c : UInt8}
    (h : (byteAt bs i == c) = true) (hc : c ≠ 0) : i < bs.size :=
  byteAt_ne_zero fun h0 => hc (by rw [← eq_of_beq h, h0])

theorem Utf8.lt_size_of_lower {bs : ByteArray} {i : Nat} {c : UInt8}
    (h : byteAt bs i ||| 0x20 = c) (hc : c ≠ 0x20) : i < bs.size :=
  byteAt_ne_zero fun h0 => hc (by rw [← h, h0]; rfl)

/-! ### Runs and identifiers -/

theorem Chars.le_runEnd (bs : ByteArray) (p : UInt8 → Bool) (i : Nat) : i ≤ runEnd bs p i := by
  fun_induction runEnd bs p i <;> omega

theorem Chars.runEnd_le (bs : ByteArray) (p : UInt8 → Bool) (i : Nat) (h : i ≤ bs.size) :
    runEnd bs p i ≤ bs.size := by
  fun_induction runEnd bs p i <;> omega

theorem Chars.le_identEnd (bs : ByteArray) (i : Nat) : i ≤ identEnd bs i := by
  fun_induction identEnd bs i <;> omega

theorem Chars.identEnd_le (bs : ByteArray) (i : Nat) (h : i ≤ bs.size) : identEnd bs i ≤ bs.size := by
  fun_induction identEnd bs i with
  | case1 i _ _ _ _ ih => exact ih (by omega)
  | case3 i hi _ _ r n hdec _ ih =>
    have hw := decodeAt_width bs i hi
    rw [hdec] at hw
    exact ih (by simp only at hw; omega)
  | _ => omega

set_option maxRecDepth 20000 in
theorem Chars.isIdentStartByte_lt {b : UInt8} (h : isIdentStartByte b = true) : b < 0x80 := by
  revert h b; decide

theorem Chars.isIdentStartRune_continue {r : Nat} (h : isIdentStartRune r = true) :
    isIdentContinueRune r = true := by
  unfold isIdentStartRune at h
  unfold isIdentContinueRune isIdentContinueByte
  split at h <;> simp [*]

theorem Chars.lt_size_of_identStartAt {bs : ByteArray} {i : Nat} (h : identStartAt bs i = true) :
    i < bs.size :=
  byteAt_ne_zero fun h0 => by simp [identStartAt, h0, isIdentStartByte, isLetter] at h

theorem Chars.identStartAt_of_byte {bs : ByteArray} {i : Nat}
    (h : isIdentStartByte (byteAt bs i) = true) : identStartAt bs i = true := by
  unfold identStartAt
  rw [if_pos (isIdentStartByte_lt h)]
  exact h

theorem Chars.identStartAt_of_high {bs : ByteArray} {i : Nat} (h : 0x80 ≤ byteAt bs i)
    (hr : isIdentStartRune (decodeAt bs i).1 = true) : identStartAt bs i = true := by
  unfold identStartAt
  rw [if_neg (by rw [UInt8.le_iff_toNat_le] at h; rw [UInt8.lt_iff_toNat_lt]; omega)]
  exact hr

/-- An identifier that starts at `i` takes at least one byte. -/
theorem Chars.lt_identEnd {bs : ByteArray} {i : Nat} (h : identStartAt bs i = true) :
    i < identEnd bs i := by
  have hi := lt_size_of_identStartAt h
  unfold identStartAt at h
  dsimp only at h
  unfold identEnd
  simp only [hi, if_true]
  split
  · rename_i hb
    simp only [hb, if_true] at h
    rw [if_pos (by simp [isIdentContinueByte, h])]
    exact Nat.lt_of_lt_of_le (Nat.lt_succ_self i) (le_identEnd bs (i + 1))
  · rename_i hb
    simp only [hb, if_false] at h
    rcases hd : decodeAt bs i with ⟨r, n⟩
    rw [hd] at h
    rw [if_pos (isIdentStartRune_continue h)]
    exact Nat.lt_of_lt_of_le (by omega) (le_identEnd bs (i + max n 1))

/-! ### Literal bodies -/

theorem Literal.le_indentEnd (bs : ByteArray) (i : Nat) : i ≤ Literal.indentEnd bs i := by
  fun_induction Literal.indentEnd bs i <;> omega

theorem Literal.indentEnd_le (bs : ByteArray) (i : Nat) (h : i ≤ bs.size) :
    Literal.indentEnd bs i ≤ bs.size := by
  fun_induction Literal.indentEnd bs i with
  | case1 i hi _ ih => exact ih (by omega)
  | case2 i _ _ hsp ih => exact ih (spaceAt_le hsp)
  | _ => omega

/-- Where the digits of a `\u{…}` escape stop reading. -/
theorem Literal.unicodeDigits_stop (bs : ByteArray) (closer start i v count : Nat) (bad : Bool)
    (notes : Array LiteralNote) (h : i ≤ bs.size) (j : Nat)
    (hj : (Literal.unicodeDigits bs closer start i v count bad notes).2.2.2.2 = .ok j ∨
      (Literal.unicodeDigits bs closer start i v count bad notes).2.2.2.2 = .error j) :
    i ≤ j ∧ j ≤ bs.size := by
  fun_induction Literal.unicodeDigits bs closer start i v count bad notes with
  | case1 | case5 => simp_all
  | case2 i _ _ _ _ hi r sz hdec =>
    have hw := decodeAt_width bs i hi
    rw [hdec] at hw
    simp only [Except.ok.injEq, reduceCtorEq, or_false] at hj
    simp only at hw; omega
  | case3 i _ _ _ _ hi r sz hdec _ _ _ _ _ ih | case4 i _ _ _ _ hi r sz hdec _ _ _ _ _ ih =>
    have hw := decodeAt_width bs i hi
    rw [hdec] at hw
    have := ih (by simp only at hw ⊢; omega) hj
    omega

theorem Literal.unicodeEscape_stop (bs : ByteArray) (closer start i : Nat) (h : i ≤ bs.size) :
    i ≤ (Literal.unicodeEscape bs closer start i).1 ∧
      (Literal.unicodeEscape bs closer start i).1 ≤ bs.size := by
  unfold Literal.unicodeEscape
  split
  · simpa using h
  · rename_i hb
    simp only [Bool.or_eq_true, bne_iff_ne, ne_eq, decide_eq_true_eq, not_or, not_not,
      Nat.not_le] at hb
    split
    all_goals
      rename_i j heq
      have := unicodeDigits_stop bs closer start (i + 1) 0 0 false #[] (by omega) j (by simp [heq])
    · simp only; omega
    · split_ifs <;> simp only <;> omega

/-- An escape whose backslash is inside the text ends after it and inside the text. -/
theorem Literal.escape_stop (bs : ByteArray) (closer start : Nat) (h : start < bs.size) :
    start < (Literal.escape bs closer start).1 ∧ (Literal.escape bs closer start).1 ≤ bs.size := by
  have hw := decodeAt_width bs (start + 1)
  have hz := decodeAt_width_eq_zero bs (start + 1)
  rcases hd : decodeAt bs (start + 1) with ⟨r, sz⟩
  rw [hd] at hw hz
  simp only at hw hz
  unfold Literal.escape
  simp only [hd]
  split
  · simp only; omega
  · have hlt : start + 1 < bs.size := by omega
    obtain ⟨h1, h2⟩ := hw hlt
    split
    · simp only; omega
    · split_ifs with hx hhex hjx hu hn
      · simp only [Bool.and_eq_true] at hhex
        have := lt_size_of_isHex hhex.2
        simp only; omega
      · have := lt_size_of_isHex hjx
        simp only; omega
      · simp only; omega
      · have := unicodeEscape_stop bs closer start (start + 1 + 1) (by omega)
        omega
      · have := le_indentEnd bs (start + 1 + 1)
        have := indentEnd_le bs (start + 1 + 1) (by omega)
        simp only; omega
      all_goals simp only; omega

/-- A literal body read from inside the text stops inside it, never before where it started. -/
theorem Literal.body_stop (bs : ByteArray) (lit : OpenLiteral) (i : Nat) (text : ByteArray)
    (notes : Array LiteralNote) :
    i ≤ (Literal.body bs lit i text notes).stop ∧
      (i ≤ bs.size → (Literal.body bs lit i text notes).stop ≤ bs.size) := by
  fun_induction Literal.body bs lit i text notes with
  | case1 i _ _ hi r sz hdec =>
    have hw := decodeAt_width bs i hi
    rw [hdec] at hw
    simp only at hw ⊢; omega
  | case2 i _ _ hi _ _ _ _ _ j _ _ hesc ih =>
    have he := escape_stop bs lit.closer i hi
    rw [hesc] at he
    simp only at he
    omega
  | case5 i _ _ hi _ _ _ _ _ _ _ _ ih =>
    have := indentEnd_le bs (i + 1) (by omega)
    omega
  | case6 i _ _ hi r sz hdec _ _ _ ih =>
    have hw := decodeAt_width bs i hi
    rw [hdec] at hw
    simp only at hw
    omega
  | _ => simp

/-- A body splits only in a message, at a newline inside the text. -/
theorem Literal.body_split (bs : ByteArray) (lit : OpenLiteral) (i : Nat) (text : ByteArray)
    (notes : Array LiteralNote) (h : (Literal.body bs lit i text notes).ending = .split) :
    lit.kind = .message ∧ (Literal.body bs lit i text notes).stop < bs.size ∧
      byteAt bs (Literal.body bs lit i text notes).stop = 0x0A := by
  fun_induction Literal.body bs lit i text notes with
  | case4 i _ _ _ r _ hdec _ _ hnl _ hsplit =>
    simp only [beq_iff_eq, Bool.and_eq_true] at hnl hsplit
    rw [hnl] at hdec
    have hr : (decodeAt bs i).1 = 0x0A := by rw [hdec]
    exact ⟨hsplit.1, decodeAt_eq_newline hr⟩
  | case2 _ _ _ _ _ _ _ _ _ _ _ _ _ ih | case5 _ _ _ _ _ _ _ _ _ _ _ _ ih
  | case6 _ _ _ _ _ _ _ _ _ _ ih => exact ih h
  | _ => simp at h

/-- A body that does not start at a newline reads at least one byte. -/
theorem Literal.lt_body_stop (bs : ByteArray) (lit : OpenLiteral) (i : Nat) (text : ByteArray)
    (notes : Array LiteralNote) (hi : i < bs.size) (hnl : (decodeAt bs i).1 ≠ 0x0A) :
    i < (Literal.body bs lit i text notes).stop := by
  have hw := decodeAt_width bs i hi
  rcases hd : decodeAt bs i with ⟨r, sz⟩
  rw [hd] at hw hnl
  simp only at hw hnl
  unfold Literal.body
  simp only [hi, if_true, hd]
  split
  · simp only; omega
  split
  · rename_i hb
    rcases he : escape bs lit.closer i with ⟨j, piece, more⟩
    have := (body_stop bs lit (max j (i + 1)) (text ++ piece) (notes ++ more)).1
    simp only; omega
  split
  · rename_i hr; simp only [beq_iff_eq] at hr; exact absurd hr hnl
  · have := (body_stop bs lit (i + max sz 1) (text ++ bs.extract i (i + sz)) notes).1
    omega

theorem Flow.lt_size_of_ofByte {bs : ByteArray} {i : Nat} {f : Flow}
    (h : Flow.ofByte? (byteAt bs i) = some f) : i < bs.size :=
  byteAt_ne_zero fun h0 => by rw [h0] at h; simp [Flow.ofByte?] at h

/-! ### Split messages -/

theorem LexM.le_gapEnd (bs : ByteArray) (i : Nat) : i ≤ LexM.gapEnd bs i := by
  fun_induction LexM.gapEnd bs i <;> omega

theorem LexM.gapEnd_le (bs : ByteArray) (i : Nat) (h : i ≤ bs.size) : LexM.gapEnd bs i ≤ bs.size := by
  fun_induction LexM.gapEnd bs i with
  | case1 i hi _ _ ih => exact ih (by omega)
  | case2 i _ _ _ hsp ih => exact ih (spaceAt_le hsp)
  | _ => omega

/-- The gap of a split message starts at its newline, so it is never empty. -/
theorem LexM.lt_gapEnd (bs : ByteArray) (i : Nat) (hi : i < bs.size) (hnl : byteAt bs i = 0x0A) :
    i < LexM.gapEnd bs i := by
  unfold LexM.gapEnd
  simp only [hi, if_true, hnl, beq_self_eq_true, Bool.true_or]
  exact Nat.lt_of_lt_of_le (Nat.lt_succ_self i) (le_gapEnd bs (i + 1))

/-! ### Numbers -/

theorem Numeral.radixSpec_stop (bs : ByteArray) (i : Nat) (h : i ≤ bs.size) :
    (Numeral.radixSpec bs i).2.2 ≤ bs.size := by
  unfold Numeral.radixSpec
  have := runEnd_le bs isDec i h
  dsimp only
  split
  · rename_i hc
    simp only [Bool.and_eq_true, decide_eq_true_eq, beq_iff_eq] at hc
    have := byteAt_ne_zero (by rw [hc.2]; decide)
    simp only; omega
  · simp only; omega

theorem Numeral.suffixAt_stop (bs : ByteArray) (i : Nat) (h : i ≤ bs.size) :
    (Numeral.suffixAt bs i).2 ≤ bs.size := by
  unfold Numeral.suffixAt
  split
  · exact runEnd_le bs _ i h
  · exact h

theorem Numeral.radixDigits_stop (bs : ByteArray) (radix i : Nat) (acc : IntAcc)
    (count : Nat) (bad : UInt8) (h : i ≤ bs.size) :
    (Numeral.radixDigits bs radix i acc count bad).2.2.2 ≤ bs.size := by
  fun_induction Numeral.radixDigits bs radix i acc count bad with
  | case1 i _ _ _ _ _ _ ih | case3 i _ _ _ _ _ _ _ _ _ ih | case4 i _ _ _ _ _ _ _ _ ih =>
    exact ih (by omega)
  | _ => simpa using h

theorem Numeral.radixNumber_stop (bs : ByteArray) (radix i : Nat) (h : i ≤ bs.size) :
    (Numeral.radixNumber bs radix i).stop ≤ bs.size := by
  have hd := radixDigits_stop bs radix i {} 0 0 h
  rcases hr : Numeral.radixDigits bs radix i {} 0 0 with ⟨acc, count, bad, j⟩
  rw [hr] at hd
  have hs := suffixAt_stop bs j hd
  rcases hsuf : Numeral.suffixAt bs j with ⟨suffix, stop⟩
  rw [hsuf] at hs
  unfold Numeral.radixNumber
  simp only [hr, hsuf]
  split_ifs <;> exact hs

theorem Chars.isDec_zero : isDec 0 = false := by decide

theorem Chars.lt_size_of_isDec {bs : ByteArray} {i : Nat} (h : isDec (byteAt bs i) = true) :
    i < bs.size :=
  byteAt_ne_zero fun h0 => by rw [h0, isDec_zero] at h; exact Bool.false_ne_true h

theorem Numeral.decimal_stop (bs : ByteArray) (start : Nat) (h : start ≤ bs.size) :
    (Numeral.decimal bs start).stop ≤ bs.size := by
  unfold Numeral.decimal
  dsimp only
  repeat' split
  all_goals
    simp only [Numeral.stop]
    apply suffixAt_stop
    simp only [Bool.and_eq_true, Bool.or_eq_true, beq_iff_eq] at *
    first
    | exact runEnd_le bs _ _ h
    | refine runEnd_le bs _ _ ?_
      first
      | exact (lt_size_of_isDec ‹_ ∧ _›.2).le
      | rcases ‹_ ∨ _› with hd | ⟨_, hd⟩ <;> have := lt_size_of_isDec hd <;> omega

/-- A `#` starts a number only before `(`, so a radix prefix after it lies inside the text. -/
theorem Numeral.hash_room {bs : ByteArray} {i : Nat}
    (h : (isDec (byteAt bs i) || byteAt bs i == 0x2E && isDec (byteAt bs (i + 1)) ||
      byteAt bs i == 0x23 && byteAt bs (i + 1) == 0x28) = true) (hhash : byteAt bs i = 0x23) :
    i + 2 ≤ bs.size := by
  rw [hhash] at h
  simp only [show isDec 0x23 = false by decide, Bool.false_or, beq_self_eq_true,
    Bool.true_and, show ((0x23 : UInt8) == 0x2E) = false by decide, Bool.false_and] at h
  have := byteAt_ne_zero (i := i + 1) (by rw [eq_of_beq h]; decide)
  omega

theorem Numeral.read_stop (bs : ByteArray) (start : Nat) (h : start ≤ bs.size)
    (hhash : byteAt bs start = 0x23 → start + 2 ≤ bs.size) :
    (Numeral.read bs start).stop ≤ bs.size := by
  unfold Numeral.read
  dsimp only
  split
  next j hpre =>
    -- only an explicit radix after '#' can be malformed
    split_ifs at hpre with hb
    have := radixSpec_stop bs (start + 2) (hhash (by simpa using hb))
    split at hpre <;> simp_all [Numeral.stop]
  next => exact decimal_stop bs start h
  next radix i hpre =>
    -- a radix prefix is two bytes of the text, so its digits start within it
    have hi : i ≤ bs.size := by
      split_ifs at hpre with hb h16 h2 h8 hr <;>
        simp only [Sum.inl.injEq, Option.some.injEq, Prod.mk.injEq, reduceCtorEq,
          Bool.and_eq_true, Bool.or_eq_true, beq_iff_eq] at *
      · have := radixSpec_stop bs (start + 2) (hhash hb)
        split at hpre <;> simp_all
      · rw [← hpre.2]; exact lt_size_of_lower h16.2 (by decide)
      · rw [← hpre.2]; exact lt_size_of_lower h2.2 (by decide)
      · rw [← hpre.2]
        rcases h8.2 with h8 | h8 <;> exact lt_size_of_lower h8 (by decide)
      · rw [← hpre.2]
        exact radixSpec_stop bs (start + 2) (byteAt_ne_zero (by rw [hr.1.2]; decide))
    split
    · exact runEnd_le bs _ i hi
    · exact radixNumber_stop bs radix i hi

/-! ### Punctuation -/

theorem LexM.bracketKind_named {b : UInt8} {k : TokenKind} (h : LexM.bracketKind? b = some k) :
    k ∈ TokenKind.named ∧ k ≠ .eof := by
  unfold LexM.bracketKind? at h
  split_ifs at h <;> cases h <;> decide

theorem opTable_text_pos : ∀ f ∈ opTable, 0 < f.text.utf8ByteSize := by
  decide

/-! ### Trivia -/

theorem Trivia.lineEnd_le (bs : ByteArray) (i : Nat) (h : i ≤ bs.size) :
    Trivia.lineEnd bs i ≤ bs.size :=
  runEnd_le bs _ i h

theorem Trivia.blockEnd_stop (bs : ByteArray) (i depth : Nat) (nl : Bool) (h : i ≤ bs.size) :
    i ≤ (Trivia.blockEnd bs i depth nl).1 ∧ (Trivia.blockEnd bs i depth nl).1 ≤ bs.size := by
  fun_induction Trivia.blockEnd bs i depth nl with
  | case1 i _ _ _ _ _ hc ih | case3 i _ _ _ _ _ _ hc _ ih =>
    -- `/*` and `*/` are two bytes of the text
    have := lt_size_of_byteAt_eq (Bool.and_eq_true_iff.1 hc).2 (by decide)
    have := ih (by omega)
    omega
  | case2 i _ _ _ _ _ _ hc =>
    have := lt_size_of_byteAt_eq (Bool.and_eq_true_iff.1 hc).2 (by decide)
    simp only; omega
  | case4 i _ _ hi _ _ _ _ ih => have := ih (by omega); omega
  | case5 => simp only; omega

theorem Trivia.directiveEnd_le (bs : ByteArray) (start : Nat) (h : start + 4 ≤ bs.size) :
    Trivia.directiveEnd bs start ≤ bs.size := by
  have hstop := lineEnd_le bs (start + 4) h
  unfold Trivia.directiveEnd
  dsimp only
  split
  · rename_i k hk
    have := (Bytes.indexFrom_bounds hk).2
    have h3 : Directive.terminator.size = 3 := by decide
    simp only [ByteArray.size_extract, h3] at this
    omega
  · exact hstop

theorem Trivia.prefix_room {bs : ByteArray} {i : Nat}
    (h : Bytes.occursAt bs Directive.prefixText i = true) : i + 4 ≤ bs.size := by
  have := Bytes.occursAt_le h
  have h4 : Directive.prefixText.size = 4 := by decide
  omega

/-- Trivia skipped from inside the text stops inside it. -/
theorem Trivia.skip_stop (bs : ByteArray) (mode : DirectiveMode) (i : Nat) (nl : Bool)
    (notes : Array TriviaNote) (h : i ≤ bs.size) :
    i ≤ (Trivia.skip bs mode i nl notes).stop ∧ (Trivia.skip bs mode i nl notes).stop ≤ bs.size := by
  fun_induction Trivia.skip bs mode i nl notes with
  | case1 i _ _ hi _ _ ih | case2 i _ _ hi _ _ _ ih =>
    have := ih (by omega); omega
  | case3 i _ _ _ _ _ _ hsp ih => have := ih (spaceAt_le hsp); omega
  | case4 i _ _ hi _ _ _ _ _ _ hocc _ hm ih | case5 i _ _ hi _ _ _ _ _ _ hocc _ hm ih =>
    -- a directive comment ends inside the text, and at least one byte on
    subst hm
    have := ih (max_le (directiveEnd_le bs i (prefix_room hocc)) (by omega))
    omega
  | case6 i _ _ hi _ _ _ _ _ _ hocc _ _ _ _ _ htest _ _ ih =>
    rw [if_pos htest]
    have := ih (max_le (directiveEnd_le bs i (prefix_room hocc)) (by omega))
    omega
  | case7 i _ _ _ _ _ _ _ _ _ _ _ _ _ _ _ htest _ _ =>
    rw [if_neg htest]
    simp only; omega
  | case8 i _ _ hi _ _ _ _ _ _ _ ih =>
    have := ih (max_le (lineEnd_le bs i (by omega)) (by omega)); omega
  | case9 i _ _ hi _ _ _ _ _ _ hc stop _ _ hblk _ ih =>
    -- the `*` of the opener is a byte of the text
    have := lt_size_of_byteAt_eq (Bool.and_eq_true_iff.1 hc).2 (by decide)
    have hb := blockEnd_stop bs (i + 2) 1 false (by omega)
    rw [hblk] at hb
    have := ih (max_le hb.2 (by omega))
    omega
  | _ => simp only; omega

/-- A directive comment that becomes a token starts where the trivia stop and ends inside the
text, at least one byte on. -/
theorem Trivia.skip_directive (bs : ByteArray) (mode : DirectiveMode) (i : Nat) (nl : Bool)
    (notes : Array TriviaNote) (h : i ≤ bs.size) {hit : DirectiveHit}
    (hd : (Trivia.skip bs mode i nl notes).directive = some hit) :
    hit.start = (Trivia.skip bs mode i nl notes).stop ∧ hit.start < hit.stop ∧
      hit.stop ≤ bs.size := by
  fun_induction Trivia.skip bs mode i nl notes with
  | case1 i _ _ hi _ _ ih | case2 i _ _ hi _ _ _ ih => exact ih (by omega) hd
  | case3 i _ _ _ _ _ _ hsp ih => exact ih (spaceAt_le hsp) hd
  | case4 i _ _ hi _ _ _ _ _ _ hocc _ hm ih | case5 i _ _ hi _ _ _ _ _ _ hocc _ hm ih =>
    subst hm
    exact ih (max_le (directiveEnd_le bs i (prefix_room hocc)) (by omega)) hd
  | case6 i _ _ hi _ _ _ _ _ _ hocc _ _ _ _ _ htest _ _ ih =>
    rw [if_pos htest] at hd ⊢
    exact ih (max_le (directiveEnd_le bs i (prefix_room hocc)) (by omega)) hd
  | case7 i _ _ hi _ _ _ _ _ _ hocc stop _ _ _ _ htest _ _ =>
    rw [if_neg htest] at hd ⊢
    simp only [Option.some.injEq] at hd
    subst hd
    have := directiveEnd_le bs i (prefix_room hocc)
    simp only [stop, true_and]
    omega
  | case8 i _ _ hi _ _ _ _ _ _ _ ih => exact ih (max_le (lineEnd_le bs i (by omega)) (by omega)) hd
  | case9 i _ _ hi _ _ _ _ _ _ hc stop _ _ hblk _ ih =>
    have := lt_size_of_byteAt_eq (Bool.and_eq_true_iff.1 hc).2 (by decide)
    have hb := blockEnd_stop bs (i + 2) 1 false (by omega)
    rw [hblk] at hb
    exact ih (max_le hb.2 (by omega)) hd
  | _ => simp at hd

/-- Trivia read from the end of the text stop there at once. -/
theorem Trivia.skip_of_size_le (bs : ByteArray) (mode : DirectiveMode) (i : Nat) (nl : Bool)
    (notes : Array TriviaNote) (h : bs.size ≤ i) :
    Trivia.skip bs mode i nl notes = ⟨i, nl, notes, none⟩ := by
  rw [Trivia.skip, if_neg (by omega)]

/-! ### All readers together -/

/-- Every reader of the tokenizer started inside `bs` stops inside it, so each byte it reads
and each slice of `bs` taken between the offsets it returns lies in the text: the code point
at an offset, a run or an identifier, a directive comment, the trivia between tokens with the
directive they stop at, a literal body with the bytes it copies, a number literal and the gap
of a split message. -/
structure ReadersInside (bs : ByteArray) : Prop where
  rune : ∀ i < bs.size, 1 ≤ (decodeAt bs i).2 ∧ i + (decodeAt bs i).2 ≤ bs.size
  run : ∀ p i, i ≤ bs.size → i ≤ runEnd bs p i ∧ runEnd bs p i ≤ bs.size
  ident : ∀ i, i ≤ bs.size → i ≤ identEnd bs i ∧ identEnd bs i ≤ bs.size
  directive : ∀ i, Bytes.occursAt bs Directive.prefixText i = true →
    Trivia.directiveEnd bs i ≤ bs.size
  trivia : ∀ mode i nl notes, i ≤ bs.size →
    i ≤ (Trivia.skip bs mode i nl notes).stop ∧ (Trivia.skip bs mode i nl notes).stop ≤ bs.size ∧
      ∀ hit, (Trivia.skip bs mode i nl notes).directive = some hit → hit.stop ≤ bs.size
  body : ∀ lit i text notes, i ≤ bs.size →
    i ≤ (Literal.body bs lit i text notes).stop ∧ (Literal.body bs lit i text notes).stop ≤ bs.size
  number : ∀ i, i ≤ bs.size → (byteAt bs i = 0x23 → i + 2 ≤ bs.size) →
    (Numeral.read bs i).stop ≤ bs.size
  gap : ∀ i, i ≤ bs.size → i ≤ LexM.gapEnd bs i ∧ LexM.gapEnd bs i ≤ bs.size

theorem readersInside (bs : ByteArray) : ReadersInside bs where
  rune := decodeAt_width bs
  run p i h := ⟨le_runEnd bs p i, runEnd_le bs p i h⟩
  ident i h := ⟨le_identEnd bs i, identEnd_le bs i h⟩
  directive i h := Trivia.directiveEnd_le bs i (Trivia.prefix_room h)
  trivia mode i nl notes h :=
    ⟨(Trivia.skip_stop bs mode i nl notes h).1, (Trivia.skip_stop bs mode i nl notes h).2,
      fun _ hd => (Trivia.skip_directive bs mode i nl notes h hd).2.2⟩
  body lit i text notes h :=
    ⟨(Literal.body_stop bs lit i text notes).1, (Literal.body_stop bs lit i text notes).2 h⟩
  number i h hhash := Numeral.read_stop bs i h hhash
  gap i h := ⟨LexM.le_gapEnd bs i, LexM.gapEnd_le bs i h⟩

end NovelScript

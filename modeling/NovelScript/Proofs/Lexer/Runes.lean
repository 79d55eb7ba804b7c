import Mathlib
import NovelScript.Proofs.Lexer.Escapes
/-!
# The characters of a byte string

The lexer reads a literal one code point at a time, at byte offsets, with `Utf8.decodeAt`. A
specification reads better over the characters themselves. `Utf8.runesAt bs i` is the list of
characters of `bs` from offset `i` on, each with its code point (U+FFFD for a byte that starts
no well-formed sequence) and the bytes that spell it.

The bridge between the two views is `Utf8.runesAt_of_lt`: inside the text, the characters from
`i` on are the one `decodeAt` reads at `i`, then the characters from just after it. It rests on
`Utf8.decodeAt_congr`: decoding looks only at the bytes from the offset on.

Two facts about single characters are proved here for the indentation of literals: an ASCII
code point is read from the byte that stands there (`Utf8.decodeAt_lt_128`), and U+3000 is read
only from the bytes E3 80 80 (`Utf8.spaceAt_of_decodeAt`).
-/

namespace NovelScript

open Utf8 Chars

namespace Utf8

/-- A character of a byte string: its code point, U+FFFD for a byte that starts no well-formed
sequence, and the bytes that spell it. -/
structure Rune where
  cp : Nat
  bytes : List UInt8

/-- The code point at the front of `l` and the number of bytes it takes. -/
def runeOf (l : List UInt8) : Nat × Nat := decodeAt ⟨l.toArray⟩ 0

/-- The characters of a byte string, read from the front. -/
def readRunes : List UInt8 → List Rune
  | [] => []
  | b :: l =>
    let n := (runeOf (b :: l)).2 - 1
    ⟨(runeOf (b :: l)).1, b :: l.take n⟩ :: readRunes (l.drop n)
termination_by l => l.length

/-- The characters of `bs` from offset `i` on. -/
def runesAt (bs : ByteArray) (i : Nat) : List Rune := readRunes (bytesFrom bs i)

/-! ### Decoding reads only what follows the offset -/

theorem size_mk_toArray (l : List UInt8) : (ByteArray.mk l.toArray).size = l.length := by
  simp [ByteArray.size]

theorem byteAt_toArray (l : List UInt8) (k : Nat) : byteAt ⟨l.toArray⟩ k = l.getD k 0 := by
  unfold byteAt
  split
  · rename_i h
    rw [size_mk_toArray] at h
    rw [List.getD_eq_getElem _ _ h]
    rfl
  · rename_i h
    rw [size_mk_toArray] at h
    rw [List.getD_eq_default _ _ (by omega)]

theorem getD_bytesFrom (bs : ByteArray) (i k : Nat) :
    (bytesFrom bs i).getD k 0 = byteAt bs (i + k) := by
  unfold byteAt bytesFrom
  split
  · rw [List.getD_eq_getElem _ _ (by simp; omega)]
    simp [ByteArray.getElem_eq_getElem_data]
  · rw [List.getD_eq_default _ _ (by simp; omega)]

/-- Decoding reads only the bytes from the offset on and how many there are. -/
theorem decodeAt_congr {bs bs' : ByteArray} {i i' : Nat} (hsize : bs.size - i = bs'.size - i')
    (hbyte : ∀ k, byteAt bs (i + k) = byteAt bs' (i' + k)) : decodeAt bs i = decodeAt bs' i' := by
  have h0 : byteAt bs i = byteAt bs' i' := hbyte 0
  have h1 := hbyte 1
  have h2 := hbyte 2
  have h3 := hbyte 3
  unfold decodeAt
  by_cases hi : bs.size ≤ i
  · have hi' : bs'.size ≤ i' := by omega
    simp [hi, hi']
  · have hi' : ¬ bs'.size ≤ i' := by omega
    have hgt : ∀ n, (i + n > bs.size) = (i' + n > bs'.size) := fun n => propext (by omega)
    simp only [ge_iff_le, hi, hi', if_false, h0, h1, h2, h3, hgt]

theorem runeOf_bytesFrom (bs : ByteArray) (i : Nat) : runeOf (bytesFrom bs i) = decodeAt bs i := by
  unfold runeOf
  apply decodeAt_congr
  · rw [size_mk_toArray, length_bytesFrom]; rfl
  · intro k
    rw [byteAt_toArray, getD_bytesFrom, Nat.zero_add]

/-! ### The characters from an offset on -/

theorem runesAt_of_le {bs : ByteArray} {i : Nat} (h : bs.size ≤ i) : runesAt bs i = [] := by
  rw [runesAt, bytesFrom_of_le h, readRunes]

/-- Inside the text, the characters from `i` on are the one decoded at `i`, spelled by the
bytes it takes, then the characters after it. -/
theorem runesAt_of_lt {bs : ByteArray} {i : Nat} (h : i < bs.size) :
    runesAt bs i = ⟨(decodeAt bs i).1, (bytesFrom bs i).take (decodeAt bs i).2⟩ ::
      runesAt bs (i + (decodeAt bs i).2) := by
  have hw := (decodeAt_width bs i h).1
  unfold runesAt
  conv_lhs => rw [bytesFrom_of_lt h, readRunes, ← bytesFrom_of_lt h, runeOf_bytesFrom]
  rw [drop_bytesFrom, bytesFrom_of_lt h,
    show i + 1 + ((decodeAt bs i).2 - 1) = i + (decodeAt bs i).2 by omega]
  obtain ⟨n, hn⟩ : ∃ n, (decodeAt bs i).2 = n + 1 := ⟨_, (Nat.succ_pred_eq_of_pos hw).symm⟩
  simp [hn]

theorem runesAt_eq_cons {bs : ByteArray} {i : Nat} {c : Rune} {cs : List Rune}
    (h : runesAt bs i = c :: cs) :
    i < bs.size ∧ c.cp = (decodeAt bs i).1 ∧ cs = runesAt bs (i + (decodeAt bs i).2) := by
  have hi : i < bs.size := by
    by_contra hge
    rw [runesAt_of_le (Nat.le_of_not_lt hge)] at h
    cases h
  rw [runesAt_of_lt hi] at h
  obtain ⟨rfl, rfl⟩ := List.cons.inj h
  exact ⟨hi, rfl, rfl⟩

/-- An ASCII byte is a character of its own. -/
theorem runesAt_ascii {bs : ByteArray} {i : Nat} (h : i < bs.size) (ha : byteAt bs i < 0x80) :
    runesAt bs i = ⟨(byteAt bs i).toNat, [byteAt bs i]⟩ :: runesAt bs (i + 1) := by
  rw [runesAt_of_lt h, decodeAt_ascii h ha, bytesFrom_of_lt h]
  simp

/-! ### Single characters -/

/-- A code point below U+0080 is read from the ASCII byte that stands there. -/
theorem decodeAt_lt_128 {bs : ByteArray} {i : Nat} (h : (decodeAt bs i).1 < 0x80) :
    i < bs.size ∧ byteAt bs i < 0x80 ∧ decodeAt bs i = ((byteAt bs i).toNat, 1) := by
  rcases decodeAt_cases bs i with hr | ⟨hi, hr⟩ | hr
  · simp [hr, replacement] at h
  · have hb : byteAt bs i < 0x80 := by rw [UInt8.lt_iff_toNat_lt]; simp; omega
    exact ⟨hi, hb, decodeAt_ascii hi hb⟩
  · omega

/-- An ASCII code point decoded at `i` takes one byte. -/
theorem width_of_ascii {bs : ByteArray} {i r sz : Nat} (hdec : decodeAt bs i = (r, sz))
    (hr : r < 0x80) : sz = 1 := by
  obtain ⟨-, -, h⟩ := decodeAt_lt_128 (show (decodeAt bs i).1 < 0x80 by rw [hdec]; exact hr)
  rw [hdec] at h
  exact (Prod.mk.inj h).2

set_option maxRecDepth 20000 in
theorem isCont_range {b : UInt8} (h : isCont b = true) : 128 ≤ b.toNat ∧ b.toNat < 192 := by
  revert h b; decide

/-- The three parts of a three-byte code point do not overlap. -/
theorem or_three (a b c : Nat) (hb : b < 64) (hc : c < 64) :
    a <<< 12 ||| b <<< 6 ||| c = a * 4096 + b * 64 + c := by
  have h12 : a <<< 12 = (a <<< 6) <<< 6 := by simp [Nat.shiftLeft_eq, Nat.mul_assoc]
  rw [h12, ← Nat.shiftLeft_or_distrib, ← Nat.shiftLeft_add_eq_or_of_lt (by simpa using hc),
    ← Nat.shiftLeft_add_eq_or_of_lt (by simpa using hb)]
  simp [Nat.shiftLeft_eq]
  ring

theorem decodeAt_spaceAt {bs : ByteArray} {i : Nat} (h : spaceAt bs i = true) :
    decodeAt bs i = (0x3000, 3) := by
  simp only [spaceAt, Bool.and_eq_true, beq_iff_eq, decide_eq_true_eq] at h
  obtain ⟨⟨⟨h0, h1⟩, h2⟩, hroom⟩ := h
  unfold decodeAt
  simp [h0, h1, h2, seqLength, secondRange, isCont, show ¬ bs.size ≤ i by omega,
    show ¬ bs.size < i + 3 by omega]
  decide

/-- Only the bytes E3 80 80 decode to U+3000: one- and two-byte sequences stay below U+0800,
four-byte ones start at U+10000, and of the three-byte ones only E3 80 80 carries 3 in its lead
byte and nothing in the others. -/
theorem spaceAt_of_decodeAt {bs : ByteArray} {i : Nat} (h : (decodeAt bs i).1 = 0x3000) :
    spaceAt bs i = true := by
  have hr := seqLength_range (byteAt bs i)
  have hl := seqLength_le (byteAt bs i)
  have hb1 : (byteAt bs (i + 1)).toNat &&& 63 < 64 := Nat.lt_succ_of_le Nat.and_le_right
  have hb2 : (byteAt bs (i + 2)).toNat &&& 63 < 64 := Nat.lt_succ_of_le Nat.and_le_right
  revert h
  unfold decodeAt
  dsimp only
  repeat' split
  all_goals intro h
  all_goals simp only [replacement] at h
  all_goals try omega
  · -- one byte
    have := (byteAt bs i).toNat_lt
    omega
  · -- two bytes
    have ha : (byteAt bs i).toNat &&& 31 ≤ 31 := Nat.and_le_right
    rw [← Nat.shiftLeft_add_eq_or_of_lt (by simpa using hb1), Nat.shiftLeft_eq] at h
    omega
  · -- three bytes
    rename_i hi hn1 hroom hsecond hn2 hcont hn3
    simp only [beq_iff_eq] at hn3
    simp only [Bool.or_eq_true, beq_iff_eq, decide_eq_true_eq, not_or, hn3] at hroom
    rw [or_three _ _ _ hb1 hb2, show (15 : Nat) = 2 ^ 4 - 1 from rfl, and_mask,
      show (63 : Nat) = 2 ^ 6 - 1 from rfl, and_mask, and_mask] at h
    obtain ⟨hlo, hhi⟩ := hr.2.2.1 hn3
    have h0 : byteAt bs i = 0xE3 := UInt8.toNat_inj.1 (by simp; omega)
    rw [h0] at hsecond
    simp [secondRange] at hsecond
    obtain ⟨hlo1, hhi1⟩ := hsecond
    rw [UInt8.le_iff_toNat_le] at hlo1 hhi1
    simp only [Bool.not_eq_true', Bool.not_eq_false] at hcont
    have hc := isCont_range hcont
    have h1 : byteAt bs (i + 1) = 0x80 := UInt8.toNat_inj.1 (by simp at hlo1 hhi1 ⊢; omega)
    have h2 : byteAt bs (i + 2) = 0x80 := UInt8.toNat_inj.1 (by simp; omega)
    simp [spaceAt, h0, h1, h2]
    omega
  · -- four bytes: a lead byte past F0 alone puts the value above U+3FFFF, and F0 needs a
    -- second byte from 90
    rename_i hi hn1 hroom hsecond hn2 hcont hn3 hcont3
    simp only [beq_iff_eq, Bool.or_eq_true, decide_eq_true_eq, not_or] at hn1 hn2 hn3 hroom
    have h4 : seqLength (byteAt bs i) = 4 := by omega
    obtain ⟨hlo, hhi⟩ := hr.2.2.2 h4
    have hA : ((byteAt bs i).toNat &&& 7) <<< 18 ≤ 12288 := by
      rw [← h]; exact (Nat.left_le_or.trans Nat.left_le_or).trans Nat.left_le_or
    have hB : ((byteAt bs (i + 1)).toNat &&& 63) <<< 12 ≤ 12288 := by
      rw [← h]; exact (Nat.right_le_or.trans Nat.left_le_or).trans Nat.left_le_or
    rw [Nat.shiftLeft_eq, show (7 : Nat) = 2 ^ 3 - 1 from rfl, and_mask] at hA
    rw [Nat.shiftLeft_eq, show (63 : Nat) = 2 ^ 6 - 1 from rfl, and_mask] at hB
    have h0 : byteAt bs i = 0xF0 := UInt8.toNat_inj.1 (by simp; omega)
    rw [h0] at hsecond
    simp [secondRange] at hsecond
    obtain ⟨hlo1, hhi1⟩ := hsecond
    rw [UInt8.le_iff_toNat_le] at hlo1 hhi1
    simp at hlo1 hhi1
    omega

end Utf8

theorem Chars.isBlank_iff (b : UInt8) :
    isBlank b = true ↔ b.toNat = 0x20 ∨ b.toNat = 0x09 ∨ b.toNat = 0x0D := by
  simp only [isBlank, Bool.or_eq_true, beq_iff_eq, ← UInt8.toNat_inj, UInt8.reduceToNat, or_assoc]

theorem Chars.lt_of_isBlank {b : UInt8} (h : isBlank b = true) : b < 0x80 := by
  rw [UInt8.lt_iff_toNat_lt]
  rcases (isBlank_iff b).1 h with h | h | h <;> simp [h]

end NovelScript

import Mathlib
import NovelScript.Proofs.Lexer.IntLiteral
/-!
# Unicode escapes

In a string, speaker or message literal, `\u{h}` stands for the code point whose hex digits
are `h`. The decoder reads the digits into an accumulator that stops growing once it passes
U+10FFFF, so however many digits there are it never wraps around:

* the accumulator equals the exact value `hexValue h` while that is at most U+10FFFF, and
  stays above U+10FFFF once the value is (`Literal.Tracks`, `Literal.tracks_foldl`);
* so `\u{h}` with hex digits `h` closed by `}` decodes to the UTF-8 form of `hexValue h` when
  that is a Unicode scalar value, and to U+FFFD otherwise, with exactly one diagnostic: out of
  range above U+10FFFF, surrogate from U+D800 to U+DFFF (`Literal.escape_unicode`);
* and the body goes on right after the `}` (`Literal.body_unicode_escape`).

The text is seen as the list of its bytes from an offset on (`Utf8.bytesFrom`), so that an
escape is written as it reads: a backslash, `u`, `{`, the digits and `}`.
-/

namespace NovelScript

open Utf8 Chars

/-! ### The text from an offset on -/

namespace Utf8

/-- The bytes of `bs` from offset `i` on. -/
def bytesFrom (bs : ByteArray) (i : Nat) : List UInt8 := bs.data.toList.drop i

theorem bytesFrom_of_lt {bs : ByteArray} {i : Nat} (h : i < bs.size) :
    bytesFrom bs i = byteAt bs i :: bytesFrom bs (i + 1) := by
  have hlen : bs.data.toList.length = bs.size := Array.length_toList
  rw [bytesFrom, List.drop_eq_getElem_cons (by omega), byteAt_of_lt h]
  simp [bytesFrom, ByteArray.getElem_eq_getElem_data]

theorem bytesFrom_of_le {bs : ByteArray} {i : Nat} (h : bs.size ≤ i) : bytesFrom bs i = [] :=
  List.drop_eq_nil_of_le (by simpa using h)

theorem length_bytesFrom (bs : ByteArray) (i : Nat) : (bytesFrom bs i).length = bs.size - i := by
  simp [bytesFrom]

theorem drop_bytesFrom (bs : ByteArray) (i n : Nat) :
    (bytesFrom bs i).drop n = bytesFrom bs (i + n) := by
  simp [bytesFrom, List.drop_drop]

/-- A text that reads `b :: l` from `i` has `b` at `i`, inside it, and reads `l` from `i + 1`. -/
theorem bytesFrom_eq_cons {bs : ByteArray} {i : Nat} {b : UInt8} {l : List UInt8}
    (h : bytesFrom bs i = b :: l) : i < bs.size ∧ byteAt bs i = b ∧ bytesFrom bs (i + 1) = l := by
  have hi : i < bs.size := by
    by_contra hge
    rw [bytesFrom_of_le (Nat.le_of_not_lt hge)] at h
    cases h
  rw [bytesFrom_of_lt hi] at h
  obtain ⟨hb, hl⟩ := List.cons.inj h
  exact ⟨hi, hb, hl⟩

/-- An ASCII byte inside the text reads as itself, one byte long. -/
theorem decodeAt_ascii {bs : ByteArray} {i : Nat} (h : i < bs.size) (ha : byteAt bs i < 0x80) :
    decodeAt bs i = ((byteAt bs i).toNat, 1) := by
  unfold decodeAt
  simp [Nat.not_le.2 h, seqLength, ha]

end Utf8

set_option maxRecDepth 20000 in
theorem Chars.lt_of_isHex {b : UInt8} (h : isHex b = true) : b < 0x80 := by
  revert h b; decide

set_option maxRecDepth 20000 in
theorem Chars.isHex_ne {b : UInt8} (h : isHex b = true) : b ≠ 0x0A ∧ b ≠ 0x7D ∧ b ≠ 0x5C := by
  revert h b; decide

/-! ### The saturating accumulator -/

namespace Literal

/-- The value of a string of hex digits, most significant first. -/
def hexValue (h : List UInt8) : Nat := Nat.ofDigits 16 (h.map digitVal).reverse

/-- One digit pushed into the accumulator of `\u{…}`, which stops growing past U+10FFFF. -/
def satPush (a : Nat) (b : UInt8) : Nat := if a ≤ maxRune then a * 16 + digitVal b else a

/-- The accumulator `a` follows the value `v`: equal to it while `v` is at most U+10FFFF, and
above U+10FFFF once `v` is. -/
def Tracks (a v : Nat) : Prop := (v ≤ maxRune → a = v) ∧ (maxRune < v → maxRune < a)

/-- A pushed digit keeps the accumulator on the value: while the value is small both take the
digit, and past U+10FFFF the value only grows while the accumulator stays where it was. -/
theorem Tracks.push {a v : Nat} (h : Tracks a v) (b : UInt8) :
    Tracks (satPush a b) (v * 16 + digitVal b) := by
  obtain ⟨heq, hgt⟩ := h
  by_cases hv : v ≤ maxRune
  · obtain rfl := heq hv
    exact ⟨fun _ => by simp [satPush, hv], fun hlt => by simpa [satPush, hv] using hlt⟩
  · have ha := hgt (Nat.lt_of_not_le hv)
    simp only [Tracks, satPush, if_neg (Nat.not_le.2 ha)]
    exact ⟨fun h => absurd (le_trans (Nat.le_mul_of_pos_right v (by omega)) (le_trans
      (Nat.le_add_right _ _) h)) hv, fun _ => ha⟩

theorem Tracks.foldl {a v : Nat} (h : Tracks a v) (ds : List UInt8) :
    Tracks (ds.foldl satPush a) (ds.foldl (fun v b => v * 16 + digitVal b) v) := by
  induction ds generalizing a v with
  | nil => exact h
  | cons b ds ih => exact ih (h.push b)

/-- Digits pushed from zero: the accumulator follows the value of the digits. -/
theorem tracks_foldl (h : List UInt8) : Tracks (h.foldl satPush 0) (hexValue h) := by
  have hpos : h.foldl (fun v b => v * 16 + digitVal b) 0 = hexValue h := by
    rw [hexValue, ← foldl_positional, List.foldl_map]
  rw [← hpos]
  exact Tracks.foldl ⟨fun _ => rfl, fun h => absurd h (by decide)⟩ h

/-! ### What `\u{h}` stands for -/

/-- Whether `v` is a Unicode scalar value: at most U+10FFFF and no surrogate. -/
def IsScalar (v : Nat) : Prop := v ≤ maxRune ∧ ¬(0xD800 ≤ v ∧ v ≤ 0xDFFF)

instance (v : Nat) : Decidable (IsScalar v) := inferInstanceAs (Decidable (_ ∧ _))

/-- The text `\u{h}` stands for when `h` has the value `v`: the UTF-8 form of `v` when it is a
scalar value, U+FFFD otherwise. -/
def unicodeText (v : Nat) : ByteArray := if IsScalar v then encode v else encode replacement

/-- What `\u{h}` is reported as when `h` has the value `v`: out of range above U+10FFFF, a
surrogate from U+D800 to U+DFFF, nothing otherwise. -/
def unicodeCodes (v : Nat) : List Code :=
  if maxRune < v then [Code.lexUnicodeOutOfRange]
  else if 0xD800 ≤ v ∧ v ≤ 0xDFFF then [Code.lexUnicodeSurrogate] else []

/-! ### Decoding `\u{h}` -/

/-- Over hex digits closed by `}`, the digit reader pushes each digit into the accumulator and
stops right after the brace. -/
theorem unicodeDigits_hex {bs : ByteArray} {closer : Nat} (start : Nat) {rest : List UInt8}
    (hc : closer ≠ 0x7D) (ds : List UInt8) :
    ∀ (p a count : Nat) (notes : Array LiteralNote),
      bytesFrom bs p = ds ++ 0x7D :: rest → (∀ b ∈ ds, isHex b = true ∧ b.toNat ≠ closer) →
      unicodeDigits bs closer start p a count false notes =
        (ds.foldl satPush a, count + ds.length, false, notes, .ok (p + ds.length + 1)) := by
  induction ds with
  | nil =>
    -- the brace: the reader stops right after it
    intro p a count notes hbytes _
    obtain ⟨hp, hb, -⟩ := bytesFrom_eq_cons hbytes
    rw [unicodeDigits, if_pos hp, decodeAt_ascii hp (by rw [hb]; decide), hb]
    simp [Ne.symm hc]
  | cons b ds ih =>
    -- a digit: pushed, and the reader goes on at the next byte
    intro p a count notes hbytes hhex
    obtain ⟨hp, hb, hnext⟩ := bytesFrom_eq_cons hbytes
    obtain ⟨hx, hbc⟩ := hhex b List.mem_cons_self
    obtain ⟨hnl, hbr, -⟩ := isHex_ne hx
    have hlt := lt_of_isHex hx
    have hasc : b.toNat < 0x80 := by rw [UInt8.lt_iff_toNat_lt] at hlt; simpa using hlt
    rw [unicodeDigits, if_pos hp, decodeAt_ascii hp (by rw [hb]; exact hlt), hb]
    have hnl' : b.toNat ≠ 0x0A := fun h => hnl (UInt8.toNat_inj.1 h)
    have hbr' : b.toNat ≠ 0x7D := fun h => hbr (UInt8.toNat_inj.1 h)
    have hstop : (b.toNat == 0x0A || b.toNat == closer) = false := by simp [hnl', hbc]
    have hbrace : (b.toNat == 0x7D) = false := by simp [hbr']
    simp only [hstop, hbrace, hasc, decide_true, Bool.false_eq_true, if_false, UInt8.ofNat_toNat,
      hx, Bool.and_self, if_true, Nat.max_self]
    rw [ih (p + 1) _ (count + 1) notes hnext fun b hb => hhex b (List.mem_cons_of_mem _ hb),
      List.foldl_cons, List.length_cons, show count + 1 + ds.length = count + (ds.length + 1) by omega,
      show p + 1 + ds.length + 1 = p + (ds.length + 1) + 1 by omega]
    rfl

/-- `\u{h}` after its `u`, with hex digits `h` closed by `}`: the reader stops after the brace
with the text `unicodeText` gives and exactly the reports of `unicodeCodes`, over the escape. -/
theorem unicodeEscape_hex {bs : ByteArray} {closer start i : Nat} {h rest : List UInt8}
    (hbytes : bytesFrom bs i = 0x7B :: (h ++ 0x7D :: rest))
    (hhex : ∀ b ∈ h, isHex b = true ∧ b.toNat ≠ closer) (hne : h ≠ []) (hc : closer ≠ 0x7D) :
    ∃ more : Array LiteralNote,
      unicodeEscape bs closer start i = (i + h.length + 2, unicodeText (hexValue h), more) ∧
      more.toList.map (·.code) = unicodeCodes (hexValue h) ∧
      ∀ n ∈ more, n.start = start ∧ n.stop = i + h.length + 2 := by
  obtain ⟨hi, hb, hdigits⟩ := bytesFrom_eq_cons hbytes
  have hrun := unicodeDigits_hex start hc h (i + 1) 0 0 #[] hdigits hhex
  obtain ⟨heq, hgt⟩ := tracks_foldl h
  have hlen : h.length ≠ 0 := fun h0 => hne (List.length_eq_zero_iff.1 h0)
  have hj : i + 1 + h.length + 1 = i + h.length + 2 := by omega
  unfold unicodeEscape
  simp only [hb, bne_self_eq_false, ge_iff_le, Nat.not_le.2 hi, decide_false, Bool.or_self,
    Bool.false_eq_true, if_false, hrun, Nat.zero_add, hlen, hj]
  -- the accumulator is past U+10FFFF exactly when the value is, and equals it below
  by_cases hbig : maxRune < hexValue h
  · refine ⟨#[⟨start, i + h.length + 2, Code.lexUnicodeOutOfRange, #[.codepoint (h.foldl satPush 0)]⟩],
      ?_, ?_, ?_⟩
    · simp [hgt hbig, unicodeText, IsScalar, Nat.not_le.2 hbig]
    · simp [unicodeCodes, hbig]
    · simp
  · have hsmall := Nat.le_of_not_lt hbig
    rw [heq hsmall]
    by_cases hsur : 0xD800 ≤ hexValue h ∧ hexValue h ≤ 0xDFFF
    · refine ⟨#[⟨start, i + h.length + 2, Code.lexUnicodeSurrogate, #[.codepoint (hexValue h)]⟩],
        ?_, ?_, ?_⟩
      · simp [hsmall, hsur, unicodeText, IsScalar]
      · simp [unicodeCodes, hbig, hsur]
      · simp
    · refine ⟨#[], ?_, ?_, ?_⟩
      · simp only [Nat.not_lt.2 hsmall, if_false]
        simp [hsur, unicodeText, IsScalar, hsmall]
      · simp [unicodeCodes, hbig, hsur]
      · simp

/-- The escape `\u{h}` whose backslash is at `start`, with hex digits `h` closed by `}`: it ends
right after the brace, with the text `unicodeText` gives and exactly the reports of
`unicodeCodes`, over the whole escape. -/
theorem escape_unicode {bs : ByteArray} {closer start : Nat} {h rest : List UInt8}
    (hbytes : bytesFrom bs start = 0x5C :: 0x75 :: 0x7B :: (h ++ 0x7D :: rest))
    (hhex : ∀ b ∈ h, isHex b = true ∧ b.toNat ≠ closer) (hne : h ≠ []) (hc : closer ≠ 0x7D) :
    ∃ more : Array LiteralNote,
      escape bs closer start = (start + h.length + 4, unicodeText (hexValue h), more) ∧
      more.toList.map (·.code) = unicodeCodes (hexValue h) ∧
      ∀ n ∈ more, n.start = start ∧ n.stop = start + h.length + 4 := by
  obtain ⟨-, -, hu⟩ := bytesFrom_eq_cons hbytes
  obtain ⟨hi, hb, hbrace⟩ := bytesFrom_eq_cons hu
  obtain ⟨more, hesc, hcodes, hspan⟩ := unicodeEscape_hex hbrace hhex hne hc
  have hj : start + 1 + 1 + h.length + 2 = start + h.length + 4 := by omega
  refine ⟨more, ?_, hcodes, by rw [← hj]; exact hspan⟩
  unfold escape
  simp only [decodeAt_ascii hi (by rw [hb]; decide), hb]
  simp only [show ¬((0x75 : UInt8).toNat, 1).2 = 0 by decide, if_false]
  rw [show simpleEscape? (0x75 : UInt8).toNat = none from rfl]
  simp only [show ((0x75 : UInt8).toNat == 0x78) = false from rfl, Bool.false_eq_true, if_false,
    show ((0x75 : UInt8).toNat == 0x75) = true from rfl, if_true, hesc, hj]

/-- A literal body at an escape `\u{h}` whose hex digits `h` are closed by `}` before the closer:
the escape adds the UTF-8 form of `hexValue h` when that is a Unicode scalar value and U+FFFD
otherwise, with exactly one diagnostic, out of range above U+10FFFF or a surrogate from U+D800
to U+DFFF, over the escape; and the body goes on right after the `}` with the rest of the
literal. -/
theorem body_unicode_escape (bs : ByteArray) (lit : OpenLiteral) (i : Nat) (text : ByteArray)
    (notes : Array LiteralNote) {h rest : List UInt8}
    (hbytes : bytesFrom bs i = 0x5C :: 0x75 :: 0x7B :: (h ++ 0x7D :: rest))
    (hhex : ∀ b ∈ h, isHex b = true) (hne : h ≠ [])
    (hcl : lit.closer ≠ 0x5C ∧ lit.closer ≠ 0x7D ∧ ∀ b ∈ h, b.toNat ≠ lit.closer) :
    ∃ more : Array LiteralNote,
      body bs lit i text notes =
        body bs lit (i + h.length + 4) (text ++ unicodeText (hexValue h)) (notes ++ more) ∧
      more.toList.map (·.code) = unicodeCodes (hexValue h) ∧
      ∀ n ∈ more, n.start = i ∧ n.stop = i + h.length + 4 := by
  obtain ⟨hbs, hbr, hdigits⟩ := hcl
  obtain ⟨more, hesc, hcodes, hspan⟩ :=
    escape_unicode hbytes (fun b hb => ⟨hhex b hb, hdigits b hb⟩) hne hbr
  obtain ⟨hi, hb, -⟩ := bytesFrom_eq_cons hbytes
  refine ⟨more, ?_, hcodes, hspan⟩
  -- the backslash is no closer: the body decodes the escape and goes on after it
  rw [body, if_pos hi, decodeAt_ascii hi (by rw [hb]; decide), hb]
  simp only [show (0x5C : UInt8).toNat = 0x5C from rfl, beq_iff_eq, Ne.symm hbs, if_false,
    if_true, hesc]
  rw [Nat.max_eq_left (by omega)]

/-- The text `"\u{110000}"`: a string whose escape is one past U+10FFFF. -/
def pastMaxRuneText : ByteArray :=
  ⟨#[0x22, 0x5C, 0x75, 0x7B, 0x31, 0x31, 0x30, 0x30, 0x30, 0x30, 0x7D, 0x22]⟩

/-- A plain string literal, closed by `"`. -/
def plainString : OpenLiteral := ⟨.string, .none, false, 0x22, Range.none⟩

theorem body_unicode_escape_past_max :
    bytesFrom pastMaxRuneText 1 =
        0x5C :: 0x75 :: 0x7B :: ([0x31, 0x31, 0x30, 0x30, 0x30, 0x30] ++ 0x7D :: [0x22]) ∧
      (∀ b ∈ ([0x31, 0x31, 0x30, 0x30, 0x30, 0x30] : List UInt8), isHex b = true) ∧
      ([0x31, 0x31, 0x30, 0x30, 0x30, 0x30] : List UInt8) ≠ [] ∧
      (plainString.closer ≠ 0x5C ∧ plainString.closer ≠ 0x7D ∧
        ∀ b ∈ ([0x31, 0x31, 0x30, 0x30, 0x30, 0x30] : List UInt8), b.toNat ≠ plainString.closer) ∧
      ∃ more : Array LiteralNote,
        body pastMaxRuneText plainString 1 .empty #[] =
          body pastMaxRuneText plainString (1 + 6 + 4)
            (.empty ++ unicodeText (hexValue [0x31, 0x31, 0x30, 0x30, 0x30, 0x30])) (#[] ++ more) ∧
        more.toList.map (·.code) = unicodeCodes (hexValue [0x31, 0x31, 0x30, 0x30, 0x30, 0x30]) ∧
        ∀ n ∈ more, n.start = 1 ∧ n.stop = 1 + 6 + 4 :=
  have hbytes : bytesFrom pastMaxRuneText 1 =
      0x5C :: 0x75 :: 0x7B :: ([0x31, 0x31, 0x30, 0x30, 0x30, 0x30] ++ 0x7D :: [0x22]) := by
    simp [bytesFrom, pastMaxRuneText]
  ⟨hbytes, by decide +kernel, by decide, by decide +kernel,
    body_unicode_escape pastMaxRuneText plainString 1 .empty #[] hbytes (by decide +kernel)
      (by decide) (by decide +kernel)⟩

end Literal

end NovelScript

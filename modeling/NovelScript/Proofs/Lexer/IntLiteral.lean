import Mathlib
import NovelScript.Proofs.Lexer.Modes
/-!
# Integer literals

An integer literal is a radix prefix (none, `0x`, `0b`, `0o`, `0c`, `0(r)` or `#(r)`), a run of
digits of that radix with `_` separators, and a suffix. Its digits accumulate in a 64-bit word
that wraps around, with a flag that sticks once a digit carries out of 64 bits.

* The accumulator holds the value of the digits read so far: the word is the value modulo
  2^64 and the flag says whether the value needs more than 64 bits (`IntAcc.Holds`), because
  the value never shrinks as digits are appended.
* The grammar of integer literals is stated on its own terms (`IntLiteral`), and the reader
  takes such a literal to the value of its digits (`Numeral.read_intLiteral`).
* The scanner then stores the value in the narrowest class that holds it, or truncates it to
  an explicit class, and reports exactly the overflow and the truncation
  (`scan_intLiteral`); so a signed number never reads back negative unless it was reported.
-/

open Std.Do

set_option mvcgen.warning false

namespace NovelScript

open Utf8 Chars

/-! ### The 64-bit accumulator -/

namespace IntAcc

/-- The accumulator holds the value `n`: its word is `n` modulo 2^64, and its flag says whether
`n` needs more than 64 bits. -/
def Holds (a : IntAcc) (n : Nat) : Prop :=
  a.val.toNat = n % 2 ^ 64 ∧ a.overflow = decide (2 ^ 64 ≤ n)

theorem holds_zero : ({} : IntAcc).Holds 0 := ⟨rfl, rfl⟩

/-- Appending a digit appends it to the value held: the word keeps the low 64 bits, and the
flag is set exactly when the value passes 64 bits, since in a radix of at least 1 the value
never falls back below a bound it has passed. -/
theorem Holds.push {a : IntAcc} {n : Nat} (h : a.Holds n) {r : Nat} (hr : 1 ≤ r) (d : Nat) :
    (a.push r d).Holds (n * r + d) := by
  obtain ⟨hv, ho⟩ := h
  have hgrow : n ≤ n * r := Nat.le_mul_of_pos_right n hr
  refine ⟨?_, ?_⟩
  · simp only [IntAcc.push, Nat.pow_eq, Nat.toUInt64_eq, UInt64.toNat_ofNat', hv]
    rw [Nat.mod_mul_mod, Nat.mod_add_mod]
  · simp only [IntAcc.push, Nat.pow_eq, ho, hv]
    by_cases hn : 2 ^ 64 ≤ n
    · -- the flag already stands, and the value only grows
      simp only [hn, decide_true, Bool.true_or]
      exact (decide_eq_true (by omega)).symm
    · -- below 2^64 the word is the value itself, so the carries are those of the exact sum
      rw [Nat.mod_eq_of_lt (Nat.lt_of_not_le hn)]
      simp only [hn, decide_false, Bool.false_or]
      by_cases hp : 2 ^ 64 ≤ n * r
      · have hq : (n * r / 2 ^ 64 != 0) = true := by rw [bne_iff_ne]; omega
        rw [hq, Bool.true_or]
        exact (decide_eq_true (by omega)).symm
      · rw [Nat.div_eq_of_lt (Nat.lt_of_not_le hp), Nat.mod_eq_of_lt (Nat.lt_of_not_le hp)]
        simp

/-- Digits pushed one after another: the accumulator holds the positional value. -/
theorem Holds.foldl {a : IntAcc} {n : Nat} (h : a.Holds n) {r : Nat} (hr : 1 ≤ r)
    (ds : List Nat) :
    (ds.foldl (fun a d => a.push r d) a).Holds (ds.foldl (fun v d => v * r + d) n) := by
  induction ds generalizing a n with
  | nil => exact h
  | cons d ds ih => exact ih (h.push hr d)

end IntAcc

/-- Appending digits, most significant first, computes their positional value. -/
theorem foldl_positional (r : Nat) (ds : List Nat) :
    ds.foldl (fun v d => v * r + d) 0 = Nat.ofDigits r ds.reverse := by
  induction ds using List.reverseRecOn with
  | nil => rfl
  | append_singleton ds d ih =>
    rw [List.foldl_append, ih, List.reverse_append, List.reverse_singleton, List.singleton_append,
      Nat.ofDigits_cons]
    simp only [List.foldl_cons, List.foldl_nil]
    ring

/-! ### Bytes and runs -/

theorem ByteArray.toList_loop (bs : ByteArray) (i : Nat) (r : List UInt8) :
    ByteArray.toList.loop bs i r = r.reverse ++ bs.data.toList.drop i := by
  have hlen : bs.data.toList.length = bs.size := Array.length_toList
  fun_induction ByteArray.toList.loop bs i r with
  | case1 i r hi ih =>
    rw [ih, List.reverse_cons, List.append_assoc, List.singleton_append,
      List.drop_eq_getElem_cons (show i < bs.data.toList.length by omega)]
    simp [ByteArray.get!, hi]
  | case2 i r hi =>
    simp [List.drop_eq_nil_of_le (show bs.data.toList.length ≤ i by omega)]

theorem ByteArray.toList_eq_data (bs : ByteArray) : bs.toList = bs.data.toList := by
  simp [ByteArray.toList, ByteArray.toList_loop]

/-- The bytes from `a` to `b` start with the byte at `a`. -/
theorem ByteArray.toList_extract_cons {bs : ByteArray} {a b : Nat} (hab : a < b)
    (hb : b ≤ bs.size) :
    (bs.extract a b).toList = byteAt bs a :: (bs.extract (a + 1) b).toList := by
  have hlen : bs.data.toList.length = bs.size := Array.length_toList
  simp only [ByteArray.toList_eq_data, ByteArray.data_extract, Array.toList_extract,
    List.extract_eq_take_drop]
  rw [List.drop_eq_getElem_cons (show a < bs.data.toList.length by omega),
    show b - a = (b - (a + 1)) + 1 by omega, List.take_succ_cons, byteAt_of_lt (by omega)]
  simp [ByteArray.getElem_eq_getElem_data]

/-- Every byte of a run satisfies its test. -/
theorem Chars.runEnd_all (bs : ByteArray) (p : UInt8 → Bool) (i : Nat) :
    ∀ k, i ≤ k → k < runEnd bs p i → p (byteAt bs k) = true := by
  fun_induction runEnd bs p i with
  | case1 i hi hp ih =>
    intro k hik hk
    rcases Nat.eq_or_lt_of_le hik with rfl | hlt
    · rwa [byteAt_of_lt hi]
    · exact ih k hlt hk
  | case2 => omega
  | case3 => omega

/-- A run of bytes that pass `p` from `i` to `j`, stopped by one that fails it or by the end of
the text, is what `runEnd` finds. -/
theorem Chars.runEnd_eq {bs : ByteArray} {p : UInt8 → Bool} {i j : Nat} (hij : i ≤ j)
    (hj : j ≤ bs.size) (hrun : ∀ k, i ≤ k → k < j → p (byteAt bs k) = true)
    (hstop : j < bs.size → p (byteAt bs j) = false) : runEnd bs p i = j := by
  induction h : j - i generalizing i with
  | zero =>
    have hi : i = j := by omega
    subst hi
    unfold runEnd
    split
    · next hlt => rw [← byteAt_of_lt hlt, hstop hlt]; simp
    · rfl
  | succ n ih =>
    have hlt : i < bs.size := by omega
    unfold runEnd
    rw [dif_pos hlt, ← byteAt_of_lt hlt, hrun i le_rfl (by omega), if_pos rfl]
    exact ih (by omega) (fun k hk hkj => hrun k (by omega) hkj) (by omega)

theorem Chars.digitVal_of_isDec {b : UInt8} (h : isDec b = true) :
    digitVal b = (b - 0x30).toNat := by
  simp [digitVal, h]

theorem Chars.isDec_of_digitVal_lt {b : UInt8} (h : digitVal b < 10) :
    isDec b = true := by
  unfold digitVal at h
  split at h
  · assumption
  · split at h <;> omega

set_option maxRecDepth 20000 in
theorem Chars.isIdentStartByte_of_isDec {b : UInt8} (h : isDec b = true) :
    isIdentStartByte b = false := by
  revert h b; decide

/-! ### The grammar of integer literals -/

namespace Numeral

/-- The bytes from `i` to `j` with the `_` separators left out. -/
def digitsBetween (bs : ByteArray) (i j : Nat) : List UInt8 :=
  (bs.extract i j).toList.filter (· != 0x5F)

/-- The value of the digits from `i` to `j` in radix `r`, separators ignored. -/
def valueBetween (bs : ByteArray) (r i j : Nat) : Nat :=
  Nat.ofDigits r ((digitsBetween bs i j).map digitVal).reverse

/-- Digits of radix `r` and `_` separators from `i` to `j`, at least one digit among them,
stopped at `j` by a byte (0 past the end) that is no separator, no digit of the radix and no
decimal digit. -/
structure DigitRun (bs : ByteArray) (r i j : Nat) : Prop where
  le : i ≤ j
  inside : j ≤ bs.size
  digits : ∀ k, i ≤ k → k < j → byteAt bs k = 0x5F ∨ digitVal (byteAt bs k) < r
  some_digit : digitsBetween bs i j ≠ []
  stop_sep : byteAt bs j ≠ 0x5F
  stop_digit : r ≤ digitVal (byteAt bs j)
  stop_dec : isDec (byteAt bs j) = false

/-- Decimal digits from `k` to `m` and `)` at `m`: the radix `r` of `0(r)` or `#(r)`. -/
structure RadixSpec (bs : ByteArray) (k r m : Nat) : Prop where
  lt : k < m
  digits : ∀ x, k ≤ x → x < m → isDec (byteAt bs x) = true
  close : byteAt bs m = 0x29
  value : r = Nat.ofDigits 10 (((bs.extract k m).toList).map digitVal).reverse

/-- A radix prefix after a leading `0`: `0x`, `0b`, `0o`, `0c` in either case, or `0(r)`. -/
def PrefixAt (bs : ByteArray) (start : Nat) : Prop :=
  byteAt bs start = 0x30 ∧
    (let c := byteAt bs (start + 1) ||| 0x20
     c = 0x78 ∨ c = 0x62 ∨ c = 0x6F ∨ c = 0x63 ∨
      byteAt bs (start + 1) = 0x28 ∧ ∃ r m, RadixSpec bs (start + 2) r m)

/-- How a number literal at `start` gives its radix, and where its digits start. -/
inductive RadixPrefix (bs : ByteArray) (start : Nat) : Nat → Nat → Prop
  /-- None: a decimal literal, starting with a digit. -/
  | decimal : isDec (byteAt bs start) = true → ¬PrefixAt bs start → RadixPrefix bs start 10 start
  /-- `0x` or `0X`. -/
  | hex : byteAt bs start = 0x30 → byteAt bs (start + 1) ||| 0x20 = 0x78 →
      RadixPrefix bs start 16 (start + 2)
  /-- `0b` or `0B`. -/
  | binary : byteAt bs start = 0x30 → byteAt bs (start + 1) ||| 0x20 = 0x62 →
      RadixPrefix bs start 2 (start + 2)
  /-- `0o`, `0O`, `0c` or `0C`. -/
  | octal : byteAt bs start = 0x30 →
      (byteAt bs (start + 1) ||| 0x20 = 0x6F ∨ byteAt bs (start + 1) ||| 0x20 = 0x63) →
      RadixPrefix bs start 8 (start + 2)
  /-- `0(r)` or `#(r)`. -/
  | explicit {r m : Nat} : (byteAt bs start = 0x30 ∨ byteAt bs start = 0x23) →
      byteAt bs (start + 1) = 0x28 → RadixSpec bs (start + 2) r m →
      RadixPrefix bs start r (m + 1)

/-- What makes a decimal literal a float: `.` and a digit, or `e` or `E` and a digit, maybe
after a sign. -/
def FloatTail (bs : ByteArray) (j : Nat) : Prop :=
  (byteAt bs j = 0x2E ∧ isDec (byteAt bs (j + 1)) = true) ∨
    (byteAt bs j ||| 0x20 = 0x65 ∧ (isDec (byteAt bs (j + 1)) = true ∨
      (byteAt bs (j + 1) = 0x2B ∨ byteAt bs (j + 1) = 0x2D) ∧ isDec (byteAt bs (j + 2)) = true))

/-- An integer literal of radix `r` at `start`, its digits from `i` to `j`: a radix prefix
naming a radix from 2 to 36, a run of its digits and separators, and after the digits of a
decimal literal neither a fraction nor an exponent. -/
structure IntLiteral (bs : ByteArray) (start r i j : Nat) : Prop where
  radix : RadixPrefix bs start r i
  two_le : 2 ≤ r
  le_36 : r ≤ 36
  body : DigitRun bs r i j
  integral : i = start → ¬FloatTail bs j

/-! ### Reading the digits -/

theorem digitsBetween_self (bs : ByteArray) (j : Nat) : digitsBetween bs j j = [] := by
  simp [digitsBetween]

theorem digitsBetween_sep {bs : ByteArray} {k j : Nat} (hk : k < j) (hj : j ≤ bs.size)
    (hb : byteAt bs k = 0x5F) : digitsBetween bs k j = digitsBetween bs (k + 1) j := by
  simp [digitsBetween, ByteArray.toList_extract_cons hk hj, hb]

theorem digitsBetween_digit {bs : ByteArray} {k j : Nat} (hk : k < j) (hj : j ≤ bs.size)
    (hb : byteAt bs k ≠ 0x5F) :
    digitsBetween bs k j = byteAt bs k :: digitsBetween bs (k + 1) j := by
  simp [digitsBetween, ByteArray.toList_extract_cons hk hj, hb]

/-- The bytes from `k` to `j` pass every test that each byte there passes. -/
theorem forall_mem_extract {bs : ByteArray} {P : UInt8 → Prop} {k j : Nat} (hj : j ≤ bs.size)
    (h : ∀ x, k ≤ x → x < j → P (byteAt bs x)) : ∀ c ∈ (bs.extract k j).toList, P c := by
  induction hn : j - k generalizing k with
  | zero => simp [show k ≥ j by omega, ByteArray.toList_eq_data]
  | succ n ih =>
    have hk : k < j := by omega
    rw [ByteArray.toList_extract_cons hk hj]
    rintro c (_ | ⟨_, hc⟩)
    · exact h k le_rfl hk
    · exact ih (fun x hx hxj => h x (by omega) hxj) (by omega) c hc

/-- The digits between `k` and `j` pass every test that each byte there passes unless it is a
separator. -/
theorem forall_mem_digitsBetween {bs : ByteArray} {P : UInt8 → Prop} {k j : Nat}
    (hj : j ≤ bs.size) (h : ∀ x, k ≤ x → x < j → byteAt bs x = 0x5F ∨ P (byteAt bs x)) :
    ∀ c ∈ digitsBetween bs k j, P c := by
  intro c hc
  obtain ⟨hmem, hsep⟩ := List.mem_filter.1 hc
  exact (forall_mem_extract (P := fun c => c = 0x5F ∨ P c) hj h c hmem).resolve_left
    (by simpa using hsep)

/-- Over a run of digits the radix reader pushes each digit into the accumulator, counts
them, finds no bad digit, and stops where the run ends. -/
theorem radixDigits_run {bs : ByteArray} {r i j : Nat} (h : DigitRun bs r i j) :
    ∀ k, i ≤ k → k ≤ j → ∀ (acc : IntAcc) (count : Nat),
      radixDigits bs r k acc count 0 =
        (((digitsBetween bs k j).map digitVal).foldl (fun a d => a.push r d) acc,
          count + (digitsBetween bs k j).length, 0, j) := by
  intro k hik hkj
  induction hn : j - k generalizing k with
  | zero =>
    -- at the stop: no separator, no digit of the radix, no decimal digit
    have hk : k = j := by omega
    subst hk
    intro acc count
    unfold radixDigits
    rw [digitsBetween_self]
    split
    · simp [h.stop_sep, h.stop_dec, Nat.not_lt.2 h.stop_digit]
    · rfl
  | succ n ih =>
    intro acc count
    have hk : k < j := by omega
    have hks : k < bs.size := by have := h.inside; omega
    unfold radixDigits
    rw [if_pos hks]
    by_cases hb : byteAt bs k = 0x5F
    · -- a separator is skipped
      simp only [hb, beq_self_eq_true, if_true]
      rw [ih (k + 1) (by omega) (by omega) (by omega), digitsBetween_sep hk h.inside hb]
    · -- a digit of the radix is pushed and counted
      have hd := (h.digits k hik hk).resolve_left hb
      simp only [beq_iff_eq, hb, if_false, ge_iff_le, Nat.not_le.2 hd]
      rw [ih (k + 1) (by omega) (by omega) (by omega), digitsBetween_digit hk h.inside hb]
      simp only [List.map_cons, List.foldl_cons, List.length_cons]
      congr 2
      omega

/-- An accumulator fed the digits from `i` to `j` holds their value. -/
theorem holds_digitsBetween (bs : ByteArray) {r : Nat} (hr : 1 ≤ r) (i j : Nat) :
    (((digitsBetween bs i j).map digitVal).foldl (fun (a : IntAcc) d => a.push r d) {}).Holds
      (valueBetween bs r i j) := by
  rw [valueBetween, ← foldl_positional]
  exact IntAcc.holds_zero.foldl hr _

/-- Digits after a radix prefix read as their value modulo 2^64, with the overflow flag set
exactly when the value needs more than 64 bits. -/
theorem radixNumber_digitRun {bs : ByteArray} {r i j : Nat} (h : DigitRun bs r i j)
    (hr : 1 ≤ r) :
    radixNumber bs r i = .int (suffixAt bs j).2 (valueBetween bs r i j % 2 ^ 64)
      (decide (2 ^ 64 ≤ valueBetween bs r i j)) (suffixAt bs j).1 := by
  obtain ⟨hv, ho⟩ := holds_digitsBetween bs hr i j
  have hc : (digitsBetween bs i j).length ≠ 0 := by
    simpa [List.length_eq_zero_iff] using h.some_digit
  unfold radixNumber
  rw [radixDigits_run h i le_rfl h.le]
  simp only [bne_self_eq_false, Bool.false_eq_true, if_false, Nat.zero_add, hc, hv, ho]

/-- A decimal literal with no fraction or exponent after its digits reads as its value modulo
2^64, with the overflow flag set exactly when the value needs more than 64 bits. -/
theorem decimal_digitRun {bs : ByteArray} {start j : Nat} (h : DigitRun bs 10 start j)
    (hf : ¬FloatTail bs j) :
    decimal bs start = .int (suffixAt bs j).2 (valueBetween bs 10 start j % 2 ^ 64)
      (decide (2 ^ 64 ≤ valueBetween bs 10 start j)) (suffixAt bs j).1 := by
  have hrun : runEnd bs (fun c => isDec c || c == 0x5F) start = j := by
    refine runEnd_eq h.le h.inside (fun k hk hkj => ?_) (fun _ => ?_)
    · rcases h.digits k hk hkj with hb | hd
      · simp [hb]
      · simp [isDec_of_digitVal_lt hd]
    · simp [h.stop_dec, h.stop_sep]
  have hdot : (byteAt bs j == 0x2E && isDec (byteAt bs (j + 1))) = false := by
    simp only [FloatTail, not_or, not_and] at hf
    cases hd : isDec (byteAt bs (j + 1))
    · simp
    · simpa using hf.1.mt (by simp [hd])
  have hexp : (byteAt bs j ||| 0x20 == 0x65) = true →
      (isDec (byteAt bs (j + 1)) || (byteAt bs (j + 1) == 0x2B || byteAt bs (j + 1) == 0x2D) &&
        isDec (byteAt bs (j + 2))) = false := by
    intro he
    simp only [FloatTail, not_or, not_and] at hf
    simpa using hf.2 (by simpa using he)
  -- the digits are decimal, so subtracting `0` is taking their digit value
  have hmap : (digitsBetween bs start j).map (fun c => (c - 0x30).toNat) =
      (digitsBetween bs start j).map digitVal :=
    List.map_congr_left fun c hc => (digitVal_of_isDec (forall_mem_digitsBetween
      (P := fun c => isDec c = true) h.inside
      (fun x hx hxj => (h.digits x hx hxj).imp_right isDec_of_digitVal_lt) c hc)).symm
  obtain ⟨hv, ho⟩ := holds_digitsBetween bs (show 1 ≤ 10 by norm_num) start j
  rw [← hmap, List.foldl_map] at hv ho
  unfold decimal
  simp only [hrun, hdot, Bool.false_eq_true, if_false]
  by_cases he : (byteAt bs j ||| 0x20 == 0x65) = true
  · simp only [he, hexp he, if_true, Bool.false_eq_true, if_false]
    exact congrArg₂ (int _ · · _) hv ho
  · simp only [he, Bool.false_eq_true, if_false]
    exact congrArg₂ (int _ · · _) hv ho

/-! ### The radix prefix -/

theorem le_foldl_decimal (f : UInt8 → Nat) (cs : List UInt8) (a : Nat) :
    a ≤ cs.foldl (fun r c => r * 10 + f c) a := by
  induction cs generalizing a with
  | nil => exact le_rfl
  | cons c cs ih => exact le_trans (by omega) (ih (a * 10 + f c))

/-- The radix of `0(r)` is read saturating at 1000; below that it is the exact value. -/
theorem foldl_saturate (f : UInt8 → Nat) (cs : List UInt8) (a : Nat)
    (h : cs.foldl (fun r c => r * 10 + f c) a < 1000) :
    cs.foldl (fun r c => if r < 1000 then r * 10 + f c else r) a =
      cs.foldl (fun r c => r * 10 + f c) a := by
  induction cs generalizing a with
  | nil => rfl
  | cons c cs ih =>
    have hle := le_foldl_decimal f cs (a * 10 + f c)
    simp only [List.foldl_cons] at h ⊢
    rw [if_pos (by omega)]
    exact ih _ h

/-- The radix of `0(r)` or `#(r)`, read from its digits. -/
theorem radixSpec_eq {bs : ByteArray} {k r m : Nat} (h : RadixSpec bs k r m)
    (hm : m ≤ bs.size) (hr : r < 1000) : radixSpec bs k = (r, true, m + 1) := by
  have hrun : runEnd bs isDec k = m :=
    runEnd_eq h.lt.le hm h.digits (fun _ => by rw [h.close]; decide)
  -- the digits are decimal, so subtracting `0` is taking their digit value
  have hdig : ((bs.extract k m).toList).map (fun c => (c - 0x30).toNat) =
      ((bs.extract k m).toList).map digitVal :=
    List.map_congr_left fun c hc =>
      (digitVal_of_isDec (forall_mem_extract (P := fun c => isDec c = true) hm h.digits c hc)).symm
  have hexact : ((bs.extract k m).toList).foldl (fun r c => r * 10 + (c - 0x30).toNat) 0 = r := by
    rw [h.value, ← hdig, ← foldl_positional, List.foldl_map]
  unfold radixSpec
  simp only [hrun, h.close, beq_self_eq_true, Bool.and_true, decide_eq_true h.lt, if_true,
    foldl_saturate _ _ _ (hexact ▸ hr), hexact]

/-- Digits and `)` ahead are exactly a radix spec. -/
theorem radixSpecAhead_iff (bs : ByteArray) (k : Nat) :
    radixSpecAhead bs k = true ↔ ∃ r m, RadixSpec bs k r m := by
  constructor
  · intro h
    simp only [radixSpecAhead, Bool.and_eq_true, decide_eq_true_eq, beq_iff_eq] at h
    exact ⟨_, _, ⟨h.1, runEnd_all bs isDec k, h.2, rfl⟩⟩
  · rintro ⟨r, m, hs⟩
    have hm : m < bs.size := byteAt_ne_zero (by rw [hs.close]; decide)
    have hrun : runEnd bs isDec k = m :=
      runEnd_eq hs.lt.le hm.le hs.digits (fun _ => by rw [hs.close]; decide)
    simp [radixSpecAhead, hrun, hs.lt, hs.close]

/-- A literal that starts with a digit and has no radix prefix is read as a decimal one. -/
theorem read_decimal {bs : ByteArray} {start : Nat} (hd : isDec (byteAt bs start) = true)
    (hp : ¬PrefixAt bs start) : read bs start = decimal bs start := by
  have hhash : (byteAt bs start == 0x23) = false := by
    rw [beq_eq_false_iff_ne]
    intro h
    rw [h] at hd
    exact absurd hd (by decide)
  unfold read
  by_cases h0 : byteAt bs start = 0x30
  · simp only [PrefixAt, h0, true_and, not_or, not_and, not_exists] at hp
    obtain ⟨hx, hb, ho, hc, hspec⟩ := hp
    have hahead : (byteAt bs (start + 1) == 0x28 && radixSpecAhead bs (start + 2)) = false := by
      by_cases hpar : byteAt bs (start + 1) = 0x28
      · have hno : radixSpecAhead bs (start + 2) = false := by
          by_contra hne
          obtain ⟨r, m, hs⟩ := (radixSpecAhead_iff bs (start + 2)).1 (by simpa using hne)
          exact hspec hpar r m hs
        simp [hno]
      · simp [hpar]
    simp [h0, hx, hb, ho, hc, hahead]
  · simp [hhash, h0]

/-- An integer literal reads as the value of its digits modulo 2^64, with the overflow flag
set exactly when that value needs more than 64 bits, and the suffix after its digits. -/
theorem read_intLiteral {bs : ByteArray} {start r i j : Nat} (h : IntLiteral bs start r i j) :
    read bs start = .int (suffixAt bs j).2 (valueBetween bs r i j % 2 ^ 64)
      (decide (2 ^ 64 ≤ valueBetween bs r i j)) (suffixAt bs j).1 := by
  obtain ⟨hpre, h2, h36, hrun, hint⟩ := h
  -- every prefix but none leads to the radix reader
  suffices hpre' : i ≠ start → read bs start = radixNumber bs r i by
    by_cases hi : i = start
    · subst hi
      cases hpre with
      | decimal hd hp =>
        rw [read_decimal hd hp]
        exact decimal_digitRun hrun (hint rfl)
      | explicit _ _ hs => have := hs.lt; omega
    · rw [hpre' hi]
      exact radixNumber_digitRun hrun (by omega)
  intro hi
  cases hpre with
  | decimal => exact absurd rfl hi
  | hex h0 hx =>
    unfold read
    simp [h0, hx]
  | binary h0 hb =>
    unfold read
    simp [h0, hb]
  | octal h0 ho =>
    unfold read
    rcases ho with ho | ho <;> simp [h0, ho]
  | @explicit r m hlead hpar hs =>
    have hm : m < bs.size := byteAt_ne_zero (by rw [hs.close]; decide)
    have hspec := radixSpec_eq hs hm.le (by omega)
    have hrange : ¬(r ≤ 1 ∨ 36 < r) := by omega
    unfold read
    rcases hlead with h0 | h0
    · have hahead := (radixSpecAhead_iff bs (start + 2)).2 ⟨r, m, hs⟩
      simp +decide [h0, hpar, hahead, hspec, hrange]
    · simp [h0, hspec, hrange]

theorem RadixPrefix.start_le {bs : ByteArray} {start r i : Nat} (h : RadixPrefix bs start r i) :
    start ≤ i := by
  cases h with
  | explicit _ _ hs => have := hs.lt; omega
  | _ => omega

/-- The first bytes of a literal send the scanner to the number reader: no identifier starts
there, and a digit or `#(` does. -/
theorem RadixPrefix.scans_number {bs : ByteArray} {start r i : Nat}
    (h : RadixPrefix bs start r i) :
    isIdentStartByte (byteAt bs start) = false ∧
      (isDec (byteAt bs start) || (byteAt bs start == 0x2E && isDec (byteAt bs (start + 1))) ||
        (byteAt bs start == 0x23 && byteAt bs (start + 1) == 0x28)) = true := by
  cases h with
  | decimal hd _ => simp [hd, Chars.isIdentStartByte_of_isDec hd]
  | hex h0 _ | binary h0 _ | octal h0 _ =>
    simp only [h0, show isIdentStartByte 0x30 = false by decide, show isDec 0x30 = true by decide,
      Bool.true_or, and_self]
  | explicit hlead hpar _ => rcases hlead with h0 | h0 <;> rw [h0, hpar] <;> decide

theorem DigitRun.lt {bs : ByteArray} {r i j : Nat} (h : DigitRun bs r i j) : i < j := by
  refine lt_of_le_of_ne h.le fun hij => h.some_digit ?_
  rw [hij, digitsBetween_self]

/-- A literal ends past its first byte. -/
theorem IntLiteral.start_lt {bs : ByteArray} {start r i j : Nat} (h : IntLiteral bs start r i j) :
    start < j :=
  lt_of_le_of_lt h.radix.start_le h.body.lt

end Numeral

/-! ### Widths and classes -/

namespace LexM

/-- `v` has at most `k` bits exactly when it is below `2^k`. -/
theorem bitLen_le_iff (v k : Nat) : bitLen v ≤ k ↔ v < 2 ^ k := by
  unfold bitLen
  by_cases hv : v = 0
  · simp [hv]
  · have := Nat.log2_lt (k := k) hv
    simp only [hv, if_false]
    omega

/-- Below 2^64, bit 63 is set exactly from 2^63 on. -/
theorem bitLen_eq_64_iff {v : Nat} (hv : v < 2 ^ 64) : bitLen v = 64 ↔ 2 ^ 63 ≤ v := by
  have h64 := (bitLen_le_iff v 64).2 hv
  have h63 := bitLen_le_iff v 63
  omega

/-- A width of 1, 2, 4 or 8 bytes is narrower than the one `magnitudeBytes` picks exactly when
the value does not fit in it. -/
theorem lt_magnitudeBytes_iff {v w : Nat} (hv : v < 2 ^ 64)
    (hw : w = 1 ∨ w = 2 ∨ w = 4 ∨ w = 8) : w < magnitudeBytes v ↔ 2 ^ (8 * w) ≤ v := by
  have h8 := bitLen_le_iff v 8
  have h16 := bitLen_le_iff v 16
  have h32 := bitLen_le_iff v 32
  unfold magnitudeBytes
  dsimp only
  rcases hw with rfl | rfl | rfl | rfl <;> split_ifs <;> omega

end LexM

/-- An integer class that is not `none` has a width of 1, 2, 4 or 8 bytes. -/
theorem NumKind.bytes_cases {k : NumKind} (hn : k ≠ .none) (hf : k.isFloat = false) :
    k.bytes = 1 ∨ k.bytes = 2 ∨ k.bytes = 4 ∨ k.bytes = 8 := by
  cases k <;> simp_all [NumKind.bytes, NumKind.isFloat]

theorem NumKind.ofCode?_code (k : NumKind) : NumKind.ofCode? k.code = some k := by
  cases k <;> rfl

/-- The flags of a number keep its class and its unit apart. -/
theorem numberFlags_parts (k : NumKind) (u : NumUnit) :
    ((numberFlags k.code u.code) &&& 0x0F).toNat = k.code ∧
      ((numberFlags k.code u.code) >>> 4).toNat = u.code := by
  cases k <;> cases u <;> decide

/-- A payload below 2^63 reads back as a non-negative signed value. -/
theorem Token.int_nonneg {t : Token} (h : t.value.toNat < 2 ^ 63) : 0 ≤ t.int := by
  unfold Token.int
  rw [← Int64.toInt_toBitVec, UInt64.toBitVec_toInt64, BitVec.toInt_eq_toNat_cond]
  simp only [UInt64.toNat_toBitVec]
  split <;> omega

/-! ### Storing an integer -/

/-- How the number token `t` stores the 64-bit value `v` read with the suffix `info`: with no
class, in the narrowest of 1, 2, 4 and 8 bytes that holds it, unsigned when the suffix is `u` or
bit 63 is set; with a class, cut to the class's width, except that `s64` keeps a value with
bit 63 set. The unit goes with it either way. -/
structure IntStored (v : Nat) (info : LexM.NumSuffix) (t : Token) : Prop where
  kind : t.kind = .number
  unit : t.numUnit = info.unit.code
  inferred : info.kind = .none →
    t.numKind = (NumKind.ofWidth (LexM.magnitudeBytes v) (info.unsigned || decide (2 ^ 63 ≤ v))).code ∧
      t.value.toNat = v
  explicit : info.kind ≠ .none → t.numKind = info.kind.code ∧
    t.value.toNat = if info.kind = .s8 ∧ 2 ^ 63 ≤ v then v else v % 2 ^ (8 * info.kind.bytes)

/-- Storing `v` with the suffix `info` is reported as a truncation: an explicit class too narrow
for `v`, or `s64` on a value with bit 63 set. -/
def Truncates (v : Nat) (info : LexM.NumSuffix) : Prop :=
  info.kind ≠ .none ∧ (info.kind = .s8 ∧ 2 ^ 63 ≤ v ∨ 2 ^ (8 * info.kind.bytes) ≤ v)

instance (v : Nat) (info : LexM.NumSuffix) : Decidable (Truncates v info) :=
  inferInstanceAs (Decidable (_ ∧ _))

/-- The diagnostics of an integer literal over `rng` whose digits have the value `n` and whose
suffix `suffix` reads as `info`: an overflow when `n` needs more than 64 bits, then a
truncation of the 64-bit value. -/
def intNotes (rng : Range) (n : Nat) (info : LexM.NumSuffix) (suffix : ByteArray) : List Notice :=
  (if 2 ^ 64 ≤ n then [(rng, Code.lexIntOverflow, #[])] else []) ++
    (if Truncates (n % 2 ^ 64) info then
      [(rng, Code.lexTruncatedLiteral, #[.uint (n % 2 ^ 64), .ident suffix])] else [])

/-- The tokenizer after the reports `ns`, in order. -/
def Lexer.noteReports (ns : List Notice) (s : Lexer) : Lexer :=
  { s with env := { s.env with engine := diagnoseAll ns s.env.engine } }

theorem Lexer.noteReports_nil (s : Lexer) : s.noteReports [] = s := rfl

theorem Lexer.noteReports_append (s : Lexer) (ns ms : List Notice) :
    (s.noteReports ns).noteReports ms = s.noteReports (ns ++ ms) := by
  simp [Lexer.noteReports, diagnoseAll_append]

theorem Lexer.noteReport_eq_noteReports (s : Lexer) (r : Range) (c : Code) (a : Array Arg) :
    s.noteReport r c a = s.noteReports [(r, c, a)] := by
  simp [Lexer.noteReports, Lexer.noteReport, LexEnv.noteReport, diagnoseAll]

/-- A stored signed value reads back negative only when it was reported truncated. -/
theorem IntStored.truncates_of_neg {v : Nat} {info : LexM.NumSuffix} {t : Token} (h : IntStored v info t)
    (hv : v < 2 ^ 64) (hf : info.kind.isFloat = false)
    (hs : (NumKind.ofCode? t.numKind).any NumKind.isUnsigned = false) (hneg : t.int < 0) :
    Truncates v info := by
  have hbig : 2 ^ 63 ≤ t.value.toNat := by
    by_contra hlt
    exact absurd (Token.int_nonneg (Nat.lt_of_not_le hlt)) (not_le.2 hneg)
  by_cases hk : info.kind = .none
  · -- an inferred class is unsigned as soon as bit 63 is set
    obtain ⟨hkind, hval⟩ := h.inferred hk
    rw [hval] at hbig
    rw [hkind, NumKind.ofCode?_code] at hs
    simp only [decide_eq_true hbig, Bool.or_true, NumKind.ofWidth, if_true] at hs
    split_ifs at hs <;> simp [NumKind.isUnsigned] at hs
  · obtain ⟨hkind, hval⟩ := h.explicit hk
    rw [hkind, NumKind.ofCode?_code] at hs
    refine ⟨hk, ?_⟩
    by_cases hs8 : info.kind = .s8 ∧ 2 ^ 63 ≤ v
    · exact .inl hs8
    · -- a cut value of at most 4 bytes is small; of 8 bytes it is the signed `s64` value
      rw [if_neg hs8] at hval
      rcases NumKind.bytes_cases hk hf with hb | hb | hb | hb
      · have := Nat.mod_lt v (show 0 < 2 ^ (8 * 1) by positivity); rw [hb] at hval; omega
      · have := Nat.mod_lt v (show 0 < 2 ^ (8 * 2) by positivity); rw [hb] at hval; omega
      · have := Nat.mod_lt v (show 0 < 2 ^ (8 * 4) by positivity); rw [hb] at hval; omega
      · rw [hb, Nat.mod_eq_of_lt hv] at hval
        rcases hi : info.kind <;> simp_all [NumKind.bytes, NumKind.isUnsigned, NumKind.isFloat]

theorem toNat_toUInt64_of_lt {n : Nat} (h : n < 2 ^ 64) : n.toUInt64.toNat = n := by
  rw [Nat.toUInt64_eq]
  exact UInt64.toNat_ofNat_of_lt' h

/-- A number token whose flags carry the class `k` and the unit of `info` stores `v` once `k`
and the payload are the ones `IntStored` asks for. -/
theorem IntStored.of_flags {v : Nat} {info : LexM.NumSuffix} {t : Token} {k : NumKind}
    (hkind : t.kind = .number) (hflags : t.flags = numberFlags k.code info.unit.code)
    (hinf : info.kind = .none →
      k = NumKind.ofWidth (LexM.magnitudeBytes v) (info.unsigned || decide (2 ^ 63 ≤ v)) ∧
        t.value.toNat = v)
    (hexp : info.kind ≠ .none → k = info.kind ∧
      t.value.toNat = if info.kind = .s8 ∧ 2 ^ 63 ≤ v then v else v % 2 ^ (8 * info.kind.bytes)) :
    IntStored v info t := by
  have hk : t.numKind = k.code := by
    simp [Token.numKind, hkind, hflags, (numberFlags_parts k info.unit).1]
  refine ⟨hkind, by simp [Token.numUnit, hkind, hflags, (numberFlags_parts k info.unit).2], ?_, ?_⟩
  · intro h
    obtain ⟨rfl, hv⟩ := hinf h
    exact ⟨hk, hv⟩
  · intro h
    obtain ⟨rfl, hv⟩ := hexp h
    exact ⟨hk, hv⟩

/-- With a class, the stored value is reported truncated exactly on the two branches that
report it: `s64` with bit 63 set, or a class narrower than the value. -/
theorem truncates_iff {v : Nat} {info : LexM.NumSuffix} (hv : v < 2 ^ 64) (hk : info.kind ≠ .none)
    (hf : info.kind.isFloat = false) :
    Truncates v info ↔
      (info.kind == .s8 && LexM.bitLen v == 64) = true ∨ LexM.magnitudeBytes v > info.kind.bytes := by
  rw [gt_iff_lt, LexM.lt_magnitudeBytes_iff hv (NumKind.bytes_cases hk hf)]
  simp [Truncates, hk, LexM.bitLen_eq_64_iff hv]

/-! The four branches of `finishInt` on an integer class, each with what it stores. -/

/-- No class: the narrowest width, unsigned from bit 63 on. -/
theorem store_inferred {v : Nat} {info : LexM.NumSuffix} {t : Token} (hv : v < 2 ^ 64)
    (hkind : t.kind = .number) (hk : (info.kind == .none) = true)
    (hflags : t.flags = numberFlags (NumKind.ofWidth (LexM.magnitudeBytes v)
      (info.unsigned || LexM.bitLen v == 64)).code info.unit.code)
    (hval : t.value = v.toUInt64) : IntStored v info t := by
  have h64 : (LexM.bitLen v == 64) = decide (2 ^ 63 ≤ v) := by
    rw [Bool.eq_iff_iff, beq_iff_eq, decide_eq_true_iff]
    exact LexM.bitLen_eq_64_iff hv
  refine .of_flags hkind hflags (fun _ => ⟨by rw [h64], hval ▸ toNat_toUInt64_of_lt hv⟩) ?_
  exact absurd (by simpa using hk)

/-- `s64` on a value with bit 63 set keeps the value. -/
theorem store_s64 {v : Nat} {info : LexM.NumSuffix} {t : Token} (hv : v < 2 ^ 64)
    (hkind : t.kind = .number) (hk : ¬(info.kind == .none) = true)
    (hs8 : (info.kind == .s8 && LexM.bitLen v == 64) = true)
    (hflags : t.flags = numberFlags info.kind.code info.unit.code) (hval : t.value = v.toUInt64) :
    IntStored v info t := by
  have hk : info.kind ≠ .none := by simpa using hk
  have hs8 : info.kind = .s8 ∧ 2 ^ 63 ≤ v := by simpa [LexM.bitLen_eq_64_iff hv] using hs8
  refine .of_flags hkind hflags (absurd · hk) (fun _ => ⟨rfl, ?_⟩)
  rw [if_pos hs8, hval, toNat_toUInt64_of_lt hv]

/-- A class narrower than the value cuts it to the class's width. -/
theorem store_cut {v : Nat} {info : LexM.NumSuffix} {t : Token} (hv : v < 2 ^ 64)
    (hkind : t.kind = .number) (hk : ¬(info.kind == .none) = true)
    (hs8 : ¬(info.kind == .s8 && LexM.bitLen v == 64) = true)
    (hflags : t.flags = numberFlags info.kind.code info.unit.code)
    (hval : t.value = (v % Nat.pow 2 (8 * info.kind.bytes)).toUInt64) : IntStored v info t := by
  have hk : info.kind ≠ .none := by simpa using hk
  have hs8 : ¬(info.kind = .s8 ∧ 2 ^ 63 ≤ v) := by simpa [LexM.bitLen_eq_64_iff hv] using hs8
  refine .of_flags hkind hflags (absurd · hk) (fun _ => ⟨rfl, ?_⟩)
  rw [if_neg hs8, hval, Nat.pow_eq]
  exact toNat_toUInt64_of_lt (lt_of_le_of_lt (Nat.mod_le _ _) hv)

/-- A class wide enough for the value keeps it. -/
theorem store_fits {v : Nat} {info : LexM.NumSuffix} {t : Token} (hv : v < 2 ^ 64)
    (hkind : t.kind = .number) (hint : info.kind.isFloat = false)
    (hk : ¬(info.kind == .none) = true) (hs8 : ¬(info.kind == .s8 && LexM.bitLen v == 64) = true)
    (hwide : ¬LexM.magnitudeBytes v > info.kind.bytes)
    (hflags : t.flags = numberFlags info.kind.code info.unit.code) (hval : t.value = v.toUInt64) :
    IntStored v info t := by
  have hk : info.kind ≠ .none := by simpa using hk
  have hs8 : ¬(info.kind = .s8 ∧ 2 ^ 63 ≤ v) := by simpa [LexM.bitLen_eq_64_iff hv] using hs8
  have hfits : v < 2 ^ (8 * info.kind.bytes) :=
    not_le.1 (mt (LexM.lt_magnitudeBytes_iff hv (NumKind.bytes_cases hk hint)).2 (by simpa using hwide))
  refine .of_flags hkind hflags (absurd · hk) (fun _ => ⟨rfl, ?_⟩)
  rw [if_neg hs8, Nat.mod_eq_of_lt hfits, hval, toNat_toUInt64_of_lt hv]

namespace LexM

/-- `finishInt` on an integer literal that fits the length ceiling and whose suffix reads as
a class, `u` or a unit: the token over the literal stores the 64-bit value as `IntStored` says,
and the engine gets an overflow report when the flag is set and a truncation report when
`Truncates` holds. -/
theorem finishInt_stores (start v : Nat) (ovf : Bool) (suffix : ByteArray) (info : NumSuffix)
    (s₀ : Lexer) (hfit : s₀.off - start ≤ maxTokenLen)
    (hinfo : NumSuffix.parse? ((String.fromUTF8? suffix).getD "") = some info)
    (hint : info.kind.isFloat = false) (hv : v < 2 ^ 64) :
    ⦃fun s => ⌜s = s₀⌝⦄ finishInt start v ovf suffix
    ⦃⇓ t s => ⌜IntStored v info t ∧ t.range = ⟨s₀.unit.id, start, s₀.off - start⟩ ∧
      s = s₀.noteReports
        ((if ovf then [(⟨s₀.unit.id, start, s₀.off - start⟩, Code.lexIntOverflow, #[])] else []) ++
          (if Truncates v info then
            [(⟨s₀.unit.id, start, s₀.off - start⟩, Code.lexTruncatedLiteral,
              #[.uint v, .ident suffix])] else []))⌝⦄ := by
  have hemit : emitted .number s₀.unit.id start s₀.off =
      (⟨.number, s₀.unit.id, start, s₀.off - start, false, 0, 0⟩, true) := by
    simp only [emitted, if_neg (Nat.not_lt.2 hfit)]
  have hnote : s₀.noteEmit .number start = s₀ := by
    simp only [Lexer.noteEmit, if_neg (fun h : _ ∧ _ => Nat.not_lt.2 hfit h.1)]
  have hsuf : suffixInfo start suffix = pure info := by simp [suffixInfo, hinfo]
  unfold finishInt
  simp only [hsuf]
  mvcgen -trivial [-finishInt_spec]
  all_goals subst ‹_ = s₀›
  all_goals simp only [hemit, hnote] at ⊢
  -- the token fits the ceiling and the class is not a float; each of the four branches on the
  -- class comes once with the overflow reported and once without
  case vc1 =>
    rename_i h
    simp [hemit] at h
  case vc2 | vc7 =>
    rename_i hf
    simp [hint] at hf
  case vc3 | vc8 =>
    rename_i hovf _ hk
    have htr : ¬Truncates v info := fun h => h.1 (by simpa using hk)
    refine ⟨store_inferred hv rfl hk rfl rfl, rfl, ?_⟩
    simp [hovf, htr, Token.range, Lexer.noteReport_eq_noteReports, Lexer.noteReports_nil]
  case vc4 | vc9 =>
    rename_i hovf _ hk hs8
    have htr := (truncates_iff hv (by simpa using hk) hint).2 (.inl hs8)
    refine ⟨store_s64 hv rfl hk hs8 rfl rfl, rfl, ?_⟩
    simp [hovf, htr, Token.range, Lexer.noteReport_eq_noteReports, Lexer.noteReports_append]
  case vc5 | vc10 =>
    rename_i hovf _ hk hs8 hwide
    have htr := (truncates_iff hv (by simpa using hk) hint).2 (.inr hwide)
    refine ⟨store_cut hv rfl hk hs8 rfl rfl, rfl, ?_⟩
    simp [hovf, htr, Token.range, Lexer.noteReport_eq_noteReports, Lexer.noteReports_append]
  case vc6 | vc11 =>
    rename_i hovf _ hk hs8 hwide
    have htr : ¬Truncates v info := by
      rw [truncates_iff hv (by simpa using hk) hint]
      exact not_or.2 ⟨hs8, hwide⟩
    refine ⟨store_fits hv rfl hint hk hs8 hwide rfl rfl, rfl, ?_⟩
    simp [hovf, htr, Token.range, Lexer.noteReport_eq_noteReports, Lexer.noteReports_nil]

theorem le_suffixAt_stop (bs : ByteArray) (j : Nat) : j ≤ (Numeral.suffixAt bs j).2 := by
  unfold Numeral.suffixAt
  split
  · exact le_runEnd bs _ j
  · exact le_rfl

/-- On an integer literal, `scanNumber` moves past the suffix and finishes the token with the
value of the digits modulo 2^64 and the overflow flag `read_intLiteral` gives. -/
theorem scanNumber_run_intLiteral (s : Lexer) {r i j : Nat}
    (h : Numeral.IntLiteral s.text s.off r i j) :
    (scanNumber s.off).run s =
      (finishInt s.off (Numeral.valueBetween s.text r i j % 2 ^ 64)
        (decide (2 ^ 64 ≤ Numeral.valueBetween s.text r i j)) (Numeral.suffixAt s.text j).1).run
        { s with off := (Numeral.suffixAt s.text j).2 } := by
  have hstop : s.off + 1 ≤ (Numeral.suffixAt s.text j).2 := by
    have := h.start_lt
    have := le_suffixAt_stop s.text j
    omega
  unfold scanNumber
  rw [OnCore.run_bind, show content.run s = (s.text, s) from rfl]
  dsimp only
  rw [Numeral.read_intLiteral h, OnCore.run_bind, seek_run]
  simp only [Numeral.stop, max_eq_left hstop]

/-- On an integer literal, `scan` hands over to `scanNumber`. -/
theorem scan_run_intLiteral (s : Lexer) {r i j : Nat} (h : Numeral.IntLiteral s.text s.off r i j) :
    scan.run.run s = (.ok ((scanNumber s.off).run s).1, ((scanNumber s.off).run s).2) := by
  obtain ⟨hid, hnum⟩ := h.radix.scans_number
  unfold scan
  rw [run_get_bind]
  simp only [hid, hnum, Bool.false_eq_true, if_false, if_true]
  rfl

end LexM

/-- An integer literal at the tokenizer's offset, within the length ceiling and with a suffix
that names an integer class, `u`, a unit or nothing, is scanned to one number token over the
literal and its suffix. With `n` the value of its digits, separators ignored, the token stores
`n % 2^64` as `IntStored` says, and the reports made are exactly `intNotes`: an overflow when
`n` needs more than 64 bits, a truncation when `Truncates` holds. So a token of a signed class
that reads back negative was reported truncated. -/
theorem scan_intLiteral (s : Lexer) {r i j : Nat} (h : Numeral.IntLiteral s.text s.off r i j)
    {info : LexM.NumSuffix}
    (hinfo : LexM.NumSuffix.parse? ((String.fromUTF8? (Numeral.suffixAt s.text j).1).getD "") =
      some info)
    (hint : info.kind.isFloat = false)
    (hfit : (Numeral.suffixAt s.text j).2 - s.off ≤ maxTokenLen) :
    let n := Numeral.valueBetween s.text r i j
    let suffix := (Numeral.suffixAt s.text j).1
    let rng : Range := ⟨s.unit.id, s.off, (Numeral.suffixAt s.text j).2 - s.off⟩
    ∃ t, LexM.scan.run.run s =
        (.ok t, { s with off := (Numeral.suffixAt s.text j).2 }.noteReports
          (intNotes rng n info suffix)) ∧
      IntStored (n % 2 ^ 64) info t ∧ t.range = rng ∧
      (t.int < 0 → (NumKind.ofCode? t.numKind).any NumKind.isUnsigned = false →
        (rng, Code.lexTruncatedLiteral, #[.uint (n % 2 ^ 64), .ident suffix]) ∈
          intNotes rng n info suffix) := by
  intro n suffix rng
  have hv : n % 2 ^ 64 < 2 ^ 64 := Nat.mod_lt _ (by positivity)
  -- the number reader hands the finished token over unchanged
  obtain ⟨hst, hrng, hs⟩ := LexM.of_triple (LexM.finishInt_stores s.off (n % 2 ^ 64)
    (decide (2 ^ 64 ≤ n)) suffix info { s with off := (Numeral.suffixAt s.text j).2 } hfit hinfo
    hint hv) rfl
  rw [← LexM.scanNumber_run_intLiteral s h] at hst hrng hs
  refine ⟨_, ?_, hst, hrng, fun hneg hsig => ?_⟩
  · rw [LexM.scan_run_intLiteral s h, hs]
    simp only [decide_eq_true_eq, intNotes]
    rfl
  · have htr := hst.truncates_of_neg hv hint hsig hneg
    simp only [intNotes, if_pos htr, List.mem_append, List.mem_singleton, or_true]

/-- The tokenizer at the start of `18446744073709551617`, one more than 2^64. -/
def pastWordLexer : Lexer :=
  Lexer.create ⟨0, "", ⟨#[0x31, 0x38, 0x34, 0x34, 0x36, 0x37, 0x34, 0x34, 0x30, 0x37, 0x33, 0x37,
    0x30, 0x39, 0x35, 0x35, 0x31, 0x36, 0x31, 0x37]⟩, #[], {}⟩ .ignore {}

theorem scan_intLiteral_past_word :
    Numeral.IntLiteral pastWordLexer.text pastWordLexer.off 10 0 20 ∧
      LexM.NumSuffix.parse? ((String.fromUTF8? (Numeral.suffixAt pastWordLexer.text 20).1).getD "") =
        some {} ∧
      ({} : LexM.NumSuffix).kind.isFloat = false ∧
      (Numeral.suffixAt pastWordLexer.text 20).2 - pastWordLexer.off ≤ maxTokenLen ∧
      let n := Numeral.valueBetween pastWordLexer.text 10 0 20
      let suffix := (Numeral.suffixAt pastWordLexer.text 20).1
      let rng : Range :=
        ⟨pastWordLexer.unit.id, pastWordLexer.off, (Numeral.suffixAt pastWordLexer.text 20).2 - pastWordLexer.off⟩
      ∃ t, LexM.scan.run.run pastWordLexer =
          (.ok t, { pastWordLexer with off := (Numeral.suffixAt pastWordLexer.text 20).2 }.noteReports
            (intNotes rng n {} suffix)) ∧
        IntStored (n % 2 ^ 64) {} t ∧ t.range = rng ∧
        (t.int < 0 → (NumKind.ofCode? t.numKind).any NumKind.isUnsigned = false →
          (rng, Code.lexTruncatedLiteral, #[.uint (n % 2 ^ 64), .ident suffix]) ∈
            intNotes rng n {} suffix) := by
  have hlit : Numeral.IntLiteral pastWordLexer.text pastWordLexer.off 10 0 20 := by
    refine ⟨.decimal (by decide) fun h => absurd h.1 (by decide), by norm_num, by norm_num,
      ⟨by decide, by decide, ?_, ?_, by decide, by decide, by decide⟩, fun _ => ?_⟩
    · intro k _ hk
      interval_cases k <;> decide
    · rw [Numeral.digitsBetween_digit (by decide) (by decide) (by decide)]
      exact List.cons_ne_nil _ _
    · unfold Numeral.FloatTail
      decide
  have hinfo : LexM.NumSuffix.parse? ((String.fromUTF8? (Numeral.suffixAt pastWordLexer.text 20).1).getD "") =
      some {} := by
    rfl
  exact ⟨hlit, hinfo, rfl, by decide, scan_intLiteral pastWordLexer hlit hinfo rfl (by decide)⟩

end NovelScript

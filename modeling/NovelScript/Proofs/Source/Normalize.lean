import Mathlib
import NovelScript.Source.Encoding
import NovelScript.Proofs.Directive.Spelling
/-!
# Normalizing UTF-8 scripts

A script already in UTF-8 is normalized by two byte-level steps: one leading byte-order mark
`EF BB BF` is dropped, and every CR LF pair is folded to LF. The fold is a loop over offsets that
pushes into an output buffer and looks one byte ahead (`Normalize.foldFrom`). It is read here
against the text replacement of the standard library, `replaceAll`: scan from the left and
replace each occurrence of the pattern, going on after it, so that no two replaced occurrences
overlap.

The last theorem is the whole law. The text is the replacement of CR LF by LF in the bytes
without their mark; the mark flag is set exactly when there was a mark, the fold flag exactly when
the bytes without their mark hold a CR LF, and nothing is transcoded. A CR that no LF follows is
kept: the text holds one CR fewer than the bytes for each CR LF pair
(`count_cr_replaceAll_crlf`), and a final CR stays last (`replaceAll_crlf_append_cr`).
-/

namespace NovelScript

/-- Each occurrence of the pattern `pat` in a list replaced by `rep`, scanning from the left and
going on after each replaced occurrence. An empty pattern replaces nothing. -/
def replaceAll {α : Type} [DecidableEq α] (pat rep : List α) : List α → List α
  | [] => []
  | b :: bs =>
    if pat ≠ [] ∧ pat <+: b :: bs then rep ++ replaceAll pat rep ((b :: bs).drop pat.length)
    else b :: replaceAll pat rep bs
termination_by l => l.length
decreasing_by
  · rename_i h
    have := List.length_pos_of_ne_nil h.1
    simp only [List.length_drop, List.length_cons]
    omega
  · simp

/-! ### Replacing CR LF -/

section Crlf

theorem crlf_prefix_iff {b : UInt8} {bs : List UInt8} :
    [0x0D, 0x0A] <+: b :: bs ↔ b = 0x0D ∧ bs.head? = some 0x0A := by
  cases bs <;> simp [List.cons_prefix_cons, eq_comm]

theorem eq_crlf_of_prefix {b : UInt8} {bs : List UInt8} (h : [0x0D, 0x0A] <+: b :: bs) :
    b = 0x0D ∧ ∃ rest, bs = 0x0A :: rest := by
  obtain ⟨rest, hr⟩ := h
  simp only [List.cons_append, List.nil_append, List.cons.injEq] at hr
  exact ⟨hr.1.symm, rest, hr.2.symm⟩

/-- A CR LF pair becomes one LF. -/
theorem replaceAll_crlf_pair (rest : List UInt8) :
    replaceAll [0x0D, 0x0A] [0x0A] (0x0D :: 0x0A :: rest) =
      0x0A :: replaceAll [0x0D, 0x0A] [0x0A] rest := by
  rw [replaceAll, if_pos (by simp)]
  rfl

/-- A byte that starts no CR LF pair stays. -/
theorem replaceAll_crlf_single {b : UInt8} {bs : List UInt8} (h : ¬ [0x0D, 0x0A] <+: b :: bs) :
    replaceAll [0x0D, 0x0A] [0x0A] (b :: bs) = b :: replaceAll [0x0D, 0x0A] [0x0A] bs := by
  rw [replaceAll, if_neg (by simp [h])]

/-- Neighbours that start with a byte opening no CR LF pair are no CR LF pair. -/
theorem count_crlf_zip_cons {b : UInt8} {bs : List UInt8} (h : ¬ [0x0D, 0x0A] <+: b :: bs) :
    ((b :: bs).zip bs).count (0x0D, 0x0A) = (bs.zip bs.tail).count (0x0D, 0x0A) := by
  rw [crlf_prefix_iff] at h
  cases bs with
  | nil => rfl
  | cons c more =>
    have hbc : ((b, c) == ((0x0D : UInt8), (0x0A : UInt8))) = false := by
      simpa using fun hb hc => h ⟨hb, by simp [hc]⟩
    simp [List.count_cons, hbc]

/-- The replacement takes one CR away for each CR LF pair and keeps every other CR. -/
theorem count_cr_replaceAll_crlf (l : List UInt8) :
    (replaceAll [0x0D, 0x0A] [0x0A] l).count 0x0D + (l.zip l.tail).count (0x0D, 0x0A) =
      l.count 0x0D := by
  fun_induction replaceAll [(0x0D : UInt8), 0x0A] [0x0A] l with
  | case1 => rfl
  | case2 b bs hp ih =>
    -- a pair: one CR and one pair go, and the LF left opens no pair
    obtain ⟨rfl, rest, rfl⟩ := eq_crlf_of_prefix hp.2
    have hlf : ¬ [(0x0D : UInt8), 0x0A] <+: 0x0A :: rest := by simp
    simp only [List.length_cons, List.length_nil, List.drop_succ_cons, List.drop_zero] at ih
    simp only [List.tail_cons, List.zip_cons_cons, List.count_cons, List.singleton_append,
      count_crlf_zip_cons hlf] at ih ⊢
    simp at ih ⊢
    omega
  | case3 b bs hp ih =>
    have hp' : ¬ [(0x0D : UInt8), 0x0A] <+: b :: bs := fun h => hp ⟨by simp, h⟩
    rw [List.tail_cons, count_crlf_zip_cons hp', List.count_cons, List.count_cons]
    omega

/-- A CR at the end is no part of a pair, so it stays at the end. -/
theorem replaceAll_crlf_append_cr (l : List UInt8) :
    replaceAll [0x0D, 0x0A] [0x0A] (l ++ [0x0D]) = replaceAll [0x0D, 0x0A] [0x0A] l ++ [0x0D] := by
  fun_induction replaceAll [(0x0D : UInt8), 0x0A] [0x0A] l with
  | case1 =>
    have hcr : ¬ [(0x0D : UInt8), 0x0A] <+: [0x0D] := by simp
    rw [List.nil_append, replaceAll_crlf_single hcr]
    simp [replaceAll]
  | case2 b bs hp ih =>
    obtain ⟨rfl, rest, rfl⟩ := eq_crlf_of_prefix hp.2
    simp only [List.length_cons, List.length_nil, List.drop_succ_cons, List.drop_zero] at ih ⊢
    rw [List.cons_append, List.cons_append, replaceAll_crlf_pair, ih]
    rfl
  | case3 b bs hp ih =>
    have hp' : ¬ [(0x0D : UInt8), 0x0A] <+: b :: bs := fun h => hp ⟨by simp, h⟩
    -- appending a CR opens no pair at `b`: after `b` comes what came before, or the CR
    have hq : ¬ [(0x0D : UInt8), 0x0A] <+: b :: (bs ++ [0x0D]) := by
      rw [crlf_prefix_iff] at hp' ⊢
      cases bs <;> simp_all
    rw [List.cons_append, replaceAll_crlf_single hq, ih, List.cons_append]

end Crlf

/-! ### The fold loop -/

namespace Normalize

theorem toList_drop_byteAt (bs : ByteArray) {i : Nat} (hi : i < bs.size) :
    bs.toList.drop i = Utf8.byteAt bs i :: bs.toList.drop (i + 1) := by
  rw [Bytes.toList_drop_cons bs hi, Utf8.byteAt, dif_pos hi]

theorem head?_toList_drop (bs : ByteArray) (i : Nat) :
    (bs.toList.drop i).head? = if i < bs.size then some (Utf8.byteAt bs i) else none := by
  split
  · rw [toList_drop_byteAt bs ‹_›]
    rfl
  · rw [Bytes.toList_drop_of_le bs (by omega)]
    rfl

theorem toList_push (out : ByteArray) (b : UInt8) : (out.push b).toList = out.toList ++ [b] := by
  simp [ByteArray.toList_eq_data]

/-- From offset `i`, the loop appends the replacement of CR LF by LF in the bytes from `i` on,
and notes a fold exactly when they hold a CR LF. -/
theorem foldFrom_spec (bs : ByteArray) (i : Nat) (out : ByteArray) (changed : Bool) :
    (foldFrom bs i out changed).1.toList =
        out.toList ++ replaceAll [0x0D, 0x0A] [0x0A] (bs.toList.drop i) ∧
      (foldFrom bs i out changed).2 = (changed || decide ([0x0D, 0x0A] <:+: bs.toList.drop i)) := by
  fun_induction foldFrom bs i out changed with
  | case1 i out changed hi b hpair ih =>
    -- a CR LF pair at `i`
    simp only [b, Bool.and_eq_true, beq_iff_eq, decide_eq_true_eq] at hpair
    obtain ⟨⟨hcr, hlf⟩, hi₁⟩ := hpair
    have hdrop : bs.toList.drop i = 0x0D :: 0x0A :: bs.toList.drop (i + 2) := by
      rw [toList_drop_byteAt bs hi, toList_drop_byteAt bs hi₁, hcr, hlf]
    have hpairIn : [(0x0D : UInt8), 0x0A] <:+: 0x0D :: 0x0A :: bs.toList.drop (i + 2) :=
      (List.prefix_append [0x0D, 0x0A] _).isInfix
    rw [ih.1, ih.2, toList_push, hdrop, replaceAll_crlf_pair]
    simp [hpairIn]
  | case2 i out changed hi b hpair ih =>
    -- any other byte at `i` is copied
    dsimp only [b] at hpair ih ⊢
    have hno : ¬ [(0x0D : UInt8), 0x0A] <+: Utf8.byteAt bs i :: bs.toList.drop (i + 1) := by
      rw [crlf_prefix_iff, head?_toList_drop]
      intro ⟨hcr, hlf⟩
      split at hlf
      · simp_all
      · simp at hlf
    rw [ih.1, ih.2, toList_push, toList_drop_byteAt bs hi, replaceAll_crlf_single hno]
    simp only [List.infix_cons_iff, hno, false_or]
    simp
  | case3 i out changed hi =>
    rw [Bytes.toList_drop_of_le bs (by omega)]
    simp [replaceAll]

/-- The bytes without one leading UTF-8 byte-order mark. -/
def unmarked (r : ByteArray) : List UInt8 :=
  if [0xEF, 0xBB, 0xBF] <+: r.toList then r.toList.drop 3 else r.toList

/-- The mark is dropped exactly when the bytes start with it, and the flag says so. -/
theorem dropBom_spec (r : ByteArray) :
    (dropBom r).1.toList = unmarked r ∧
      (dropBom r).2 = decide ([0xEF, 0xBB, 0xBF] <+: r.toList) := by
  have hbom : bom.toList = [0xEF, 0xBB, 0xBF] := by simp [bom, ByteArray.toList_eq_data]
  unfold dropBom unmarked
  by_cases h : [(0xEF : UInt8), 0xBB, 0xBF] <+: r.toList
  · rw [if_pos ((Bytes.startsWith_iff r bom).2 (hbom ▸ h)), if_pos h, Bytes.toList_drop]
    simp [h]
  · have hs : Bytes.startsWith r bom = false :=
      Bool.eq_false_iff.2 fun ht => h (hbom ▸ (Bytes.startsWith_iff r bom).1 ht)
    rw [hs, if_neg h]
    simp [h]

/-- The flags of the two steps, and no other. -/
theorem flags_has (x y : Bool) :
    (⟨0 ||| (if x then UnitFlags.hadBom else 0) ||| (if y then UnitFlags.foldedCrlf else 0)⟩ :
        UnitFlags).has UnitFlags.hadBom = x ∧
      (⟨0 ||| (if x then UnitFlags.hadBom else 0) ||| (if y then UnitFlags.foldedCrlf else 0)⟩ :
        UnitFlags).has UnitFlags.foldedCrlf = y ∧
      (⟨0 ||| (if x then UnitFlags.hadBom else 0) ||| (if y then UnitFlags.foldedCrlf else 0)⟩ :
        UnitFlags).has UnitFlags.transcoded = false := by
  cases x <;> cases y <;> decide

end Normalize

/-- UTF-8 normalization: the text is the bytes without one leading byte-order mark, with every
CR LF replaced by LF. The mark flag is set exactly when the bytes start with a mark, the fold flag
exactly when the bytes without it hold a CR LF, and the text is never marked as transcoded. Every
CR that no LF follows is kept: the text has one CR fewer than the unmarked bytes for each CR LF
pair of them, and a final CR stays last. -/
theorem normalize_utf8 (r : ByteArray) :
    (normalize r .utf8).1.toList = replaceAll [0x0D, 0x0A] [0x0A] (Normalize.unmarked r) ∧
      ((normalize r .utf8).2.has UnitFlags.hadBom ↔ [0xEF, 0xBB, 0xBF] <+: r.toList) ∧
      ((normalize r .utf8).2.has UnitFlags.foldedCrlf ↔
        [0x0D, 0x0A] <:+: Normalize.unmarked r) ∧
      (normalize r .utf8).2.has UnitFlags.transcoded = false ∧
      (normalize r .utf8).1.toList.count 0x0D +
          ((Normalize.unmarked r).zip (Normalize.unmarked r).tail).count (0x0D, 0x0A) =
        (Normalize.unmarked r).count 0x0D ∧
      ((Normalize.unmarked r).getLast? = some 0x0D →
        (normalize r .utf8).1.toList.getLast? = some 0x0D) := by
  generalize hu : Normalize.unmarked r = r'
  obtain ⟨hbody, hmark⟩ := Normalize.dropBom_spec r
  obtain ⟨htext, hfold⟩ := Normalize.foldFrom_spec (Normalize.dropBom r).1 0 .empty false
  have hr' : (Normalize.dropBom r).1.toList = r' := hu ▸ hbody
  rw [List.drop_zero, hr'] at htext hfold
  -- no decoding for UTF-8: the mark is dropped, then the pairs are folded
  have hnorm : normalize r .utf8 = ((Normalize.foldCrlf (Normalize.dropBom r).1).1,
      ⟨0 ||| (if (Normalize.dropBom r).2 then UnitFlags.hadBom else 0) |||
        (if (Normalize.foldCrlf (Normalize.dropBom r).1).2 then UnitFlags.foldedCrlf else 0)⟩) := rfl
  have htext' : (normalize r .utf8).1.toList = replaceAll [0x0D, 0x0A] [0x0A] r' := by
    rw [hnorm, Normalize.foldCrlf, htext, ByteArray.toList_empty, List.nil_append]
  obtain ⟨hasMark, hasFold, hasDecode⟩ := Normalize.flags_has (Normalize.dropBom r).2
    (Normalize.foldCrlf (Normalize.dropBom r).1).2
  refine ⟨htext', ?mark, ?fold, ?decode, ?count, ?last⟩
  case mark => rw [hnorm, hasMark, hmark, decide_eq_true_iff]
  case fold =>
    rw [hnorm, hasFold, Normalize.foldCrlf, hfold, Bool.false_or, decide_eq_true_iff]
  case decode => rw [hnorm, hasDecode]
  case count => rw [htext']; exact count_cr_replaceAll_crlf r'
  case last =>
    intro hlast
    obtain ⟨init, hinit⟩ := List.getLast?_eq_some_iff.1 hlast
    rw [htext', hinit, replaceAll_crlf_append_cr, List.getLast?_concat]



end NovelScript

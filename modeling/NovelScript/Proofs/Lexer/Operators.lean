import Mathlib
import NovelScript.Proofs.Lexer.Modes
/-!
# Operators by longest match

Outside brackets, `scanPunct` takes the first form of the operator table that the text at the
cursor starts with. The table holds every operator spelling and its compound `op=` form,
put in order of falling length by a stable insertion sort (`opTable`).

* The sort keeps every form (`OpForm.opTable_perm`) and leaves them in non-increasing length
  (`OpForm.opTable_sorted`); no two forms share a text (`OpForm.opTable_nodup`). So the first
  hit of a scan is the longest spelling at the cursor and the only one of its length
  (`OpForm.find?_longest`).
* Each form's text is its operator's spelling, followed by `=` when it is compound
  (`OpForm.Spelled`).
* Hence `scanPunct_longest_match`: the token covers the longest operator spelling at the
  cursor, carries that form's operator and compound bit, and reads back as the operator's
  spelling followed by `=` exactly when it is compound; with no spelling at the cursor, one
  byte becomes an error token reported as an unknown character.
-/

namespace NovelScript

open Utf8

/-! ### Bytes at an offset -/

namespace Bytes

/-- The bytes where `p` occurs are `p`. -/
theorem extract_of_occursAt {b p : ByteArray} {i : Nat} (h : occursAt b p i = true) :
    b.extract i (i + p.size) = p := by
  simp only [occursAt, Bool.and_eq_true, decide_eq_true_eq, List.all_eq_true, List.mem_range,
    beq_iff_eq] at h
  obtain ⟨hfit, hbytes⟩ := h
  apply ByteArray.ext
  apply Array.ext
  · simp only [ByteArray.data_extract, Array.size_extract, ByteArray.size_data]
    omega
  · intro k hk hk'
    have hk'' : k < p.size := by simpa using hk'
    have hb := hbytes k hk''
    rw [byteAt_of_lt (by omega), byteAt_of_lt hk''] at hb
    simpa [ByteArray.getElem_eq_getElem_data] using hb

/-- Two byte strings of one size that both occur at `i` are equal. -/
theorem eq_of_occursAt {b p q : ByteArray} {i : Nat} (hp : occursAt b p i = true)
    (hq : occursAt b q i = true) (hs : p.size = q.size) : p = q := by
  rw [← extract_of_occursAt hp, ← extract_of_occursAt hq, hs]

end Bytes

/-! ### The operator table -/

namespace OpForm

/-- `g` comes no earlier than `f` in order of falling length. -/
def LongerEq (f g : OpForm) : Prop := g.text.length ≤ f.text.length

theorem insertByLength_perm (f : OpForm) (l : List OpForm) :
    (insertByLength f l).Perm (f :: l) := by
  fun_induction insertByLength f l with
  | case1 => rfl
  | case2 => rfl
  | case3 g gs _ ih => exact (ih.cons g).trans (List.Perm.swap f g gs)

/-- Inserting into a list in order of falling length keeps the order. -/
theorem insertByLength_sorted (f : OpForm) {l : List OpForm} (hl : l.Pairwise LongerEq) :
    (insertByLength f l).Pairwise LongerEq := by
  induction l with
  | nil => simp [insertByLength]
  | cons g gs ih =>
    obtain ⟨hg, hgs⟩ := List.pairwise_cons.1 hl
    unfold insertByLength
    split
    · -- `f` is longer than `g`, hence than every form after it
      rename_i hlt
      refine List.pairwise_cons.2 ⟨fun x hx => ?_, hl⟩
      rcases List.mem_cons.1 hx with rfl | hx
      · exact hlt.le
      · exact (hg x hx).trans hlt.le
    · rename_i hge
      refine List.pairwise_cons.2 ⟨fun x hx => ?_, ih hgs⟩
      rcases List.mem_cons.1 ((insertByLength_perm f gs).mem_iff.1 hx) with rfl | hx
      · exact Nat.le_of_not_lt hge
      · exact hg x hx

theorem foldl_insertByLength_perm (l acc : List OpForm) :
    (l.foldl (fun acc f => insertByLength f acc) acc).Perm (l ++ acc) := by
  induction l generalizing acc with
  | nil => rfl
  | cons f l ih =>
    exact (ih _).trans (((insertByLength_perm f acc).append_left l).trans List.perm_middle)

theorem foldl_insertByLength_sorted (l : List OpForm) {acc : List OpForm}
    (h : acc.Pairwise LongerEq) :
    (l.foldl (fun acc f => insertByLength f acc) acc).Pairwise LongerEq := by
  induction l generalizing acc with
  | nil => exact h
  | cons f l ih => exact ih (insertByLength_sorted f h)

/-- The table holds every form, each once. -/
theorem opTable_perm : opTable.Perm inCodeOrder := by
  unfold opTable
  simpa using foldl_insertByLength_perm inCodeOrder []

/-- The table is in order of falling length. -/
theorem opTable_sorted : opTable.Pairwise LongerEq :=
  foldl_insertByLength_sorted inCodeOrder List.Pairwise.nil

/-- No two forms of the table share a text. -/
theorem opTable_nodup : (opTable.map (·.text)).Nodup :=
  (opTable_perm.map _).nodup_iff.2 (by decide)

/-- Every text of the table is one to three ASCII bytes. -/
theorem text_ascii : ∀ f ∈ opTable, 0 < f.text.utf8ByteSize ∧ f.text.utf8ByteSize ≤ 3 ∧
    f.text.utf8ByteSize = f.text.length := by
  have h : ∀ f ∈ inCodeOrder, 0 < f.text.utf8ByteSize ∧ f.text.utf8ByteSize ≤ 3 ∧
      f.text.utf8ByteSize = f.text.length := by decide
  exact fun f hf => h f (opTable_perm.mem_iff.1 hf)

/-- A form's text is its operator's spelling, then `=` when it is compound. -/
def Spelled (f : OpForm) : Prop := f.text = f.op.spelling ++ if f.compound then "=" else ""

theorem spelled_of_mem {f : OpForm} (h : f ∈ opTable) : f.Spelled := by
  have hf := opTable_perm.mem_iff.1 h
  simp only [inCodeOrder, List.mem_flatMap] at hf
  obtain ⟨o, -, hf⟩ := hf
  rcases List.mem_cons.1 hf with rfl | hf
  · simp [Spelled]
  · split at hf
    · rcases List.mem_singleton.1 hf with rfl
      rfl
    · cases hf

/-- In a list sorted by `R`, the first element that passes `p` is related by `R` to every
other element that passes it. -/
theorem find?_rel_of_pairwise {α : Type} {R : α → α → Prop} {p : α → Bool} {l : List α}
    (hl : l.Pairwise R) {a : α} (ha : l.find? p = some a) :
    ∀ b ∈ l, p b = true → b = a ∨ R a b := by
  obtain ⟨-, as, bs, rfl, hbefore⟩ := List.find?_eq_some_iff_append.1 ha
  intro b hb hpb
  rcases List.mem_append.1 hb with hb | hb
  · simpa [hpb] using hbefore b hb
  · rcases List.mem_cons.1 hb with rfl | hb
    · exact .inl rfl
    · exact .inr ((List.pairwise_cons.1 (List.pairwise_append.1 hl).2.1).1 b hb)

/-- The first form whose text occurs at `i` is the longest of those, and the only one of its
length. -/
theorem find?_longest {bs : ByteArray} {i : Nat} {f : OpForm}
    (hf : opTable.find? (fun f => Bytes.occursAt bs f.text.toUTF8 i) = some f) :
    ∀ g ∈ opTable, Bytes.occursAt bs g.text.toUTF8 i = true →
      g.text.utf8ByteSize ≤ f.text.utf8ByteSize ∧ (g.text.utf8ByteSize = f.text.utf8ByteSize → g = f) := by
  intro g hg hocc
  have hfm := List.mem_of_find?_eq_some hf
  have hfo : Bytes.occursAt bs f.text.toUTF8 i = true := (List.find?_eq_some_iff_append.1 hf).1
  obtain ⟨-, -, hgs⟩ := text_ascii g hg
  obtain ⟨-, -, hfs⟩ := text_ascii f hfm
  rcases find?_rel_of_pairwise opTable_sorted hf g hg hocc with rfl | hle
  · exact ⟨le_rfl, fun _ => rfl⟩
  refine ⟨by unfold LongerEq at hle; omega, fun hsize => ?_⟩
  -- two texts of one size at one offset are one text, and the table has it once
  have htext : g.text = f.text := String.toByteArray_inj.1
    (Bytes.eq_of_occursAt hocc hfo (by simpa [String.size_toByteArray] using hsize))
  exact List.inj_on_of_nodup_map opTable_nodup hg hfm htext

end OpForm

theorem Op.ofCode?_code (o : Op) : Op.ofCode? o.code = some o := by
  cases o <;> rfl

theorem Op.code_lt_count (o : Op) : o.code < Op.count := by
  cases o <;> decide

/-! ### Scanning an operator -/

namespace LexM

theorem scanPunct_run_of_find {s : Lexer} (hb : bracketKind? (byteAt s.text s.off) = none)
    {f : OpForm} (hf : opTable.find? (fun f => Bytes.occursAt s.text f.text.toUTF8 s.off) = some f)
    (hfit : f.text.utf8ByteSize ≤ maxTokenLen) :
    (scanPunct s.off).run s =
      (⟨.punct, s.unit.id, s.off, f.text.utf8ByteSize, false,
          if f.compound then TokenFlag.compound else 0, f.op.code.toUInt64⟩,
        { s with off := s.off + f.text.utf8ByteSize }) := by
  unfold scanPunct
  rw [OnCore.run_bind, show content.run s = (s.text, s) from rfl]
  dsimp only
  rw [hb]
  dsimp only
  rw [hf]
  simp [advance, emit_run, emitted, Lexer.noteEmit, Nat.not_lt.2 hfit]
  rfl

theorem scanPunct_run_of_none {s : Lexer} (hb : bracketKind? (byteAt s.text s.off) = none)
    (hf : opTable.find? (fun f => Bytes.occursAt s.text f.text.toUTF8 s.off) = none) :
    (scanPunct s.off).run s =
      (⟨.error, s.unit.id, s.off, 1, false, 0, 0⟩,
        { s with off := s.off + 1 }.noteReport (Range.make s.unit.id s.off (s.off + 1))
          Code.lexUnknownChar #[.codepoint (byteAt s.text s.off).toNat]) := by
  unfold scanPunct
  rw [OnCore.run_bind, show content.run s = (s.text, s) from rfl]
  dsimp only
  rw [hb]
  dsimp only
  rw [hf]
  simp [advance, emitError, emit_run, emitted, reportSpan, rangeOf, report_eq,
    show maxTokenLen ≠ 0 by decide]
  rfl

end LexM

/-- The text a punctuation token over a whole table form reads back as. -/
theorem Lexer.lexan_of_occursAt (s : Lexer) {f : OpForm}
    (hocc : Bytes.occursAt s.text f.text.toUTF8 s.off = true) :
    s.unit.slice ⟨s.unit.id, s.off, f.text.utf8ByteSize⟩ = f.text.toUTF8 := by
  have hfit : s.off + f.text.utf8ByteSize ≤ s.text.size := by
    simp only [Bytes.occursAt, Bool.and_eq_true, decide_eq_true_eq] at hocc
    simpa [String.size_toByteArray] using hocc.1
  have hsize : s.text.size = s.unit.size := rfl
  unfold SourceUnit.slice
  simp only [Range.endOff]
  rw [Nat.min_eq_left (by omega), Nat.min_eq_left (by omega)]
  simpa [String.size_toByteArray, Lexer.text] using Bytes.extract_of_occursAt hocc

/-- On a byte that is no bracket, `scanPunct` reads the longest operator spelling at the
cursor. The table's texts are distinct and in non-increasing byte length, so its first hit `f`
is the longest spelling that the text at the cursor starts with, and the only one of that
length. The token covers exactly `f`'s text, carries `f`'s operator and compound bit, and
reads back as the operator's spelling followed by `=` exactly when it is compound; the cursor
moves past it and nothing is reported. With no spelling at the cursor, the byte there becomes
a one-byte error token, reported as an unknown character. -/
theorem scanPunct_longest_match (s : Lexer) (hb : LexM.bracketKind? (byteAt s.text s.off) = none) :
    (opTable.map (·.text)).Nodup ∧
    opTable.Pairwise (fun f g => g.text.utf8ByteSize ≤ f.text.utf8ByteSize) ∧
    ((∃ g ∈ opTable, Bytes.occursAt s.text g.text.toUTF8 s.off = true) →
      ∃ f ∈ opTable, Bytes.occursAt s.text f.text.toUTF8 s.off = true ∧
        (∀ g ∈ opTable, Bytes.occursAt s.text g.text.toUTF8 s.off = true →
          g.text.utf8ByteSize ≤ f.text.utf8ByteSize ∧
            (g.text.utf8ByteSize = f.text.utf8ByteSize → g = f)) ∧
        ∃ t, (LexM.scanPunct s.off).run s = (t, { s with off := s.off + f.text.utf8ByteSize }) ∧
          t.kind = .punct ∧ t.range = ⟨s.unit.id, s.off, f.text.utf8ByteSize⟩ ∧
          t.op = f.op.code ∧ t.compound = f.compound ∧
          s.lexan t = (Op.spellingOfCode t.op ++ if t.compound then "=" else "").toUTF8) ∧
    ((∀ g ∈ opTable, Bytes.occursAt s.text g.text.toUTF8 s.off = false) →
      (LexM.scanPunct s.off).run s =
        (⟨.error, s.unit.id, s.off, 1, false, 0, 0⟩,
          { s with off := s.off + 1 }.noteReport (Range.make s.unit.id s.off (s.off + 1))
            Code.lexUnknownChar #[.codepoint (byteAt s.text s.off).toNat])) := by
  have hsorted : opTable.Pairwise (fun f g => g.text.utf8ByteSize ≤ f.text.utf8ByteSize) :=
    OpForm.opTable_sorted.imp_of_mem fun {f g} hf hg (hle : g.text.length ≤ f.text.length) => by
      rw [(OpForm.text_ascii f hf).2.2, (OpForm.text_ascii g hg).2.2]
      exact hle
  refine ⟨OpForm.opTable_nodup, hsorted, fun ⟨g, hg, hocc⟩ => ?_, fun hnone => ?_⟩
  · -- some form occurs, so the search finds one: the longest
    have hsome : (opTable.find? fun f => Bytes.occursAt s.text f.text.toUTF8 s.off).isSome :=
      List.find?_isSome.2 ⟨g, hg, hocc⟩
    obtain ⟨f, hf⟩ := Option.isSome_iff_exists.1 hsome
    have hfm := List.mem_of_find?_eq_some hf
    have hfo : Bytes.occursAt s.text f.text.toUTF8 s.off = true :=
      (List.find?_eq_some_iff_append.1 hf).1
    obtain ⟨-, hle3, -⟩ := OpForm.text_ascii f hfm
    have hop : Op.ofCode? f.op.code = some f.op := Op.ofCode?_code f.op
    have hval : (f.op.code.toUInt64).toNat = f.op.code :=
      Nat.mod_eq_of_lt (lt_trans (Op.code_lt_count f.op) (by decide))
    refine ⟨f, hfm, hfo, OpForm.find?_longest hf, _,
      LexM.scanPunct_run_of_find hb hf (le_trans hle3 (by decide)), rfl, rfl, ?_, ?_, ?_⟩
    · simp [Token.op, hval, Op.code_lt_count]
    · cases f.compound <;> simp [Token.compound, TokenFlag.compound]
    · have hcomp : Token.compound ⟨.punct, s.unit.id, s.off, f.text.utf8ByteSize, false,
          if f.compound then TokenFlag.compound else 0, f.op.code.toUInt64⟩ = f.compound := by
        cases f.compound <;> simp [Token.compound, TokenFlag.compound]
      rw [hcomp, Lexer.lexan, Token.range, Lexer.lexan_of_occursAt s hfo, OpForm.spelled_of_mem hfm]
      simp [Token.op, hval, Op.code_lt_count, Op.spellingOfCode, hop]
  · -- no form occurs: one unknown byte
    exact LexM.scanPunct_run_of_none hb
      (List.find?_eq_none.2 fun g hg => Bool.eq_false_iff.1 (hnone g hg))

/-- A tokenizer at the start of `<<=x`. -/
def shiftAssignLexer : Lexer :=
  Lexer.create ⟨0, "", ⟨#[0x3C, 0x3C, 0x3D, 0x78]⟩, #[], {}⟩ .ignore {}

theorem scanPunct_longest_match_shift_assign :
    LexM.bracketKind? (byteAt shiftAssignLexer.text shiftAssignLexer.off) = none ∧
    (opTable.map (·.text)).Nodup ∧
    opTable.Pairwise (fun f g => g.text.utf8ByteSize ≤ f.text.utf8ByteSize) ∧
    ((∃ g ∈ opTable, Bytes.occursAt shiftAssignLexer.text g.text.toUTF8 shiftAssignLexer.off = true) →
      ∃ f ∈ opTable, Bytes.occursAt shiftAssignLexer.text f.text.toUTF8 shiftAssignLexer.off = true ∧
        (∀ g ∈ opTable, Bytes.occursAt shiftAssignLexer.text g.text.toUTF8 shiftAssignLexer.off = true →
          g.text.utf8ByteSize ≤ f.text.utf8ByteSize ∧
            (g.text.utf8ByteSize = f.text.utf8ByteSize → g = f)) ∧
        ∃ t, (LexM.scanPunct shiftAssignLexer.off).run shiftAssignLexer =
            (t, { shiftAssignLexer with off := shiftAssignLexer.off + f.text.utf8ByteSize }) ∧
          t.kind = .punct ∧ t.range = ⟨shiftAssignLexer.unit.id, shiftAssignLexer.off, f.text.utf8ByteSize⟩ ∧
          t.op = f.op.code ∧ t.compound = f.compound ∧
          shiftAssignLexer.lexan t = (Op.spellingOfCode t.op ++ if t.compound then "=" else "").toUTF8) ∧
    ((∀ g ∈ opTable, Bytes.occursAt shiftAssignLexer.text g.text.toUTF8 shiftAssignLexer.off = false) →
      (LexM.scanPunct shiftAssignLexer.off).run shiftAssignLexer =
        (⟨.error, shiftAssignLexer.unit.id, shiftAssignLexer.off, 1, false, 0, 0⟩,
          { shiftAssignLexer with off := shiftAssignLexer.off + 1 }.noteReport
            (Range.make shiftAssignLexer.unit.id shiftAssignLexer.off (shiftAssignLexer.off + 1))
            Code.lexUnknownChar #[.codepoint (byteAt shiftAssignLexer.text shiftAssignLexer.off).toNat])) :=
  ⟨by decide, scanPunct_longest_match shiftAssignLexer (by decide)⟩

end NovelScript

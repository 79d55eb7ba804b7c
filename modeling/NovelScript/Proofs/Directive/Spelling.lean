import Mathlib
import NovelScript.Directive.Expect
import NovelScript.Proofs.Lexer.IntLiteral
import NovelScript.Proofs.Lexer.Operators
import NovelScript.Proofs.Directive.Checks
/-!
# The spelling of expectations

An expectation is written after `EXPECT-` in a directive comment. `Expect.Spells r e` is its
grammar, read off the text `r` after `EXPECT-` alone: `EOF`; a bracket pair, `BAL:` and a count
that reads as a non-negative integer once trimmed of white space; or `TOKEN:`, blanks (spaces
and tabs), an optional `+L`, blanks, the printed name of a kind and, after a blank, the literal
trimmed of white space, which may be left out (or empty) only for the end and blank kinds.

`Directive.parse_iff_spells` says that `Directive.parse` reads exactly this language: it answers
`notExpect` exactly for the bodies that do not start with `EXPECT-`, and gives `e` exactly for
`EXPECT-` followed by a text that spells `e`. Every other body that starts with `EXPECT-` is
turned down with an error of its own.

The proof views byte strings as lists (`Bytes.startsWith_iff`, `Bytes.toList_trimLeftSet`,
`Bytes.findSet_eq`) and follows the reader's stages: the lead of blanks and `+L`
(`Directive.flag_split`, `Directive.flag_split_unique`), the split of the name from the literal
(`Directive.name_split_some`, `Directive.findSet_of_name`), and the kind the name reads as
(`Directive.kind_of_name`).
-/

namespace NovelScript

open Utf8

/-! ### Byte strings as lists -/

namespace Bytes

theorem length_toList (b : ByteArray) : b.toList.length = b.size := by
  simp [ByteArray.toList_eq_data]

theorem toList_drop (b : ByteArray) (n : Nat) : (drop b n).toList = b.toList.drop n := by
  simp [drop, ByteArray.toList_eq_data, ByteArray.data_extract, Array.toList_extract,
    List.extract_eq_take_drop]

theorem toList_take (b : ByteArray) (n : Nat) : (take b n).toList = b.toList.take n := by
  simp [take, ByteArray.toList_eq_data, ByteArray.data_extract, Array.toList_extract,
    List.extract_eq_take_drop]

theorem byteAt_eq_getD (b : ByteArray) (i : Nat) : byteAt b i = b.toList.getD i 0 := by
  unfold byteAt
  split <;> simp_all [ByteArray.toList_eq_data, ByteArray.getElem_eq_getElem_data]

/-- The bytes from `i` on start with the byte at `i`. -/
theorem toList_drop_cons (b : ByteArray) {i : Nat} (hi : i < b.size) :
    b.toList.drop i = b[i] :: b.toList.drop (i + 1) := by
  rw [List.drop_eq_getElem_cons (by rw [length_toList]; exact hi)]
  simp [ByteArray.toList_eq_data, ByteArray.getElem_eq_getElem_data]

theorem toList_drop_of_le (b : ByteArray) {i : Nat} (hi : b.size ≤ i) : b.toList.drop i = [] :=
  List.drop_eq_nil_of_le (by rw [length_toList]; exact hi)

/-- `startsWith` is the prefix order of the byte lists. -/
theorem startsWith_iff (b p : ByteArray) : startsWith b p = true ↔ p.toList <+: b.toList := by
  simp only [startsWith, occursAt, Nat.zero_add, Bool.and_eq_true, decide_eq_true_eq,
    List.all_eq_true, List.mem_range, beq_iff_eq, byteAt_eq_getD, List.prefix_iff_eq_take,
    ← length_toList]
  constructor
  · rintro ⟨hle, hall⟩
    apply List.ext_getElem (by simp; omega)
    intro k h1 h2
    have hk := hall k h1
    rw [List.getD_eq_getElem _ _ (by omega), List.getD_eq_getElem _ _ h1] at hk
    simp [hk]
  · intro h
    have hlen := congrArg List.length h
    simp only [List.length_take] at hlen
    refine ⟨by omega, fun k hk => ?_⟩
    rw [h]
    simp [List.getD_eq_getElem?_getD, hk]

theorem toList_trimLeftSet_from (b : ByteArray) (set : List UInt8) (i : Nat) :
    (drop b (skipSet b set i)).toList = (b.toList.drop i).dropWhile (set.contains ·) := by
  fun_induction skipSet b set i with
  | case1 i hi hc ih => rw [ih, toList_drop_cons b hi, List.dropWhile_cons_of_pos hc]
  | case2 i hi hc =>
    rw [toList_drop, toList_drop_cons b hi, List.dropWhile_cons_of_neg (by simpa using hc)]
  | case3 i hi => rw [toList_drop, toList_drop_of_le b (by omega), List.dropWhile_nil]

/-- Trimming leading bytes of a set drops them from the list. -/
theorem toList_trimLeftSet (b : ByteArray) (set : List UInt8) :
    (trimLeftSet b set).toList = b.toList.dropWhile (set.contains ·) := by
  rw [trimLeftSet, toList_trimLeftSet_from, List.drop_zero]

/-- `findSet` is the first index, from `i` on, of a byte of the set. -/
theorem findSet_eq (b : ByteArray) (set : List UInt8) (i : Nat) :
    findSet b set i = ((b.toList.drop i).findIdx? (set.contains ·)).map (· + i) := by
  fun_induction findSet b set i with
  | case1 i hi hc => rw [toList_drop_cons b hi, List.findIdx?_cons, if_pos hc]; simp
  | case2 i hi hc ih =>
    rw [ih, toList_drop_cons b hi, List.findIdx?_cons, if_neg (by simpa using hc)]
    simp only [Option.map_map]
    congr 1
    funext x
    simp only [Function.comp_apply]
    omega
  | case3 i hi => rw [toList_drop_of_le b (by omega)]; rfl

end Bytes

theorem ByteArray.eq_of_toList_eq {a b : ByteArray} (h : a.toList = b.toList) : a = b := by
  rw [ByteArray.toList_eq_data, ByteArray.toList_eq_data] at h
  exact ByteArray.ext (Array.ext' h)

theorem ByteArray.toList_toByteArray (l : List UInt8) : l.toByteArray.toList = l := by
  simp [ByteArray.toList_eq_data, List.data_toByteArray]

/-! ### Kind names -/

namespace TokenKind

theorem print_bytes : ∀ k ∈ named, k.print.toUTF8.toList ≠ [] ∧
    ∀ c ∈ k.print.toUTF8.toList, 0x41 ≤ c ∧ c ≤ 0x7A := by
  decide +kernel

theorem print_injective : ∀ a ∈ named, ∀ b ∈ named, a.print = b.print → a = b := by
  decide +kernel

/-- The names that read as a kind are the printed names of the named kinds. -/
theorem parse?_eq_some_iff (s : String) (k : TokenKind) :
    parse? s = some k ↔ k ∈ named ∧ k.print = s := by
  constructor
  · intro h
    exact ⟨List.mem_of_find?_eq_some h, by simpa using List.find?_some h⟩
  · rintro ⟨hk, rfl⟩
    have hsome : (named.find? (·.print == k.print)).isSome :=
      List.find?_isSome.2 ⟨k, hk, beq_self_eq_true _⟩
    obtain ⟨k', hk'⟩ := Option.isSome_iff_exists.1 hsome
    have hp := List.find?_some hk'
    simp only [beq_iff_eq] at hp
    rw [parse?, hk', print_injective k' (List.mem_of_find?_eq_some hk') k hk hp]

end TokenKind


/-! ### The grammar of expectations -/

namespace Expect

/-- A space or a tab: what separates the parts of a token expectation. -/
def IsBlank (c : UInt8) : Prop := c = 0x20 ∨ c = 0x09

theorem contains_blanks (c : UInt8) : [(0x20 : UInt8), 0x09].contains c = true ↔ IsBlank c := by
  simp [IsBlank]

/-- What follows the kind name of a token expectation: nothing, or a blank and then the
literal, trimmed of white space. -/
inductive LiteralPart : List UInt8 → ByteArray → Prop
  | absent : LiteralPart [] ByteArray.empty
  | given {sep : UInt8} {rest : List UInt8} : IsBlank sep →
      LiteralPart (sep :: rest) (Bytes.trimSpace rest.toByteArray)

/-- The text after `EXPECT-TOKEN:`: blanks, an optional `+L`, blanks, the name of a kind and
its literal part. The literal may be empty only for the end and blank kinds. -/
inductive TokenSpells : List UInt8 → Expect → Prop
  | mk {ws₁ ws₂ tail : List UInt8} {ls : Bool} {k : TokenKind} {lit : ByteArray} :
      (∀ c ∈ ws₁ ++ ws₂, IsBlank c) → k ∈ TokenKind.named → LiteralPart tail lit →
      (lit.size ≠ 0 ∨ k = .eof ∨ k = .blank) →
      TokenSpells (ws₁ ++ (if ls then "+L".toUTF8.toList else []) ++ ws₂ ++
        k.print.toUTF8.toList ++ tail) (.token ls k lit)

/-- The text after `EXPECT-` that spells an expectation: `EOF`; a bracket pair, `BAL:` and a
count that reads as a non-negative integer once trimmed; or `TOKEN:` and a token expectation. -/
inductive Spells : List UInt8 → Expect → Prop
  | eof : Spells "EOF".toUTF8.toList .eof
  | balance {pair : String} {o : TokenKind} {rest : List UInt8} {n : Int} :
      (pair, o) ∈ balancePairs → Directive.parseInt? (Bytes.trimSpace rest.toByteArray) = some n →
      0 ≤ n → Spells ((pair ++ "BAL:").toUTF8.toList ++ rest) (.balance o n.toNat)
  | token {s : List UInt8} {e : Expect} : TokenSpells s e → Spells ("TOKEN:".toUTF8.toList ++ s) e

end Expect


theorem String.fromUTF8?_toUTF8_eq (s : String) : String.fromUTF8? s.toUTF8 = some s := by
  simp [String.fromUTF8?, String.fromUTF8, s.isValidUTF8]

theorem String.toUTF8_of_fromUTF8? {b : ByteArray} {s : String} (h : String.fromUTF8? b = some s) :
    s.toUTF8 = b := by
  unfold String.fromUTF8? at h
  split at h
  · cases h
    rfl
  · cases h

namespace Directive

open Expect

@[simp] theorem bytes_eof : "EOF".toByteArray.toList = [0x45, 0x4F, 0x46] := by with_unfolding_all decide
@[simp] theorem bytes_token :
    "TOKEN:".toByteArray.toList = [0x54, 0x4F, 0x4B, 0x45, 0x4E, 0x3A] := by with_unfolding_all decide
@[simp] theorem bytes_lineStart : "+L".toByteArray.toList = [0x2B, 0x4C] := by with_unfolding_all decide
@[simp] theorem bytes_paren :
    "()BAL:".toByteArray.toList = [0x28, 0x29, 0x42, 0x41, 0x4C, 0x3A] := by with_unfolding_all decide
@[simp] theorem bytes_bracket :
    "[]BAL:".toByteArray.toList = [0x5B, 0x5D, 0x42, 0x41, 0x4C, 0x3A] := by with_unfolding_all decide
@[simp] theorem bytes_brace :
    "\x7b\x7dBAL:".toByteArray.toList = [0x7B, 0x7D, 0x42, 0x41, 0x4C, 0x3A] := by with_unfolding_all decide
@[simp] theorem bytes_expect :
    "EXPECT-".toByteArray.toList = [0x45, 0x58, 0x50, 0x45, 0x43, 0x54, 0x2D] := by with_unfolding_all decide

/-- The name of a token expectation reads as the kind it prints. -/
theorem kind_of_name (name : ByteArray) (k : TokenKind) :
    (String.fromUTF8? name).bind TokenKind.parse? = some k ↔
      k ∈ TokenKind.named ∧ name = k.print.toUTF8 := by
  constructor
  · intro h
    obtain ⟨s, hs, hk⟩ := Option.bind_eq_some_iff.1 h
    obtain ⟨hmem, rfl⟩ := (TokenKind.parse?_eq_some_iff s k).1 hk
    exact ⟨hmem, (String.toUTF8_of_fromUTF8? hs).symm⟩
  · rintro ⟨hmem, rfl⟩
    rw [String.fromUTF8?_toUTF8_eq, Option.bind_some]
    exact (TokenKind.parse?_eq_some_iff _ k).2 ⟨hmem, rfl⟩

/-- A blank-led list loses exactly its leading blanks when they are trimmed. -/
theorem dropWhile_blanks {ws t : List UInt8} (hws : ∀ c ∈ ws, IsBlank c)
    (ht : ∀ c ∈ t.head?, ¬ IsBlank c) :
    (ws ++ t).dropWhile ([(0x20 : UInt8), 0x09].contains ·) = t := by
  rw [List.dropWhile_append_of_pos (fun c hc => (contains_blanks c).2 (hws c hc))]
  cases t with
  | nil => rfl
  | cons c t =>
    refine List.dropWhile_cons_of_neg ?_
    rw [contains_blanks]
    exact ht c rfl

/-- Reading a token expectation first trims blanks, then an optional `+L` and the blanks after
it: what it goes on with is the text less such a lead. -/
theorem flag_split {rest s1 s2 : ByteArray} {ls : Bool}
    (hs1 : Bytes.trimLeftSet rest [32, 9] = s1)
    (hsplit : (if Bytes.startsWith s1 "+L".toUTF8 = true then
      (true, Bytes.trimLeftSet (Bytes.drop s1 2) [32, 9]) else (false, s1)) = (ls, s2)) :
    ∃ ws₁ ws₂, (∀ c ∈ ws₁ ++ ws₂, IsBlank c) ∧
      rest.toList = ws₁ ++ (if ls then "+L".toUTF8.toList else []) ++ ws₂ ++ s2.toList := by
  have hlead : ∀ l : List UInt8, ∀ c ∈ l.takeWhile ([(0x20 : UInt8), 0x09].contains ·),
      IsBlank c := fun l c hc => (contains_blanks c).1 (List.mem_takeWhile_imp hc)
  have h1 : rest.toList = rest.toList.takeWhile ([(0x20 : UInt8), 0x09].contains ·) ++ s1.toList := by
    rw [← hs1, Bytes.toList_trimLeftSet, List.takeWhile_append_dropWhile]
  split at hsplit
  · rename_i hp
    obtain ⟨rfl, rfl⟩ := Prod.mk.inj hsplit
    obtain ⟨t, ht⟩ := (Bytes.startsWith_iff _ _).1 hp
    refine ⟨rest.toList.takeWhile ([(0x20 : UInt8), 0x09].contains ·),
      t.takeWhile ([(0x20 : UInt8), 0x09].contains ·), ?_, ?_⟩
    · intro c hc
      rcases List.mem_append.1 hc with hc | hc
      · exact hlead _ c hc
      · exact hlead _ c hc
    · rw [Bytes.toList_trimLeftSet, Bytes.toList_drop, ← ht, if_pos rfl]
      have hdrop : ("+L".toUTF8.toList ++ t).drop 2 = t := by simp
      rw [hdrop, List.append_assoc _ _ (List.dropWhile _ t), List.takeWhile_append_dropWhile,
        List.append_assoc, ht]
      exact h1
  · obtain ⟨rfl, rfl⟩ := Prod.mk.inj hsplit
    refine ⟨rest.toList.takeWhile ([(0x20 : UInt8), 0x09].contains ·), [],
      fun c hc => hlead _ c (by simpa using hc), ?_⟩
    simpa using h1

/-- A lead of blanks, an optional `+L` and blanks is read back exactly when the text after it
starts with a letter. -/
theorem flag_split_unique {rest s1 s2 : ByteArray} {ls ls' : Bool} {ws₁ ws₂ t : List UInt8}
    (hs1 : Bytes.trimLeftSet rest [32, 9] = s1)
    (hsplit : (if Bytes.startsWith s1 "+L".toUTF8 = true then
      (true, Bytes.trimLeftSet (Bytes.drop s1 2) [32, 9]) else (false, s1)) = (ls, s2))
    (hws : ∀ c ∈ ws₁ ++ ws₂, IsBlank c) (ht : ∀ c ∈ t.head?, 0x41 ≤ c ∧ c ≤ 0x7A)
    (hrest : rest.toList = ws₁ ++ (if ls' then "+L".toUTF8.toList else []) ++ ws₂ ++ t) :
    ls = ls' ∧ s2.toList = t := by
  have hws₁ : ∀ c ∈ ws₁, IsBlank c := fun c hc => hws c (List.mem_append_left _ hc)
  have hws₂ : ∀ c ∈ ws₂, IsBlank c := fun c hc => hws c (List.mem_append_right _ hc)
  have htb : ∀ c ∈ t.head?, ¬ IsBlank c := fun c hc hb => by
    have := ht c hc
    rcases hb with rfl | rfl <;> simp at this
  have ht2 : ∀ c ∈ t.head?, c ≠ 0x2B := fun c hc hp => by
    have := ht c hc
    subst hp
    simp at this
  cases ls'
  · have hs1' : s1.toList = t := by
      rw [← hs1, Bytes.toList_trimLeftSet, hrest, if_neg Bool.false_ne_true, List.append_nil,
        dropWhile_blanks hws htb]
    have hno : Bytes.startsWith s1 "+L".toUTF8 = false := by
      rw [Bool.eq_false_iff, ne_eq, Bytes.startsWith_iff, hs1']
      intro ⟨u, hu⟩
      cases t with
      | nil => simp at hu
      | cons c t =>
        simp only [String.toUTF8_eq_toByteArray, bytes_lineStart, List.cons_append,
          List.cons.injEq] at hu
        exact ht2 c rfl hu.1.symm
    rw [if_neg (by rw [hno]; exact Bool.false_ne_true)] at hsplit
    obtain ⟨rfl, rfl⟩ := Prod.mk.inj hsplit
    exact ⟨rfl, hs1'⟩
  · have hs1' : s1.toList = "+L".toUTF8.toList ++ ws₂ ++ t := by
      rw [← hs1, Bytes.toList_trimLeftSet, hrest, if_pos rfl, List.append_assoc ws₁,
        List.append_assoc, List.append_assoc, dropWhile_blanks hws₁]
      simp only [String.toUTF8_eq_toByteArray, bytes_lineStart, List.cons_append, List.head?_cons,
        Option.mem_def, Option.some.injEq, forall_eq', IsBlank]
      decide
    have hyes : Bytes.startsWith s1 "+L".toUTF8 = true := by
      rw [Bytes.startsWith_iff, hs1', List.append_assoc]
      exact List.prefix_append _ _
    rw [if_pos hyes] at hsplit
    obtain ⟨rfl, rfl⟩ := Prod.mk.inj hsplit
    refine ⟨rfl, ?_⟩
    rw [Bytes.toList_trimLeftSet, Bytes.toList_drop, hs1', List.append_assoc]
    simp only [String.toUTF8_eq_toByteArray, bytes_lineStart, List.cons_append, List.nil_append,
      List.drop_succ_cons, List.drop_zero]
    exact dropWhile_blanks hws₂ htb

/-- The name of a token expectation ends at its first blank; the literal part is the rest. -/
theorem name_split_some {s2 : ByteArray} {i : Nat} (h : Bytes.findSet s2 [32, 9] 0 = some i) :
    ∃ tail, s2.toList = (Bytes.take s2 i).toList ++ tail ∧
      (∀ c ∈ (Bytes.take s2 i).toList, ¬ IsBlank c) ∧
      LiteralPart tail (Bytes.trimSpace (Bytes.drop s2 (i + 1))) := by
  rw [Bytes.findSet_eq, List.drop_zero, Option.map_eq_some_iff] at h
  obtain ⟨j, hj, rfl⟩ := h
  obtain ⟨hlt, hblank, hbefore⟩ := List.findIdx?_eq_some_iff_getElem.1 hj
  refine ⟨s2.toList.drop (j + 0), by rw [Bytes.toList_take, Nat.add_zero, List.take_append_drop],
    fun c hc => ?_, ?_⟩
  · rw [Bytes.toList_take, Nat.add_zero] at hc
    obtain ⟨k, hk, rfl⟩ := List.getElem_of_mem hc
    rw [List.getElem_take, ← contains_blanks]
    simp only [List.length_take] at hk
    simpa using hbefore k (by omega)
  · rw [Nat.add_zero, List.drop_eq_getElem_cons hlt]
    have hrest : Bytes.drop s2 (j + 1) = (s2.toList.drop (j + 1)).toByteArray :=
      ByteArray.eq_of_toList_eq (by rw [Bytes.toList_drop, ByteArray.toList_toByteArray])
    rw [Nat.add_zero, hrest]
    exact LiteralPart.given ((contains_blanks _).1 hblank)

/-- A name free of blanks followed by a literal part is split back into the two. -/
theorem findSet_of_name {s2 : ByteArray} {p tail : List UInt8} {lit : ByteArray}
    (hs : s2.toList = p ++ tail) (hp : ∀ c ∈ p, ¬ IsBlank c) (ht : LiteralPart tail lit) :
    (tail = [] ∧ lit = ByteArray.empty ∧ Bytes.findSet s2 [32, 9] 0 = none) ∨
    (Bytes.findSet s2 [32, 9] 0 = some p.length ∧ Bytes.take s2 p.length = p.toByteArray ∧
      Bytes.trimSpace (Bytes.drop s2 (p.length + 1)) = lit) := by
  have hnone : p.findIdx? ([(0x20 : UInt8), 0x09].contains ·) = none :=
    List.findIdx?_eq_none_iff.2 fun c hc => by
      rw [Bool.eq_false_iff, ne_eq, contains_blanks]
      exact hp c hc
  rw [Bytes.findSet_eq, List.drop_zero, hs, List.findIdx?_append, hnone, Option.none_or]
  cases ht with
  | absent => exact .inl ⟨rfl, rfl, by simp⟩
  | given hsep =>
    rename_i sep rest
    refine .inr ⟨?_, ?_, ?_⟩
    · rw [List.findIdx?_cons, if_pos ((contains_blanks sep).2 hsep)]
      simp
    · exact ByteArray.eq_of_toList_eq (by
        rw [Bytes.toList_take, hs, ByteArray.toList_toByteArray, List.take_left])
    · congr 1
      exact ByteArray.eq_of_toList_eq (by
        rw [Bytes.toList_drop, hs, ByteArray.toList_toByteArray, List.drop_append]
        simp)

/-- The parts read off a token expectation, put back together, spell it. -/
theorem tokenSpells_of_split {rest s2 name lit : ByteArray} {ws₁ ws₂ tail : List UInt8}
    {ls : Bool} {k : TokenKind} (hws : ∀ c ∈ ws₁ ++ ws₂, IsBlank c)
    (hrest : rest.toList = ws₁ ++ (if ls then "+L".toUTF8.toList else []) ++ ws₂ ++ s2.toList)
    (hs2 : s2.toList = name.toList ++ tail) (hk : k ∈ TokenKind.named ∧ name = k.print.toUTF8)
    (hlit : LiteralPart tail lit) (hne : lit.size ≠ 0 ∨ k = .eof ∨ k = .blank) :
    TokenSpells rest.toList (.token ls k lit) := by
  obtain ⟨hmem, rfl⟩ := hk
  rw [hrest, hs2, ← List.append_assoc]
  exact .mk hws hmem hlit hne

theorem print_not_blank {k : TokenKind} (hk : k ∈ TokenKind.named) :
    ∀ c ∈ k.print.toUTF8.toList, ¬ IsBlank c := by
  intro c hc hb
  have := ((TokenKind.print_bytes k hk).2 c hc)
  rcases hb with rfl | rfl <;> simp at this

theorem print_head_letter {k : TokenKind} (hk : k ∈ TokenKind.named) (tail : List UInt8) :
    ∀ c ∈ (k.print.toUTF8.toList ++ tail).head?, 0x41 ≤ c ∧ c ≤ 0x7A := by
  intro c hc
  obtain ⟨hne, hall⟩ := TokenKind.print_bytes k hk
  rw [List.head?_append_of_ne_nil _ hne] at hc
  exact hall c (List.mem_of_mem_head? hc)

/-- The literal may be left out only for the end and blank kinds. -/
theorem literal_check_iff (lit : ByteArray) (k : TokenKind) :
    (decide (lit.size = 0) && k != .eof && k != .blank) = false ↔
      lit.size ≠ 0 ∨ k = .eof ∨ k = .blank := by
  by_cases h : lit.size = 0 <;> by_cases he : k = .eof <;> simp [h, he]

/-- The text after `EXPECT-TOKEN:` is read exactly when it spells a token expectation, and into
that expectation. -/
theorem parseToken_ok_iff (rest : ByteArray) (e : Expect) :
    parseToken rest = .ok e ↔ TokenSpells rest.toList e := by
  unfold parseToken
  simp only [bind, Except.bind, pure, Except.pure, throw, throwThe, MonadExceptOf.throw]
  generalize hs1 : Bytes.trimLeftSet rest [32, 9] = s1
  generalize hsplit : (if Bytes.startsWith s1 "+L".toUTF8 = true then
    (true, Bytes.trimLeftSet (Bytes.drop s1 2) [32, 9]) else (false, s1)) = q
  obtain ⟨ls, s2⟩ := q
  constructor
  · intro h
    obtain ⟨ws₁, ws₂, hws, hrest⟩ := flag_split hs1 hsplit
    -- the name runs to the first blank; what follows it is the literal part
    rcases hf : Bytes.findSet s2 [32, 9] 0 with _ | i <;> simp only [hf] at h
    · have hs2 : s2.toList = s2.toList ++ [] := (List.append_nil _).symm
      have hlit : LiteralPart [] ByteArray.empty := .absent
      split at h
      · cases h
      split at h
      · rename_i k hk
        split at h
        · cases h
        rename_i hc
        cases h
        exact tokenSpells_of_split hws hrest hs2 ((kind_of_name _ k).1 hk) hlit
          ((literal_check_iff _ k).1 (Bool.eq_false_iff.2 hc))
      · cases h
    · obtain ⟨tail, hs2, -, hlit⟩ := name_split_some hf
      split at h
      · cases h
      split at h
      · rename_i k hk
        split at h
        · cases h
        rename_i hc
        cases h
        exact tokenSpells_of_split hws hrest hs2 ((kind_of_name _ k).1 hk) hlit
          ((literal_check_iff _ k).1 (Bool.eq_false_iff.2 hc))
      · cases h
  · intro h
    generalize hr : rest.toList = r at h
    cases h with
    | @mk ws₁ ws₂ tail ls' k lit hws hmem hlit hne =>
    have hr' : rest.toList = ws₁ ++ (if ls' then "+L".toUTF8.toList else []) ++ ws₂ ++
        (k.print.toUTF8.toList ++ tail) := by rw [hr, List.append_assoc _ _ tail]
    obtain ⟨rfl, hs2⟩ := flag_split_unique hs1 hsplit hws (print_head_letter hmem tail) hr'
    have hsize : k.print.toUTF8.size ≠ 0 := by
      rw [← Bytes.length_toList, ne_eq, List.length_eq_zero_iff]
      exact (TokenKind.print_bytes k hmem).1
    have hkind := (kind_of_name k.print.toUTF8 k).2 ⟨hmem, rfl⟩
    have hcheck := (literal_check_iff lit k).2 hne
    rcases findSet_of_name hs2 (print_not_blank hmem) hlit with ⟨rfl, rfl, hf⟩ | ⟨hf, htake, hlit'⟩
    · have hname : s2 = k.print.toUTF8 := ByteArray.eq_of_toList_eq (by rw [hs2, List.append_nil])
      simp only [hf]
      rw [hname, if_neg hsize, hkind]
      simp only [hcheck, Bool.false_eq_true, if_false]
    · have hname : k.print.toUTF8.toList.toByteArray = k.print.toUTF8 :=
        ByteArray.eq_of_toList_eq (ByteArray.toList_toByteArray _)
      simp only [hf, htake, hlit', hname]
      rw [if_neg hsize, hkind]
      simp only [hcheck, Bool.false_eq_true, if_false]

/-- Reading a token expectation fails only with errors of its own. -/
theorem parseToken_ne_notExpect (rest : ByteArray) : parseToken rest ≠ .error .notExpect := by
  intro h
  unfold parseToken at h
  simp only [bind, Except.bind, pure, Except.pure, throw, throwThe, MonadExceptOf.throw] at h
  generalize (if Bytes.startsWith (Bytes.trimLeftSet rest [32, 9]) "+L".toUTF8 = true then
    (true, Bytes.trimLeftSet (Bytes.drop (Bytes.trimLeftSet rest [32, 9]) 2) [32, 9])
    else (false, Bytes.trimLeftSet rest [32, 9])) = q at h
  obtain ⟨ls, s2⟩ := q
  rcases hf : Bytes.findSet s2 [32, 9] 0 with _ | i <;> simp only [hf] at h
  all_goals
    split at h
    · cases h
    split at h
    · split at h <;> cases h
    · cases h

/-! ### Reading the grammar back -/

theorem spells_eof_iff (e : Expect) : Spells "EOF".toUTF8.toList e ↔ e = .eof := by
  constructor
  · intro h
    generalize hr : "EOF".toUTF8.toList = r at h
    cases h with
    | eof => rfl
    | balance hmem => simp [balancePairs] at hmem; rcases hmem with ⟨rfl, -⟩ | ⟨rfl, -⟩ | ⟨rfl, -⟩ <;> simp at hr
    | token => simp at hr
  · rintro rfl
    exact .eof

theorem spells_token_iff (s : List UInt8) (e : Expect) :
    Spells ("TOKEN:".toUTF8.toList ++ s) e ↔ TokenSpells s e := by
  constructor
  · intro h
    generalize hr : "TOKEN:".toUTF8.toList ++ s = r at h
    cases h with
    | eof => simp at hr
    | balance hmem => simp [balancePairs] at hmem; rcases hmem with ⟨rfl, -⟩ | ⟨rfl, -⟩ | ⟨rfl, -⟩ <;> simp at hr
    | token h => rwa [List.append_cancel_left hr]
  · exact .token

/-- The three heads of balance expectations start with different bytes. -/
theorem balance_head_eq {p q : String} {o o' : TokenKind} {s t : List UInt8}
    (hp : (p, o) ∈ balancePairs) (hq : (q, o') ∈ balancePairs)
    (h : (p ++ "BAL:").toUTF8.toList ++ s = (q ++ "BAL:").toUTF8.toList ++ t) :
    p = q ∧ o = o' ∧ s = t := by
  simp only [balancePairs, List.mem_cons, Prod.mk.injEq, List.not_mem_nil, or_false] at hp hq
  rcases hp with ⟨rfl, rfl⟩ | ⟨rfl, rfl⟩ | ⟨rfl, rfl⟩ <;>
    rcases hq with ⟨rfl, rfl⟩ | ⟨rfl, rfl⟩ | ⟨rfl, rfl⟩ <;> simp_all

theorem spells_balance_iff {pair : String} {o : TokenKind} (hmem : (pair, o) ∈ balancePairs)
    (s : List UInt8) (e : Expect) :
    Spells ((pair ++ "BAL:").toUTF8.toList ++ s) e ↔
      ∃ n, parseInt? (Bytes.trimSpace s.toByteArray) = some n ∧ 0 ≤ n ∧ e = .balance o n.toNat := by
  constructor
  · intro h
    generalize hr : (pair ++ "BAL:").toUTF8.toList ++ s = r at h
    cases h with
    | eof =>
      simp only [balancePairs, List.mem_cons, Prod.mk.injEq, List.not_mem_nil, or_false] at hmem
      rcases hmem with ⟨rfl, -⟩ | ⟨rfl, -⟩ | ⟨rfl, -⟩ <;> simp at hr
    | balance hq hn hpos =>
      obtain ⟨-, rfl, rfl⟩ := balance_head_eq hmem hq hr
      exact ⟨_, hn, hpos, rfl⟩
    | token =>
      simp only [balancePairs, List.mem_cons, Prod.mk.injEq, List.not_mem_nil, or_false] at hmem
      rcases hmem with ⟨rfl, -⟩ | ⟨rfl, -⟩ | ⟨rfl, -⟩ <;> simp at hr
  · rintro ⟨n, hn, hpos, rfl⟩
    exact .balance hmem hn hpos

/-- A text that starts with none of the heads spells nothing. -/
theorem not_spells {r : List UInt8} (heof : r ≠ "EOF".toUTF8.toList)
    (htok : ¬ "TOKEN:".toUTF8.toList <+: r)
    (hbal : ∀ p o, (p, o) ∈ balancePairs → ¬ (p ++ "BAL:").toUTF8.toList <+: r) (e : Expect) :
    ¬ Spells r e := by
  intro h
  cases h with
  | eof => exact heof rfl
  | balance hmem => exact hbal _ _ hmem (List.prefix_append _ _)
  | token => exact htok (List.prefix_append _ _)

/-- A body that starts with `EXPECT-` is read exactly when the rest spells an expectation, and
otherwise fails with an error of its own. -/
theorem parse_of_rest {b : ByteArray} {r : List UInt8}
    (hr : b.toList = "EXPECT-".toUTF8.toList ++ r) :
    (∀ e, parse b = .ok e ↔ Spells r e) ∧ parse b ≠ .error .notExpect := by
  have hexp : isExpect b = true := (Bytes.startsWith_iff _ _).2 ⟨r, hr.symm⟩
  have hrest : (Bytes.drop b expectText.size).toList = r := by
    rw [Bytes.toList_drop, hr, show expectText.size = 7 by with_unfolding_all decide]
    simp
  unfold parse
  rw [if_neg (by simp [hexp])]
  generalize Bytes.drop b expectText.size = rest at hrest
  simp only []
  by_cases heof : r = "EOF".toUTF8.toList
  · have hbeq : (rest == "EOF".toUTF8) = true :=
      beq_iff_eq.2 (ByteArray.eq_of_toList_eq (hrest.trans heof))
    simp only [hbeq, if_true, heof, spells_eof_iff]
    exact ⟨fun e => ⟨fun h => (Except.ok.inj h).symm, fun h => h ▸ rfl⟩, fun h => by cases h⟩
  have hbeq : (rest == "EOF".toUTF8) = false := by
    rw [Bool.eq_false_iff, ne_eq, beq_iff_eq]
    rintro rfl
    exact heof hrest.symm
  simp only [hbeq, Bool.false_eq_true, if_false]
  by_cases htok : "TOKEN:".toUTF8.toList <+: r
  · obtain ⟨s, rfl⟩ := htok
    have hstart : Bytes.startsWith rest "TOKEN:".toUTF8 = true := by
      rw [Bytes.startsWith_iff, hrest]
      exact List.prefix_append _ _
    have hdrop : (Bytes.drop rest 6).toList = s := by
      rw [Bytes.toList_drop, hrest]
      simp
    simp only [hstart, if_true]
    refine ⟨fun e => ?_, parseToken_ne_notExpect _⟩
    rw [parseToken_ok_iff, hdrop, spells_token_iff]
  have hstart : Bytes.startsWith rest "TOKEN:".toUTF8 = false := by
    rw [Bool.eq_false_iff, ne_eq, Bytes.startsWith_iff, hrest]
    exact htok
  simp only [hstart, Bool.false_eq_true, if_false]
  by_cases hbal : ∃ p o s, (p, o) ∈ balancePairs ∧ r = (p ++ "BAL:").toUTF8.toList ++ s
  · obtain ⟨p, o, s, hmem, rfl⟩ := hbal
    -- only the pair the text starts with passes the filter
    have hforms : balancePairs.filter (fun x => Bytes.startsWith rest (x.1 ++ "BAL:").toUTF8) =
        [(p, o)] := by
      simp only [balancePairs, List.mem_cons, Prod.mk.injEq, List.not_mem_nil, or_false] at hmem
      rcases hmem with ⟨rfl, rfl⟩ | ⟨rfl, rfl⟩ | ⟨rfl, rfl⟩ <;>
        simp only [balancePairs, List.filter_cons, List.filter_nil, Bytes.startsWith_iff, hrest] <;>
        simp
    have hcount : Bytes.drop rest (p ++ "BAL:").toUTF8.size = s.toByteArray :=
      ByteArray.eq_of_toList_eq (by
        rw [Bytes.toList_drop, hrest, ByteArray.toList_toByteArray, ← Bytes.length_toList,
          List.drop_left])
    rw [hforms]
    simp only [hcount]
    refine ⟨fun e => ?_, ?_⟩
    · rw [spells_balance_iff hmem]
      cases hn : parseInt? (Bytes.trimSpace s.toByteArray) with
      | none => simp
      | some n =>
        by_cases hneg : n < 0
        · simp [hneg]
        · simp only [hneg, if_false, Except.ok.injEq, Option.some.injEq]
          constructor
          · rintro rfl
            exact ⟨n, rfl, by omega, rfl⟩
          · rintro ⟨_, rfl, -, rfl⟩
            rfl
    · split
      · split <;> simp
      · simp
  · -- no head matches: the word is unknown, and nothing is spelled
    have hnone : ∀ p o, (p, o) ∈ balancePairs → ¬ (p ++ "BAL:").toUTF8.toList <+: r := by
      rintro p o hmem ⟨s, hs⟩
      exact hbal ⟨p, o, s, hmem, hs.symm⟩
    have hforms : balancePairs.filter (fun x => Bytes.startsWith rest (x.1 ++ "BAL:").toUTF8) = [] := by
      rw [List.filter_eq_nil_iff]
      rintro ⟨p, o⟩ hmem
      rw [Bytes.startsWith_iff, hrest]
      exact hnone p o hmem
    rw [hforms]
    simp only []
    refine ⟨fun e => ⟨fun h => ?_, fun h => absurd h (not_spells heof htok hnone e)⟩, fun h => ?_⟩
    all_goals cases h

/-- The reader of expectation bodies reads exactly the grammar: it answers `notExpect` exactly
when the body does not start with `EXPECT-`, and reads `e` exactly when the rest spells `e`. -/
theorem parse_iff_spells (b : ByteArray) :
    (parse b = .error .notExpect ↔ ¬ "EXPECT-".toUTF8.toList <+: b.toList) ∧
    ∀ e, parse b = .ok e ↔ ∃ r, b.toList = "EXPECT-".toUTF8.toList ++ r ∧ Spells r e := by
  by_cases hx : "EXPECT-".toUTF8.toList <+: b.toList
  · obtain ⟨r, hr⟩ := hx
    obtain ⟨hok, hne⟩ := parse_of_rest hr.symm
    refine ⟨⟨fun h => absurd h hne, fun h => absurd ⟨r, hr⟩ h⟩, fun e => ?_⟩
    rw [hok]
    constructor
    · exact fun h => ⟨r, hr.symm, h⟩
    · rintro ⟨r', hr', h⟩
      rwa [List.append_cancel_left (hr.trans hr')]
  · have hnot : parse b = .error .notExpect := by
      have hexp : isExpect b = false := by
        rw [Bool.eq_false_iff, ne_eq, isExpect, Bytes.startsWith_iff]
        exact hx
      simp [parse, hexp]
    refine ⟨⟨fun _ => hx, fun _ => hnot⟩, fun e => ⟨fun h => ?_, ?_⟩⟩
    · rw [hnot] at h
      cases h
    · rintro ⟨r, hr, -⟩
      exact absurd ⟨r, hr.symm⟩ hx

end Directive

end NovelScript

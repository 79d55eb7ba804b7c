import Mathlib
import NovelScript.Source.Unit
/-!
# Lines and columns of a unit

A unit keeps the offsets of its newline bytes and answers two questions from them: the line and
column of an offset (`SourceUnit.position`, a lower-bound binary search over the offsets) and the
text of a line (`SourceUnit.line`, index arithmetic on the same offsets). Both are read here
against the text alone:

* the line of offset `o` is one more than the number of newlines before `o`, and its column one
  more than the number of bytes since the last of them (`SourceUnit.position_eq`);
* line `l` is the `l`-th piece of the text cut at its newlines, and there is no other line
  (`SourceUnit.line_piece`, `SourceUnit.line_outside`), so the lines joined by newlines give
  back the text;
* the byte at an offset is the byte of its line at its column (`SourceUnit.line_get_col`).

The offsets are characterised first (`NewlineIndex`): entry `j` is the newline with exactly `j`
newlines before it, and there is one entry per newline. The search, the line arithmetic and the
cuts of `List.splitOn` are all read through that.
-/

namespace NovelScript

/-- One past the last newline among the first `o` bytes of `L`, or 0 when there is none: where
the line holding offset `o` starts. -/
def lineStart (L : List UInt8) : Nat → Nat
  | 0 => 0
  | o + 1 => if L[o]? = some 0x0A then o + 1 else lineStart L o

/-- Where line `j + 1` starts, read from the newline offsets `N`: at 0, or one past the `j`-th
newline. -/
def lineBegin (N : Array Nat) (j : Nat) : Nat := if j = 0 then 0 else N.getD (j - 1) 0 + 1

/-- `N` indexes the newlines of `L`: entry `j` is a newline with exactly `j` newlines before it,
and there is one entry per newline. -/
structure NewlineIndex (L : List UInt8) (N : Array Nat) : Prop where
  newline : ∀ j (h : j < N.size), L[N[j]]? = some 0x0A
  before : ∀ j (h : j < N.size), (L.take N[j]).count 0x0A = j
  size : N.size = L.count 0x0A

/-! ### Counting newlines in a prefix -/

section Count

variable {L : List UInt8}

theorem count_take_succ (L : List UInt8) (i : Nat) :
    (L.take (i + 1)).count 0x0A = (L.take i).count 0x0A + if L[i]? = some 0x0A then 1 else 0 := by
  rw [List.take_add_one, List.count_append]
  cases L[i]? with
  | none => simp
  | some x => by_cases hx : x = 0x0A <;> simp [hx]

theorem count_take_mono {a b : Nat} (h : a ≤ b) :
    (L.take a).count 0x0A ≤ (L.take b).count 0x0A :=
  (List.take_sublist_take_left h).count_le _

theorem count_take_le_count (a : Nat) : (L.take a).count 0x0A ≤ L.count 0x0A :=
  (List.take_sublist a L).count_le _

/-- A newline lies before `b` exactly when fewer newlines lie before it than before `b`. -/
theorem newline_lt_iff {q b : Nat} (hq : L[q]? = some 0x0A) :
    q < b ↔ (L.take q).count 0x0A < (L.take b).count 0x0A := by
  constructor
  · intro hlt
    have h1 := count_take_succ L q
    rw [if_pos hq] at h1
    have h2 : (L.take (q + 1)).count 0x0A ≤ (L.take b).count 0x0A := count_take_mono hlt
    omega
  · intro hlt
    by_contra hge
    have := count_take_mono (L := L) (not_lt.1 hge)
    omega

theorem lineStart_le (L : List UInt8) (o : Nat) : lineStart L o ≤ o := by
  induction o with
  | zero => rfl
  | succ o ih =>
    unfold lineStart
    split <;> omega

end Count

/-! ### The newline index -/

namespace NewlineIndex

variable {L : List UInt8} {N : Array Nat}

/-- Scanning one more byte extends an index of the bytes scanned so far. -/
theorem push_step {i : Nat} {acc : Array Nat} (h : NewlineIndex (L.take i) acc)
    (hi : i < L.length) :
    NewlineIndex (L.take (i + 1)) (if L[i] = 0x0A then acc.push i else acc) := by
  have htake : L.take (i + 1) = L.take i ++ [L[i]] := by
    rw [List.take_add_one, List.getElem?_eq_getElem hi]
    rfl
  have hlen : (L.take i).length = i := List.length_take_of_le hi.le
  -- an old entry reads the same byte and the same prefix in the longer text
  have hold_lt : ∀ j (hj : j < acc.size), acc[j] < i := fun j hj => by
    have := h.newline j hj
    rw [← hlen]
    exact (List.getElem?_eq_some_iff.1 this).1
  have hold_get : ∀ j (hj : j < acc.size), (L.take (i + 1))[acc[j]]? = some 0x0A := fun j hj => by
    rw [htake, List.getElem?_append_left (by rw [hlen]; exact hold_lt j hj)]
    exact h.newline j hj
  have hold_take : ∀ j (hj : j < acc.size),
      ((L.take (i + 1)).take acc[j]).count 0x0A = j := fun j hj => by
    rw [htake, List.take_append_of_le_length (by rw [hlen]; exact (hold_lt j hj).le)]
    exact h.before j hj
  have hcount : (L.take (i + 1)).count 0x0A =
      acc.size + if L[i] = 0x0A then 1 else 0 := by
    rw [count_take_succ, List.getElem?_eq_getElem hi, ← h.size]
    simp
  split
  · rename_i hnl
    refine ⟨fun j hj => ?_, fun j hj => ?_, ?_⟩
    · rw [Array.getElem_push]
      split
      · exact hold_get j ‹_›
      · rw [htake, List.getElem?_append_right (by rw [hlen]), hlen, Nat.sub_self]
        simp [hnl]
    · rw [Array.getElem_push]
      split
      · exact hold_take j ‹_›
      · rw [Array.size_push] at hj
        rw [htake, List.take_append_of_le_length (by rw [hlen]), List.take_of_length_le (by rw [hlen]),
          ← h.size]
        omega
    · rw [Array.size_push, hcount, if_pos hnl]
  · rename_i hnl
    refine ⟨hold_get, hold_take, ?_⟩
    rw [hcount, if_neg hnl, Nat.add_zero]

/-- The offsets the unit records index the newlines of its text. -/
theorem newlineOffsets_index (b : ByteArray) :
    NewlineIndex b.data.toList (newlineOffsets b 0 #[]) := by
  -- the scan keeps an index of the bytes before its position
  suffices ∀ i acc, NewlineIndex (b.data.toList.take i) acc →
      NewlineIndex b.data.toList (newlineOffsets b i acc) by
    exact this 0 #[] ⟨fun _ h => absurd h (by simp), fun _ h => absurd h (by simp), by simp⟩
  intro i acc h
  fun_induction newlineOffsets b i acc with
  | case1 i acc hi ih =>
    apply ih
    have hi' : i < b.data.toList.length := by simpa using hi
    have := push_step h hi'
    simpa [ByteArray.getElem_eq_getElem_data, beq_iff_eq] using this
  | case2 i acc hi =>
    rwa [List.take_of_length_le (by simpa using hi)] at h

theorem count_take_newline (h : NewlineIndex L N) (j : Nat) (hj : j < N.size) :
    (L.take (N[j] + 1)).count 0x0A = j + 1 := by
  rw [count_take_succ, h.before j hj, if_pos (h.newline j hj)]

/-- Entries are increasing. -/
theorem lt_of_lt (h : NewlineIndex L N) {i j : Nat} (hij : i < j) (hj : j < N.size) :
    N[i] < N[j] :=
  (newline_lt_iff (h.newline i (by omega))).2 (by rw [h.before i, h.before j hj]; exact hij)

/-- Every newline is the entry numbered by the newlines before it. -/
theorem get_count (h : NewlineIndex L N) {q : Nat} (hq : L[q]? = some 0x0A) :
    ∃ hj : (L.take q).count 0x0A < N.size, N[(L.take q).count 0x0A] = q := by
  have hlt : (L.take q).count 0x0A < N.size := by
    have h1 := count_take_succ L q
    rw [if_pos hq] at h1
    have h2 := count_take_le_count (L := L) (q + 1)
    rw [h.size]
    omega
  refine ⟨hlt, ?_⟩
  have hN := h.before _ hlt
  rcases lt_trichotomy N[(L.take q).count 0x0A] q with hl | he | hg
  · have := (newline_lt_iff (h.newline _ hlt)).1 hl
    omega
  · exact he
  · have := (newline_lt_iff hq).1 hg
    omega

theorem count_take_lineBegin (h : NewlineIndex L N) {j : Nat} (hj : j ≤ N.size) :
    (L.take (lineBegin N j)).count 0x0A = j := by
  unfold lineBegin
  split
  · simp [*]
  · rw [Array.getD_eq_getD_getElem?, Array.getElem?_eq_getElem (by omega), Option.getD_some,
      count_take_newline h _ (by omega)]
    omega

theorem lineBegin_le (h : NewlineIndex L N) {j : Nat} (hj : j < N.size) : lineBegin N j ≤ N[j] := by
  unfold lineBegin
  split
  · omega
  · rw [Array.getD_eq_getD_getElem?, Array.getElem?_eq_getElem (by omega), Option.getD_some]
    exact h.lt_of_lt (by omega) hj

/-- No newline lies between where a line begins and the newline that ends it. -/
theorem not_newline_before (h : NewlineIndex L N) {j q : Nat} (hj : j < N.size)
    (hq₁ : lineBegin N j ≤ q) (hq₂ : q < N[j]) : L[q]? ≠ some 0x0A := by
  intro hq
  have h1 := count_take_mono (L := L) hq₁
  have h2 := (newline_lt_iff hq).1 hq₂
  rw [count_take_lineBegin h hj.le] at h1
  rw [h.before j hj] at h2
  omega

/-- No newline lies in the last line. -/
theorem not_newline_last (h : NewlineIndex L N) {q : Nat} (hq₁ : lineBegin N N.size ≤ q) :
    L[q]? ≠ some 0x0A := by
  intro hq
  have h1 := count_take_mono (L := L) hq₁
  rw [count_take_lineBegin h le_rfl] at h1
  have h2 := count_take_succ L q
  rw [if_pos hq] at h2
  have h3 := count_take_le_count (L := L) (q + 1)
  rw [← h.size] at h3
  omega

/-- The text from where a line begins is that line, its newline, and the text after. -/
theorem drop_lineBegin (h : NewlineIndex L N) {j : Nat} (hj : j < N.size) :
    L.drop (lineBegin N j) = L.extract (lineBegin N j) N[j] ++ 0x0A :: L.drop (N[j] + 1) := by
  have hle := lineBegin_le h hj
  obtain ⟨hlt, hget⟩ := List.getElem?_eq_some_iff.1 (h.newline j hj)
  have hdrop : L.drop N[j] = (L.drop (lineBegin N j)).drop (N[j] - lineBegin N j) := by
    rw [List.drop_drop, Nat.add_sub_cancel' hle]
  rw [List.extract_eq_take_drop, ← hget, ← List.drop_eq_getElem_cons hlt, hdrop, List.take_append_drop]

theorem newline_not_mem_extract (h : NewlineIndex L N) {j : Nat} (hj : j < N.size) :
    0x0A ∉ L.extract (lineBegin N j) N[j] := by
  intro hm
  obtain ⟨i, hi, hget⟩ := List.getElem_of_mem hm
  simp only [List.extract_eq_take_drop, List.length_take, List.length_drop, List.getElem_take,
    List.getElem_drop] at hi hget
  exact not_newline_before h hj (Nat.le_add_right _ i) (by omega)
    (List.getElem?_eq_some_iff.2 ⟨by omega, hget⟩)

theorem newline_not_mem_last (h : NewlineIndex L N) : 0x0A ∉ L.drop (lineBegin N N.size) := by
  intro hm
  obtain ⟨i, hi, hget⟩ := List.getElem_of_mem hm
  rw [List.getElem_drop] at hget
  exact not_newline_last h (Nat.le_add_right _ i) (List.getElem?_eq_some_iff.2 ⟨_, hget⟩)

/-- Cutting the text at its newlines, the pieces from the `j`-th on are the cuts of the text
from where line `j + 1` begins. -/
theorem splitOn_drop (h : NewlineIndex L N) {j : Nat} (hj : j ≤ N.size) :
    (L.splitOn 0x0A).drop j = (L.drop (lineBegin N j)).splitOn 0x0A := by
  induction j with
  | zero => simp [lineBegin]
  | succ j ih =>
    have hj' : j < N.size := by omega
    have hbegin : lineBegin N (j + 1) = N[j] + 1 := by
      simp [lineBegin, Array.getD_eq_getD_getElem?, Array.getElem?_eq_getElem hj']
    rw [← List.drop_drop, ih hj'.le, drop_lineBegin h hj',
      List.splitOn_append_cons_self_of_not_mem (newline_not_mem_extract h hj'), hbegin]
    rfl

theorem getElem?_splitOn (h : NewlineIndex L N) {j : Nat} (hj : j < N.size) :
    (L.splitOn 0x0A)[j]? = some (L.extract (lineBegin N j) N[j]) := by
  have := congrArg (·[0]?) (splitOn_drop h hj.le)
  simp only [List.getElem?_drop, Nat.add_zero] at this
  rw [this, drop_lineBegin h hj, List.splitOn_append_cons_self_of_not_mem (newline_not_mem_extract h hj)]
  rfl

theorem getElem?_splitOn_last (h : NewlineIndex L N) :
    (L.splitOn 0x0A)[N.size]? = some (L.drop (lineBegin N N.size)) := by
  have := congrArg (·[0]?) (splitOn_drop h le_rfl)
  simp only [List.getElem?_drop, Nat.add_zero] at this
  rw [this, List.splitOn_eq_singleton (newline_not_mem_last h)]
  rfl

/-- There is one piece more than there are newlines. -/
theorem length_splitOn (h : NewlineIndex L N) : (L.splitOn 0x0A).length = N.size + 1 := by
  have := congrArg List.length (splitOn_drop h le_rfl)
  rw [List.length_drop, List.splitOn_eq_singleton (newline_not_mem_last h)] at this
  have hpos : N.size < (L.splitOn 0x0A).length := by
    have := getElem?_splitOn_last h
    exact (List.getElem?_eq_some_iff.1 this).1
  simp at this
  omega

/-- The offset at which line `c + 1` begins is where the line of any offset `o` with `c`
newlines before it begins. -/
theorem lineStart_eq (h : NewlineIndex L N) (o : Nat) :
    lineStart L o = lineBegin N ((L.take o).count 0x0A) := by
  induction o with
  | zero => simp [lineStart, lineBegin]
  | succ o ih =>
    rw [count_take_succ]
    by_cases hq : L[o]? = some 0x0A
    · -- a newline at `o` is the next entry, and the line after it begins at `o + 1`
      obtain ⟨hlt, hget⟩ := h.get_count hq
      rw [lineStart, if_pos hq, if_pos hq]
      simp only [lineBegin, Nat.add_one_ne_zero, if_false, Nat.add_sub_cancel,
        Array.getD_eq_getD_getElem?, Array.getElem?_eq_getElem hlt, Option.getD_some, hget]
    · rw [lineStart, if_neg hq, if_neg hq, Nat.add_zero, ih]

end NewlineIndex

/-! ### The search -/

/-- The lower-bound search over a sorted array: the result splits the array into the entries
below `x` and the others. -/
theorem countBelow_bounds (a : Array Nat) (x : Nat)
    (hs : ∀ i j, i ≤ j → j < a.size → a.getD i 0 ≤ a.getD j 0) (lo hi : Nat) (hhi : hi ≤ a.size)
    (hle : lo ≤ hi) (hlo : ∀ i < lo, a.getD i 0 < x)
    (hup : ∀ i, hi ≤ i → i < a.size → x ≤ a.getD i 0) :
    countBelow a x lo hi ≤ a.size ∧ (∀ i < countBelow a x lo hi, a.getD i 0 < x) ∧
      (∀ i, countBelow a x lo hi ≤ i → i < a.size → x ≤ a.getD i 0) := by
  fun_induction countBelow a x lo hi with
  | case1 lo hi hlt mid hmid ih =>
    -- the middle entry is below `x`, and so is every entry before it
    refine ih hhi (by omega) (fun i hi' => ?_) hup
    rcases Nat.lt_or_ge i lo with h | h
    · exact hlo i h
    · exact lt_of_le_of_lt (hs i mid (by omega) (by omega)) hmid
  | case2 lo hi hlt mid hmid ih =>
    -- the middle entry is at least `x`, and so is every entry after it
    refine ih (by omega) (by omega) hlo fun i hi' hi'' => ?_
    exact le_trans (not_lt.1 hmid) (hs mid i hi' hi'')
  | case3 lo hi hge =>
    exact ⟨by omega, hlo, fun i hi' hi'' => hup i (by omega) hi''⟩

namespace NewlineIndex

variable {L : List UInt8} {N : Array Nat}

theorem sorted (h : NewlineIndex L N) :
    ∀ i j, i ≤ j → j < N.size → N.getD i 0 ≤ N.getD j 0 := by
  intro i j hij hj
  simp only [Array.getD_eq_getD_getElem?, Array.getElem?_eq_getElem hj,
    Array.getElem?_eq_getElem (show i < N.size by omega), Option.getD_some]
  rcases Nat.lt_or_eq_of_le hij with hlt | rfl
  · exact (h.lt_of_lt hlt hj).le
  · exact le_rfl

/-- The search over the newline offsets counts the newlines before `o`. -/
theorem countBelow_eq (h : NewlineIndex L N) (o : Nat) :
    countBelow N o 0 N.size = (L.take o).count 0x0A := by
  obtain ⟨hle, hbelow, habove⟩ := countBelow_bounds N o h.sorted 0 N.size le_rfl (Nat.zero_le _)
    (fun _ h => absurd h (Nat.not_lt_zero _)) (fun _ h h' => absurd h' (by omega))
  set n := countBelow N o 0 N.size
  -- at least `n`: the `n`-th newline lies before `o`
  have hge : n ≤ (L.take o).count 0x0A := by
    rcases Nat.eq_zero_or_pos n with h0 | hpos
    · omega
    · have hlt := hbelow (n - 1) (by omega)
      simp only [Array.getD_eq_getD_getElem?, Array.getElem?_eq_getElem (show n - 1 < N.size by omega),
        Option.getD_some] at hlt
      have := (newline_lt_iff (h.newline _ (by omega))).1 hlt
      rw [h.before] at this
      omega
  -- at most `n`: the next newline, if any, does not lie before `o`
  have hle' : (L.take o).count 0x0A ≤ n := by
    rcases Nat.lt_or_ge n N.size with hlt | hge'
    · have hup := habove n le_rfl hlt
      simp only [Array.getD_eq_getD_getElem?, Array.getElem?_eq_getElem hlt, Option.getD_some] at hup
      have := count_take_mono (L := L) hup
      rwa [h.before] at this
    · have := count_take_le_count (L := L) o
      rw [← h.size] at this
      omega
  omega

end NewlineIndex

/-! ### Positions and lines of a unit -/

namespace SourceUnit

/-- The text of a unit as a list of bytes. -/
def bytes (u : SourceUnit) : List UInt8 := u.content.data.toList

/-- The unit's offsets index the newlines of its text, as `create` records them. -/
def Indexed (u : SourceUnit) : Prop := NewlineIndex u.bytes u.lines

theorem indexed_of_lines {u : SourceUnit} (hu : u.lines = newlineOffsets u.content 0 #[]) :
    u.Indexed := by
  unfold Indexed bytes
  rw [hu]
  exact NewlineIndex.newlineOffsets_index u.content

variable {u : SourceUnit}

@[simp] theorem length_bytes (u : SourceUnit) : u.bytes.length = u.size := by
  simp [bytes, size]

/-- Line and column of an offset: one more than the newlines before it, and one more than the
bytes since the last of them. -/
theorem position_eq (h : u.Indexed) (o : Nat) :
    u.position o = ⟨(u.bytes.take o).count 0x0A + 1, o - lineStart u.bytes o + 1⟩ := by
  rw [NewlineIndex.lineStart_eq h, ← NewlineIndex.countBelow_eq h]
  rfl

/-- Where line `j + 1` begins, as `line` computes it. -/
theorem line_start {j : Nat} (hj : j ≤ u.lines.size) :
    (if j + 1 = 1 then some 0 else if j + 1 - 2 < u.lines.size then
      some (u.lines.getD (j + 1 - 2) 0 + 1) else none) = some (lineBegin u.lines j) := by
  unfold lineBegin
  rcases Nat.eq_zero_or_pos j with rfl | hpos
  · rfl
  · rw [if_neg (by omega), if_pos (by omega), if_neg (by omega)]
    rfl

/-- Line `j + 1`, for `j` up to the number of newlines: the text from where it begins to the
newline that ends it or to the end, and nothing when it begins at the end. -/
theorem line_succ {j : Nat} (hj : j ≤ u.lines.size) :
    u.line (j + 1) = if lineBegin u.lines j ≥ u.size then .empty else
      u.content.extract (lineBegin u.lines j)
        (min (if j < u.lines.size then u.lines.getD j 0 else u.size) u.size) := by
  simp only [line, Nat.add_one_ne_zero, if_false, Nat.add_sub_cancel]
  rw [line_start hj]

/-- A line ended by a newline is the text from its beginning up to that newline. -/
theorem bytes_line_of_lt (h : u.Indexed) {j : Nat} (hj : j < u.lines.size) :
    (u.line (j + 1)).data.toList = u.bytes.extract (lineBegin u.lines j) u.lines[j] := by
  have hle := NewlineIndex.lineBegin_le h hj
  have hlt : u.lines[j] < u.size := by
    rw [← length_bytes]
    exact (List.getElem?_eq_some_iff.1 (h.newline j hj)).1
  rw [line_succ hj.le, if_neg (by omega), if_pos hj, Array.getD_eq_getD_getElem?,
    Array.getElem?_eq_getElem hj, Option.getD_some, min_eq_left hlt.le, ByteArray.data_extract,
    Array.toList_extract]
  rfl

/-- The last line is the text from its beginning to the end. -/
theorem bytes_line_last :
    (u.line (u.lines.size + 1)).data.toList = u.bytes.drop (lineBegin u.lines u.lines.size) := by
  rw [line_succ le_rfl, if_neg (lt_irrefl _), min_self]
  split
  · rename_i hge
    rw [List.drop_of_length_le (by rw [length_bytes]; exact hge)]
    rfl
  · rw [ByteArray.data_extract, Array.toList_extract, List.extract_eq_take_drop,
      List.take_of_length_le (by simp [size])]
    rfl

/-- Line `l` of the text, for `l` from 1 to one more than the number of newlines, is its `l`-th
piece cut at the newlines. -/
theorem line_piece (h : u.Indexed) {l : Nat} (hl₁ : 1 ≤ l) (hl₂ : l ≤ u.bytes.count 0x0A + 1) :
    (u.bytes.splitOn 0x0A)[l - 1]? = some (u.line l).data.toList := by
  obtain ⟨j, rfl⟩ : ∃ j, l = j + 1 := ⟨l - 1, by omega⟩
  rw [Nat.add_sub_cancel]
  rcases Nat.lt_or_ge j u.lines.size with hj | hj
  · rw [NewlineIndex.getElem?_splitOn h hj, bytes_line_of_lt h hj]
  · have hj' : j = u.lines.size := by have := h.size; omega
    subst hj'
    rw [NewlineIndex.getElem?_splitOn_last h, bytes_line_last]

/-- Every other line number names no line. -/
theorem line_outside {l : Nat} (h : u.Indexed) (hl : l = 0 ∨ u.bytes.count 0x0A + 1 < l) :
    u.line l = .empty := by
  rcases hl with rfl | hl
  · rfl
  · rw [← h.size] at hl
    simp only [line, show l ≠ 0 by omega, show l ≠ 1 by omega,
      show ¬ l - 2 < u.lines.size by omega, if_false]

/-- The lines, joined by newlines, give back the text. -/
theorem lines_join (h : u.Indexed) :
    [0x0A].intercalate ((List.range (u.bytes.count 0x0A + 1)).map fun i => (u.line (i + 1)).data.toList)
      = u.bytes := by
  have hpieces : (List.range (u.bytes.count 0x0A + 1)).map (fun i => (u.line (i + 1)).data.toList) =
      u.bytes.splitOn 0x0A := by
    apply List.ext_getElem?
    intro i
    rw [List.getElem?_map]
    by_cases hi : i < u.bytes.count 0x0A + 1
    · rw [List.getElem?_range hi, Option.map_some, ← line_piece h (by omega) (by omega),
        Nat.add_sub_cancel]
    · rw [List.getElem?_eq_none (by simpa using hi), List.getElem?_eq_none
        (by rw [NewlineIndex.length_splitOn h, h.size]; omega)]
      rfl
  rw [hpieces, List.intercalate_splitOn]

/-- An offset lies in the line its count of newlines names: not before where that line begins,
and not past the newline that ends it. -/
theorem offset_within_line (h : u.Indexed) (o : Nat) :
    lineBegin u.lines ((u.bytes.take o).count 0x0A) ≤ o ∧
      ∀ hc : (u.bytes.take o).count 0x0A < u.lines.size,
        o ≤ u.lines[(u.bytes.take o).count 0x0A] := by
  refine ⟨?_, fun hc => ?_⟩
  · rw [← NewlineIndex.lineStart_eq h]
    exact lineStart_le _ _
  · by_contra hlt
    have := (newline_lt_iff (h.newline _ hc)).1 (not_le.1 hlt)
    rw [h.before] at this
    omega

/-- The column of an offset within the text stays within its line. -/
theorem col_le_line (h : u.Indexed) {o : Nat} (ho : o ≤ u.size) :
    (u.position o).col - 1 ≤ (u.line (u.position o).line).size := by
  obtain ⟨hbegin, hstop⟩ := offset_within_line h o
  have hc : (u.bytes.take o).count 0x0A ≤ u.lines.size := h.size ▸ count_take_le_count o
  rw [position_eq h, NewlineIndex.lineStart_eq h, ← ByteArray.size_data, ← Array.length_toList]
  simp only [Nat.add_sub_cancel]
  rcases Nat.lt_or_eq_of_le hc with hlt | heq
  · -- a line ended by a newline, which lies at or after the offset
    have hnl := (List.getElem?_eq_some_iff.1 (h.newline _ hlt)).1
    rw [bytes_line_of_lt h hlt, List.extract_eq_take_drop, List.length_take, List.length_drop]
    have := hstop hlt
    omega
  · -- the last line, which runs to the end
    rw [heq, bytes_line_last, List.length_drop, length_bytes]
    rw [heq] at hbegin
    omega

/-- Where the text has no newline, the byte at an offset is the byte of its line at its
column. -/
theorem line_get_col (h : u.Indexed) {o : Nat} (hnl : u.bytes[o]? ≠ some 0x0A) :
    (u.line (u.position o).line).data.toList[(u.position o).col - 1]? = u.bytes[o]? := by
  obtain ⟨hbegin, hstop⟩ := offset_within_line h o
  have hc : (u.bytes.take o).count 0x0A ≤ u.lines.size := h.size ▸ count_take_le_count o
  rw [position_eq h, NewlineIndex.lineStart_eq h]
  simp only [Nat.add_sub_cancel]
  rcases Nat.lt_or_eq_of_le hc with hlt | heq
  · -- the newline that ends the line lies strictly after the offset
    have hne : o ≠ u.lines[(u.bytes.take o).count 0x0A] := fun he =>
      hnl (he ▸ h.newline _ hlt)
    have := hstop hlt
    rw [bytes_line_of_lt h hlt, List.extract_eq_take_drop, List.getElem?_take_of_lt (by omega),
      List.getElem?_drop, Nat.add_sub_cancel' hbegin]
  · rw [heq, bytes_line_last, List.getElem?_drop]
    rw [heq] at hbegin
    rw [Nat.add_sub_cancel' hbegin]

/-- What the positions and lines of a unit say about its text. -/
structure LinesAgree (u : SourceUnit) : Prop where
  /-- The line of an offset is one more than the newlines before it, and its column one more
  than the bytes since the last of them. -/
  position : ∀ o, u.position o = ⟨(u.bytes.take o).count 0x0A + 1, o - lineStart u.bytes o + 1⟩
  /-- Lines 1 to one more than the number of newlines are the pieces of the text cut at them. -/
  piece : ∀ l, 1 ≤ l → l ≤ u.bytes.count 0x0A + 1 →
    (u.bytes.splitOn 0x0A)[l - 1]? = some (u.line l).data.toList
  /-- Every other line number names an empty line. -/
  outside : ∀ l, l = 0 ∨ u.bytes.count 0x0A + 1 < l → u.line l = .empty
  /-- The lines joined by newlines are the text. -/
  join : [0x0A].intercalate ((List.range (u.bytes.count 0x0A + 1)).map
    fun i => (u.line (i + 1)).data.toList) = u.bytes
  /-- The column of an offset in the text stays within its line. -/
  col_le : ∀ o, o ≤ u.size → (u.position o).col - 1 ≤ (u.line (u.position o).line).size
  /-- The byte at an offset, unless it is a newline, is the byte of its line at its column. -/
  get_col : ∀ o, u.bytes[o]? ≠ some 0x0A →
    (u.line (u.position o).line).data.toList[(u.position o).col - 1]? = u.bytes[o]?

/-- A unit whose line index was built from its text, as `create` builds it, answers positions
and lines that agree with the text: the search over the index counts newlines, and the line
arithmetic cuts the text where `List.splitOn` does. -/
theorem lines_agree_with_text (u : SourceUnit) (hu : u.lines = newlineOffsets u.content 0 #[]) :
    u.LinesAgree := by
  have h := indexed_of_lines hu
  exact ⟨position_eq h, fun _ => line_piece h, fun _ => line_outside h, lines_join h,
    fun _ => col_le_line h, fun _ => line_get_col h⟩

/-- The text of two lines, `a` and `b`. -/
theorem lines_agree_with_two_lines :
    let u : SourceUnit :=
      ⟨0, "", ⟨#[0x61, 0x0A, 0x62]⟩, newlineOffsets ⟨#[0x61, 0x0A, 0x62]⟩ 0 #[], {}⟩
    u.lines = newlineOffsets u.content 0 #[] ∧ u.LinesAgree :=
  ⟨rfl, lines_agree_with_text _ rfl⟩

end SourceUnit

end NovelScript

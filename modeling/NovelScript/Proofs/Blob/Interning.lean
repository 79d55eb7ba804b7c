import Mathlib
import NovelScript.Blob.Store
import NovelScript.Proofs.FirstSeen
/-!
# The string store after any sequence of interning calls

A store keeps its contents one after another in one byte string, entry `i` spanning
`data[offsets[i]:offsets[i+1]]`, and finds a content again through the bucket of its key, where a
lookup compares bytes. `BlobStore.Keyed key` is the invariant that makes this work for any key
function, colliding or not: entry 0 is empty, the offsets stay inside the payload, every bucket
lists stored indices and every stored index is listed under the key of its content, no content is
stored twice, and the payload is the contents in order, within the capacity. The capacity stays
below 2^32 bytes, so the 32-bit offsets and indices of the program never wrap.

`BlobStore.internWith_eq_ok` and `BlobStore.internWith_eq_error` say what one call can do; on a
keyed store `BlobStore.Keyed.internWith_eq_ok` restates the first in terms of the contents, and
every lemma about a call or a run is derived from these. `BlobStore.calls_keep_contents` states
what any sequence of calls from an empty store of capacity `0 < M < 2^32` leads to, for any key
function; `BlobStore.wrapped_entry_reads_other_content` shows what a larger capacity lets happen.
`BlobStore.WF` is the invariant under the key the program uses.
-/

namespace NovelScript

namespace BlobStore

/-- The stored contents of indices 1, 2, …, in the order they were stored. -/
def contents (s : BlobStore) : List ByteArray :=
  (List.range (s.count - 1)).map fun i => s.entry (i + 1)

/-- The store after interning `b`; a call that fails leaves it as it was. -/
def after (key : ByteArray → UInt64) (s : BlobStore) (b : ByteArray) : BlobStore :=
  match s.internWith key b with
  | .ok (_, s') => s'
  | .error _ => s

/-- The content and index a call answers, when it succeeds. -/
def answer (key : ByteArray → UInt64) (s : BlobStore) (b : ByteArray) :
    Option (ByteArray × Nat) :=
  match s.internWith key b with
  | .ok (i, _) => some (b, i)
  | .error _ => none

/-- The store after interning `bs` in order. -/
def runWith (key : ByteArray → UInt64) (s : BlobStore) (bs : List ByteArray) : BlobStore :=
  bs.foldl (after key) s

/-- The content and index of every call of `bs` that succeeded, in order. -/
def answersWith (key : ByteArray → UInt64) (s : BlobStore) : List ByteArray → List (ByteArray × Nat)
  | [] => []
  | b :: bs => (s.answer key b).toList ++ answersWith key (s.after key b) bs

/-- The invariant of a store whose contents are found through `key`. -/
structure Keyed (key : ByteArray → UInt64) (s : BlobStore) : Prop where
  two_le : 2 ≤ s.offsets.size
  entry_zero : s.entry 0 = .empty
  /-- Every entry is cut from inside the payload, and the last one ends it. -/
  offset_le : ∀ j, j ≤ s.count → s.offsets.getD j 0 ≤ s.data.size
  last : s.offsets.getD s.count 0 = s.data.size
  /-- A bucket lists only stored indices, and every stored index is listed under the key of its
  content; contents whose keys collide share a bucket, and a lookup tells them apart by bytes. -/
  bucket : ∀ k j, j ∈ s.bucket k → j < s.count
  listed : ∀ j, 1 ≤ j → j < s.count → j ∈ s.bucket (key (s.entry j))
  distinct : ∀ i j, i < s.count → j < s.count → s.entry i = s.entry j → i = j
  size_eq : s.data.size = (s.contents.map ByteArray.size).sum
  size_le : s.data.size ≤ s.max
  /-- The capacity keeps every offset and index a 32-bit word. -/
  max_lt : s.max < 2 ^ 32

variable {key : ByteArray → UInt64} {s s' : BlobStore} {b c : ByteArray} {i j : Nat}

/-! ### Reading the store -/

theorem get?_eq_some : s.get? i = some c ↔ i < s.count ∧ s.entry i = c := by
  unfold get?
  split <;> simp_all

theorem get?_eq_none : s.get? i = none ↔ s.count ≤ i := by
  unfold get?
  split <;> simp_all

/-- The contents list the entries from index 1 on. -/
theorem get?_succ (s : BlobStore) (i : Nat) : s.get? (i + 1) = s.contents[i]? := by
  unfold get? contents
  by_cases hi : i < s.count - 1
  · rw [if_pos (show i + 1 < s.count by omega)]
    simp [hi]
  · rw [if_neg (show ¬ i + 1 < s.count by omega)]
    simp
    omega

theorem mem_contents : b ∈ s.contents ↔ ∃ j, 1 ≤ j ∧ j < s.count ∧ s.entry j = b := by
  unfold contents
  constructor
  · intro hb
    obtain ⟨a, ha, rfl⟩ := List.mem_map.1 hb
    exact ⟨a + 1, by omega, by simp at ha; omega, rfl⟩
  · rintro ⟨j, h1, hj, rfl⟩
    exact List.mem_map.2 ⟨j - 1, by simp; omega, by simp only [Nat.sub_add_cancel h1]⟩

theorem find?_eq_some (hf : s.find? key b = some i) : i ∈ s.bucket (key b) ∧ s.entry i = b :=
  ⟨Array.mem_of_find?_eq_some hf, by simpa using Array.find?_some hf⟩

theorem find?_eq_none : s.find? key b = none ↔ ∀ j ∈ s.bucket (key b), s.entry j ≠ b := by
  simp [find?]

/-! ### What one call can do -/

theorem internWith_empty (hb : b.size = 0) : s.internWith key b = .ok (0, s) := by
  simp [internWith, hb]

theorem internWith_found (hb : 0 < b.size) (hf : s.find? key b = some i) :
    s.internWith key b = .ok (i, s) := by
  simp [internWith, Nat.pos_iff_ne_zero.1 hb, hf]

theorem internWith_full (hb : 0 < b.size) (hf : s.find? key b = none)
    (hm : s.max < s.data.size + b.size) : s.internWith key b = .error ⟨b.size⟩ := by
  simp [internWith, Nat.pos_iff_ne_zero.1 hb, hf, hm]

theorem internWith_new (hb : 0 < b.size) (hf : s.find? key b = none)
    (hm : s.data.size + b.size ≤ s.max) :
    s.internWith key b = .ok (s.count % 2 ^ 32, s.push (key b) b) := by
  simp [internWith, Nat.pos_iff_ne_zero.1 hb, hf, Nat.not_lt.2 hm]

/-- A call succeeds with the empty content at index 0, with a content it finds at its index, or
by storing a new content that fits at the next index; the store changes only in the last case. -/
theorem internWith_eq_ok (hr : s.internWith key b = .ok (i, s')) :
    (b.size = 0 ∧ i = 0 ∧ s' = s) ∨ (0 < b.size ∧ s.find? key b = some i ∧ s' = s) ∨
      (0 < b.size ∧ s.find? key b = none ∧ s.data.size + b.size ≤ s.max ∧ i = s.count % 2 ^ 32 ∧
        s' = s.push (key b) b) := by
  by_cases hb : b.size = 0
  · rw [internWith_empty hb, Except.ok.injEq, Prod.mk.injEq] at hr
    exact .inl ⟨hb, hr.1.symm, hr.2.symm⟩
  have hpos : 0 < b.size := Nat.pos_of_ne_zero hb
  rcases hf : s.find? key b with _ | k
  · by_cases hm : s.max < s.data.size + b.size
    · rw [internWith_full hpos hf hm] at hr
      cases hr
    · rw [internWith_new hpos hf (Nat.not_lt.1 hm), Except.ok.injEq, Prod.mk.injEq] at hr
      obtain ⟨rfl, rfl⟩ := hr
      exact .inr (.inr ⟨hpos, rfl, Nat.not_lt.1 hm, rfl, rfl⟩)
  · rw [internWith_found hpos hf, Except.ok.injEq, Prod.mk.injEq] at hr
    obtain ⟨rfl, rfl⟩ := hr
    exact .inr (.inl ⟨hpos, rfl, rfl⟩)

/-- A call fails only for a new content that does not fit, and the error gives its length. -/
theorem internWith_eq_error {e : BlobFull} (hr : s.internWith key b = .error e) :
    0 < b.size ∧ s.find? key b = none ∧ s.max < s.data.size + b.size ∧ e = ⟨b.size⟩ := by
  by_cases hb : b.size = 0
  · rw [internWith_empty hb] at hr
    cases hr
  have hpos : 0 < b.size := Nat.pos_of_ne_zero hb
  rcases hf : s.find? key b with _ | k
  · by_cases hm : s.max < s.data.size + b.size
    · rw [internWith_full hpos hf hm] at hr
      cases hr
      exact ⟨hpos, rfl, hm, rfl⟩
    · rw [internWith_new hpos hf (Nat.not_lt.1 hm)] at hr
      cases hr
  · rw [internWith_found hpos hf] at hr
    cases hr

/-! ### Storing a new content -/

/-- A 32-bit word below 2^32 is the number itself. -/
theorem mod_word {n : Nat} (hn : n < 2 ^ 32) : n % Nat.pow 2 32 = n := Nat.mod_eq_of_lt hn

theorem getD_push_lt {xs : Array Nat} {x j : Nat} (hj : j < xs.size) :
    (xs.push x).getD j 0 = xs.getD j 0 := by
  simp [Array.getElem?_push, Nat.ne_of_lt hj]

theorem getD_push_size {xs : Array Nat} {x : Nat} : (xs.push x).getD xs.size 0 = x := by
  simp

/-- Cutting inside the first part of an appended byte string reads the first part. -/
theorem extract_append_of_le {a b : ByteArray} {i j : Nat} (hi : i ≤ a.size) (hj : j ≤ a.size) :
    (a ++ b).extract i j = a.extract i j := by
  rw [ByteArray.extract_append, Nat.sub_eq_zero_of_le hi, Nat.sub_eq_zero_of_le hj,
    ByteArray.extract_same, ByteArray.append_empty]

theorem mem_bucket_push {k k' : UInt64} :
    j ∈ (s.push k b).bucket k' ↔ j ∈ s.bucket k' ∨ (k = k' ∧ j = s.count % 2 ^ 32) := by
  simp only [bucket, push, Std.HashMap.getD_insert, beq_iff_eq]
  by_cases hk : k = k'
  · subst hk
    simp [Array.mem_push]
  · simp [hk]

theorem after_ok (hr : s.internWith key b = .ok (i, s')) : s.after key b = s' := by
  simp [after, hr]

theorem after_error {e : BlobFull} (hr : s.internWith key b = .error e) : s.after key b = s := by
  simp [after, hr]

theorem answer_ok (hr : s.internWith key b = .ok (i, s')) : s.answer key b = some (b, i) := by
  simp [answer, hr]

theorem answer_error {e : BlobFull} (hr : s.internWith key b = .error e) : s.answer key b = none := by
  simp [answer, hr]

section Keyed

variable (h : s.Keyed key)
include h

theorem Keyed.one_le_count : 1 ≤ s.count := by
  have := h.two_le
  unfold count
  omega

theorem Keyed.size_offsets : s.offsets.size = s.count + 1 := by
  have := h.two_le
  unfold count
  omega

theorem Keyed.count_push (k : UInt64) (b : ByteArray) : (s.push k b).count = s.count + 1 := by
  have := h.size_offsets
  simp only [count, BlobStore.push, Array.size_push]
  omega

/-- Storing a new content keeps every entry there was. -/
theorem Keyed.entry_push (k : UInt64) (b : ByteArray) (hj : j < s.count) :
    (s.push k b).entry j = s.entry j := by
  have hsize := h.size_offsets
  simp only [entry, BlobStore.push]
  rw [getD_push_lt (show j < s.offsets.size by omega),
    getD_push_lt (show j + 1 < s.offsets.size by omega)]
  exact extract_append_of_le (h.offset_le j (by omega)) (h.offset_le (j + 1) (by omega))

/-- The new content is the entry at the old count, when its end is a 32-bit offset. -/
theorem Keyed.entry_push_count (k : UInt64) (b : ByteArray) (hw : s.data.size + b.size < 2 ^ 32) :
    (s.push k b).entry s.count = b := by
  have hsize := h.size_offsets
  simp only [entry, BlobStore.push]
  rw [getD_push_lt (show s.count < s.offsets.size by omega), ← hsize, getD_push_size,
    mod_word hw]
  exact ByteArray.extract_append_eq_right h.last rfl

theorem Keyed.get?_push (k : UInt64) (b : ByteArray) (hg : s.get? i = some c) :
    (s.push k b).get? i = some c := by
  obtain ⟨hi, rfl⟩ := get?_eq_some.1 hg
  exact get?_eq_some.2 ⟨by rw [h.count_push]; omega, h.entry_push k b hi⟩

theorem Keyed.get?_push_count (k : UInt64) (b : ByteArray) (hw : s.data.size + b.size < 2 ^ 32) :
    (s.push k b).get? s.count = some b :=
  get?_eq_some.2 ⟨by rw [h.count_push]; omega, h.entry_push_count k b hw⟩

theorem Keyed.contents_push (k : UInt64) (b : ByteArray) (hw : s.data.size + b.size < 2 ^ 32) :
    (s.push k b).contents = s.contents ++ [b] := by
  have hc := h.one_le_count
  obtain ⟨n, hn⟩ : ∃ n, s.count = n + 1 := ⟨s.count - 1, by omega⟩
  unfold contents
  rw [h.count_push, hn, Nat.add_sub_cancel, Nat.add_sub_cancel, List.range_succ, List.map_append,
    List.map_singleton, ← hn, h.entry_push_count k b hw]
  -- the entries stored before are untouched
  rw [List.map_congr_left fun a ha => h.entry_push k b (by simp at ha; omega)]

/-- The entries from index 1 on are not empty. -/
theorem Keyed.size_entry_pos (h1 : 1 ≤ j) (hj : j < s.count) : 0 < (s.entry j).size := by
  rcases Nat.eq_zero_or_pos (s.entry j).size with h0 | h0
  · have hzero : s.entry j = s.entry 0 := by
      rw [h.entry_zero, ← ByteArray.size_eq_zero_iff, h0]
    have := h.distinct j 0 hj h.one_le_count hzero
    omega
  · exact h0

/-- The stored contents are not empty, so there are no more of them than bytes of payload. -/
theorem Keyed.count_le_size : s.count ≤ s.data.size + 1 := by
  have hlen : s.contents.length = s.count - 1 := by simp [contents]
  have hpos : ∀ x ∈ s.contents.map ByteArray.size, 1 ≤ x := by
    intro x hx
    obtain ⟨c, hc, rfl⟩ := List.mem_map.1 hx
    obtain ⟨j, h1, hj, rfl⟩ := mem_contents.1 hc
    exact h.size_entry_pos h1 hj
  have hsum := List.length_le_sum_of_one_le _ hpos
  rw [List.length_map, hlen, ← h.size_eq] at hsum
  omega

/-- A new content that fits ends below 2^32 bytes and takes an index below 2^32: storing it wraps
nothing. -/
theorem Keyed.fits_words (hb : 0 < b.size) (hm : s.data.size + b.size ≤ s.max) :
    s.data.size + b.size < 2 ^ 32 ∧ s.count < 2 ^ 32 := by
  have := h.max_lt
  have := h.count_le_size
  omega

/-- A content that is not empty is among the contents exactly when some entry holds it. -/
theorem Keyed.mem_contents_iff (hb : 0 < b.size) :
    b ∈ s.contents ↔ ∃ j < s.count, s.entry j = b := by
  rw [mem_contents]
  constructor
  · rintro ⟨j, -, hj, he⟩
    exact ⟨j, hj, he⟩
  · rintro ⟨j, hj, rfl⟩
    refine ⟨j, Nat.pos_of_ne_zero ?_, hj, rfl⟩
    rintro rfl
    rw [h.entry_zero] at hb
    exact absurd hb (by simp)

theorem Keyed.nodup_contents : s.contents.Nodup := by
  unfold contents
  refine List.Nodup.map_on ?_ List.nodup_range
  intro a ha a' ha' he
  simp only [List.mem_range] at ha ha'
  have := h.distinct (a + 1) (a' + 1) (by omega) (by omega) he
  omega

/-- Looking up a content that is not empty finds nothing exactly when it is not stored, whatever
the keys of the other contents are. -/
theorem Keyed.find?_eq_none_iff (hb : 0 < b.size) :
    s.find? key b = none ↔ b ∉ s.contents := by
  rw [find?_eq_none, h.mem_contents_iff hb]
  constructor
  · rintro hn ⟨j, hj, rfl⟩
    -- entry 0 is empty, so the entry is listed under its key
    have h1 : 1 ≤ j := by
      rcases Nat.eq_zero_or_pos j with rfl | hpos
      · rw [h.entry_zero] at hb
        exact absurd hb (by simp)
      · exact hpos
    exact hn j (h.listed j h1 hj) rfl
  · intro hn j hj he
    exact hn ⟨j, h.bucket _ j hj, he⟩

theorem Keyed.find?_eq_some (hf : s.find? key b = some i) : i < s.count ∧ s.entry i = b :=
  ⟨h.bucket _ i (BlobStore.find?_eq_some hf).1, (BlobStore.find?_eq_some hf).2⟩

/-- Storing a new content that fits keeps the store keyed. -/
theorem Keyed.push (hb : 0 < b.size) (hn : b ∉ s.contents) (hm : s.data.size + b.size ≤ s.max) :
    (s.push (key b) b).Keyed key := by
  have hc := h.one_le_count
  have hsize := h.size_offsets
  -- the new end and the new index are 32-bit words, so neither wraps
  obtain ⟨hw, hcw⟩ := h.fits_words hb hm
  -- every entry of the new store is an old entry or the new content
  have hentry : ∀ j, j < s.count + 1 →
      (j < s.count ∧ (s.push (key b) b).entry j = s.entry j) ∨
        (j = s.count ∧ (s.push (key b) b).entry j = b) := by
    intro j hj
    rcases Nat.lt_or_ge j s.count with hj' | hj'
    · exact .inl ⟨hj', h.entry_push _ _ hj'⟩
    · exact .inr ⟨by omega, by rw [show j = s.count by omega, h.entry_push_count _ _ hw]⟩
  have hfresh : ∀ j < s.count, s.entry j ≠ b := by
    intro j hj he
    exact hn ((h.mem_contents_iff hb).2 ⟨j, hj, he⟩)
  refine ⟨?two_le, ?entry_zero, ?offset_le, ?last, ?bucket, ?listed, ?distinct, ?size_eq, ?size_le,
    h.max_lt⟩
  case two_le =>
    simp only [BlobStore.push, Array.size_push]
    omega
  case entry_zero => rw [h.entry_push _ _ hc, h.entry_zero]
  case offset_le =>
    intro j hj
    rw [h.count_push] at hj
    simp only [BlobStore.push, ByteArray.size_append]
    rcases Nat.lt_or_ge j (s.count + 1) with hj' | hj'
    · rw [getD_push_lt (show j < s.offsets.size by omega)]
      have := h.offset_le j (by omega)
      omega
    · rw [show j = s.offsets.size by omega, getD_push_size, mod_word hw]
  case last =>
    rw [h.count_push]
    simp only [BlobStore.push, ByteArray.size_append]
    rw [← hsize, getD_push_size, mod_word hw]
  case bucket =>
    intro k j hj
    rw [h.count_push]
    rcases mem_bucket_push.1 hj with hj | ⟨-, rfl⟩
    · have := h.bucket k j hj
      omega
    · rw [Nat.mod_eq_of_lt hcw]
      omega
  case listed =>
    intro j h1 hj
    rw [h.count_push] at hj
    rcases hentry j hj with ⟨hj', he⟩ | ⟨rfl, he⟩
    · rw [he]
      exact mem_bucket_push.2 (.inl (h.listed j h1 hj'))
    · rw [he]
      exact mem_bucket_push.2 (.inr ⟨rfl, (mod_word hcw).symm⟩)
  case distinct =>
    intro i j hi hj he
    rw [h.count_push] at hi hj
    rcases hentry i hi with ⟨hi', hei⟩ | ⟨rfl, hei⟩ <;>
      rcases hentry j hj with ⟨hj', hej⟩ | ⟨rfl, hej⟩
    · exact h.distinct i j hi' hj' (hei.symm.trans (he.trans hej))
    · exact absurd (hei.symm.trans (he.trans hej)) (hfresh i hi')
    · exact absurd (hej.symm.trans (he.symm.trans hei)) (hfresh j hj')
    · rfl
  case size_eq =>
    rw [h.contents_push _ _ hw, List.map_append, List.sum_append, ← h.size_eq]
    simp [BlobStore.push]
  case size_le => simpa [BlobStore.push] using hm

/-! ### One call on a keyed store -/

/-- A successful call on a keyed store either leaves it as it was, answering an index that holds
the content, or stores a new content that is not empty and fits at the next index. -/
theorem Keyed.internWith_eq_ok (hr : s.internWith key b = .ok (i, s')) :
    (s' = s ∧ s.get? i = some b) ∨
      (0 < b.size ∧ b ∉ s.contents ∧ s.data.size + b.size ≤ s.max ∧ i = s.count ∧
        s' = s.push (key b) b) := by
  rcases BlobStore.internWith_eq_ok hr with ⟨hb, rfl, rfl⟩ | ⟨-, hf, rfl⟩ | ⟨hb, hf, hm, rfl, rfl⟩
  · -- the empty content is entry 0
    refine .inl ⟨rfl, get?_eq_some.2 ⟨h.one_le_count, ?_⟩⟩
    rw [h.entry_zero, ByteArray.size_eq_zero_iff.1 hb]
  · exact .inl ⟨rfl, get?_eq_some.2 (h.find?_eq_some hf)⟩
  · -- the next index is a 32-bit word, so it is the count itself
    exact .inr ⟨hb, (h.find?_eq_none_iff hb).1 hf, hm, mod_word (h.fits_words hb hm).2, rfl⟩

/-- A call on a keyed store fails exactly for a new content that is not empty and does not fit. -/
theorem Keyed.internWith_eq_error_iff {e : BlobFull} :
    s.internWith key b = .error e ↔
      (0 < b.size ∧ b ∉ s.contents ∧ s.max < s.data.size + b.size) ∧ e = ⟨b.size⟩ := by
  constructor
  · intro hr
    obtain ⟨hb, hf, hm, rfl⟩ := internWith_eq_error hr
    exact ⟨⟨hb, (h.find?_eq_none_iff hb).1 hf, hm⟩, rfl⟩
  · rintro ⟨⟨hb, hn, hm⟩, rfl⟩
    exact internWith_full hb ((h.find?_eq_none_iff hb).2 hn) hm

/-- Interning a stored content gives back its index and changes nothing. -/
theorem Keyed.reintern (hg : s.get? i = some c) : s.internWith key c = .ok (i, s) := by
  obtain ⟨hi, rfl⟩ := get?_eq_some.1 hg
  rcases Nat.eq_zero_or_pos i with rfl | h1
  · exact internWith_empty (by simp [h.entry_zero])
  have hpos := h.size_entry_pos h1 hi
  rcases hf : s.find? key (s.entry i) with _ | k
  · exact absurd ((h.mem_contents_iff hpos).2 ⟨i, hi, rfl⟩) ((h.find?_eq_none_iff hpos).1 hf)
  · obtain ⟨hk, he⟩ := h.find?_eq_some hf
    rw [internWith_found hpos hf, h.distinct k i hk hi he]

/-- Two indices holding contents are equal exactly when the contents are. -/
theorem Keyed.get?_inj {i' : Nat} {c' : ByteArray} (hg : s.get? i = some c)
    (hg' : s.get? i' = some c') : i = i' ↔ c = c' := by
  obtain ⟨hi, rfl⟩ := get?_eq_some.1 hg
  obtain ⟨hi', rfl⟩ := get?_eq_some.1 hg'
  exact ⟨fun he => he ▸ rfl, h.distinct i i' hi hi'⟩

/-- Index 0 is the one that holds the empty content. -/
theorem Keyed.index_eq_zero_iff (hg : s.get? i = some c) : i = 0 ↔ c.size = 0 := by
  have hzero : s.get? 0 = some .empty := get?_eq_some.2 ⟨h.one_le_count, h.entry_zero⟩
  rw [h.get?_inj hg hzero, ByteArray.size_eq_zero_iff]

theorem Keyed.after (b : ByteArray) : (s.after key b).Keyed key := by
  rcases hr : s.internWith key b with e | ⟨i, s'⟩
  · rw [after_error hr]
    exact h
  · rw [after_ok hr]
    rcases h.internWith_eq_ok hr with ⟨rfl, -⟩ | ⟨hb, hn, hm, -, rfl⟩
    · exact h
    · exact h.push hb hn hm

/-- A call keeps every index there was. -/
theorem Keyed.get?_after (b : ByteArray) (hg : s.get? i = some c) :
    (s.after key b).get? i = some c := by
  rcases hr : s.internWith key b with e | ⟨i', s'⟩
  · rwa [after_error hr]
  · rw [after_ok hr]
    rcases h.internWith_eq_ok hr with ⟨rfl, -⟩ | ⟨-, -, -, -, rfl⟩
    · exact hg
    · exact h.get?_push _ _ hg

/-- A call's answer holds after it. -/
theorem Keyed.answer_holds {p : ByteArray × Nat} (hp : s.answer key b = some p) :
    (s.after key b).get? p.2 = some p.1 := by
  rcases hr : s.internWith key b with e | ⟨i, s'⟩
  · rw [answer_error hr] at hp
    cases hp
  · rw [answer_ok hr, Option.some_inj] at hp
    subst hp
    rw [after_ok hr]
    rcases h.internWith_eq_ok hr with ⟨rfl, hg⟩ | ⟨hb, -, hm, rfl, rfl⟩
    · exact hg
    · exact h.get?_push_count _ _ (h.fits_words hb hm).1

/-- A call adds to the contents only the content it stored, when it was new and not empty. -/
theorem Keyed.contents_after (b : ByteArray) (rest : List ByteArray) :
    ((s.after key b).contents ++ rest).eraseDups =
      (s.contents ++ ((((s.answer key b).toList.map Prod.fst).filter fun c => 0 < c.size) ++
        rest)).eraseDups := by
  rcases hr : s.internWith key b with e | ⟨i, s'⟩
  · rw [after_error hr, answer_error hr]
    rfl
  rw [after_ok hr, answer_ok hr, Option.toList_some, List.map_singleton, List.filter_singleton]
  rcases h.internWith_eq_ok hr with ⟨rfl, hg⟩ | ⟨hb, -, hm, -, rfl⟩
  · rcases Nat.eq_zero_or_pos b.size with hb | hb
    · -- the empty content is left out
      simp [hb]
    · -- a content seen before leaves the contents as they were
      obtain ⟨hi, he⟩ := get?_eq_some.1 hg
      rw [decide_eq_true hb, cond_true, List.singleton_append,
        eraseDups_append_cons_of_mem ((h.mem_contents_iff hb).2 ⟨i, hi, he⟩)]
  · rw [h.contents_push _ _ (h.fits_words hb hm).1, decide_eq_true hb, cond_true, List.append_assoc,
      List.singleton_append]

end Keyed

theorem max_after (b : ByteArray) : (s.after key b).max = s.max := by
  rcases hr : s.internWith key b with e | ⟨i, s'⟩
  · rw [after_error hr]
  · rw [after_ok hr]
    rcases internWith_eq_ok hr with ⟨-, -, rfl⟩ | ⟨-, -, rfl⟩ | ⟨-, -, -, -, rfl⟩ <;> rfl

/-! ### A run -/

@[simp] theorem runWith_nil : s.runWith key [] = s := rfl

@[simp] theorem runWith_cons (b : ByteArray) (bs : List ByteArray) :
    s.runWith key (b :: bs) = (s.after key b).runWith key bs := rfl

@[simp] theorem answersWith_nil : s.answersWith key [] = [] := rfl

@[simp] theorem answersWith_cons (b : ByteArray) (bs : List ByteArray) :
    s.answersWith key (b :: bs) = (s.answer key b).toList ++ (s.after key b).answersWith key bs :=
  rfl

theorem Keyed.run (h : s.Keyed key) (bs : List ByteArray) : (s.runWith key bs).Keyed key := by
  induction bs generalizing s with
  | nil => exact h
  | cons b bs ih => exact ih (h.after b)

theorem max_run (bs : List ByteArray) : (s.runWith key bs).max = s.max := by
  induction bs generalizing s with
  | nil => rfl
  | cons b bs ih => rw [runWith_cons, ih, max_after]

theorem Keyed.get?_run (h : s.Keyed key) (bs : List ByteArray) (hg : s.get? i = some c) :
    (s.runWith key bs).get? i = some c := by
  induction bs generalizing s with
  | nil => exact hg
  | cons b bs ih => exact ih (h.after b) (h.get?_after b hg)

/-- Every index a call answered holds its content at the end of the run. -/
theorem Keyed.answers_hold (h : s.Keyed key) (bs : List ByteArray) :
    ∀ p ∈ s.answersWith key bs, (s.runWith key bs).get? p.2 = some p.1 := by
  induction bs generalizing s with
  | nil => simp
  | cons b bs ih =>
    intro p hp
    rw [answersWith_cons, List.mem_append] at hp
    rcases hp with hp | hp
    · -- the call's own answer holds after it, and the rest of the run keeps it
      rw [Option.mem_toList] at hp
      exact (h.after b).get?_run bs (h.answer_holds hp)
    · exact ih (h.after b) p hp

/-- The contents after a run are those before it followed by the new contents the calls were
given, each once, in the order they were first given. -/
theorem Keyed.contents_run (h : s.Keyed key) (bs : List ByteArray) :
    (s.runWith key bs).contents =
      (s.contents ++ ((s.answersWith key bs).map Prod.fst).filter fun c => 0 < c.size).eraseDups := by
  induction bs generalizing s with
  | nil => simp [eraseDups_of_nodup h.nodup_contents]
  | cons b bs ih =>
    rw [runWith_cons, ih (h.after b), h.contents_after, answersWith_cons, List.map_append,
      List.filter_append]

/-! ### Runs from an empty store -/

theorem Keyed.fresh (key : ByteArray → UInt64) {max : Nat} (hmax : max < 2 ^ 32) :
    ({ max := max } : BlobStore).Keyed key where
  two_le := Nat.le_refl 2
  entry_zero := ByteArray.extract_same
  offset_le j hj := by
    have hj : j ≤ 1 := hj
    interval_cases j <;> exact Nat.le_refl 0
  last := rfl
  bucket k j hj := by simp [BlobStore.bucket] at hj
  listed j h1 hj := absurd hj (by change ¬ j < 1; omega)
  distinct i j hi hj _ := by
    change i < 1 at hi
    change j < 1 at hj
    omega
  size_eq := rfl
  size_le := Nat.zero_le _
  max_lt := hmax

/-- What the store answers after a run, from a store of capacity `M`: an index holds a content
exactly below the count, indices 1, 2, … hold the contents in order, the payload is the contents'
total length and fits in `M`, a stored content is interned again at its index with no change, and
a call fails exactly for a new content that is not empty and does not fit, with its length. -/
structure Answers (key : ByteArray → UInt64) (M : Nat) (s : BlobStore) : Prop where
  get?_eq_none : ∀ i, s.get? i = none ↔ s.count ≤ i
  get?_succ : ∀ i, s.get? (i + 1) = s.contents[i]?
  size_eq : s.size = (s.contents.map ByteArray.size).sum
  size_le : s.size ≤ M
  reintern : ∀ i c, s.get? i = some c → s.internWith key c = .ok (i, s)
  full_iff : ∀ b e, s.internWith key b = .error e ↔
    (0 < b.size ∧ b ∉ s.contents ∧ M < s.size + b.size) ∧ e = ⟨b.size⟩

theorem Keyed.answers {M : Nat} (h : s.Keyed key) (hmax : s.max = M) : s.Answers key M where
  get?_eq_none _ := get?_eq_none
  get?_succ := s.get?_succ
  size_eq := h.size_eq
  size_le := hmax ▸ h.size_le
  reintern _ _ hg := h.reintern hg
  full_iff _ _ := hmax ▸ h.internWith_eq_error_iff

/-- Any sequence of interning calls from an empty store of capacity `0 < M < 2^32`, with any key
function, colliding or not: index 0 answers exactly the empty content, two answers share an index exactly
when their contents are equal, every answered index holds its content at the end, the contents
are the new contents given, each once, in the order they were first given, and the store answers
as `Answers` says. A call that fails returns no store, so the run goes on from the one it had. -/
theorem calls_keep_contents (key : ByteArray → UInt64) (M : Int) (hM : 0 < M) (hM32 : M < 2 ^ 32)
    (bs : List ByteArray) :
    (∀ p ∈ (create M).answersWith key bs, p.2 = 0 ↔ p.1.size = 0) ∧
    (∀ p ∈ (create M).answersWith key bs, ∀ q ∈ (create M).answersWith key bs,
      p.2 = q.2 ↔ p.1 = q.1) ∧
    (∀ p ∈ (create M).answersWith key bs, ((create M).runWith key bs).get? p.2 = some p.1) ∧
    ((create M).runWith key bs).contents =
      ((((create M).answersWith key bs).map Prod.fst).filter fun c => 0 < c.size).eraseDups ∧
    ((create M).runWith key bs).Answers key M.toNat := by
  have hmax : (create M).max = M.toNat := by
    show (if M ≤ 0 then defaultMaxBlobBytes else M.toNat) = M.toNat
    rw [if_neg (by omega)]
  have h₀ : (create M).Keyed key := Keyed.fresh key (by rw [if_neg (by omega)]; omega)
  have h := h₀.run bs
  have hold := h₀.answers_hold bs
  refine ⟨fun p hp => h.index_eq_zero_iff (hold p hp), fun p hp q hq => ?_, hold, ?_,
    h.answers (by rw [max_run, hmax])⟩
  · exact h.get?_inj (hold p hp) (hold q hq)
  · rw [h₀.contents_run]
    rfl

/-- Interning `a`, `b`, `a` and the empty content with a capacity of 4 bytes and a key function
under which every content collides. -/
theorem calls_keep_contents_colliding :
    let bs : List ByteArray := [⟨#[0x61]⟩, ⟨#[0x62]⟩, ⟨#[0x61]⟩, ⟨#[]⟩]
    (0 : Int) < 4 ∧ (4 : Int) < 2 ^ 32 ∧
    (∀ p ∈ (create 4).answersWith (fun _ => 0) bs, p.2 = 0 ↔ p.1.size = 0) ∧
    (∀ p ∈ (create 4).answersWith (fun _ => 0) bs, ∀ q ∈ (create 4).answersWith (fun _ => 0) bs,
      p.2 = q.2 ↔ p.1 = q.1) ∧
    (∀ p ∈ (create 4).answersWith (fun _ => 0) bs,
      ((create 4).runWith (fun _ => 0) bs).get? p.2 = some p.1) ∧
    ((create 4).runWith (fun _ => 0) bs).contents =
      ((((create 4).answersWith (fun _ => 0) bs).map Prod.fst).filter
        fun c => 0 < c.size).eraseDups ∧
    ((create 4).runWith (fun _ => 0) bs).Answers (fun _ => 0) (4 : Int).toNat :=
  ⟨by decide, by decide, calls_keep_contents _ 4 (by decide) (by decide) _⟩

/-! ### Capacities of 2^32 bytes and more

The program keeps offsets and indices as 32-bit words, and nothing stops a capacity from reaching
2^32 bytes. Past that, the end of the payload wraps around and an entry is cut from the wrong
bytes. -/

/-- With a capacity of 2^33 bytes, a first content of 2^32 bytes ends at offset 2^32, which wraps
to 0, so the entry stored after it is cut from the first byte of the payload: interning `a` 2^32
times and then `b` answers index 2 for `b`, and index 2 reads back `a`, whatever the key function. -/
theorem wrap_reads_other_content (key : ByteArray → UInt64) :
    (create (2 ^ 33)).answersWith key [⟨Array.replicate (2 ^ 32) 0x61⟩, ⟨#[0x62]⟩] =
        [(⟨Array.replicate (2 ^ 32) 0x61⟩, 1), (⟨#[0x62]⟩, 2)] ∧
      ((create (2 ^ 33)).runWith key [⟨Array.replicate (2 ^ 32) 0x61⟩, ⟨#[0x62]⟩]).get? 2 =
        some ⟨#[0x61]⟩ := by
  set A : ByteArray := ⟨Array.replicate (2 ^ 32) 0x61⟩
  set B : ByteArray := ⟨#[0x62]⟩
  set s₀ := create (2 ^ 33)
  have hA : A.size = 2 ^ 32 := Array.size_replicate
  have hmax : s₀.max = 2 ^ 33 := by
    show (if (2 ^ 33 : Int) ≤ 0 then defaultMaxBlobBytes else (2 ^ 33 : Int).toNat) = 2 ^ 33
    rw [if_neg (by decide)]
    decide
  have hd₀ : s₀.data = .empty := rfl
  -- the first call stores `A` at index 1; its end, 2^32, is kept as offset 0
  set s₁ := s₀.push (key A) A
  have r₁ : s₀.internWith key A = .ok (1, s₁) := by
    rw [internWith_new (by rw [hA]; decide) (by simp [find?, bucket, s₀, create])
      (by rw [hd₀, hA, hmax]; decide)]
    rfl
  have hd₁ : s₁.data = A := ByteArray.empty_append
  have ho₁ : s₁.offsets = #[0, 0, 0] := by
    show s₀.offsets.push ((s₀.data.size + A.size) % Nat.pow 2 32) = #[0, 0, 0]
    rw [hd₀, hA]
    rfl
  -- so entry 1 reads nothing, and `B`, new, is stored at index 2 with its end at offset 1
  have he₁ : s₁.entry 1 = .empty := by
    rw [entry, ho₁, hd₁]
    exact ByteArray.extract_same
  set s₂ := s₁.push (key B) B
  have r₂ : s₁.internWith key B = .ok (2, s₂) := by
    have hf : s₁.find? key B = none := by
      rw [find?_eq_none]
      intro j hj
      rcases mem_bucket_push.1 hj with hj | ⟨-, rfl⟩
      · simp [bucket, s₀, create] at hj
      · rw [show s₀.count % 2 ^ 32 = 1 from rfl, he₁]
        decide
    rw [internWith_new (by decide) hf (by rw [hd₁, hA, show s₁.max = 2 ^ 33 from hmax]; decide)]
    rfl
  have ho₂ : s₂.offsets = #[0, 0, 0, 1] := by
    show s₁.offsets.push ((s₁.data.size + B.size) % Nat.pow 2 32) = #[0, 0, 0, 1]
    rw [ho₁, hd₁, hA, show (2 ^ 32 + B.size) % Nat.pow 2 32 = 1 by decide]
    rfl
  have he₂ : s₂.entry 2 = ⟨#[0x61]⟩ := by
    rw [entry, ho₂]
    show (s₁.data ++ B).extract 0 1 = _
    rw [hd₁, extract_append_of_le (by rw [hA]; decide) (by rw [hA]; decide)]
    have hdata : (A.extract 0 1).data = #[0x61] := by
      rw [ByteArray.data_extract]
      simp [A]
    exact congrArg ByteArray.mk hdata
  refine ⟨?_, ?_⟩
  · rw [answersWith_cons, answer_ok r₁, after_ok r₁, answersWith_cons, answer_ok r₂, after_ok r₂,
      answersWith_nil]
    rfl
  · rw [runWith_cons, after_ok r₁, runWith_cons, after_ok r₂, runWith_nil]
    exact get?_eq_some.2 ⟨by rw [count, ho₂]; decide, he₂⟩

/-- The same under the key the program uses. -/
theorem wrapped_entry_reads_other_content :
    (create (2 ^ 33)).answersWith keyOf [⟨Array.replicate (2 ^ 32) 0x61⟩, ⟨#[0x62]⟩] =
        [(⟨Array.replicate (2 ^ 32) 0x61⟩, 1), (⟨#[0x62]⟩, 2)] ∧
      ((create (2 ^ 33)).runWith keyOf [⟨Array.replicate (2 ^ 32) 0x61⟩, ⟨#[0x62]⟩]).get? 2 =
        some ⟨#[0x61]⟩ :=
  wrap_reads_other_content keyOf

/-! ### The key the program uses -/

/-- The invariant of a store under the key the program uses. -/
def WF (s : BlobStore) : Prop := s.Keyed keyOf

theorem WF.empty : ({} : BlobStore).WF := Keyed.fresh keyOf (by decide)

/-- A store of a capacity below 2^32 bytes, or of the default one, starts well formed. -/
theorem WF.create {max : Int} (hmax : max < 2 ^ 32) : (BlobStore.create max).WF := by
  refine Keyed.fresh keyOf ?_
  show (if max ≤ 0 then defaultMaxBlobBytes else max.toNat) < 2 ^ 32
  split
  · decide
  · omega

/-- Interning a content in a well-formed store gives an index that holds it, and the store
stays well formed. -/
theorem WF.intern {b : ByteArray} {i : Nat} (h : s.WF) (hi : s.intern b = .ok (i, s')) :
    s'.get? i = some b ∧ s'.WF := by
  have hk : s.Keyed keyOf := h
  rcases hk.internWith_eq_ok hi with ⟨rfl, hg⟩ | ⟨hb, hn, hm, rfl, rfl⟩
  · exact ⟨hg, hk⟩
  · exact ⟨hk.get?_push_count _ _ (hk.fits_words hb hm).1, hk.push hb hn hm⟩

/-! ### Later states of a store -/

/-- The store `F` is a later state of `s`: it is well formed, holds the contents of `s` first and
in the same order, holds a content that `s` lacks only if that content fitted in `s`, and has the
same capacity. -/
structure ExtendedBy (s F : BlobStore) : Prop where
  wf : F.WF
  contents : s.contents <+: F.contents
  fresh : ∀ c ∈ F.contents, c ∉ s.contents → s.data.size + c.size ≤ s.max
  max : F.max = s.max

variable {F : BlobStore}

theorem ExtendedBy.refl (h : s.WF) : s.ExtendedBy s :=
  ⟨h, List.prefix_refl _, fun _ hc hn => absurd hc hn, rfl⟩

/-- A later store holds the contents of the earlier one at the same indices. -/
theorem ExtendedBy.get? (hs : s.WF) (h : s.ExtendedBy F) (hg : s.get? i = some c) :
    F.get? i = some c := by
  cases i with
  | zero =>
    obtain ⟨-, rfl⟩ := get?_eq_some.1 hg
    rw [Keyed.entry_zero hs]
    exact get?_eq_some.2 ⟨Keyed.one_le_count h.wf, Keyed.entry_zero h.wf⟩
  | succ i =>
    rw [get?_succ] at hg ⊢
    obtain ⟨hi, rfl⟩ := List.getElem?_eq_some_iff.1 hg
    exact List.prefix_iff_getElem?.1 h.contents i hi

/-- A later store holds at least the payload of the earlier one. -/
theorem ExtendedBy.size_le (hs : s.WF) (h : s.ExtendedBy F) : s.data.size ≤ F.data.size := by
  obtain ⟨t, ht⟩ := h.contents
  rw [Keyed.size_eq hs, Keyed.size_eq h.wf, ← ht, List.map_append, List.sum_append]
  omega

/-- A content interned against a later store gets the index it got, and the later store is a
later state of the store before the call too. -/
theorem ExtendedBy.intern_ok (hs : s.WF) (hi : s.intern c = .ok (i, s')) (h : s'.ExtendedBy F) :
    s.ExtendedBy F ∧ F.intern c = .ok (i, F) := by
  have hk : s.Keyed keyOf := hs
  obtain ⟨hg, hs'⟩ := hs.intern hi
  have hF : F.intern c = .ok (i, F) := Keyed.reintern h.wf (h.get? hs' hg)
  rcases hk.internWith_eq_ok hi with ⟨rfl, -⟩ | ⟨hc, hn, hm, -, rfl⟩
  · exact ⟨h, hF⟩
  have hw := (hk.fits_words hc hm).1
  -- the stored content comes last; a content new to both was new to the grown store
  refine ⟨⟨h.wf, ?_, fun c' hc' hn' => ?_, h.max⟩, hF⟩
  · have hp := h.contents
    rw [hk.contents_push _ _ hw] at hp
    exact (List.prefix_append _ _).trans hp
  · by_cases he : c' = c
    · subst he
      exact hm
    · have hn'' : c' ∉ (s.push (keyOf c) c).contents := by
        rw [hk.contents_push _ _ hw]
        simp [hn', he]
      have hfit := h.fresh c' hc' hn''
      have hgrow : (s.push (keyOf c) c).data.size = s.data.size + c.size := by
        simp [BlobStore.push]
      rw [hgrow] at hfit
      have hmax : (s.push (keyOf c) c).max = s.max := rfl
      omega

/-- A content that did not fit does not fit in a later store either. -/
theorem ExtendedBy.intern_error {e : BlobFull} (hs : s.WF) (hi : s.intern c = .error e)
    (h : s.ExtendedBy F) : F.intern c = .error e := by
  have hk : s.Keyed keyOf := hs
  obtain ⟨⟨hc, hn, hm⟩, rfl⟩ := hk.internWith_eq_error_iff.1 hi
  -- a content stored later than `s` fitted in `s`, and this one did not
  have hnF : c ∉ F.contents := fun hcF => absurd (h.fresh c hcF hn) (by omega)
  have hsize := h.size_le hs
  exact (Keyed.internWith_eq_error_iff h.wf).2 ⟨⟨hc, hnF, by rw [h.max]; omega⟩, rfl⟩

end BlobStore

end NovelScript

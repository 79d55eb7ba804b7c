import Mathlib
import NovelScript.Diag.Render
import NovelScript.Proofs.Lexer.IntLiteral
/-!
# The golden form of diagnostics

`Golden.format` sorts the golden lines of the diagnostics and joins them with newlines.

* The golden order compares every field of a line, so it is the strict order of a key that
  determines the line (`Golden.before_iff`, `Golden.key_injective`). Sorting by it leaves one
  list whatever the order of the input, and the text is the same for every permutation of the
  diagnostics (`Golden.format_perm`).
* The text is the sorted rendered lines with one newline between each two
  (`Golden.toList_format`). Inside a line the only newlines are those of the line's path:
  severity labels, code ids and numbers have none, and `Golden.flatten` turns every CR and LF
  of a message into a space (`Golden.count_lf_render`). A path is not checked, so a unit whose
  path holds a newline gives a line that prints as two.
-/

namespace NovelScript

theorem ByteArray.toList_append (a b : ByteArray) : (a ++ b).toList = a.toList ++ b.toList := by
  simp [ByteArray.toList_eq_data]

/-- The UTF-8 bytes of a string. -/
theorem String.toList_toUTF8 (s : String) :
    s.toUTF8.toList = s.toList.flatMap String.utf8EncodeChar := by
  rw [String.toUTF8_eq_toByteArray, ← String.utf8Encode_toList, List.utf8Encode,
    ByteArray.toList_eq_data, List.data_toByteArray]

/-- The byte 0x0A stands in a UTF-8 encoding only as the whole encoding of a newline: every byte
of a longer encoding is at least 0x80. -/
theorem String.count_lf_utf8EncodeChar (c : Char) :
    (String.utf8EncodeChar c).count 0x0A = if c = '\n' then 1 else 0 := by
  have hc : c = '\n' ↔ c.val.toNat = 10 := by
    rw [Char.ext_iff, ← UInt32.toNat_inj]; rfl
  have hb : ∀ x : Nat, (UInt8.ofNat x == 0x0A) = true ↔ x % 256 = 10 := by
    intro x; simp [← UInt8.toNat_inj]
  unfold String.utf8EncodeChar
  simp only [hc]
  split_ifs <;> simp only [List.count_cons, List.count_nil, hb] <;> split_ifs <;> omega

/-- The newline bytes of a string are its newline characters. -/
theorem String.count_lf_toUTF8 (s : String) : s.toUTF8.toList.count 0x0A = s.toList.count '\n' := by
  rw [String.toList_toUTF8]
  induction s.toList with
  | nil => rfl
  | cons c cs ih =>
    rw [List.flatMap_cons, List.count_append, ih, String.count_lf_utf8EncodeChar, List.count_cons]
    by_cases h : c = '\n'
    · simp [h, Nat.add_comm]
    · simp [h]

/-- Decimal digits hold no newline. -/
theorem Nat.count_lf_toDigits (n : Nat) : (Nat.toDigits 10 n).count '\n' = 0 :=
  List.count_eq_zero.2 fun h =>
    absurd (Nat.isDigit_of_mem_toDigits (by decide) (by decide) h) (by decide)

theorem Severity.count_lf_label (s : Severity) : s.label.toList.count '\n' = 0 := by
  cases s <;> simp [Severity.label]

theorem Code.count_lf_id (c : Code) : (Code.id c).toList.count '\n' = 0 := by
  have hpad : ∀ n, (Code.pad4 n).toList.count '\n' = 0 := by
    intro n; simp [Code.pad4, List.count_replicate, Nat.count_lf_toDigits]
  unfold Code.id
  split_ifs <;> simp [hpad]

namespace Golden

/-! ## Sorting is independent of the input order -/

/-- The fields of a line in the order the golden order compares them, bytes read as numbers. -/
def Line.key (g : Line) : String ×ₗ ℕ ×ₗ ℕ ×ₗ String ×ₗ String ×ₗ List ℕ :=
  toLex (g.path, toLex (g.line, toLex (g.col, toLex (g.severity,
    toLex (g.code, g.message.toList.map UInt8.toNat)))))

theorem bytesLt_go_iff : ∀ xs ys : List UInt8,
    bytesLt.go xs ys = true ↔ xs.map UInt8.toNat < ys.map UInt8.toNat
  | [], [] => by simp [bytesLt.go]
  | [], _ :: _ => by simp [bytesLt.go]
  | _ :: _, [] => by simp [bytesLt.go]
  | x :: xs, y :: ys => by
    rw [bytesLt.go, List.map_cons, List.map_cons, List.cons_lt_cons_iff, ← bytesLt_go_iff xs ys]
    by_cases h : x = y
    · simp [h]
    · have : x.toNat ≠ y.toNat := fun e => h (UInt8.toNat_inj.1 e)
      simp [h, this, UInt8.lt_iff_toNat_lt]

/-- One field of the golden order: decide on the field when it differs, else on the rest. -/
theorem lex_if_iff {α β : Type} [LinearOrder α] [LT β] (x y : α) (p q : β) (r : Bool)
    (hr : r = true ↔ p < q) :
    (if (x != y) = true then decide (x < y) else r) = true ↔ toLex (x, p) < toLex (y, q) := by
  rw [Prod.Lex.toLex_lt_toLex]
  by_cases h : x = y
  · simp [h, hr]
  · simp [h]

theorem before_iff (a b : Line) : a.before b = true ↔ a.key < b.key := by
  unfold Line.before Line.key
  refine lex_if_iff _ _ _ _ _ (lex_if_iff _ _ _ _ _ (lex_if_iff _ _ _ _ _
    (lex_if_iff _ _ _ _ _ (lex_if_iff _ _ _ _ _ ?_))))
  exact bytesLt_go_iff _ _

/-- Lines that tie in the golden order are equal: the order reads every field. -/
theorem key_injective : Function.Injective Line.key := by
  rintro ⟨s, c, p, l, k, m⟩ ⟨s', c', p', l', k', m'⟩ h
  simp only [Line.key, toLex_inj, Prod.mk.injEq] at h
  obtain ⟨rfl, rfl, rfl, rfl, rfl, hm⟩ := h
  have : m.data = m'.data := by
    rw [← Array.toList_inj, ← ByteArray.toList_eq_data, ← ByteArray.toList_eq_data]
    exact List.map_injective_iff.2 (fun _ _ e => UInt8.toNat_inj.1 e) hm
  rw [ByteArray.ext this]

/-- The comparison `format` sorts with is the order of the keys. -/
theorem sortLe_iff (x y : Line) : (!y.before x) = true ↔ x.key ≤ y.key := by
  rw [← not_lt, ← before_iff]
  simp

theorem pairwise_sort (gs : List Line) :
    (gs.mergeSort fun x y => !y.before x).Pairwise fun x y => !y.before x :=
  List.pairwise_mergeSort
    (fun a b c hab hbc => by rw [sortLe_iff] at *; exact hab.trans hbc)
    (fun a b => by rw [Bool.or_eq_true, sortLe_iff, sortLe_iff]; exact le_total _ _) gs

/-- Sorting two permutations of one list of lines gives one list. -/
theorem sort_perm_eq {gs gs' : List Line} (h : gs.Perm gs') :
    (gs.mergeSort fun x y => !y.before x) = gs'.mergeSort fun x y => !y.before x := by
  have hperm := (List.mergeSort_perm gs fun x y => !y.before x).trans
    (h.trans (List.mergeSort_perm gs' fun x y => !y.before x).symm)
  -- two sorted permutations of each other agree, as ties in the golden order are equal lines
  exact List.Perm.eq_of_pairwise
    (fun a b _ _ hab hba => key_injective (le_antisymm ((sortLe_iff a b).1 hab)
      ((sortLe_iff b a).1 hba)))
    (pairwise_sort gs) (pairwise_sort gs') hperm

/-! ## The text of the sorted lines -/

theorem intercalate_cons_append (sep a b : List UInt8) (rest : List (List UInt8)) :
    sep.intercalate ((a ++ sep ++ b) :: rest) = sep.intercalate (a :: b :: rest) := by
  cases rest <;> simp

/-- The joining loop of `format`: the byte strings with a newline between each two. -/
theorem toList_join (l : ByteArray) (ls : List ByteArray) :
    (ls.foldl (fun acc x => acc ++ "\n".toUTF8 ++ x) l).toList =
      [0x0A].intercalate ((l :: ls).map ByteArray.toList) := by
  induction ls generalizing l with
  | nil => simp
  | cons x xs ih =>
    have hnl : "\n".toUTF8.toList = [0x0A] := by rw [String.toList_toUTF8]; decide
    rw [List.foldl_cons, ih, List.map_cons, ByteArray.toList_append, ByteArray.toList_append,
      hnl, intercalate_cons_append]
    rfl

theorem toList_format (ds : List Diagnostic) (res : Resolver) (cwd base : String) :
    (format ds res cwd base).toList = [0x0A].intercalate
      (((ds.map (ofDiagnostic res cwd base)).mergeSort fun x y => !y.before x).map
        fun g => g.render.toList) := by
  unfold format
  generalize (ds.map (ofDiagnostic res cwd base)).mergeSort (fun x y => !y.before x) = gs
  cases gs with
  | nil => simp [ByteArray.toList_eq_data]
  | cons g gs => simp only [List.map_cons, toList_join, List.map_map]; rfl

/-- Every text joined by newlines has one newline between each two texts and its own. -/
theorem count_lf_intercalate : ∀ ls : List (List UInt8),
    ([0x0A].intercalate ls).count 0x0A = ls.length - 1 + (ls.map (List.count 0x0A)).sum
  | [] => rfl
  | [a] => by simp
  | a :: b :: rest => by
    rw [List.intercalate_cons_cons, List.count_append, List.count_append,
      count_lf_intercalate (b :: rest)]
    simp only [List.length_cons, List.map_cons, List.sum_cons, List.count_singleton_self]
    omega

/-! ## One line per diagnostic, paths apart -/

/-- Folding line breaks leaves no CR and no LF. -/
theorem no_break_fold (l : List UInt8) : ∀ x ∈ flatten.fold l, x ≠ 0x0D ∧ x ≠ 0x0A := by
  fun_induction flatten.fold l with
  | case1 rest ih | case2 rest _ ih | case3 rest ih =>
    rintro x (_ | ⟨_, hx⟩)
    · decide
    · exact ih x hx
  | case4 b rest h1 h2 h3 ih =>
    rintro x (_ | ⟨_, hx⟩)
    · exact ⟨h2, h3⟩
    · exact ih x hx
  | case5 => simp

/-- A flattened message holds no line break: trimming keeps a slice of the folded bytes. -/
theorem no_break_flatten (m : ByteArray) : ∀ x ∈ (flatten m).toList, x ≠ 0x0D ∧ x ≠ 0x0A := by
  intro x hx
  simp only [flatten, Bytes.trimSpace, ByteArray.toList_eq_data, ByteArray.data_extract,
    Array.toList_extract, List.extract_eq_take_drop] at hx
  exact no_break_fold _ x (by simpa using List.mem_of_mem_drop (List.mem_of_mem_take hx))

/-- The newline bytes of a rendered line: those of its severity, code, path and message. -/
theorem count_lf_render (g : Line) :
    g.render.toList.count 0x0A = g.severity.toList.count '\n' + g.code.toList.count '\n' +
      g.path.toList.count '\n' + g.message.toList.count 0x0A := by
  rw [Line.render, ByteArray.toList_append, List.count_append, String.count_lf_toUTF8]
  simp [toString, Nat.toList_repr, Nat.count_lf_toDigits]
  omega

@[simp] theorem severity_ofDiagnostic (res : Resolver) (cwd base : String) (d : Diagnostic) :
    (ofDiagnostic res cwd base d).severity = d.severity.label := by
  unfold ofDiagnostic; split <;> rfl

@[simp] theorem code_ofDiagnostic (res : Resolver) (cwd base : String) (d : Diagnostic) :
    (ofDiagnostic res cwd base d).code = Code.id d.code := by
  unfold ofDiagnostic; split <;> rfl

@[simp] theorem message_ofDiagnostic (res : Resolver) (cwd base : String) (d : Diagnostic) :
    (ofDiagnostic res cwd base d).message = flatten d.message := by
  unfold ofDiagnostic; split <;> rfl

/-- The golden line of a diagnostic breaks only where its path does. -/
theorem count_lf_render_ofDiagnostic (res : Resolver) (cwd base : String) (d : Diagnostic) :
    (ofDiagnostic res cwd base d).render.toList.count 0x0A =
      (ofDiagnostic res cwd base d).path.toList.count '\n' := by
  have hm : (flatten d.message).toList.count 0x0A = 0 :=
    List.count_eq_zero.2 fun h => (no_break_flatten _ _ h).2 rfl
  rw [count_lf_render, severity_ofDiagnostic, code_ofDiagnostic, message_ofDiagnostic, hm,
    Severity.count_lf_label, Code.count_lf_id]
  simp

/-! ## The golden text -/

/-- The golden text does not depend on the order of the diagnostics. -/
theorem format_perm {ds ds' : List Diagnostic} (h : ds.Perm ds') (res : Resolver)
    (cwd base : String) : format ds res cwd base = format ds' res cwd base := by
  unfold format
  rw [sort_perm_eq (h.map (ofDiagnostic res cwd base))]

/-- The newlines of the golden text: one between each two lines, and those of the paths. -/
theorem count_lf_format (ds : List Diagnostic) (res : Resolver) (cwd base : String) :
    (format ds res cwd base).toList.count 0x0A =
      ds.length - 1 + (ds.map fun d => (ofDiagnostic res cwd base d).path.toList.count '\n').sum := by
  have hp := List.mergeSort_perm (ds.map (ofDiagnostic res cwd base)) fun x y => !y.before x
  rw [toList_format, count_lf_intercalate, List.length_map, List.length_mergeSort,
    List.length_map, List.map_map, (hp.map _).sum_eq, List.map_map]
  congr 2
  exact List.map_congr_left fun d _ => count_lf_render_ofDiagnostic res cwd base d

/-- With no path that holds a newline, the golden text has one line per diagnostic. -/
theorem count_lf_format_of_paths {ds : List Diagnostic} {res : Resolver} {cwd base : String}
    (h : ∀ d ∈ ds, '\n' ∉ (ofDiagnostic res cwd base d).path.toList) :
    (format ds res cwd base).toList.count 0x0A = ds.length - 1 := by
  rw [count_lf_format, List.sum_eq_zero]
  · rfl
  · simp only [List.mem_map]
    rintro _ ⟨d, hd, rfl⟩
    exact List.count_eq_zero.2 (h d hd)

/-- The golden text of any diagnostics: the same for every order of them, the golden lines sorted
and joined by newlines, no line break left in a message, and one newline between each two lines
besides those of the paths. -/
theorem golden_format_shape (ds : List Diagnostic) (res : Resolver) (cwd base : String) :
    (∀ ds', ds'.Perm ds → format ds' res cwd base = format ds res cwd base) ∧
    ∃ gs : List Line, gs.Perm (ds.map (ofDiagnostic res cwd base)) ∧
      gs.Pairwise (fun x y => !y.before x) ∧
      (format ds res cwd base).toList = [0x0A].intercalate (gs.map fun g => g.render.toList) ∧
      (∀ g ∈ gs, ∀ x ∈ g.message.toList, x ≠ 0x0D ∧ x ≠ 0x0A) ∧
      (format ds res cwd base).toList.count 0x0A =
        ds.length - 1 + (ds.map fun d => (ofDiagnostic res cwd base d).path.toList.count '\n').sum := by
  refine ⟨fun ds' h => format_perm h res cwd base, _, List.mergeSort_perm _ _, pairwise_sort _,
    toList_format ds res cwd base, ?_, count_lf_format ds res cwd base⟩
  intro g hg
  obtain ⟨d, -, rfl⟩ := List.mem_map.1 (List.mem_mergeSort.1 hg)
  rw [message_ofDiagnostic]
  exact no_break_flatten d.message

/-! ## A path with a newline -/

/-- The path `a\nb.nvl` against the root stays as it is: cleaning keeps its one element. -/
theorem relative_root_newline_path : Path.relative "/" "a\nb.nvl" "/" = "a\nb.nvl" := by
  -- the splits of the four paths the computation cleans, one unfolding of the split at a time
  have h₁ : "//a\nb.nvl".splitOn "/" = ["", "", "a\nb.nvl"] := by
    rw [String.splitOn, if_neg (by decide)]
    repeat (rw [String.splitOnAux]; simp +decide only [if_true, if_false])
  have h₂ : "/".splitOn "/" = ["", ""] := by
    rw [String.splitOn, if_neg (by decide)]
    repeat (rw [String.splitOnAux]; simp +decide only [if_true, if_false])
  have h₃ : "/a\nb.nvl".splitOn "/" = ["", "a\nb.nvl"] := by
    rw [String.splitOn, if_neg (by decide)]
    repeat (rw [String.splitOnAux]; simp +decide only [if_true, if_false])
  have h₄ : "a\nb.nvl".splitOn "/" = ["a\nb.nvl"] := by
    rw [String.splitOn, if_neg (by decide)]
    repeat (rw [String.splitOnAux]; simp +decide only [if_true, if_false])
  simp +decide [Path.relative, Path.abs, Path.isAbs, Path.join, Path.clean, Path.rel, Path.elems,
    Path.cleanElems, Path.rel.strip, h₁, h₂, h₃, h₄]

/-- The lone sigil of the script `x @ y` in the unit `a\nb.nvl`, shown against the root: one
diagnostic, whose golden text holds a newline. -/
theorem newline_path_splits_golden_line :
    (format [Diagnostic.make Code.lexLoneSigil .error ⟨0, 2, 1⟩ #[.str ⟨#[0x40]⟩]]
      (fun i => if i = 0 then some ⟨0, "a\nb.nvl", ⟨#[0x78, 0x20, 0x40, 0x20, 0x79, 0x0A]⟩, #[5], {}⟩
        else none) "/" "/").toList.count 0x0A = 1 := by
  rw [count_lf_format]
  have hmax : 0 < maxUnits := by decide
  simp [ofDiagnostic, Resolver.unitOf, Diagnostic.make, Range.valid, hmax, relative_root_newline_path]

end Golden

end NovelScript

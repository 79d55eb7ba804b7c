import Mathlib
import NovelScript.Progress.Board
/-!
# What the counters of a progress board count

A board counts a file as finished when an event moves its status from one that is not final to
`done` or `error`, and as failed too when the new status is `error`. Nothing ever takes a count
back. So the counters are the numbers of such moves, not of files: a file sent back to `queued`
after it was done counts again when it is done again, and a file that goes from `done` to `error`
shows `error` without counting as failed.

What always holds (`Board.Counted`): no more files failed than finished, and every file whose
status is final counted as finished. Where no message takes a file out of a final status or from
one final status to the other (`Board.Settled`), as in the order the driver sends its events, the
counters are exact (`Board.Exact`): the finished counter is the number of files that are done or
failed and the failed counter the number that failed, so neither passes the number of files.

Each invariant is one step lemma over the messages of the board (`Board.Counted.update`,
`Board.Exact.update`), read through the inversion lemma for events (`Board.apply_cases`), and
one run lemma by induction on the messages; the last theorems put them together for a board made
of any list of files and show a board whose counter passes its number of files.
-/

namespace NovelScript.Progress

/-- A list after one element is replaced counts the old element out and the new one in. -/
theorem countP_set_add {α : Type} (p : α → Bool) (l : List α) {i : Nat} (hi : i < l.length)
    (a : α) :
    (l.set i a).countP p + (if p l[i] then 1 else 0) = l.countP p + (if p a then 1 else 0) := by
  rw [List.countP_set hi]
  -- the element replaced was counted when `p` holds of it
  have hpos : p l[i] = true → 0 < l.countP p := fun h =>
    List.countP_pos_iff.2 ⟨l[i], List.getElem_mem hi, h⟩
  split <;> split <;> simp_all

namespace Board

/-- The number of files whose status is final. -/
def finalCount (b : Board) : Nat := b.items.countP (isFinal ·.status)

/-- The number of files whose status is `error`. -/
def errorCount (b : Board) : Nat := b.items.countP (·.status == "error")

/-- The board after a sequence of messages, in order. -/
def run (b : Board) (ms : List Msg) : Board := ms.foldl update b

@[simp] theorem run_nil (b : Board) : b.run [] = b := rfl

@[simp] theorem run_cons (b : Board) (m : Msg) (ms : List Msg) :
    b.run (m :: ms) = (b.update m).run ms := rfl

/-- Whether a message takes a file out of a final status, or from one final status to the
other. -/
def unsettles (b : Board) : Msg → Bool
  | .event ev =>
    match b.find ev.file, ev.label with
    | some i, some label =>
      let prev := (b.items[i]?.map (·.status)).getD ""
      isFinal prev && label != prev
    | _, _ => false
  | _ => false

/-- No message of the run takes a file out of a final status or from one final status to the
other: once a file is done or failed, it is told nothing new about it. -/
def Settled : Board → List Msg → Prop
  | _, [] => True
  | b, m :: ms => b.unsettles m = false ∧ Settled (b.update m) ms

/-! ### One message -/

/-- The file found for a path is on the board. -/
theorem find_lt {b : Board} {path : String} {i : Nat} (h : b.find path = some i) :
    i < b.items.length := by
  unfold find at h
  obtain ⟨x, hx, rfl⟩ := Option.map_eq_some_iff.1 h
  have hmem := (List.mem_filter.1 (List.mem_of_getLast? hx)).1
  exact (List.getElem?_eq_some_iff.1 (List.mem_zipIdx_iff_getElem?.1 hmem)).1

/-- An event either changes nothing, or sets the status of the one file it names and counts
the move when it goes from a status that is not final to a final one. -/
theorem apply_cases (b : Board) (ev : Event) :
    b.apply ev = b ∨
      ∃ i label, ∃ hi : i < b.items.length, b.find ev.file = some i ∧ ev.label = some label ∧
        (b.apply ev).items = b.items.set i ⟨ev.file, label⟩ ∧
        (b.apply ev).finished =
          b.finished + (if !isFinal b.items[i].status && isFinal label then 1 else 0) ∧
        (b.apply ev).failed = b.failed +
          (if !isFinal b.items[i].status && isFinal label && label == "error" then 1 else 0) := by
  unfold apply
  split
  · next i label hfind hlabel =>
    have hi := find_lt hfind
    refine .inr ⟨i, label, hi, hfind, hlabel, rfl, ?_, ?_⟩ <;>
      simp only [List.getElem?_eq_getElem hi, Option.map_some, Option.getD_some] <;> split <;> rfl
  · exact .inl rfl

/-- A message is an event, or leaves the files and the counters as they are. -/
theorem update_cases (b : Board) (m : Msg) :
    (∃ ev, m = .event ev) ∨
      ((b.update m).items = b.items ∧ (b.update m).finished = b.finished ∧
        (b.update m).failed = b.failed) := by
  cases m with
  | event ev => exact .inl ⟨ev, rfl⟩
  | done => exact .inr ⟨rfl, rfl, rfl⟩
  | tick => simp only [update, tick]; split <;> exact .inr ⟨rfl, rfl, rfl⟩
  | resize w => simp only [update, resize]; split <;> exact .inr ⟨rfl, rfl, rfl⟩
  | key _ => exact .inr ⟨rfl, rfl, rfl⟩
  | frame =>
    -- one frame moves the bar or clears the pending frame, nothing else
    simp only [update, runFrames]
    split
    · exact .inr ⟨rfl, rfl, rfl⟩
    · split <;> exact .inr ⟨rfl, rfl, rfl⟩
  | other => exact .inr ⟨rfl, rfl, rfl⟩

theorem length_update (b : Board) (m : Msg) : (b.update m).items.length = b.items.length := by
  rcases update_cases b m with ⟨ev, rfl⟩ | ⟨hitems, -, -⟩
  · rcases apply_cases b ev with h | ⟨i, label, hi, -, -, hitems, -, -⟩
    · exact congrArg (·.items.length) h
    · simp only [update, hitems, List.length_set]
  · rw [hitems]

/-! ### The counters -/

theorem isFinal_of_error {s : String} (h : (s == "error") = true) : isFinal s = true := by
  simp [isFinal, h]

/-- A board whose files differ from another's at `i` alone counts the old file out and the new
one in. -/
theorem counts_of_set {b b' : Board} {i : Nat} (hi : i < b.items.length) {it : Item}
    (h : b'.items = b.items.set i it) :
    b'.finalCount + (if isFinal b.items[i].status then 1 else 0) =
        b.finalCount + (if isFinal it.status then 1 else 0) ∧
      b'.errorCount + (if b.items[i].status == "error" then 1 else 0) =
        b.errorCount + (if it.status == "error" then 1 else 0) := by
  simp only [finalCount, errorCount, h]
  exact ⟨countP_set_add (isFinal ·.status) b.items hi it,
    countP_set_add (·.status == "error") b.items hi it⟩

/-- What the counters always satisfy: no more files failed than finished, and every file whose
status is final counted as finished. -/
structure Counted (b : Board) : Prop where
  failed_le : b.failed ≤ b.finished
  final_le : b.finalCount ≤ b.finished

/-- The counters are exact: the finished counter is the number of files that are done or failed,
the failed counter the number that failed. -/
structure Exact (b : Board) : Prop where
  finished : b.finished = b.finalCount
  failed : b.failed = b.errorCount

theorem exact_make (title : String) (files : List String) : (make title files).Exact := by
  -- every file starts queued, which is neither final nor failed
  have hq : ∀ it ∈ (make title files).items, it.status = "queued" := by simp [make]
  constructor <;> symm <;> refine List.countP_eq_zero.2 fun it hit => ?_ <;> simp [hq it hit, isFinal]

theorem Exact.counted {b : Board} (h : b.Exact) : b.Counted where
  failed_le := by
    rw [h.finished, h.failed]
    exact List.countP_mono_left fun it _ he => isFinal_of_error he
  final_le := h.finished.ge

/-- Every message keeps the counters counted. -/
theorem Counted.update {b : Board} (h : b.Counted) (m : Msg) : (b.update m).Counted := by
  rcases update_cases b m with ⟨ev, rfl⟩ | ⟨hitems, hfin, hfail⟩
  · show (b.apply ev).Counted
    rcases apply_cases b ev with hnone | ⟨i, label, hi, -, -, hitems, hfin, hfail⟩
    · rw [hnone]
      exact h
    · -- the file at `i` goes out of the count with its old status and in with the new one
      have hc := (counts_of_set hi hitems).1
      obtain ⟨hfl, hcl⟩ := h
      generalize isFinal b.items[i].status = p at hc hfin hfail
      generalize isFinal label = q at hc hfin hfail
      generalize (label == "error") = e at hfail
      constructor <;> cases p <;> cases q <;> cases e <;> simp_all <;> omega
  · refine ⟨hfail ▸ hfin ▸ h.failed_le, hfin ▸ ?_⟩
    simpa [finalCount, hitems] using h.final_le

/-- A message that unsettles no file keeps the counters exact. -/
theorem Exact.update {b : Board} (h : b.Exact) {m : Msg} (hm : b.unsettles m = false) :
    (b.update m).Exact := by
  rcases update_cases b m with ⟨ev, rfl⟩ | ⟨hitems, hfin, hfail⟩
  · show (b.apply ev).Exact
    rcases apply_cases b ev with hnone | ⟨i, label, hi, hfind, hlabel, hitems, hfin, hfail⟩
    · rw [hnone]
      exact h
    · obtain ⟨hc, he⟩ := counts_of_set hi hitems
      -- a file that is final is told its own status again
      have hkeep : isFinal b.items[i].status = true → label = b.items[i].status := by
        simpa [unsettles, hfind, hlabel, List.getElem?_eq_getElem hi] using hm
      obtain ⟨hf, hfl⟩ := h
      by_cases hp : isFinal b.items[i].status = true
      · obtain hl := hkeep hp
        simp [hl, hp] at hc he hfin hfail
        exact ⟨by omega, by omega⟩
      · -- a file that was not final had not failed, and is counted in when it becomes final
        have hp' : isFinal b.items[i].status = false := by simpa using hp
        have he₀ : (b.items[i].status == "error") = false :=
          Bool.eq_false_iff.2 fun h₀ => hp (isFinal_of_error h₀)
        have hq : (label == "error") = true → isFinal label = true := isFinal_of_error
        simp only [hp', he₀] at hc he hfin hfail
        generalize isFinal label = q at hc hfin hfail hq
        generalize (label == "error") = e at he hfail hq
        constructor <;> cases q <;> cases e <;> simp_all
  · refine ⟨hfin ▸ ?_, hfail ▸ ?_⟩
    · simpa [finalCount, hitems] using h.finished
    · simpa [errorCount, hitems] using h.failed

/-! ### Runs -/

theorem Counted.run {b : Board} (h : b.Counted) (ms : List Msg) : (b.run ms).Counted := by
  induction ms generalizing b with
  | nil => exact h
  | cons m ms ih => exact ih (h.update m)

theorem Exact.run {b : Board} (h : b.Exact) {ms : List Msg} (hs : b.Settled ms) :
    (b.run ms).Exact := by
  induction ms generalizing b with
  | nil => exact h
  | cons m ms ih => exact ih (h.update hs.1) hs.2

theorem length_run (b : Board) (ms : List Msg) : (b.run ms).items.length = b.items.length := by
  induction ms generalizing b with
  | nil => rfl
  | cons m ms ih => rw [run_cons, ih, length_update]

end Board

/-- The counters of a progress board over any list of files, after any messages. No more files
failed than finished, every file shown as done or failed was counted as finished, and the board
keeps its files. When no message takes a file out of a final status or from one final status to
the other, the counters are exact: the finished counter is the number of files that are done or
failed, the failed counter the number that failed, and the finished fraction is at most one. -/
theorem progress_counters (title : String) (files : List String) (ms : List Board.Msg) :
    let b := (Board.make title files).run ms
    b.failed ≤ b.finished ∧ b.finalCount ≤ b.finished ∧ b.items.length = files.length ∧
      ((Board.make title files).Settled ms →
        b.finished = b.finalCount ∧ b.failed = b.errorCount ∧ b.finished ≤ b.items.length) := by
  intro b
  have hcounted := (Board.exact_make title files).counted.run ms
  refine ⟨hcounted.failed_le, hcounted.final_le, ?_, fun hs => ?_⟩
  · simp [b, Board.length_run, Board.make]
  · have hexact := (Board.exact_make title files).run hs
    refine ⟨hexact.finished, hexact.failed, ?_⟩
    rw [hexact.finished]
    exact List.countP_le_length

/-- Two files, each queued, worked on and done, in the order the driver sends its events: no
message unsettles a file, so the counters of the board are exact. -/
theorem progress_counters_two_files :
    (Board.make "t" ["a", "b"]).Settled
        [.event ⟨"a", "load", "queued"⟩, .event ⟨"b", "load", "queued"⟩,
          .event ⟨"a", "lex", "working"⟩, .event ⟨"a", "lex", "done"⟩,
          .event ⟨"b", "lex", "working"⟩, .event ⟨"b", "lex", "done"⟩] ∧
      let b := (Board.make "t" ["a", "b"]).run
        [.event ⟨"a", "load", "queued"⟩, .event ⟨"b", "load", "queued"⟩,
          .event ⟨"a", "lex", "working"⟩, .event ⟨"a", "lex", "done"⟩,
          .event ⟨"b", "lex", "working"⟩, .event ⟨"b", "lex", "done"⟩]
      b.finished = b.finalCount ∧ b.failed = b.errorCount ∧ b.finished ≤ b.items.length := by
  have hs : (Board.make "t" ["a", "b"]).Settled
      [.event ⟨"a", "load", "queued"⟩, .event ⟨"b", "load", "queued"⟩,
        .event ⟨"a", "lex", "working"⟩, .event ⟨"a", "lex", "done"⟩,
        .event ⟨"b", "lex", "working"⟩, .event ⟨"b", "lex", "done"⟩] := by
    simp only [Board.Settled]
    decide
  exact ⟨hs, (progress_counters "t" ["a", "b"] _).2.2.2 hs⟩

/-- A file that is done, sent back to `queued` and done again counts twice: a board of one file
ends with two finished. -/
theorem finished_counts_return :
    let b := (Board.make "t" ["a"]).run
      [.event ⟨"a", "lex", "done"⟩, .event ⟨"a", "load", "queued"⟩, .event ⟨"a", "lex", "done"⟩]
    b.finished = 2 ∧ b.finalCount = 1 ∧ b.items.length = 1 := by
  decide

end NovelScript.Progress

import Mathlib
/-!
# First-seen lists

An interning store hands out its entries in the order their contents were first given to it, so
after a sequence of calls its contents are `List.eraseDups` of what it was given, the contents it
held at the start first. The dictionary and the string store carry that through a run with the
two facts here: a list without repeats is its own first-seen list, and a content given again
adds nothing.
-/

namespace NovelScript

variable {α : Type} [BEq α] [LawfulBEq α]

/-- A list without repeats is its own first-seen list. -/
theorem eraseDups_of_nodup : ∀ {l : List α}, l.Nodup → l.eraseDups = l
  | [], _ => rfl
  | a :: l, h => by
    rw [List.nodup_cons] at h
    have hkeep : ∀ b ∈ l, (!b == a) = true := by
      intro b hb
      simp only [Bool.not_eq_true', beq_eq_false_iff_ne]
      rintro rfl
      exact h.1 hb
    rw [List.eraseDups_cons, List.filter_eq_self.2 hkeep, eraseDups_of_nodup h.2]

/-- A content seen before can be left out of a first-seen list. -/
theorem eraseDups_append_cons_of_mem {l rest : List α} {a : α} (h : a ∈ l) :
    (l ++ a :: rest).eraseDups = (l ++ rest).eraseDups := by
  rw [List.eraseDups_append, List.eraseDups_append]
  congr 2
  simp [List.removeAll, h]

end NovelScript

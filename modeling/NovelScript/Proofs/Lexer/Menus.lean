import Mathlib
import NovelScript.Proofs.Lexer.Grammar
import NovelScript.Proofs.Lexer.Balance
/-!
# Menu bodies

A `menu` keyword announces a body in braces. The tokenizer flags the `{` that opens a body and
the `}` that closes it, reports a `menu` keyword met inside a body, and reports a `menu` keyword
met outside a body whose next significant token is not `{`, or after which the text ends. This
module says what these flags and reports are in terms of the stream of significant tokens
alone, and proves that the tokenizer produces exactly that along every run from a fresh
tokenizer (`menu_bodies_of_run`):

* the flagged braces alternate, an opener first;
* a `{` opens a body iff the significant token before it is a `menu` keyword met outside a body;
* the body a `{` opens is closed by the first `}` that brings the brace counter back to its
  value before that `{`, and no body opens inside it;
* a `menu` keyword never waits inside a body, and an open body closes at a brace count between
  1 and the current count;
* the menu reports are, in order, the `menu` keywords inside a body and the `menu` keywords
  outside a body whose next significant token is not `{`, or which end the text.

Whether a body is open is read off the flags themselves: after a stream it is open when the
last flagged brace of the stream opens one (`inBody`). The proofs go through the menu machine of
`NovelScript.Proofs.Lexer.Grammar`: its state after a stream is described by these notions
(`MenuState.inMenu_run`, `MenuState.await_run`), and its invariant (`MenuState.Sane`) gives the
rest.
-/

namespace NovelScript

/-! ### The notions, on a stream of significant tokens -/

/-- Whether a token is a brace flagged as opening or closing a menu body. -/
def Token.isMark (t : Token) : Bool := t.menuOpen || t.menuClose

/-- Whether a menu body is open after the significant tokens `pre`: the last flagged brace of
`pre` opens one. -/
def inBody (pre : List Token) : Bool := (pre.filter Token.isMark).getLast?.any Token.menuOpen

/-- Whether a `menu` keyword waits for its body after `pre`: `pre` ends with a `menu` keyword
met outside a body. -/
def waiting (pre : List Token) : Bool := pre.getLast?.any Token.isMenu && !inBody pre.dropLast

/-- The report of a `menu` keyword that ends `pre`, met outside a body, and gets no body. -/
def missingAfter (pre : List Token) : List Notice :=
  match pre.getLast? with
  | some k => if waiting pre then [(k.range, Code.strMissingMenuBody, #[])] else []
  | none => []

/-- The menu reports made when the significant token `t` follows `pre`: the `menu` keyword
before it when `t` is not its `{`, then `t` itself when it is a `menu` keyword inside a body. -/
def reportsAt (pre : List Token) (t : Token) : List Notice :=
  (if t.kind = .lBrace then [] else missingAfter pre) ++
    (if t.isMenu && inBody pre then [(t.range, Code.strNestedMenu, #[])] else [])

/-- The menu reports of the significant tokens `ts` following `pre`, in order. -/
def reportsAfter (pre : List Token) : List Token → List Notice
  | [] => []
  | t :: ts => reportsAt pre t ++ reportsAfter (pre ++ [t]) ts

/-- The menu reports of a stream of significant tokens, then those of the end of the text when
it was reached. -/
def menuReports (gs : List Token) (ended : Bool) : List Notice :=
  reportsAfter [] gs ++ if ended then missingAfter gs else []

/-- The brace counter after the significant tokens `ts`. -/
def braceAfter (ts : List Token) : Nat := (Balances.afterAll {} ts).brace

/-- The flagged braces `marks` alternate, an opener first. -/
def Alternates (marks : List Token) : Prop :=
  ∀ i (h : i < marks.length),
    marks[i].menuOpen = decide (i % 2 = 0) ∧ marks[i].menuClose = decide (i % 2 = 1)

theorem Token.kind_of_menuOpen {t : Token} (h : t.menuOpen = true) : t.kind = .lBrace := by
  simp_all [Token.menuOpen]

theorem Token.kind_of_menuClose {t : Token} (h : t.menuClose = true) : t.kind = .rBrace := by
  simp_all [Token.menuClose]

theorem Token.kind_of_isMenu {t : Token} (h : t.isMenu = true) : t.kind = .keyword := by
  by_contra hk
  simp [Token.isMenu, Token.keyword, hk, keywordMenu] at h

theorem inBody_concat (pre : List Token) (t : Token) :
    inBody (pre ++ [t]) = if t.isMark then t.menuOpen else inBody pre := by
  unfold inBody
  cases h : t.isMark <;> simp [List.filter_append, h]

@[simp] theorem waiting_nil : waiting [] = false := rfl

theorem waiting_concat (pre : List Token) (t : Token) :
    waiting (pre ++ [t]) = (t.isMenu && !inBody pre) := by
  simp [waiting]

theorem alternates_concat {marks : List Token} {t : Token} :
    Alternates (marks ++ [t]) ↔ Alternates marks ∧
      t.menuOpen = decide (marks.length % 2 = 0) ∧ t.menuClose = decide (marks.length % 2 = 1) := by
  constructor
  · intro h
    refine ⟨fun i hi => ?_, ?_⟩
    · have hi' := h i (by simp; omega)
      rwa [List.getElem_append_left hi] at hi'
    · simpa using h marks.length (by simp)
  · rintro ⟨h, ho, hc⟩ i hi
    rw [List.length_append, List.length_singleton] at hi
    by_cases hlt : i < marks.length
    · rw [List.getElem_append_left hlt]
      exact h i hlt
    · have hi' : i = marks.length := by omega
      subst hi'
      simpa using ⟨ho, hc⟩

/-- Along alternating flags a body is open exactly after an odd number of them. -/
theorem Alternates.last_open {marks : List Token} (h : Alternates marks) :
    marks.getLast?.any Token.menuOpen = decide (marks.length % 2 = 1) := by
  induction marks using List.reverseRecOn with
  | nil => rfl
  | append_singleton marks t _ =>
    have ho := (alternates_concat.1 h).2.1
    simp only [List.getLast?_concat, Option.any_some, ho, List.length_append, List.length_singleton]
    grind

/-! ### The machine's invariant -/

namespace MenuState

/-- The machine's invariant: a keyword never waits inside a body, and an open body closes at a
brace count between 1 and the current one. -/
structure Sane (m : MenuState) : Prop where
  await : m.await = true → m.inMenu = false
  depth : m.inMenu = true → 1 ≤ m.depth ∧ m.depth ≤ m.bal.brace

theorem sane_init : init.Sane := ⟨nofun, nofun⟩

theorem Sane.next {m : MenuState} (h : m.Sane) (tok : Token) : (m.next tok).Sane where
  await hw := by
    -- a keyword waits only when met outside a body, and a keyword opens nothing
    have ⟨hmenu, hin⟩ : tok.isMenu = true ∧ m.inMenu = false := by simpa [MenuState.next] using hw
    simp [MenuState.next, opens, closes, hin, Token.kind_of_isMenu hmenu]
  depth hin := by
    by_cases ho : m.opens tok = true
    · -- a body just opened closes one above the old count, which the `{` has reached
      have hk : tok.kind = .lBrace := by simp_all [opens]
      simp [MenuState.next, ho, hk, Balances.push]
    · -- an open body keeps its depth; a `}` that does not close it leaves the count above it
      have hm : m.inMenu = true ∧ m.closes tok = false := by simp_all [MenuState.next]
      have hd := h.depth hm.1
      cases hk : tok.kind <;> simp_all [MenuState.next, closes, Balances.push] <;> omega

theorem Sane.finish {m : MenuState} (h : m.Sane) : m.finish.Sane :=
  ⟨nofun, h.depth⟩

theorem Sane.run {m : MenuState} (h : m.Sane) (ts : List Token) : (m.run ts).Sane := by
  induction ts generalizing m with
  | nil => exact h
  | cons t ts ih => exact ih (h.next t)

theorem run_bal (m : MenuState) (ts : List Token) : (m.run ts).bal = m.bal.afterAll ts := by
  induction ts generalizing m with
  | nil => rfl
  | cons t ts ih => exact ih _

theorem braceAfter_eq (ts : List Token) : braceAfter ts = (init.run ts).bal.brace := by
  rw [run_bal]
  rfl

/-! ### The machine's state, read off the stream -/

variable {pre : List Token}

/-- A body is open after a stream iff its last flagged brace opens one. -/
theorem inMenu_run (h : init.Traces pre) : (init.run pre).inMenu = inBody pre := by
  induction pre using List.reverseRecOn with
  | nil => rfl
  | append_singleton pre t ih =>
    obtain ⟨hpre, ho, hc⟩ := (traces_concat _ _ _).1 h
    rw [run_concat, inBody_concat, ← ih hpre]
    -- the flags `t` carries are the machine's: an opener opens, a closer closes
    simp only [next, Token.isMark, ho, hc]
    cases (init.run pre).opens t <;> cases (init.run pre).closes t <;> simp

/-- A keyword waits after a stream iff the stream ends with a `menu` keyword met outside a
body. -/
theorem await_run (h : init.Traces pre) : (init.run pre).await = waiting pre := by
  induction pre using List.reverseRecOn with
  | nil => rfl
  | append_singleton pre t _ =>
    rw [run_concat, waiting_concat, ← inMenu_run ((traces_concat _ _ _).1 h).1]
    rfl

theorem endNotes_run (h : init.Traces pre) : (init.run pre).endNotes = missingAfter pre := by
  induction pre using List.reverseRecOn with
  | nil => rfl
  | append_singleton pre t _ =>
    have hin := inMenu_run ((traces_concat _ _ _).1 h).1
    -- the keyword that waits is the last token, and its range is the one kept
    cases hm : t.isMenu <;> cases hb : inBody pre <;>
      simp [endNotes, missingAfter, next, hin, waiting_concat, hm, hb]

theorem notes_eq (m : MenuState) (t : Token) :
    m.notes t = (if t.kind = .lBrace then [] else m.endNotes) ++
      (if t.isMenu && m.inMenu then [(t.range, Code.strNestedMenu, #[])] else []) := by
  unfold notes endNotes
  by_cases hk : t.kind = .lBrace <;> cases m.await <;> simp [hk]

theorem notes_run (h : init.Traces pre) (t : Token) : (init.run pre).notes t = reportsAt pre t := by
  rw [notes_eq, endNotes_run h, inMenu_run h]
  rfl

/-- The machine's menu reports are those of the stream. -/
theorem notesOf_run {ts : List Token} (h : init.Traces (pre ++ ts)) :
    (init.run pre).notesOf ts = reportsAfter pre ts := by
  induction ts generalizing pre with
  | nil => rfl
  | cons t ts ih =>
    have h' : init.Traces (pre ++ [t] ++ ts) := by simpa using h
    have hpre := ((traces_append _ _ _).1 ((traces_append _ _ _).1 h').1).1
    rw [notesOf, ← run_concat, notes_run hpre, ih h', reportsAfter]

/-! ### Opening and closing bodies -/

/-- The flagged braces of a traced stream alternate, an opener first: an opener comes when a
keyword waits, hence outside a body, and a closer only inside one. -/
theorem alternates_marks {gs : List Token} (h : init.Traces gs) :
    Alternates (gs.filter Token.isMark) := by
  induction gs using List.reverseRecOn with
  | nil => exact fun i hi => absurd hi (Nat.not_lt_zero _)
  | append_singleton gs t ih =>
    obtain ⟨hgs, ho, hc⟩ := (traces_concat _ _ _).1 h
    have ih := ih hgs
    rw [List.filter_append]
    cases hmark : t.isMark
    · simpa [hmark] using ih
    simp only [List.filter_singleton, hmark, cond_true]
    refine alternates_concat.2 ⟨ih, ?_⟩
    -- the parity of the flags so far says whether a body is open
    have hpar : (init.run gs).inMenu = decide ((gs.filter Token.isMark).length % 2 = 1) := by
      rw [inMenu_run hgs, inBody, ih.last_open]
    have hs := sane_init.run gs
    cases hopen : t.menuOpen
    · have hclose : t.menuClose = true := by simpa [Token.isMark, hopen] using hmark
      have hin : (init.run gs).inMenu = true := by
        simp_all [closes]
      rw [hpar] at hin
      simp_all
    · have hw : (init.run gs).await = true := by simp_all [opens]
      have hin := hs.await hw
      have hclose : t.menuClose = false := by
        rw [hc]
        simp [closes, Token.kind_of_menuOpen hopen]
      rw [hpar] at hin
      simp_all

/-- A `{` opens a body iff a `menu` keyword met outside a body comes right before it. -/
theorem menuOpen_iff {gs pre post : List Token} {t : Token} (h : init.Traces gs)
    (hgs : gs = pre ++ t :: post) (hk : t.kind = .lBrace) : t.menuOpen = waiting pre := by
  subst hgs
  obtain ⟨hpre, hrest⟩ := (traces_append _ _ _).1 h
  rw [hrest.1.1, opens, hk, ← await_run hpre]
  simp

/-- Through tokens that carry no flag an open body stays open at its depth, and no keyword
waits. -/
theorem body_run {m : MenuState} {mid : List Token} (hm : m.inMenu = true) (hw : m.await = false)
    (ht : m.Traces mid) (hmid : ∀ x ∈ mid, x.isMark = false) :
    (m.run mid).inMenu = true ∧ (m.run mid).await = false ∧ (m.run mid).depth = m.depth := by
  induction mid generalizing m with
  | nil => exact ⟨hm, hw, rfl⟩
  | cons x mid ih =>
    obtain ⟨⟨ho, hc⟩, ht⟩ := ht
    have hx := hmid x (by simp)
    -- `x` carries no flag, so the machine neither opens nor closes at it
    have hxo : m.opens x = false := by simp_all [Token.isMark]
    have hxc : m.closes x = false := by simp_all [Token.isMark]
    have hnext : (m.next x).depth = m.depth := by simp [next, hxo, hxc]
    rw [← hnext]
    exact ih (by simp [next, hxo, hxc, hm]) (by simp [next, hm]) ht
      fun y hy => hmid y (by simp [hy])

/-- The body opened by the `{` `o` after `pre`, through unflagged tokens `mid`: it is open at
depth one above the count before `o`, no keyword waits, and the count has not dropped to that
depth's level. -/
theorem in_body {pre mid : List Token} {o : Token} (h : init.Traces (pre ++ o :: mid))
    (ho : o.menuOpen = true) (hmid : ∀ x ∈ mid, x.isMark = false) :
    (init.run (pre ++ o :: mid)).inMenu = true ∧ (init.run (pre ++ o :: mid)).await = false ∧
      (init.run (pre ++ o :: mid)).depth = braceAfter pre + 1 ∧
      braceAfter pre < braceAfter (pre ++ o :: mid) := by
  obtain ⟨hpre, ⟨hoo, -⟩, hmidt⟩ := (traces_append _ _ _).1 h
  have hk := Token.kind_of_menuOpen ho
  have hopen : (init.run pre).opens o = true := hoo ▸ ho
  have hbody := body_run (m := (init.run pre).next o) (by simp [next, hopen])
    (by simp [next, Token.isMenu, Token.keyword, keywordMenu, hk]) hmidt hmid
  have hdepth : (init.run (pre ++ o :: mid)).depth = braceAfter pre + 1 := by
    rw [show pre ++ o :: mid = pre ++ [o] ++ mid by simp, run_append, run_concat, hbody.2.2]
    simp [next, hopen, braceAfter_eq]
  refine ⟨by simpa using hbody.1, by simpa using hbody.2.1, hdepth, ?_⟩
  -- the count stays at or above the body's depth
  have hsane := (sane_init.run (pre ++ o :: mid)).depth (by simpa using hbody.1)
  rw [braceAfter_eq (pre ++ o :: mid)]
  omega

/-- The first flagged brace after an opener closes its body, and it is the token that brings
the brace counter back to its value before the opener. -/
theorem menuClose_iff {pre mid post : List Token} {o c : Token}
    (h : init.Traces (pre ++ o :: (mid ++ c :: post))) (ho : o.menuOpen = true)
    (hmid : ∀ x ∈ mid, x.isMark = false) :
    (c.menuClose = true ↔ braceAfter (pre ++ o :: mid ++ [c]) = braceAfter pre) ∧
      c.menuOpen = false := by
  have h' : init.Traces (pre ++ o :: mid ++ c :: post) := by simpa using h
  obtain ⟨hpre, ⟨hco, hcc⟩, -⟩ := (traces_append _ _ _).1 h'
  have hpre' : init.Traces (pre ++ o :: mid) := hpre
  obtain ⟨hin, hw, hdepth, hlt⟩ := in_body hpre' ho hmid
  rw [braceAfter_eq (pre ++ o :: mid)] at hlt
  rw [hcc, hco, braceAfter_eq (pre ++ o :: mid ++ [c]), run_concat]
  generalize init.run (pre ++ o :: mid) = m at hin hw hdepth hlt ⊢
  refine ⟨?_, by simp [opens, hw]⟩
  -- only a `}` met at the body's depth brings the count back below it
  cases hk : c.kind <;> simp [closes, hin, hdepth, next, Balances.push, hk] <;> omega

/-- Inside a body the brace counter stays above its value before the opener. -/
theorem brace_above {pre mid : List Token} {o : Token} (h : init.Traces (pre ++ o :: mid))
    (ho : o.menuOpen = true) (hmid : ∀ x ∈ mid, x.isMark = false) :
    ∀ k ≤ mid.length, braceAfter pre < braceAfter (pre ++ o :: mid.take k) := by
  intro k _
  have hk : init.Traces (pre ++ o :: mid.take k) := by
    have h' : init.Traces (pre ++ o :: mid.take k ++ mid.drop k) := by simpa using h
    exact ((traces_append _ _ _).1 h').1
  exact (in_body hk ho fun x hx => hmid x (List.mem_of_mem_take hx)).2.2.2

end MenuState

/-! ### Along a run -/

/-- Along every run from a fresh tokenizer: the flagged braces of the stream alternate, an
opener first; a `{` opens a body iff the significant token before it is a `menu` keyword met
outside a body; the first flagged brace after an opener closes its body exactly when it brings
the brace counter back to its value before the opener, which it stays above until then, and it
never opens another; a `menu` keyword never waits inside a body, and an open body closes at a
brace count between 1 and the current count; and the menu reports are, in order, the `menu`
keywords inside a body and those outside a body that get no `{` next or end the text. -/
theorem menu_bodies_of_run (u : SourceUnit) (mode : DirectiveMode) (env : LexEnv) (n : Nat) :
    let s := ((Lexer.create u mode env).lexRun n).2
    let ts := ((Lexer.create u mode env).lexRun n).1.filterMap Except.toOption
    let gs := (Lexer.create u mode env).afterRun n
    Alternates (ts.filter Token.isMark) ∧
    (∀ pre t post, gs = pre ++ t :: post → t.kind = .lBrace → t.menuOpen = waiting pre) ∧
    (∀ pre o mid c post, gs = pre ++ o :: (mid ++ c :: post) → o.menuOpen = true →
      (∀ x ∈ mid, x.isMark = false) →
      (c.menuClose = true ↔ braceAfter (pre ++ o :: mid ++ [c]) = braceAfter pre) ∧
      c.menuOpen = false ∧ ∀ k ≤ mid.length, braceAfter pre < braceAfter (pre ++ o :: mid.take k)) ∧
    (s.flags.awaitMenu = true → s.flags.inMenu = false) ∧
    (s.flags.inMenu = true → 1 ≤ s.menuDepth ∧ s.menuDepth ≤ s.bal.brace) ∧
    ReportedBy isMenuCode env.engine s.env.engine (menuReports gs s.done) := by
  intro s ts gs
  have hf := Lexer.follows_run u mode env n
  have ht : MenuState.init.Traces gs := hf.traces
  -- the flagged braces of the stream are those of the tokens that went through `after`
  have hmarks : ts.filter Token.isMark = gs.filter Token.isMark := by
    have hsub : ∀ l : List Token, (l.filter Token.isBrace).filter Token.isMark = l.filter Token.isMark := by
      intro l
      rw [List.filter_filter]
      refine List.filter_congr fun t _ => ?_
      cases hm : t.isMark
      · rfl
      · -- a flagged token is a brace
        have hmark : t.menuOpen = true ∨ t.menuClose = true := by simpa [Token.isMark] using hm
        rcases hmark with ho | hc
        · simp [Token.isBrace, Token.kind_of_menuOpen ho]
        · simp [Token.isBrace, Token.kind_of_menuClose hc]
    rw [← hsub ts, hf.braces, hsub]
  -- the tokenizer's menu state is the machine's, perhaps past the end of the text
  have hsane : s.menu.Sane := by
    rw [hf.menu]
    split
    · exact (MenuState.sane_init.run gs).finish
    · exact MenuState.sane_init.run gs
  refine ⟨hmarks ▸ MenuState.alternates_marks ht, fun pre t post hgs hk =>
    MenuState.menuOpen_iff ht hgs hk, fun pre o mid c post hgs ho hmid => ?_, hsane.await,
    hsane.depth, ?_⟩
  · rw [hgs] at ht
    exact ⟨(MenuState.menuClose_iff ht ho hmid).1, (MenuState.menuClose_iff ht ho hmid).2,
      MenuState.brace_above ((MenuState.traces_append _ _ _).1
        (by simpa using ht : MenuState.init.Traces (pre ++ o :: mid ++ c :: post))).1 ho hmid⟩
  · refine hf.notes.of_eq ?_
    rw [menuReports, ← MenuState.notesOf_run (by simpa using ht : MenuState.init.Traces ([] ++ gs))]
    split
    · rw [MenuState.endNotes_run ht]
      rfl
    · rfl

end NovelScript

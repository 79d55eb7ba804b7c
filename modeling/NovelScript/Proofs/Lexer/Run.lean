import Mathlib
import NovelScript.Proofs.Lexer.Step
/-!
# Runs of the tokenizer

`Lexer.peek` computes the token at the cursor once and keeps it; `Lexer.lex` hands it out;
a capacity error stops the tokenizer for good, and `Lexer.reset` starts it over. This module
turns the contract of one call (`Lexer.Stepped`) into facts about whole runs:

* every tokenizer reached from a fresh one by any sequence of `peek`, `lex` (or skip) and
  `reset` calls keeps its cursor inside the text, and every token it hands out lies inside
  the text and passes the limits of `Token.new`;
* the results of `n` calls of `lex` on a fresh tokenizer are tokens followed only by the
  repeated capacity error: at most one token per byte of text before the end token, the end
  token at the end of the text with length 0 and then again on every call, each token of the
  unit, inside the text, non-empty unless it is the end, and starting where the one before it
  ended or later.
-/

open Std.Do

set_option mvcgen.warning false

namespace NovelScript

theorem LexM.of_triple {α : Type} {x : StateM Lexer α} {P : Lexer → Prop}
    {R : α → Lexer → Prop} (h : ⦃fun s => ⌜P s⌝⦄ x ⦃⇓ r s => ⌜R r s⌝⦄) {s : Lexer} (hs : P s) :
    R (x.run s).1 (x.run s).2 := by
  have hwp := h s hs
  simp [wp] at hwp
  exact hwp

/-- The converse: a triple from what the step does on each state it may start from. -/
theorem LexM.triple_of_run {α : Type} {x : StateM Lexer α} {P : Lexer → Prop}
    {R : α → Lexer → Prop} (h : ∀ s, P s → R (x.run s).1 (x.run s).2) :
    ⦃fun s => ⌜P s⌝⦄ x ⦃⇓ r s => ⌜R r s⌝⦄ := by
  intro s hs
  simp only [wp]
  exact h s hs

/-- The same for a scan, which may stop on an error. -/
theorem ScanM.of_triple {α : Type} {x : ScanM α} {P : Lexer → Prop} {Q : α → Lexer → Prop}
    {E : LexError → Lexer → Prop}
    (h : ⦃fun s => ⌜P s⌝⦄ x ⦃post⟨fun r s => ⌜Q r s⌝, fun e s => ⌜E e s⌝⟩⦄) {s : Lexer}
    (hs : P s) :
    match x.run.run s with
    | (.ok r, s') => Q r s'
    | (.error e, s') => E e s' := by
  have hwp := h s hs
  simp [wp] at hwp
  rcases hx : x.run.run s with ⟨_ | _, _⟩ <;> simp_all [Id.run]

/-! ### `peek` and `lex` -/

/-- What one computed token does, whether it is a token or a capacity error. -/
def Lexer.Computed (s : Lexer) : Except LexError Token → Lexer → Prop
  | .ok t, s' => s.Stepped t s'
  | .error _, s' => s.Stopped s'

/-- The tokenizer keeping the outcome of a computed token: the token for the next `peek`, or
the error that stops it. -/
def Lexer.keep (s : Lexer) : Except LexError Token → Lexer
  | .ok t => { s with look := some t }
  | .error e => { s with err := some e }

/-- What `peek` does from `s`: a stopped tokenizer gives its error again, a kept token is
given again, and otherwise the next token is computed and kept. -/
def Lexer.Peeked (s : Lexer) (r : Except LexError Token) (s' : Lexer) : Prop :=
  match s.err, s.look with
  | some e, _ => r = .error e ∧ s' = s
  | none, some t => r = .ok t ∧ s' = s
  | none, none => ∃ s₁, s.Computed r s₁ ∧ s' = s₁.keep r

/-- The tokenizer after `lex` handed out the outcome of `peek`: a token is no longer kept and
becomes the last one. -/
def Lexer.handOut (s : Lexer) : Except LexError Token → Lexer
  | .ok t => { s with look := none, last := some t }
  | .error _ => s

/-- What `lex` does from `s`. -/
def Lexer.Lexed (s : Lexer) (r : Except LexError Token) (s' : Lexer) : Prop :=
  ∃ s₁, s.Peeked r s₁ ∧ s' = s₁.handOut r

namespace Lexer

theorem peek_spec (s₀ : Lexer) :
    ⦃fun s => ⌜s = s₀ ∧ s₀.Ready⌝⦄ Lexer.peek ⦃⇓ r s => ⌜s₀.Peeked r s⌝⦄ := by
  -- each spec lemma goes to mvcgen as a hypothesis, so that this proof does not wait for the
  -- lemma's own proof to be checked
  have hnext := @LexM.next_spec
  mvcgen -trivial [Lexer.peek, hnext]
  all_goals obtain ⟨rfl, hr⟩ := ‹_ = s₀ ∧ _›
  case h_1 => simp [Lexer.Peeked, ‹_ = some _›]
  -- past the stored error: there is none
  all_goals
    have herr : _ = none := Eq.trans ‹(_ : Lexer).err = _›
      (Option.eq_none_iff_forall_ne_some.2 ‹∀ e : LexError, _ = some e → False›)
  case h_2.h_1 => simp [Lexer.Peeked, herr, ‹_ = some _›]
  -- past the kept token: there is none
  all_goals
    have hlook : _ = none := Eq.trans ‹(_ : Lexer).look = _›
      (Option.eq_none_iff_forall_ne_some.2 ‹∀ t : Token, _ = some t → False›)
  case pre => exact ⟨trivial, hr⟩
  case post.success => simpa [Lexer.Peeked, herr, hlook] using ⟨_, ‹_›, rfl⟩
  case post.except.handle => simpa [Lexer.Peeked, herr, hlook] using ⟨_, ‹_›, rfl⟩

theorem lex_spec (s₀ : Lexer) :
    ⦃fun s => ⌜s = s₀ ∧ s₀.Ready⌝⦄ Lexer.lex ⦃⇓ r s => ⌜s₀.Lexed r s⌝⦄ := by
  have hpeek := @Lexer.peek_spec
  mvcgen -trivial [Lexer.lex, hpeek]
  case pre =>
    obtain ⟨rfl, hr⟩ := ‹_ = s₀ ∧ _›
    exact ⟨trivial, hr⟩
  case h_1 =>
    obtain ⟨rfl, -⟩ := ‹_ = s₀ ∧ _›
    subst ‹_ = Except.ok _›
    exact ⟨_, ‹_›, rfl⟩
  -- an error is handed out as it is
  case h_2 =>
    rename_i x hnot hx _ hp
    obtain ⟨rfl, -⟩ := ‹_ = s₀ ∧ _›
    rw [hx]
    cases x with
    | ok t => exact absurd rfl (hnot t)
    | error e => exact ⟨_, hp, rfl⟩

variable {s s' : Lexer}

theorem peek_run (hr : s.Ready) : s.Peeked (Lexer.peek.run s).1 (Lexer.peek.run s).2 :=
  LexM.of_triple (peek_spec s) ⟨rfl, hr⟩

theorem lex_run (hr : s.Ready) : s.Lexed (Lexer.lex.run s).1 (Lexer.lex.run s).2 :=
  LexM.of_triple (lex_spec s) ⟨rfl, hr⟩

theorem Ready.keep (h : s.Ready) (r : Except LexError Token) : (s.keep r).Ready := by
  cases r <;> exact ⟨h.inside, h.lit, h.blank, h.done⟩

theorem Ready.handOut (h : s.Ready) (r : Except LexError Token) : (s.handOut r).Ready := by
  cases r <;> exact ⟨h.inside, h.lit, h.blank, h.done⟩

end Lexer

/-! ### Tokens fit to hand out -/

/-- A token fit to hand out for unit `u`: a named kind, inside the text, at most the length
ceiling long. -/
structure Token.Fits (t : Token) (u : SourceUnit) : Prop where
  unit : t.unit = u.id
  named : t.kind ∈ TokenKind.named
  len : t.len ≤ maxTokenLen
  inside : t.endOff ≤ u.size

theorem TokenKind.code_named : ∀ k ∈ TokenKind.named, k.code ≤ TokenKind.maxCode ∧
    TokenKind.ofCode k.code = k := by
  decide

/-- `Token.new` admits the fields of `t`: from its kind code, unit, offset and length it builds
`t` back, with no flags and no payload. -/
def Token.Passes (t : Token) : Prop :=
  Token.new t.kind.code t.unit t.off t.len = .ok ⟨t.kind, t.unit, t.off, t.len, false, 0, 0⟩

/-- The fields of a fitting token pass the limits of `Token.new` when its unit is one that
`SourceUnit.create` admits. -/
theorem Token.Fits.passes {t : Token} {u : SourceUnit} (h : t.Fits u) (hid : u.id < maxUnits)
    (hsize : u.size ≤ maxUnitSize) : t.Passes := by
  obtain ⟨hcode, hof⟩ := TokenKind.code_named t.kind h.named
  -- the offset limit of a token is the size limit of a unit, its unit limit the unit count
  have hoff : t.off ≤ maxOffset := by
    have hend := h.inside
    have hmax : maxOffset = maxUnitSize := rfl
    simp only [Token.endOff] at hend
    omega
  have hunit : t.unit ≤ maxTokenUnit := by
    have hmax : maxTokenUnit + 1 = maxUnits := rfl
    rw [h.unit]
    omega
  simp [Token.Passes, Token.new, checkField, hof, not_lt.2 hcode, not_lt.2 hoff, not_lt.2 h.len,
    not_lt.2 hunit, not_lt.2 (Int.natCast_nonneg _)]
  rfl

/-- The token `emit` makes for a named kind, from a start up to a cursor inside the text. -/
theorem emitted_fits {u : SourceUnit} {kind : TokenKind} (hk : kind ∈ TokenKind.named)
    {start stop : Nat} (hle : start ≤ stop) (hin : stop ≤ u.size) :
    (emitted kind u.id start stop).1.Fits u := by
  unfold emitted
  split
  -- too long: an error token clamped to the ceiling, which ends before the cursor
  · refine ⟨rfl, show TokenKind.error ∈ TokenKind.named by decide, le_rfl, ?_⟩
    simp only [Token.endOff]
    omega
  · refine ⟨rfl, hk, ?_, ?_⟩ <;> simp only [Token.endOff] <;> omega

namespace Lexer

variable {s s' : Lexer} {t : Token}

/-- Every token of the stream fits the unit. -/
theorem Stepped.fits (h : s.Stepped t s') : t.Fits s.unit := by
  refine ⟨h.unit, h.named, ?_, ?_⟩
  · by_cases he : t.kind = .eof
    · rw [(h.eof he).2.1]; exact Nat.zero_le _
    · rw [((h.spans he).1).len]; exact min_le_right _ _
  · by_cases he : t.kind = .eof
    · obtain ⟨hoff, hlen, -⟩ := h.eof he
      simp [Token.endOff, hoff, hlen, Lexer.text, SourceUnit.size]
    · obtain ⟨hsp, hlt⟩ := h.spans he
      have hin := h.ready.inside
      rw [Lexer.text_eq_of_fixed h.fixed] at hin
      have hl := hsp.len
      simp only [Token.endOff, SourceUnit.size, Lexer.text] at hl hin ⊢
      omega

/-- The state kept between calls: ready, with a kept token that fits the unit. -/
structure Sound (s : Lexer) : Prop where
  ready : s.Ready
  look : ∀ t, s.look = some t → t.Fits s.unit

theorem sound_create (u : SourceUnit) (mode : DirectiveMode) (env : LexEnv) :
    (Lexer.create u mode env).Sound :=
  ⟨ready_create u mode env, by rintro _ ⟨⟩⟩

/-- What `peek` hands out fits the unit, and the tokenizer stays sound over the same unit. -/
theorem Sound.peeked (h : s.Sound) {r : Except LexError Token} (hp : s.Peeked r s') :
    (∀ t, r = .ok t → t.Fits s.unit) ∧ s'.Sound ∧ s'.unit = s.unit := by
  unfold Peeked at hp
  split at hp
  · obtain ⟨rfl, rfl⟩ := hp
    exact ⟨nofun, h, rfl⟩
  · obtain ⟨rfl, rfl⟩ := hp
    rename_i hlook
    exact ⟨fun t ht => by cases ht; exact h.look _ hlook, h, rfl⟩
  · obtain ⟨s₁, hc, rfl⟩ := hp
    cases r with
    | ok t =>
      have hunit : s₁.unit = s.unit := Lexer.unit_eq_of_fixed hc.fixed
      refine ⟨fun t' ht => by cases ht; exact hc.fits, ⟨hc.ready.keep _, ?_⟩, hunit⟩
      rintro t' ⟨⟩
      rw [show (s₁.keep (.ok t)).unit = s.unit from hunit]
      exact hc.fits
    | error e =>
      have hunit : s₁.unit = s.unit := Lexer.unit_eq_of_fixed hc.fixed
      refine ⟨nofun, ⟨hc.ready.keep _, ?_⟩, hunit⟩
      intro t' hl
      have hl' : s.look = some t' := by
        rw [← show s₁.look = s.look from congrArg Lexer.Fixed.look hc.fixed]; exact hl
      rename_i hlook
      simp [hlook] at hl'

/-- What `lex` hands out fits the unit, and the tokenizer stays sound over the same unit. -/
theorem Sound.lexed (h : s.Sound) {r : Except LexError Token} (hl : s.Lexed r s') :
    (∀ t, r = .ok t → t.Fits s.unit) ∧ s'.Sound ∧ s'.unit = s.unit := by
  obtain ⟨s₁, hp, rfl⟩ := hl
  obtain ⟨hfit, hs₁, hunit⟩ := h.peeked hp
  refine ⟨hfit, ⟨hs₁.ready.handOut r, ?_⟩, ?_⟩
  · cases r with
    | ok t => rintro _ ⟨⟩
    | error e => exact hs₁.look
  · cases r <;> exact hunit

/-- The tokenizers over `u` that a fresh one reaches by calls of `peek`, `lex` and `reset`;
a skip is a `lex` whose token is dropped. -/
inductive Reachable (u : SourceUnit) : Lexer → Prop
  | create (mode : DirectiveMode) (env : LexEnv) : Reachable u (Lexer.create u mode env)
  | peek {s : Lexer} : Reachable u s → Reachable u (Lexer.peek.run s).2
  | lex {s : Lexer} : Reachable u s → Reachable u (Lexer.lex.run s).2
  | reset {s : Lexer} : Reachable u s → Reachable u s.reset

theorem Reachable.sound {u : SourceUnit} (h : Reachable u s) : s.Sound ∧ s.unit = u := by
  induction h with
  | create mode env => exact ⟨sound_create u mode env, rfl⟩
  | peek _ ih =>
    obtain ⟨-, hs, hunit⟩ := ih.1.peeked (peek_run ih.1.ready)
    exact ⟨hs, hunit.trans ih.2⟩
  | lex _ ih =>
    obtain ⟨-, hs, hunit⟩ := ih.1.lexed (lex_run ih.1.ready)
    exact ⟨hs, hunit.trans ih.2⟩
  | reset _ ih => exact ⟨sound_create _ _ _, ih.2⟩

end Lexer

/-! ### Where one token lies -/

namespace Lexer.Stepped

variable {s s' : Lexer} {t : Token}

theorem tokenStart_ge (hr : s.Ready) : s.off ≤ s.tokenStart := by
  unfold tokenStart
  split
  · exact le_rfl
  · exact hr.trivia_stop.1

/-- A token starts at or after the cursor. -/
theorem off_ge (h : s.Stepped t s') (hr : s.Ready) : s.off ≤ t.off :=
  h.start ▸ tokenStart_ge hr

/-- A token ends at or before the cursor it leaves. -/
theorem endOff_le (h : s.Stepped t s') : t.endOff ≤ s'.off := by
  by_cases he : t.kind = .eof
  · obtain ⟨hoff, hlen, hcur, -⟩ := h.eof he
    simp [Token.endOff, hoff, hlen, hcur]
  · obtain ⟨hsp, hlt⟩ := h.spans he
    have hl := hsp.len
    simp only [Token.endOff]
    omega

/-- A token other than the end moves the cursor. -/
theorem off_lt (h : s.Stepped t s') (hr : s.Ready) (he : t.kind ≠ .eof) : s.off < s'.off :=
  Nat.lt_of_le_of_lt (h.off_ge hr) (h.spans he).2

theorem unit_eq (h : s.Stepped t s') : s'.unit = s.unit := Lexer.unit_eq_of_fixed h.fixed

theorem off_le (h : s.Stepped t s') (hr : s.Ready) : s.off ≤ s'.off :=
  Nat.le_trans (h.off_ge hr) (Nat.le_trans (Nat.le_add_right _ _) h.endOff_le)

/-- A finished tokenizer gives only the end token. -/
theorem eof_of_done (h : s.Stepped t s') (hr : s.Ready) (hd : s.done = true) : t.kind = .eof := by
  obtain ⟨hend, hlit, -⟩ := hr.done hd
  by_contra he
  have hstart : s.tokenStart = s.text.size := by
    rw [tokenStart, hlit, Lexer.trivia, Trivia.skip_of_size_le _ _ _ _ _ (by omega)]
    simpa using hend
  have hlt := (h.spans he).2
  have hin := h.ready.inside
  rw [h.start, hstart, Lexer.text_eq_of_fixed h.fixed] at *
  omega

end Lexer.Stepped

/-! ### Runs of `lex` -/

/-- The results of `n` successive `lex` calls from `s`, and the tokenizer after them. -/
def Lexer.lexRun : Nat → Lexer → List (Except LexError Token) × Lexer
  | 0, s => ([], s)
  | n + 1, s =>
    let (r, s₁) := Lexer.lex.run s
    let (rs, s') := Lexer.lexRun n s₁
    (r :: rs, s')

/-- The tokens `ts` that successive `lex` calls hand out from `s`, leaving `s'`. -/
inductive Lexer.Lexes : Lexer → List Token → Lexer → Prop
  | nil (s : Lexer) : Lexes s [] s
  | cons {s s₁ s' : Lexer} {t : Token} {ts : List Token} (h : s.Stepped t s₁)
      (rest : Lexes { s₁ with look := none, last := some t } ts s') : Lexes s (t :: ts) s'

namespace Lexer

variable {s s' : Lexer}

theorem lexRun_length (n : Nat) (s : Lexer) : (s.lexRun n).1.length = n := by
  induction n generalizing s with
  | zero => rfl
  | succ n ih =>
    rcases hrun : Lexer.lex.run s with ⟨r, s₁⟩
    simp [lexRun, hrun, ih]

/-- A stopped tokenizer gives its error on every call and stays as it is. -/
theorem lexRun_of_err {e : LexError} (h : s.err = some e) (n : Nat) :
    s.lexRun n = (List.replicate n (.error e), s) := by
  induction n with
  | zero => rfl
  | succ n ih =>
    have hlex : Lexer.lex.run s = (.error e, s) := by
      simp [Lexer.lex, Lexer.peek, h]
      rfl
    simp [lexRun, hlex, ih, List.replicate_succ]

/-- The results of `n` calls of `lex` from a ready tokenizer with nothing kept and no error:
the tokens of a run, then, if a capacity error stops it, that error on every later call. -/
theorem lexRun_spec (n : Nat) (hr : s.Ready) (hlook : s.look = none) (herr : s.err = none) :
    ∃ ts s₁, s.Lexes ts s₁ ∧
      (s.lexRun n = (ts.map .ok, s₁) ∨
        ∃ e s₂ m, s₁.Stopped s₂ ∧
          s.lexRun n = (ts.map .ok ++ List.replicate (m + 1) (.error e), { s₂ with err := some e })) := by
  induction n generalizing s with
  | zero => exact ⟨[], s, .nil s, .inl rfl⟩
  | succ n ih =>
    have hl := lex_run hr
    rcases hrun : Lexer.lex.run s with ⟨r, s'⟩
    rw [hrun] at hl
    obtain ⟨s₁, hp, hs'⟩ := hl
    dsimp only at hp hs'
    subst hs'
    simp only [Peeked, herr, hlook] at hp
    obtain ⟨s₂, hc, rfl⟩ := hp
    cases r with
    | ok t =>
      -- the token is handed out, and the run goes on from a tokenizer that keeps nothing
      have herr₂ : s₂.err = none := (congrArg Lexer.Fixed.err hc.fixed).trans herr
      obtain ⟨ts, s₃, hts, hrest⟩ :=
        ih (s := { s₂ with look := none, last := some t }) ⟨hc.ready.inside, hc.ready.lit,
          hc.ready.blank, hc.ready.done⟩ rfl herr₂
      refine ⟨t :: ts, s₃, .cons hc hts, ?_⟩
      rcases hrest with hrest | ⟨e, s₄, m, hs, hrest⟩
      · left
        simp [lexRun, hrun, keep, handOut, hrest]
      · right
        refine ⟨e, s₄, m, hs, ?_⟩
        simp [lexRun, hrun, keep, handOut, hrest]
    | error e =>
      -- the error stops the tokenizer: every later call gives it again
      refine ⟨[], s, .nil s, .inr ⟨e, s₂, n, hc, ?_⟩⟩
      simp [lexRun, hrun, keep, handOut, lexRun_of_err (s := { s₂ with err := some e }) rfl,
        List.replicate_succ]

end Lexer

namespace Lexer.Lexes

variable {s s' : Lexer} {ts : List Token}

/-- The tokenizer a handed-out token leaves is ready for the next call. -/
theorem next_ready {s₁ : Lexer} {t : Token} (hs : s.Stepped t s₁) :
    ({ s₁ with look := none, last := some t } : Lexer).Ready :=
  hs.ready.handOut (.ok t)

theorem unit_eq (h : s.Lexes ts s') : s'.unit = s.unit := by
  induction h with
  | nil => rfl
  | cons hs _ ih => exact ih.trans hs.unit_eq

theorem ready (h : s.Lexes ts s') (hr : s.Ready) : s'.Ready := by
  induction h with
  | nil => exact hr
  | cons hs _ ih => exact ih (next_ready hs)

theorem off_le (h : s.Lexes ts s') (hr : s.Ready) : s.off ≤ s'.off := by
  induction h with
  | nil => exact le_rfl
  | cons hs _ ih => exact (hs.off_le hr).trans (ih (next_ready hs))

/-- What every call guarantees of its token holds of every token of a run. -/
theorem forall_mem (h : s.Lexes ts s') {P : Token → Prop}
    (hP : ∀ (s₀ : Lexer) (t : Token) (s₁ : Lexer), s₀.Stepped t s₁ → s₀.unit = s.unit → P t) :
    ∀ t ∈ ts, P t := by
  induction h with
  | nil => simp
  | cons hs _ ih =>
    rintro t' (_ | ⟨_, ht'⟩)
    · exact hP _ _ _ hs rfl
    · exact ih (fun s₀ t s₁ h hu => hP s₀ t s₁ h (hu.trans hs.unit_eq)) t' ht'

/-- Each token ends where the next one starts or before, and the first starts at or after
the cursor. -/
theorem chain (h : s.Lexes ts s') (hr : s.Ready) :
    ts.IsChain (fun a b => a.endOff ≤ b.off) ∧ ∀ t ∈ ts.head?, s.off ≤ t.off := by
  induction h with
  | nil => exact ⟨.nil, by simp⟩
  | @cons s₀ s₁ s₂ t ts hs _ ih =>
    obtain ⟨hc, hhead⟩ := ih (next_ready hs)
    refine ⟨?_, by simpa using hs.off_ge hr⟩
    cases ts with
    | nil => exact .singleton _
    | cons t' ts' => exact .cons_cons (hs.endOff_le.trans (hhead t' rfl)) hc

/-- After the end token, only end tokens. -/
theorem eof_of_done (h : s.Lexes ts s') (hr : s.Ready) (hd : s.done = true) :
    ∀ t ∈ ts, t.kind = .eof := by
  induction h with
  | nil => simp
  | cons hs _ ih =>
    have he := hs.eof_of_done hr hd
    rintro t' (_ | ⟨_, ht'⟩)
    · exact he
    · exact ih (next_ready hs) (hs.eof he).2.2.2 t' ht'

/-- The end tokens of a run come last, after at most one token per byte the cursor moved. -/
theorem eof_split (h : s.Lexes ts s') (hr : s.Ready) :
    ∃ k, k + s.off ≤ s'.off ∧ ∀ i (hi : i < ts.length), (ts[i].kind = .eof ↔ k ≤ i) := by
  induction h with
  | nil => exact ⟨0, by simp, by simp⟩
  | @cons s₀ s₁ s₂ t ts hs rest ih =>
    by_cases he : t.kind = .eof
    · -- the end token finishes the tokenizer: every later token is an end token too
      have hall := rest.eof_of_done (next_ready hs) (hs.eof he).2.2.2
      refine ⟨0, by simpa using (hs.off_le hr).trans (rest.off_le (next_ready hs)), ?_⟩
      intro i hi
      cases i with
      | zero => simpa using he
      | succ i => simpa using hall _ (List.getElem_mem _)
    · -- a token before the end moves the cursor by at least one byte
      obtain ⟨k, hk, hidx⟩ := ih (next_ready hs)
      have hlt := hs.off_lt hr he
      refine ⟨k + 1, by simp only at hk; omega, ?_⟩
      intro i hi
      cases i with
      | zero => simp [he]
      | succ i => simpa using hidx i (by simpa using hi)

end Lexer.Lexes

theorem SourceUnit.create_bounds {id : Nat} {path : String} {content : ByteArray}
    {flags : UnitFlags} {u : SourceUnit} (h : SourceUnit.create id path content flags = .ok u) :
    u.id < maxUnits ∧ u.size ≤ maxUnitSize ∧ u.content = content := by
  unfold SourceUnit.create at h
  split at h
  · cases h
  split at h
  · cases h
  cases h
  exact ⟨Nat.lt_of_not_le ‹_›, Nat.le_of_not_lt ‹_›, rfl⟩

/-- Every token that `emit`, `eof` and `continueMessage` build for unit `u` passes the limits
of `Token.new`: `emit` of a named kind from a start up to a cursor inside the text, `eof` from
any state, and `continueMessage` from a ready tokenizer with an open literal. -/
structure Lexer.TokensPass (u : SourceUnit) : Prop where
  emit : ∀ (s : Lexer) (kind : TokenKind) (start : Nat), s.unit = u → kind ∈ TokenKind.named →
    start ≤ s.off → s.off ≤ u.size → ((LexM.emit kind start).run s).1.1.Passes
  eof : ∀ s : Lexer, s.unit = u → (LexM.eof.run s).1.Passes
  continueMessage : ∀ (s : Lexer) (lit : OpenLiteral) (t : Token), s.unit = u → s.Ready →
    s.lit = some lit → ((LexM.continueMessage lit).run.run s).1 = .ok t → t.Passes

theorem Lexer.tokensPass {u : SourceUnit} (hid : u.id < maxUnits) (hsize : u.size ≤ maxUnitSize) :
    Lexer.TokensPass u where
  emit s kind start hu hk hle hin := by
    subst hu
    rw [LexM.emit_run]
    exact (emitted_fits hk hle hin).passes hid hsize
  eof s hu := by
    subst hu
    -- the end token lies at the end of the text with length 0
    have he := LexM.of_triple (LexM.eof_spec s) rfl
    refine Token.Fits.passes ⟨he.unit, ?_, ?_, ?_⟩ hid hsize
    · rw [he.kind]; decide
    · rw [he.len]; exact Nat.zero_le _
    · simp [Token.endOff, he.off, he.len, Lexer.text, SourceUnit.size]
  continueMessage s lit t hu hr hl ht := by
    subst hu
    have hc := ScanM.of_triple (LexM.continueMessage_spec lit s) ⟨rfl, hr, hl⟩
    rcases hx : (LexM.continueMessage lit).run.run s with ⟨_ | t', s'⟩
    · rw [hx] at ht; cases ht
    · rw [hx] at ht hc
      cases ht
      exact hc.fits.passes hid hsize

/-- Whatever `peek`, `lex` and `reset` calls a tokenizer over a unit that `SourceUnit.create`
admits has gone through, in any directive mode: its cursor is inside the text; the next token
`peek` or `lex` hands out lies inside the text and passes the limits of `Token.new`, as does
every token `emit`, `eof` and `continueMessage` build for the unit; and every reader of the
text stops inside it. -/
theorem reachable_in_bounds (id : Nat) (path : String) (content : ByteArray) (flags : UnitFlags)
    {u : SourceUnit} (hu : SourceUnit.create id path content flags = .ok u) {s : Lexer}
    (hs : Lexer.Reachable u s) :
    s.off ≤ u.size ∧
      (∀ t, ((Lexer.peek.run s).1 = .ok t ∨ (Lexer.lex.run s).1 = .ok t) →
        t.endOff ≤ u.size ∧ t.Passes) ∧
      Lexer.TokensPass u ∧ ReadersInside u.content := by
  obtain ⟨hid, hsize, -⟩ := SourceUnit.create_bounds hu
  obtain ⟨hsound, hunit⟩ := hs.sound
  -- a token handed out fits the unit of the tokenizer, which is `u`
  have hfits : ∀ t, ((Lexer.peek.run s).1 = .ok t ∨ (Lexer.lex.run s).1 = .ok t) → t.Fits u := by
    rintro t (ht | ht)
    · exact hunit ▸ (hsound.peeked (Lexer.peek_run hsound.ready)).1 t ht
    · exact hunit ▸ (hsound.lexed (Lexer.lex_run hsound.ready)).1 t ht
  have hin := hsound.ready.inside
  rw [Lexer.text, hunit] at hin
  exact ⟨hin, fun t ht => ⟨(hfits t ht).inside, (hfits t ht).passes hid hsize⟩,
    Lexer.tokensPass hid hsize, readersInside u.content⟩

/-- The unit `1 2` after two tokens. -/
theorem reachable_in_bounds_after_two_tokens :
    ∃ u, SourceUnit.create 0 "a.nvl" ⟨#[0x31, 0x20, 0x32]⟩ {} = .ok u ∧
      (Lexer.lex.run (Lexer.lex.run (Lexer.create u .emit {})).2).2.off ≤ u.size ∧
      (∀ t, ((Lexer.peek.run (Lexer.lex.run (Lexer.lex.run (Lexer.create u .emit {})).2).2).1 = .ok t ∨
          (Lexer.lex.run (Lexer.lex.run (Lexer.lex.run (Lexer.create u .emit {})).2).2).1 = .ok t) →
        t.endOff ≤ u.size ∧ t.Passes) ∧
      Lexer.TokensPass u ∧ ReadersInside u.content :=
  ⟨_, rfl, reachable_in_bounds 0 "a.nvl" ⟨#[0x31, 0x20, 0x32]⟩ {} rfl (.lex (.lex (.create .emit {})))⟩

/-- Lexing a unit from a fresh tokenizer (a reset one is `Lexer.create` again): the results of
`n` calls of `lex` are tokens, followed only by the capacity error that stops the tokenizer,
repeated. At most one token per byte of text comes before the end token, and only end tokens
after it, each at the end of the text with length 0; every token belongs to the unit, lies
inside the text, is non-empty unless it is the end, and starts where the one before it ended
or later. -/
theorem lex_stream_well_formed (u : SourceUnit) (mode : DirectiveMode) (env : LexEnv) (n : Nat) :
    ∃ (ts : List Token) (m : Nat) (e : LexError),
      ((Lexer.create u mode env).lexRun n).1 = ts.map .ok ++ List.replicate m (.error e) ∧
      ts.length + m = n ∧
      (∃ k ≤ u.size, ∀ i (hi : i < ts.length), (ts[i].kind = .eof ↔ k ≤ i)) ∧
      (∀ t ∈ ts, t.unit = u.id ∧ t.endOff ≤ u.size ∧
        (t.kind = .eof → t.off = u.size ∧ t.len = 0) ∧ (t.kind ≠ .eof → 1 ≤ t.len)) ∧
      ts.IsChain (fun a b => a.endOff ≤ b.off) := by
  have hr := Lexer.ready_create u mode env
  obtain ⟨ts, s₁, hts, hrun⟩ := Lexer.lexRun_spec n hr rfl rfl
  -- the results: the tokens, then nothing or the error repeated
  obtain ⟨m, e, hres⟩ : ∃ m e, ((Lexer.create u mode env).lexRun n).1 =
      ts.map .ok ++ List.replicate m (.error e) := by
    rcases hrun with h | ⟨e, s₂, m, -, h⟩
    · exact ⟨0, ⟨"", .dict ⟨.empty⟩⟩, by simp [h]⟩
    · exact ⟨m + 1, e, by simp [h]⟩
  have hlen := Lexer.lexRun_length n (Lexer.create u mode env)
  rw [hres] at hlen
  refine ⟨ts, m, e, hres, by simpa using hlen, ?_, ?_, (hts.chain hr).1⟩
  · -- the cursor starts at 0 and stays inside the text
    obtain ⟨k, hk, hidx⟩ := hts.eof_split hr
    have hin : s₁.off ≤ u.size := by
      have h := (hts.ready hr).inside
      rw [Lexer.text, hts.unit_eq] at h
      exact h
    exact ⟨k, by simp only [Lexer.create] at hk; omega, hidx⟩
  · refine hts.forall_mem fun s₀ t s₁ hst hu => ?_
    have hfit := hst.fits
    rw [hu] at hfit
    refine ⟨hfit.unit, hfit.inside, fun he => ?_, fun he => ?_⟩
    · obtain ⟨hoff, hlen, -⟩ := hst.eof he
      rw [Lexer.text, hu] at hoff
      exact ⟨hoff, hlen⟩
    · obtain ⟨hsp, hlt⟩ := hst.spans he
      have hmax : maxTokenLen = 4095 := rfl
      rw [hsp.len]
      omega

end NovelScript

import Mathlib
import NovelScript.Proofs.Lexer.Extent
/-!
# What one scan does to the tokenizer

Each scanner reads one significant token. Its contract, stated once here and used by the
stream, has three parts:

* it keeps everything but the cursor, the shared environment and the open literal, and it
  makes no report about bracket balance (`Within`);
* it moves the cursor forward, never past the end of the text, and leaves an open literal
  only when a message is split at a newline under the cursor (`Settled`);
* it gives a token that starts where the scan started and covers the bytes it read, up to
  the length ceiling (`Scanned`).

The primitives get exact specifications, as state transformers, so that a scanner's
verification conditions speak of the states it builds.
-/

open Std.Do

set_option mvcgen.warning false

namespace NovelScript

open Utf8 Chars

/-! ### Reports -/

/-- One call of the diagnostics engine: where, which code, with which arguments. -/
abbrev Notice := Range × Code × Array Arg

/-- The engine after it is handed `rs` in order; a tokenizer without an engine drops them. -/
def diagnoseAll : List Notice → Option Engine → Option Engine
  | [], e => e
  | (r, c, a) :: rs, e => diagnoseAll rs (e.map (·.diagnose r c a))

/-- Whether a code is one of the two bracket-balance codes. -/
def isBalanceCode (c : Code) : Bool :=
  c == Code.lexUnbalancedOpen || c == Code.lexUnbalancedClose

/-- `e'` is `e` after some reports, of which `bs` are the balance reports, in order. -/
def Reported (e e' : Option Engine) (bs : List Notice) : Prop :=
  ∃ rs : List Notice, rs.filter (fun r => isBalanceCode r.2.1) = bs ∧ e' = diagnoseAll rs e

theorem diagnoseAll_append (rs qs : List Notice) (e : Option Engine) :
    diagnoseAll (rs ++ qs) e = diagnoseAll qs (diagnoseAll rs e) := by
  induction rs generalizing e with
  | nil => rfl
  | cons r rs ih => obtain ⟨r, c, a⟩ := r; exact ih _

/-- One report is the list of reports with one element. -/
theorem diagnoseAll_single (r : Range) (c : Code) (a : Array Arg) (e : Option Engine) :
    e.map (·.diagnose r c a) = diagnoseAll [(r, c, a)] e := rfl

theorem diagnoseAll_diagnoseAll (rs qs : List Notice) (e : Option Engine) :
    diagnoseAll qs (diagnoseAll rs e) = diagnoseAll (rs ++ qs) e :=
  (diagnoseAll_append ..).symm

namespace Reported

theorem refl (e : Option Engine) : Reported e e [] := ⟨[], rfl, rfl⟩

theorem trans {e₁ e₂ e₃ : Option Engine} {bs cs : List Notice}
    (h₁ : Reported e₁ e₂ bs) (h₂ : Reported e₂ e₃ cs) : Reported e₁ e₃ (bs ++ cs) := by
  obtain ⟨rs, rfl, rfl⟩ := h₁
  obtain ⟨qs, rfl, rfl⟩ := h₂
  exact ⟨rs ++ qs, List.filter_append .., (diagnoseAll_append ..).symm⟩

theorem diagnose {e e' : Option Engine} {bs : List Notice} (h : Reported e e' bs)
    (r : Range) (c : Code) (a : Array Arg) :
    Reported e (e'.map (·.diagnose r c a)) (bs ++ if isBalanceCode c then [(r, c, a)] else []) :=
  h.trans ⟨[(r, c, a)], by cases hc : isBalanceCode c <;> simp [hc], rfl⟩

theorem quiet {e e' : Option Engine} (h : Reported e e' []) {c : Code}
    (hc : isBalanceCode c = false) (r : Range) (a : Array Arg) :
    Reported e (e'.map (·.diagnose r c a)) [] := by
  simpa [hc] using h.diagnose r c a

/-- The engine after the reports `rs`, whose balance reports are `bs`. -/
theorem of_diagnoseAll {rs bs : List Notice} (h : rs.filter (fun r => isBalanceCode r.2.1) = bs)
    (e : Option Engine) : Reported e (diagnoseAll rs e) bs :=
  ⟨rs, h, rfl⟩

end Reported

namespace Literal

/-- The codes a literal body reports: malformed, unknown and out-of-range escapes. -/
def escapeCodes : List Code :=
  [Code.lexBadHexEscape, Code.lexBadUnicodeHex, Code.lexUnicodeOutOfRange,
    Code.lexUnicodeUnterminated, Code.lexUnknownEscape, Code.lexUnicodeSurrogate]

/-- Every note is about an escape. -/
def EscapeNotes (ns : Array LiteralNote) : Prop := ∀ n ∈ ns, n.code ∈ escapeCodes

/-- No note of a literal is about bracket balance. -/
def QuietNotes (ns : Array LiteralNote) : Prop := ∀ n ∈ ns, isBalanceCode n.code = false

theorem EscapeNotes.push {ns : Array LiteralNote} (h : EscapeNotes ns) {start stop : Nat}
    {c : Code} {args : Array Arg} (hc : c ∈ escapeCodes) :
    EscapeNotes (ns.push ⟨start, stop, c, args⟩) := by
  intro m hm
  rcases Array.mem_push.1 hm with hm | rfl
  · exact h m hm
  · exact hc

theorem EscapeNotes.append {ns ms : Array LiteralNote} (h : EscapeNotes ns)
    (h' : EscapeNotes ms) : EscapeNotes (ns ++ ms) := by
  intro m hm
  rcases Array.mem_append.1 hm with hm | hm
  · exact h m hm
  · exact h' m hm

theorem escapeNotes_empty : EscapeNotes #[] := nofun

theorem escapeNotes_singleton {start stop : Nat} {c : Code} {args : Array Arg}
    (hc : c ∈ escapeCodes) : EscapeNotes #[⟨start, stop, c, args⟩] := by
  simpa using escapeNotes_empty.push hc

/-- An escape note is no balance report. -/
theorem EscapeNotes.quiet {ns : Array LiteralNote} (h : EscapeNotes ns) : QuietNotes ns :=
  fun n hn => by
    have hc := h n hn
    simp only [escapeCodes, List.mem_cons, List.not_mem_nil, or_false] at hc
    rcases hc with hc | hc | hc | hc | hc | hc <;> rw [hc] <;> decide

theorem unicodeDigits_notes (bs : ByteArray) (closer start i v count : Nat) (bad : Bool)
    (notes : Array LiteralNote) (h : EscapeNotes notes) :
    EscapeNotes (unicodeDigits bs closer start i v count bad notes).2.2.2.1 := by
  fun_induction unicodeDigits bs closer start i v count bad notes with
  | case4 i v count bad notes _ r sz _ _ j _ _ notes' ih =>
    apply ih
    simp only [notes']
    split
    · exact h
    · exact h.push (by decide)
  | _ => simp_all

theorem unicodeEscape_notes (bs : ByteArray) (closer start i : Nat) :
    EscapeNotes (unicodeEscape bs closer start i).2.2 := by
  unfold unicodeEscape
  dsimp only
  split
  · apply escapeNotes_singleton; decide
  · have hq := unicodeDigits_notes bs closer start (i + 1) 0 0 false #[] escapeNotes_empty
    split <;> rename_i heq <;> rw [heq] at hq
    · apply hq.push; decide
    · -- a bad digit was reported already; an empty, too large or surrogate value is reported here
      split_ifs
      · exact hq
      · apply hq.push; decide
      · apply hq.push; decide
      · apply hq.push; decide
      · exact hq

theorem escape_notes (bs : ByteArray) (closer start : Nat) :
    EscapeNotes (escape bs closer start).2.2 := by
  unfold escape
  dsimp only
  split
  · exact escapeNotes_empty
  · split
    · exact escapeNotes_empty
    · split
      · split
        · exact escapeNotes_empty
        · apply escapeNotes_singleton; decide
      · split
        · exact unicodeEscape_notes bs closer start _
        · split
          · exact escapeNotes_empty
          · split
            · exact escapeNotes_empty
            · apply escapeNotes_singleton; decide

theorem body_notes (bs : ByteArray) (lit : OpenLiteral) (i : Nat) (text : ByteArray)
    (notes : Array LiteralNote) (h : EscapeNotes notes) :
    EscapeNotes (body bs lit i text notes).notes := by
  fun_induction body bs lit i text notes with
  | case2 i text notes _ r sz _ _ _ j piece more hesc ih =>
    have hq := escape_notes bs lit.closer i
    rw [hesc] at hq
    exact ih (h.append hq)
  | _ => simp_all

end Literal

/-- The shared environment after `c` is reported at `r`, when there is an engine. -/
def LexEnv.noteReport (r : Range) (c : Code) (a : Array Arg) (env : LexEnv) : LexEnv :=
  { env with engine := env.engine.map (·.diagnose r c a) }

/-- The tokenizer after reporting `c` at `r`. -/
def Lexer.noteReport (r : Range) (c : Code) (a : Array Arg) (lx : Lexer) : Lexer :=
  { lx with env := lx.env.noteReport r c a }

/-- The tokenizer after `emit kind start`: an over-long token is reported unless it is an
error token already. -/
def Lexer.noteEmit (kind : TokenKind) (start : Nat) (lx : Lexer) : Lexer :=
  if lx.off - start > maxTokenLen ∧ kind ≠ .error then
    lx.noteReport (Range.make lx.unit.id start lx.off) Code.lexTokenTooLong #[.int maxTokenLen]
  else lx

/-- The token `emit kind start` makes when the cursor is at `stop`, and whether it kept its
kind. -/
def emitted (kind : TokenKind) (unit start stop : Nat) : Token × Bool :=
  if stop - start > maxTokenLen then (⟨.error, unit, start, maxTokenLen, false, 0, 0⟩, false)
  else (⟨kind, unit, start, stop - start, false, 0, 0⟩, true)

theorem emitted_kind (kind : TokenKind) (unit start stop : Nat) :
    (emitted kind unit start stop).1.kind = kind ∨ (emitted kind unit start stop).1.kind = .error := by
  unfold emitted
  split
  · exact .inr rfl
  · exact .inl rfl

/-! ### Frames -/

/-- Everything a scanner leaves alone: all fields but the cursor, the shared environment and
the open literal. -/
structure Lexer.Frame where
  unit : SourceUnit
  mode : DirectiveMode
  look : Option Token
  last : Option Token
  err : Option LexError
  done : Bool
  flags : LexFlags
  bal : Balances
  menuDepth : Nat
  menuKw : Range
  newline : Bool
  lastDir : Option Range

/-- The frame of a tokenizer. -/
def Lexer.frame (s : Lexer) : Lexer.Frame :=
  ⟨s.unit, s.mode, s.look, s.last, s.err, s.done, s.flags, s.bal, s.menuDepth, s.menuKw,
    s.newline, s.lastDir⟩

namespace Lexer

variable (r : Range) (c : Code) (a : Array Arg) (kind : TokenKind) (start : Nat) (lx : Lexer)

@[simp] theorem noteReport_frame : (lx.noteReport r c a).frame = lx.frame := rfl

@[simp] theorem noteReport_off : (lx.noteReport r c a).off = lx.off := rfl

@[simp] theorem noteReport_lit : (lx.noteReport r c a).lit = lx.lit := rfl

@[simp] theorem noteReport_unit : (lx.noteReport r c a).unit = lx.unit := rfl

@[simp] theorem noteReport_text : (lx.noteReport r c a).text = lx.text := rfl

@[simp] theorem noteReport_engine :
    (lx.noteReport r c a).env.engine = lx.env.engine.map (·.diagnose r c a) := rfl

@[simp] theorem noteEmit_frame : (lx.noteEmit kind start).frame = lx.frame := by
  unfold noteEmit; split <;> rfl

@[simp] theorem noteEmit_off : (lx.noteEmit kind start).off = lx.off := by
  unfold noteEmit; split <;> rfl

@[simp] theorem noteEmit_lit : (lx.noteEmit kind start).lit = lx.lit := by
  unfold noteEmit; split <;> rfl

@[simp] theorem noteEmit_unit : (lx.noteEmit kind start).unit = lx.unit := by
  unfold noteEmit; split <;> rfl

@[simp] theorem noteEmit_text : (lx.noteEmit kind start).text = lx.text := by
  simp [text]

@[simp] theorem noteEmit_error : lx.noteEmit .error start = lx := by
  simp [noteEmit]

@[simp] theorem noteReport_dict : (lx.noteReport r c a).env.dict = lx.env.dict := rfl

@[simp] theorem noteReport_blobs : (lx.noteReport r c a).env.blobs = lx.env.blobs := rfl

@[simp] theorem noteEmit_dict : (lx.noteEmit kind start).env.dict = lx.env.dict := by
  unfold noteEmit; split <;> rfl

@[simp] theorem noteEmit_blobs : (lx.noteEmit kind start).env.blobs = lx.env.blobs := by
  unfold noteEmit; split <;> rfl

end Lexer

/-- Where a scan started: its frame, its start offset and the engine as it was. -/
structure Snap where
  frame : Lexer.Frame
  lo : Nat
  engine : Option Engine

/-- `s` is a tokenizer of snapshot `g` with its cursor moved forward within the text, after
quiet reports only. -/
structure Within (g : Snap) (s : Lexer) : Prop where
  frame : s.frame = g.frame
  lo : g.lo ≤ s.off
  hi : s.off ≤ s.text.size
  quiet : Reported g.engine s.env.engine []

namespace Within

variable {g : Snap} {s : Lexer}

theorem noteReport (h : Within g s) {c : Code} (hc : isBalanceCode c = false) (r : Range)
    (a : Array Arg) : Within g (s.noteReport r c a) :=
  ⟨h.frame, h.lo, h.hi, h.quiet.quiet hc r a⟩

theorem noteEmit (h : Within g s) (kind : TokenKind) (start : Nat) :
    Within g (s.noteEmit kind start) := by
  unfold Lexer.noteEmit
  split
  · exact h.noteReport (by decide) _ _
  · exact h

theorem seek (h : Within g s) {i : Nat} (hlo : g.lo ≤ i) (hhi : i ≤ s.text.size) :
    Within g { s with off := i } :=
  ⟨h.frame, hlo, hhi, h.quiet⟩

theorem text_eq (h : Within g s) : s.text = g.frame.unit.content := by
  simp [Lexer.text, ← h.frame, Lexer.frame]

theorem dict (h : Within g s) (d : Dict) : Within g { s with env := { s.env with dict := d } } :=
  ⟨h.frame, h.lo, h.hi, h.quiet⟩

theorem blobs (h : Within g s) (b : BlobStore) :
    Within g { s with env := { s.env with blobs := b } } :=
  ⟨h.frame, h.lo, h.hi, h.quiet⟩

theorem lit (h : Within g s) (l : Option OpenLiteral) : Within g { s with lit := l } :=
  ⟨h.frame, h.lo, h.hi, h.quiet⟩

end Within

/-- The open literal, if any, is a message split at a newline under the cursor. -/
def LitOk (s : Lexer) : Prop :=
  ∀ l, s.lit = some l → l.kind = .message ∧ s.off < s.text.size ∧ byteAt s.text s.off = 0x0A

theorem litOk_of_none {s : Lexer} (h : s.lit = none) : LitOk s := by
  intro l hl; rw [h] at hl; cases hl

/-- `t` is the token for the bytes from `start` to `stop` of unit `unit`: at most the length
ceiling of them, and an error or blank token when they do not fit. -/
structure Token.Spans (t : Token) (unit start stop : Nat) : Prop where
  unit : t.unit = unit
  off : t.off = start
  len : t.len = min (stop - start) maxTokenLen
  clamped : maxTokenLen < stop - start → t.kind = .error ∨ t.kind = .blank
  named : t.kind ∈ TokenKind.named
  notEof : t.kind ≠ .eof

theorem emitted_spans (kind : TokenKind) (hn : kind ∈ TokenKind.named) (hk : kind ≠ .eof)
    (unit start stop : Nat) : (emitted kind unit start stop).1.Spans unit start stop := by
  unfold emitted
  split
  · next h =>
    refine ⟨rfl, rfl, ?_, fun _ => .inl rfl, show TokenKind.error ∈ TokenKind.named by decide, nofun⟩
    show maxTokenLen = _
    omega
  · next h =>
    refine ⟨rfl, rfl, ?_, fun h' => absurd h' h, hn, hk⟩
    show stop - start = _
    omega

/-- What a scan leaves behind when it stops on an error. -/
structure Settled (g : Snap) (s : Lexer) : Prop where
  within : Within g s
  lit : LitOk s

/-- What a scan from `g.lo` leaves behind with its token `t`: the cursor moved past the
start, and `t` spans the bytes read. -/
structure Scanned (g : Snap) (t : Token) (s : Lexer) : Prop where
  settled : Settled g s
  moved : g.lo < s.off
  spans : t.Spans s.unit.id g.lo s.off

namespace Settled

variable {g : Snap} {s : Lexer}

theorem of_none (hw : Within g s) (hlit : s.lit = none) : Settled g s :=
  ⟨hw, litOk_of_none hlit⟩

/-- Without an open literal the cursor may move anywhere ahead within the text. -/
theorem seek (hw : Within g s) (hlit : s.lit = none) {i : Nat} (hlo : g.lo ≤ i)
    (hhi : i ≤ s.text.size) : Settled g { s with off := i } :=
  ⟨hw.seek hlo hhi, litOk_of_none hlit⟩

/-- A message left open at a newline under the cursor. -/
theorem split (hw : Within g s) {l : OpenLiteral} (hk : l.kind = .message)
    (hlt : s.off < s.text.size) (hb : byteAt s.text s.off = 0x0A) :
    Settled g { s with lit := some l } := by
  refine ⟨hw.lit _, ?_⟩
  rintro _ ⟨⟩
  exact ⟨hk, hlt, hb⟩

theorem advance (h : Settled g s) (hlit : s.lit = none) (hlt : s.off < s.text.size) :
    Settled g { s with off := s.off + 1 } :=
  seek h.within hlit (Nat.le_succ_of_le h.within.lo) hlt

theorem noteReport (h : Settled g s) {c : Code} (hc : isBalanceCode c = false) (r : Range)
    (a : Array Arg) : Settled g (s.noteReport r c a) :=
  ⟨h.within.noteReport hc r a, h.lit⟩

theorem noteEmit (h : Settled g s) (kind : TokenKind) (start : Nat) :
    Settled g (s.noteEmit kind start) := by
  refine ⟨h.within.noteEmit kind start, ?_⟩
  intro l hl
  simpa using h.lit l (by simpa using hl)

theorem dict (h : Settled g s) (d : Dict) :
    Settled g { s with env := { s.env with dict := d } } :=
  ⟨h.within.dict d, h.lit⟩

theorem blobs (h : Settled g s) (b : BlobStore) :
    Settled g { s with env := { s.env with blobs := b } } :=
  ⟨h.within.blobs b, h.lit⟩

end Settled

/-- An emit that closes a scan. -/
theorem Scanned.emit {g : Snap} {s : Lexer} (h : Settled g s) (hlt : g.lo < s.off)
    {kind : TokenKind} (hn : kind ∈ TokenKind.named) (hk : kind ≠ .eof) :
    Scanned g (emitted kind s.unit.id g.lo s.off).1 (s.noteEmit kind g.lo) :=
  ⟨h.noteEmit kind g.lo, by simpa using hlt,
    by simpa using emitted_spans kind hn hk s.unit.id g.lo s.off⟩

theorem Scanned.blobs {g : Snap} {t : Token} {s : Lexer} (h : Scanned g t s) (b : BlobStore) :
    Scanned g t { s with env := { s.env with blobs := b } } :=
  ⟨h.settled.blobs b, h.moved, h.spans⟩

/-- A scan's token may carry any flags and payload: only its kind and extent are fixed. -/
theorem Scanned.repayload {g : Snap} {t : Token} {s : Lexer} (h : Scanned g t s) (t' : Token)
    (hk : t'.kind = t.kind) (hu : t'.unit = t.unit) (ho : t'.off = t.off) (hl : t'.len = t.len) :
    Scanned g t' s :=
  ⟨h.settled, h.moved, ⟨hu ▸ h.spans.unit, ho ▸ h.spans.off, hl ▸ h.spans.len,
    hk ▸ h.spans.clamped, hk ▸ h.spans.named, hk ▸ h.spans.notEof⟩⟩

/-- An error token that closes a scan. -/
theorem Scanned.emitError {g : Snap} {s : Lexer} (h : Settled g s) (hlt : g.lo < s.off) :
    Scanned g (emitted .error s.unit.id g.lo s.off).1 s := by
  simpa using Scanned.emit h hlt (show TokenKind.error ∈ TokenKind.named by decide) nofun

theorem lt_of_decide_and {a b : Nat} {c : Bool} (h : (decide (a < b) && c) = true) : a < b := by
  simp only [Bool.and_eq_true, decide_eq_true_eq] at h
  exact h.1

/-! ### Hoare triples over a named start state -/

theorem LexM.triple_of_eq {α : Type} {x : LexM α} {P : Lexer → Prop}
    {Q : PostCond α (.arg Lexer .pure)}
    (h : ∀ s₀, P s₀ → ⦃fun s => ⌜s₀ = s⌝⦄ x ⦃Q⦄) : ⦃fun s => ⌜P s⌝⦄ x ⦃Q⦄ := by
  intro s hs
  exact h s hs s rfl

theorem ScanM.triple_of_eq {α : Type} {x : ScanM α} {P : Lexer → Prop}
    {Q : PostCond α (.except LexError (.arg Lexer .pure))}
    (h : ∀ s₀, P s₀ → ⦃fun s => ⌜s₀ = s⌝⦄ x ⦃Q⦄) : ⦃fun s => ⌜P s⌝⦄ x ⦃Q⦄ := by
  intro s hs
  exact h s hs s rfl

namespace LexM

theorem report_eq (r : Range) (c : Code) (a : Array Arg) :
    report r c a = modify (Lexer.noteReport r c a) := by
  unfold report
  congr 1
  funext lx
  cases h : lx.env.engine <;> simp [Lexer.noteReport, LexEnv.noteReport, h]
  rw [← h]

@[spec] theorem report_spec (r : Range) (c : Code) (a : Array Arg)
    (Q : PostCond Unit (.arg Lexer .pure)) :
    ⦃fun s => Q.1 () (s.noteReport r c a)⦄ report r c a ⦃Q⦄ := by
  rw [report_eq]; mvcgen

@[spec] theorem emit_spec (kind : TokenKind) (start : Nat)
    (Q : PostCond (Token × Bool) (.arg Lexer .pure)) :
    ⦃fun s => Q.1 (emitted kind s.unit.id start s.off) (s.noteEmit kind start)⦄
      emit kind start ⦃Q⦄ := by
  mvcgen -trivial [emit, pos, reportSpan, rangeOf]
  all_goals simp_all +zetaDelta [emitted, Lexer.noteEmit]

theorem emit_run (kind : TokenKind) (start : Nat) (s : Lexer) :
    (emit kind start).run s = (emitted kind s.unit.id start s.off, s.noteEmit kind start) := by
  unfold emit pos reportSpan rangeOf
  simp only [report_eq]
  by_cases hl : s.off - start > maxTokenLen <;> by_cases hk : kind = .error <;>
    simp [hl, hk, emitted, Lexer.noteEmit] <;> rfl

@[spec] theorem emitError_spec (start : Nat) (Q : PostCond Token (.arg Lexer .pure)) :
    ⦃fun s => Q.1 (emitted .error s.unit.id start s.off).1 s⦄ emitError start ⦃Q⦄ := by
  mvcgen -trivial [emitError]
  simpa using ‹_›

theorem loneSigil_spec (start : Nat) (g : Snap) :
    ⦃fun s => ⌜Within g s ∧ g.lo = start ∧ s.off = start ∧ start < s.text.size ∧
      s.lit = none⌝⦄ loneSigil start
    ⦃⇓ t s => ⌜Scanned g t s⌝⦄ := by
  apply LexM.triple_of_eq
  rintro s ⟨hw, rfl, ho, hlt, hlit⟩
  mvcgen -trivial [loneSigil, peek, advance, reportSpan, rangeOf]
  subst ‹s = _›
  apply Scanned.emitError ((Settled.seek hw hlit (by omega) (by rw [ho]; exact hlt)).noteReport
    (by decide) _ _)
  simp; omega

theorem scanSigilName_spec (start : Nat) (kind : TokenKind) (g : Snap) :
    ⦃fun s => ⌜kind ∈ TokenKind.named ∧ kind ≠ .eof ∧ Within g s ∧ g.lo = start ∧
      s.off = start + 1 ∧ s.lit = none⌝⦄
      scanSigilName start kind
    ⦃post⟨fun t s => ⌜Scanned g t s⌝, fun _ s => ⌜Settled g s⌝⟩⦄ := by
  apply ScanM.triple_of_eq
  rintro s ⟨hn, hk, hw, rfl, ho, hlit⟩
  -- the name runs from just after the sigil to the end of the identifier
  have hgt : g.lo < identEnd s.text s.off := by have := le_identEnd s.text s.off; omega
  have hs := Settled.seek hw hlit hgt.le (identEnd_le _ _ hw.hi)
  mvcgen -trivial [scanSigilName, content, pos, seek, internName, intern, outOfMemory, rangeOf]
  all_goals subst ‹s = _›
  · exact Scanned.emit hs hgt hn hk
  · apply Scanned.repayload
    · exact Scanned.emit (hs.dict _) hgt hn hk
    all_goals rfl
  · exact hs.noteReport (by decide) _ _

theorem scanIdent_spec (start : Nat) (g : Snap) :
    ⦃fun s => ⌜Within g s ∧ g.lo = start ∧ s.off = start ∧ start < identEnd s.text start ∧
      s.lit = none⌝⦄ scanIdent start
    ⦃post⟨fun t s => ⌜Scanned g t s⌝, fun _ s => ⌜Settled g s⌝⟩⦄ := by
  apply ScanM.triple_of_eq
  rintro s ⟨hw, rfl, ho, hgt, hlit⟩
  have hs := Settled.seek hw hlit hgt.le (identEnd_le _ _ (ho ▸ hw.hi))
  mvcgen -trivial [scanIdent, content, pos, seek, internName, intern, resolve, outOfMemory, rangeOf]
  all_goals subst ‹s = _›
  · exact Scanned.emit hs hgt (by decide) (by decide)
  · apply Scanned.repayload
    · -- the kind comes from the dictionary's tag or from the case of the first letter
      apply Scanned.emit ((hs.dict _).dict _) hgt <;>
      · rename_i tag
        clear_value tag
        rcases tag with _ | _ | _ | _ <;> dsimp only <;> (try split) <;> decide
    all_goals rfl
  · exact hs.noteReport (by decide) _ _

theorem scanBracketed_spec (start : Nat) (kind : TokenKind) (g : Snap) :
    ⦃fun s => ⌜kind ∈ TokenKind.named ∧ kind ≠ .eof ∧ Within g s ∧ g.lo = start ∧
      s.off = start + 2 ∧ s.lit = none⌝⦄
      scanBracketed start kind
    ⦃post⟨fun t s => ⌜Scanned g t s⌝, fun _ s => ⌜Settled g s⌝⟩⦄ := by
  apply ScanM.triple_of_eq
  rintro s ⟨hn, hk, hw, rfl, ho, hlit⟩
  -- the body ends at the first byte that cannot stand in a name, and recovery stops at the
  -- next closer or blank of the word
  have hbody := le_runEnd s.text isBracketedNameByte s.off
  have hbody' := runEnd_le s.text isBracketedNameByte s.off hw.hi
  have hword := le_runEnd s.text (fun b => !(b == 0x3E || isBlank b || b == 0x0A))
    (runEnd s.text isBracketedNameByte s.off)
  have hword' := runEnd_le s.text (fun b => !(b == 0x3E || isBlank b || b == 0x0A))
    (runEnd s.text isBracketedNameByte s.off) hbody'
  mvcgen -trivial [scanBracketed, content, pos, seek, internName, intern, outOfMemory, rangeOf, reportSpan]
  all_goals subst ‹s = _›
  · -- `<>`: an empty body
    have hend := lt_of_decide_and ‹_›
    apply Scanned.emitError ((Settled.seek hw hlit (by omega) hend).noteReport (by decide) _ _)
    simp; omega
  · have hend := lt_of_decide_and ‹_›
    exact Scanned.emit (Settled.seek hw hlit (by omega) hend) (by simp; omega) hn hk
  · have hend := lt_of_decide_and ‹_›
    apply Scanned.repayload
    · exact Scanned.emit ((Settled.seek hw hlit (by omega) hend).dict _) (by simp; omega) hn hk
    all_goals rfl
  · have hend := lt_of_decide_and ‹_›
    exact (Settled.seek hw hlit (by omega) hend).noteReport (by decide) _ _
  · -- no `>` after the body: recovery resumes after the next `>` of the word
    have hend := lt_of_decide_and ‹_›
    simp +zetaDelta only at hend
    apply Scanned.emitError ((Settled.seek hw hlit (by omega) hend).noteReport (by decide) _ _)
    exact Nat.lt_succ_of_le (Nat.le_trans (by omega) hword)
  · apply Scanned.emitError ((Settled.seek hw hlit (by omega) hword').noteReport (by decide) _ _)
    exact Nat.lt_of_lt_of_le (by omega) hword

theorem scanLiteral_spec (start : Nat) (lit : OpenLiteral) (continuation : Bool) (g : Snap) :
    ⦃fun s => ⌜lit.kind ∈ TokenKind.named ∧ lit.kind ≠ .eof ∧ Within g s ∧ g.lo = start ∧
      (start < s.off ∨ s.off < s.text.size ∧ (decodeAt s.text s.off).1 ≠ 0x0A)⌝⦄
      scanLiteral start lit continuation
    ⦃post⟨fun t s => ⌜Scanned g t s ∧ (t.kind = lit.kind ∨ t.kind = .error)⌝,
      fun _ s => ⌜Settled g s⌝⟩⦄ := by
  apply ScanM.triple_of_eq
  rintro s ⟨hn, hk, hw, rfl, hprog⟩
  have hstop := (Literal.body_stop s.text lit s.off .empty #[]).2 hw.hi
  have hgt : g.lo < (Literal.body s.text lit s.off .empty #[]).stop := by
    have := (Literal.body_stop s.text lit s.off .empty #[]).1
    rcases hprog with h | ⟨h1, h2⟩
    · omega
    · have := Literal.lt_body_stop s.text lit s.off .empty #[] h1 h2
      have := hw.lo
      omega
  have hq := (Literal.body_notes s.text lit s.off .empty #[] Literal.escapeNotes_empty).quiet
  have hsplit := Literal.body_split s.text lit s.off .empty #[]
  mvcgen -trivial [scanLiteral, content, pos, seek, advance, store, outOfMemory, rangeOf, reportSpan]
  case inv1 =>
    exact ⇓⟨_, _⟩ s' => ⌜Within g s' ∧ s'.off = (Literal.body s.text lit s.off .empty #[]).stop ∧
      s'.lit = s.lit⌝
  all_goals subst ‹s = _›
  case vc1.step =>
    obtain ⟨hw1, hoff, hl⟩ : Within g _ ∧ _ ∧ _ := ‹_›
    refine ⟨hw1.noteReport (hq _ ?_) _ _, hoff, hl⟩
    have hnotes := ‹(_ : List LiteralNote) = _ ++ _ :: _›
    rw [← Array.mem_toList_iff, hnotes]
    simp
  case vc2.pre =>
    exact ⟨hw.seek hgt.le hstop, rfl, rfl⟩
  case vc18.post.except => simp
  all_goals
    obtain ⟨hw1, hoff, hl⟩ : Within g _ ∧ _ ∧ _ := ‹_›
    have hlt := hgt
    rw [← hoff] at hlt
    have hnone := Settled.of_none (hw1.lit none) rfl
    have hopen (h : (Literal.body s.text lit s.off .empty #[]).ending = .split) := by
      obtain ⟨hmsg, hnl, hbyte⟩ := hsplit h
      rw [← hoff, hw.text_eq, ← hw1.text_eq] at hnl hbyte
      exact Settled.split hw1 hmsg hnl hbyte
  -- closed, and the flow byte after the closer belongs to the literal
  all_goals try
    have hf := Flow.lt_size_of_ofByte ‹_›
    simp +zetaDelta only at hf
    rw [← hoff, hw.text_eq, ← hw1.text_eq] at hf
    have hadv := hnone.advance rfl hf
  · exact ⟨Scanned.emit hadv (by simp; omega) hn hk, emitted_kind _ _ _ _⟩
  · refine ⟨?_, emitted_kind _ _ _ _⟩
    apply Scanned.repayload
    · exact (Scanned.emit hadv (by simp; omega) hn hk).blobs _
    all_goals rfl
  · exact (hadv.noteEmit _ _).noteReport (by decide) _ _
  -- closed, the byte after the closer is not taken, or is no flow byte
  iterate 2
    · exact ⟨Scanned.emit hnone hlt hn hk, emitted_kind _ _ _ _⟩
    · refine ⟨?_, emitted_kind _ _ _ _⟩
      apply Scanned.repayload
      · exact (Scanned.emit hnone hlt hn hk).blobs _
      all_goals rfl
    · exact (hnone.noteEmit _ _).noteReport (by decide) _ _
  -- split: the message stays open at the newline where its body stopped
  · exact ⟨Scanned.emit (hopen ‹_›) hlt hn hk, emitted_kind _ _ _ _⟩
  · refine ⟨?_, emitted_kind _ _ _ _⟩
    apply Scanned.repayload
    · exact (Scanned.emit (hopen ‹_›) hlt hn hk).blobs _
    all_goals rfl
  · exact ((hopen ‹_›).noteEmit _ _).noteReport (by decide) _ _
  -- unterminated: the opener is reported
  all_goals have hrep := hnone.noteReport (c := Code.lexUnterminatedString) (by decide) lit.opener #[]
  · exact ⟨Scanned.emit hrep hlt hn hk, emitted_kind _ _ _ _⟩
  · refine ⟨?_, emitted_kind _ _ _ _⟩
    apply Scanned.repayload
    · exact (Scanned.emit hrep hlt hn hk).blobs _
    all_goals rfl
  · exact (hrep.noteEmit _ _).noteReport (by decide) _ _

@[spec] theorem openLiteral_spec (start stop : Nat) (kind : TokenKind) (style : Style)
    (cjk : Bool) (closer : Nat) (g : Snap) :
    ⦃fun s => ⌜kind ∈ TokenKind.named ∧ kind ≠ .eof ∧ Within g s ∧ g.lo = start ∧
      start < stop ∧ stop ≤ s.text.size⌝⦄
      openLiteral start stop kind style cjk closer
    ⦃post⟨fun t s => ⌜Scanned g t s⌝, fun _ s => ⌜Settled g s⌝⟩⦄ := by
  apply ScanM.triple_of_eq
  rintro s ⟨hn, hk, hw, rfl, hlt, hle⟩
  -- each spec lemma goes to mvcgen as a hypothesis, so that this proof does not wait for the
  -- lemma's own proof to be checked
  have hscanLiteral := @scanLiteral_spec
  mvcgen -trivial [openLiteral, seek, rangeOf, hscanLiteral]
  · subst ‹s = _›
    exact ⟨hn, hk, hw.seek hlt.le hle, trivial, .inl hlt⟩
  · exact fun h _ => h

@[spec] theorem scanAt_spec (start : Nat) (g : Snap) :
    ⦃fun s => ⌜Within g s ∧ g.lo = start ∧ s.off = start ∧ start < s.text.size ∧
      s.lit = none⌝⦄
      scanAt start
    ⦃post⟨fun t s => ⌜Scanned g t s⌝, fun _ s => ⌜Settled g s⌝⟩⦄ := by
  apply ScanM.triple_of_eq
  rintro s ⟨hw, rfl, ho, hlt, hlit⟩
  have hscanSigilName := @scanSigilName_spec
  have hloneSigil := @loneSigil_spec
  mvcgen -trivial [scanAt, content, seek, hscanSigilName, hloneSigil]
  all_goals subst ‹s = _›
  · -- a quoted speaker name: the opener is the two bytes of the text at the cursor
    have := lt_size_of_byteAt_eq ‹_› (by decide)
    exact ⟨by decide, by decide, hw, trivial, by omega, by omega⟩
  · have := lt_size_of_identStartAt ‹_›
    exact ⟨by decide, by decide, hw.seek (by omega) (by omega), trivial, rfl, hlit⟩
  · exact ⟨hw, trivial, ho, hlt, hlit⟩

@[spec] theorem scanVar_spec (start : Nat) (kind : TokenKind) (g : Snap) :
    ⦃fun s => ⌜kind ∈ TokenKind.named ∧ kind ≠ .eof ∧ Within g s ∧ g.lo = start ∧
      s.off = start ∧ start < s.text.size ∧ s.lit = none⌝⦄
      scanVar start kind
    ⦃post⟨fun t s => ⌜Scanned g t s⌝, fun _ s => ⌜Settled g s⌝⟩⦄ := by
  apply ScanM.triple_of_eq
  rintro s ⟨hn, hk, hw, rfl, ho, hlt, hlit⟩
  have hscanSigilName := @scanSigilName_spec
  have hscanBracketed := @scanBracketed_spec
  have hloneSigil := @loneSigil_spec
  mvcgen -trivial [scanVar, content, seek, hscanSigilName, hscanBracketed, hloneSigil]
  all_goals subst ‹s = _›
  · have := lt_size_of_byteAt_eq ‹_› (by decide)
    exact ⟨hn, hk, hw.seek (by omega) (by omega), trivial, rfl, hlit⟩
  · have := lt_size_of_identStartAt ‹_›
    exact ⟨hn, hk, hw.seek (by omega) (by omega), trivial, rfl, hlit⟩
  · exact ⟨hw, trivial, ho, hlt, hlit⟩

@[spec] theorem scanPunct_spec (start : Nat) (g : Snap) :
    ⦃fun s => ⌜Within g s ∧ g.lo = start ∧ s.off = start ∧ start < s.text.size ∧
      s.lit = none⌝⦄
      scanPunct start
    ⦃⇓ t s => ⌜Scanned g t s⌝⦄ := by
  apply LexM.triple_of_eq
  rintro s ⟨hw, rfl, ho, hlt, hlit⟩
  mvcgen -trivial [scanPunct, content, advance, reportSpan, rangeOf]
  all_goals subst ‹s = _›
  · have hb := bracketKind_named ‹_›
    exact Scanned.emit ((Settled.of_none hw hlit).advance hlit (by omega)) (by simp; omega)
      hb.1 hb.2
  · -- the longest operator spelling at the cursor: a nonempty run of bytes of the text
    have hfound := ‹List.find? _ opTable = some _›
    have hpos := opTable_text_pos _ (List.mem_of_find?_eq_some hfound)
    have hocc := List.find?_some hfound
    have hle := Bytes.occursAt_le hocc
    apply Scanned.repayload
    · exact Scanned.emit (Settled.seek hw hlit (by omega) (by rw [ho]; exact hle))
        (by simp; omega) (by decide) (by decide)
    all_goals rfl
  · apply Scanned.emitError
      (((Settled.of_none hw hlit).advance hlit (by omega)).noteReport (by decide) _ _)
    simp; omega

theorem Scanned.noteReport {g : Snap} {t : Token} {s : Lexer} (h : Scanned g t s) {c : Code}
    (hc : isBalanceCode c = false) (r : Range) (a : Array Arg) :
    Scanned g t (s.noteReport r c a) :=
  ⟨h.settled.noteReport hc r a, h.moved, h.spans⟩

@[spec] theorem finishInt_spec (start val : Nat) (overflow : Bool) (suffix : ByteArray)
    (g : Snap) :
    ⦃fun s => ⌜Settled g s ∧ g.lo = start ∧ g.lo < s.off⌝⦄
      finishInt start val overflow suffix
    ⦃⇓ t s => ⌜Scanned g t s⌝⦄ := by
  apply LexM.triple_of_eq
  rintro s ⟨hs, rfl, hlt⟩
  mvcgen -trivial [finishInt, suffixInfo, reportSpan, rangeOf, pos]
  all_goals subst ‹s = _›
  · exact Scanned.emit hs hlt (by decide) (by decide)
  -- every other path reports only overflow, truncation or an unknown suffix, and gives the
  -- emitted token with the number's class and value
  all_goals
    repeat' refine Scanned.noteReport ?_ (by decide) _ _
    apply Scanned.repayload
    · exact Scanned.emit hs hlt (show TokenKind.number ∈ TokenKind.named by decide) (by decide)
    all_goals rfl

@[spec] theorem finishFloat_spec (start : Nat) (bits : UInt64) (suffix : ByteArray) (g : Snap) :
    ⦃fun s => ⌜Settled g s ∧ g.lo = start ∧ g.lo < s.off⌝⦄
      finishFloat start bits suffix
    ⦃⇓ t s => ⌜Scanned g t s⌝⦄ := by
  apply LexM.triple_of_eq
  rintro s ⟨hs, rfl, hlt⟩
  mvcgen -trivial [finishFloat, suffixInfo, reportSpan, rangeOf, pos]
  all_goals subst ‹s = _›
  · exact Scanned.emit hs hlt (by decide) (by decide)
  all_goals
    repeat' refine Scanned.noteReport ?_ (by decide) _ _
    apply Scanned.repayload
    · exact Scanned.emit hs hlt (show TokenKind.number ∈ TokenKind.named by decide) (by decide)
    all_goals rfl

@[spec] theorem scanNumber_spec (start : Nat) (g : Snap) :
    ⦃fun s => ⌜Within g s ∧ g.lo = start ∧ s.off = start ∧ start < s.text.size ∧
      s.lit = none ∧ (byteAt s.text start = 0x23 → start + 2 ≤ s.text.size)⌝⦄
      scanNumber start
    ⦃⇓ t s => ⌜Scanned g t s⌝⦄ := by
  apply LexM.triple_of_eq
  rintro s ⟨hw, rfl, ho, hlt, hlit, hhash⟩
  have hstop := Numeral.read_stop s.text g.lo hlt.le hhash
  -- the cursor moves past the numeral, and at least one byte
  have hs := Settled.seek hw hlit (i := max (Numeral.read s.text g.lo).stop (g.lo + 1))
    (by omega) (by omega)
  have hgt : g.lo < max (Numeral.read s.text g.lo).stop (g.lo + 1) := by omega
  mvcgen -trivial [scanNumber, content, seek, reportSpan, rangeOf, finishInt_spec, finishFloat_spec]
  all_goals subst ‹s = _›
  · exact Scanned.emitError (hs.noteReport (by decide) _ _) hgt
  · exact Scanned.emitError (hs.noteReport (by decide) _ _) hgt
  · exact ⟨hs.noteReport (by decide) _ _, trivial, hgt⟩
  · exact ⟨hs, trivial, hgt⟩
  · exact ⟨hs, trivial, hgt⟩

@[spec] theorem scanUnicode_spec (start : Nat) (g : Snap) :
    ⦃fun s => ⌜Within g s ∧ g.lo = start ∧ s.off = start ∧ start < s.text.size ∧
      s.lit = none ∧ 0x80 ≤ byteAt s.text start⌝⦄
      scanUnicode start
    ⦃post⟨fun t s => ⌜Scanned g t s⌝, fun _ s => ⌜Settled g s⌝⟩⦄ := by
  apply ScanM.triple_of_eq
  rintro s ⟨hw, rfl, ho, hlt, hlit, hhigh⟩
  -- the character at the cursor is one to four bytes of the text
  have hwidth := decodeAt_width s.text g.lo hlt
  have hscanIdent := @scanIdent_spec
  mvcgen -trivial [scanUnicode, content, advance, reportSpan, rangeOf, openLiteral_spec, hscanIdent]
  all_goals subst ‹s = _›
  · -- a byte that starts no character: one byte is taken
    apply Scanned.emitError
      (((Settled.of_none hw hlit).advance hlit (by omega)).noteReport (by decide) _ _)
    simp; omega
  · exact ⟨by decide, by decide, hw, trivial, by omega, hwidth.2⟩
  · exact ⟨by decide, by decide, hw, trivial, by omega, hwidth.2⟩
  · exact ⟨hw, trivial, ho, lt_identEnd (identStartAt_of_high hhigh ‹_›), hlit⟩
  · apply Scanned.emitError
      ((Settled.seek hw hlit (by omega) (by omega)).noteReport (by decide) _ _)
    simp; omega

/-- One scan from a cursor inside the text, with no literal open, reads a token of the bytes
from the cursor on, or stops on a capacity error with the tokenizer still settled. -/
@[spec] theorem scan_spec (g : Snap) :
    ⦃fun s => ⌜Within g s ∧ g.lo = s.off ∧ s.off < s.text.size ∧ s.lit = none⌝⦄
      scan
    ⦃post⟨fun t s => ⌜Scanned g t s⌝, fun _ s => ⌜Settled g s⌝⟩⦄ := by
  apply ScanM.triple_of_eq
  rintro s ⟨hw, ho, hlt, hlit⟩
  have hscanIdent := @scanIdent_spec
  have hscanSigilName := @scanSigilName_spec
  mvcgen -trivial [scan, seek, hscanIdent, scanNumber_spec, openLiteral_spec, scanAt_spec,
    scanVar_spec, hscanSigilName, scanUnicode_spec, scanPunct_spec]
  all_goals subst ‹s = _›
  all_goals simp +zetaDelta only at *
  · exact ⟨hw, ho, trivial, lt_identEnd (identStartAt_of_byte ‹_›), hlit⟩
  · exact ⟨hw, ho, trivial, hlt, hlit, Numeral.hash_room ‹_›⟩
  · exact ⟨by decide, by decide, hw, ho, by omega, by omega⟩
  · exact ⟨hw, ho, trivial, hlt, hlit⟩
  · exact ⟨by decide, by decide, hw, ho, trivial, hlt, hlit⟩
  · exact ⟨by decide, by decide, hw, ho, trivial, hlt, hlit⟩
  · -- a label after `*`: the name starts at the next byte of the text
    obtain ⟨-, hid⟩ := Bool.and_eq_true_iff.1 ‹(_ && identStartAt _ _) = true›
    have := lt_size_of_identStartAt hid
    exact ⟨by decide, by decide, hw.seek (by omega) (by omega), ho, trivial, hlit⟩
  · -- dialogue opened by a style byte and a quote
    obtain ⟨hopen, -⟩ := Bool.and_eq_true_iff.1 ‹(_ && _ && (_ != _)) = true›
    obtain ⟨hq, -⟩ := Bool.and_eq_true_iff.1 hopen
    have := lt_size_of_byteAt_eq hq (by decide)
    exact ⟨by decide, by decide, hw, ho, by omega, by omega⟩
  · exact ⟨hw, ho, trivial, hlt, hlit, ‹_›⟩
  · exact ⟨hw, ho, trivial, hlt, hlit⟩

end LexM
end NovelScript

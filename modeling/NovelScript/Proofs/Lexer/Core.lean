import Mathlib
import NovelScript.Proofs.Lexer.Step
/-!
# What the tokenizer does apart from its mode

Scanning a significant token, updating the grammar state after it, the end of the text and
the pieces of a split message never look at the directive mode, at the last directive
remembered or at the engine: they work on the rest of the tokenizer, its core
(`Lexer.core`), and hand the engine reports that the core alone decides, all of them under the
tokenizer's own codes.

`LexM.OnCoreWith p` states this of one step whose reports have codes `p`, and `LexM.OnCore` for
all of the tokenizer's codes. It is closed under the operations of the monad, so the proof for
each scanner follows the scanner's own text: a `bind` for each step, a `split` for each test of
the data. A scan reports lexical and resource problems only, never a structural one.
-/

namespace NovelScript

namespace Lexer

/-- What computing a token never looks at: the directive mode, the last directive remembered,
the last token handed out, and the engine reports go to. -/
structure Ambient where
  mode : DirectiveMode
  lastDir : Option Range
  last : Option Token
  engine : Option Engine

/-- The ambient part of a tokenizer. -/
def ambient (s : Lexer) : Ambient := ⟨s.mode, s.lastDir, s.last, s.env.engine⟩

/-- The tokenizer `s` with ambient part `a`. -/
def reframe (s : Lexer) (a : Ambient) : Lexer :=
  { s with mode := a.mode, lastDir := a.lastDir, last := a.last,
           env := { s.env with engine := a.engine } }

/-- The tokenizer without its ambient part. -/
def core (s : Lexer) : Lexer := s.reframe ⟨.ignore, none, none, none⟩

/-- The ambient part `a` with the engine `e`. -/
def Ambient.withEngine (a : Ambient) (e : Option Engine) : Ambient := { a with engine := e }

@[simp] theorem core_reframe (s : Lexer) (a : Ambient) : (s.reframe a).core = s.core := rfl

@[simp] theorem core_core (s : Lexer) : s.core.core = s.core := rfl

@[simp] theorem reframe_core (s : Lexer) (a : Ambient) : s.core.reframe a = s.reframe a := rfl

@[simp] theorem reframe_reframe (s : Lexer) (a b : Ambient) : (s.reframe a).reframe b = s.reframe b :=
  rfl

@[simp] theorem ambient_reframe (s : Lexer) (a : Ambient) : (s.reframe a).ambient = a := rfl

/-- A tokenizer is itself with its own ambient part put back. -/
@[simp] theorem reframe_ambient (s : Lexer) : s.reframe s.ambient = s := rfl

end Lexer

theorem diagnoseAll_none (ns : List Notice) : diagnoseAll ns none = none := by
  induction ns with
  | nil => rfl
  | cons n ns ih => exact ih

/-- The codes of the tokenizer's own reports: lexical, structural and resource problems, all
below the self-test codes. -/
def Notice.FromLexer (n : Notice) : Prop := n.2.1 < 5000

/-- A code of the tokenizer's own reports. -/
def Code.FromLexer (c : Nat) : Prop := c < 5000

/-- A code a scan may report: a lexical or a resource problem, never a structural one. -/
def Code.FromScan (c : Nat) : Prop := c < 2000 ∨ 4000 ≤ c ∧ c < 5000

instance : DecidablePred Code.FromLexer := fun c => inferInstanceAs (Decidable (c < 5000))

instance : DecidablePred Code.FromScan := fun c =>
  inferInstanceAs (Decidable (c < 2000 ∨ 4000 ≤ c ∧ c < 5000))

theorem Code.FromScan.fromLexer {c : Nat} (h : Code.FromScan c) : Code.FromLexer c := by
  show c < 5000
  rcases h with h | ⟨-, h⟩ <;> omega

/-- `x` works on the core of the tokenizer, under codes `p`: run on any tokenizer with that
core it gives what it gives on the core itself and leaves that core's successor, keeps the
ambient part, and hands the engine the reports `ns`, with codes `p`, the same whatever the
engine. -/
def LexM.OnCoreWith {α : Type} (p : Code → Prop) (x : LexM α) : Prop :=
  ∀ s : Lexer, ∃ ns : List Notice, (∀ n ∈ ns, p n.2.1) ∧ ∀ a : Lexer.Ambient,
    x.run (s.reframe a) =
      ((x.run s.core).1, (x.run s.core).2.reframe (a.withEngine (diagnoseAll ns a.engine)))

/-- `x` works on the core of the tokenizer: run on any tokenizer with that core it gives what
it gives on the core itself and leaves that core's successor, keeps the ambient part, and hands
the engine the reports `ns`, the same whatever the engine. -/
def LexM.OnCore {α : Type} (x : LexM α) : Prop :=
  ∀ s : Lexer, ∃ ns : List Notice, (∀ n ∈ ns, n.FromLexer) ∧ ∀ a : Lexer.Ambient,
    x.run (s.reframe a) =
      ((x.run s.core).1, (x.run s.core).2.reframe (a.withEngine (diagnoseAll ns a.engine)))

/-- A scan step works on the core of the tokenizer, under codes `p`. -/
def ScanM.OnCoreWith {α : Type} (p : Code → Prop) (x : ScanM α) : Prop := LexM.OnCoreWith p x.run

/-- A scan step works on the core of the tokenizer. -/
def ScanM.OnCore {α : Type} (x : ScanM α) : Prop := LexM.OnCore x.run

namespace LexM.OnCore

variable {α β : Type}

theorem run_bind (x : LexM α) (f : α → LexM β) (s : Lexer) :
    (x >>= f).run s = (f (x.run s).1).run (x.run s).2 := rfl

theorem run_get_bind (k : Lexer → LexM β) (s : Lexer) : (get >>= k).run s = (k s).run s := rfl

end LexM.OnCore

namespace LexM.OnCoreWith

variable {α β γ : Type} {p q : Code → Prop}

/-- What a step leaves from a core is a core. -/
theorem core_run {x : LexM α} (h : OnCoreWith p x) (s : Lexer) :
    (x.run s.core).2.core = (x.run s.core).2 := by
  obtain ⟨ns, -, h⟩ := h s
  have h2 := congrArg Prod.snd (h ⟨.ignore, none, none, none⟩)
  rw [diagnoseAll_none] at h2
  exact h2.symm

/-- A step run on `s` keeps its ambient part but for the engine, which gets the reports
`ns`. -/
theorem run_eq {x : LexM α} (h : OnCoreWith p x) (s : Lexer) :
    ∃ ns, (∀ n ∈ ns, p n.2.1) ∧ x.run s = ((x.run s.core).1,
      (x.run s.core).2.reframe (s.ambient.withEngine (diagnoseAll ns s.env.engine))) := by
  obtain ⟨ns, hns, h⟩ := h s
  have h' := h s.ambient
  rw [Lexer.reframe_ambient] at h'
  exact ⟨ns, hns, h'⟩

/-- Two tokenizers with one core give the same result and cores, and their engines get the
same reports. -/
theorem twin {x : LexM α} (h : OnCoreWith p x) {s₁ s₂ : Lexer} (hc : s₁.core = s₂.core) :
    (x.run s₁).1 = (x.run s₂).1 ∧ (x.run s₁).2.core = (x.run s₂).2.core ∧
      ∃ ns, (∀ n ∈ ns, p n.2.1) ∧ (x.run s₁).2.env.engine = diagnoseAll ns s₁.env.engine ∧
        (x.run s₂).2.env.engine = diagnoseAll ns s₂.env.engine := by
  obtain ⟨ns, hns, h⟩ := h s₁
  have h₁ := h s₁.ambient
  have h₂ := h s₂.ambient
  have e₂ : s₁.reframe s₂.ambient = s₂ := by
    rw [← Lexer.reframe_core, hc, Lexer.reframe_core, Lexer.reframe_ambient]
  rw [Lexer.reframe_ambient] at h₁
  rw [e₂] at h₂
  rw [h₁, h₂]
  exact ⟨rfl, rfl, ns, hns, rfl, rfl⟩

/-- A step keeps the ambient part but for the engine. -/
theorem frame {x : LexM α} (h : OnCoreWith p x) (s : Lexer) :
    (x.run s).2.mode = s.mode ∧ (x.run s).2.lastDir = s.lastDir ∧ (x.run s).2.last = s.last := by
  obtain ⟨ns, -, h⟩ := run_eq h s
  rw [h]
  exact ⟨rfl, rfl, rfl⟩

/-- A step under codes `p` is a step under any codes that include them. -/
theorem mono {x : LexM α} (h : OnCoreWith p x) (hpq : ∀ c, p c → q c) : OnCoreWith q x := by
  intro s
  obtain ⟨ns, hns, h⟩ := h s
  exact ⟨ns, fun n hn => hpq _ (hns n hn), h⟩

theorem pure (a : α) : OnCoreWith p (pure a : LexM α) := fun _ => ⟨[], by simp, fun _ => rfl⟩

theorem bind {x : LexM α} {f : α → LexM β} (hx : OnCoreWith p x) (hf : ∀ a, OnCoreWith p (f a)) :
    OnCoreWith p (x >>= f) := by
  intro s
  obtain ⟨ns, hns, hx'⟩ := hx s
  obtain ⟨ns', hns', hf'⟩ := hf (x.run s.core).1 (x.run s.core).2
  refine ⟨ns ++ ns', fun n hn => (List.mem_append.1 hn).elim (hns n) (hns' n), fun a => ?_⟩
  rw [OnCore.run_bind, hx', OnCore.run_bind]
  dsimp only
  rw [hf', hx.core_run, diagnoseAll_append]
  rfl

/-- A step that reads the tokenizer, where what it goes on with depends on the core only. -/
theorem get_bind {k : Lexer → LexM β} (hk : ∀ (s : Lexer) a, k (s.reframe a) = k s.core)
    (hk' : ∀ s, OnCoreWith p (k s)) : OnCoreWith p (get >>= k) := by
  intro s
  obtain ⟨ns, hns, h⟩ := hk' s.core s
  exact ⟨ns, hns, fun a => by rw [OnCore.run_get_bind, OnCore.run_get_bind, hk, h]⟩

theorem modify {f : Lexer → Lexer} (hf : ∀ (s : Lexer) a, f (s.reframe a) = (f s.core).reframe a) :
    OnCoreWith p (modify f) :=
  fun s => ⟨[], by simp, fun a => congrArg (Prod.mk ()) (hf s a)⟩

theorem ite {c : Prop} [Decidable c] {x y : LexM α} (hx : OnCoreWith p x) (hy : OnCoreWith p y) :
    OnCoreWith p (if c then x else y) := by
  split
  · exact hx
  · exact hy

theorem forIn_list (xs : List γ) (b : β) {f : γ → β → LexM (ForInStep β)}
    (hf : ∀ a ∈ xs, ∀ b, OnCoreWith p (f a b)) : OnCoreWith p (forIn xs b f) := by
  induction xs generalizing b with
  | nil => exact pure b
  | cons a xs ih =>
    rw [List.forIn_cons]
    refine bind (hf a List.mem_cons_self b) fun r => ?_
    cases r with
    | done b => exact pure b
    | yield b => exact ih b fun a ha => hf a (List.mem_cons_of_mem _ ha)

/-! ### The primitives -/

theorem report (r : Range) (c : Code) (a : Array Arg) (hc : p c) :
    OnCoreWith p (LexM.report r c a) := by
  intro s
  refine ⟨[(r, c, a)], by simpa using hc, fun b => ?_⟩
  obtain ⟨m, l, t, e⟩ := b
  cases e <;> rfl

theorem seek (i : Nat) : OnCoreWith p (LexM.seek i) := modify fun _ _ => rfl

theorem advance (n : Nat) : OnCoreWith p (LexM.advance n) := modify fun _ _ => rfl

theorem setFlags (f : LexFlags → LexFlags) : OnCoreWith p (LexM.setFlags f) :=
  modify fun _ _ => rfl

theorem pos : OnCoreWith p LexM.pos := get_bind (fun _ _ => rfl) fun _ => pure _

theorem peek : OnCoreWith p LexM.peek :=
  get_bind (fun _ _ => rfl) fun _ => get_bind (fun _ _ => rfl) fun _ => pure _

theorem content : OnCoreWith p LexM.content := get_bind (fun _ _ => rfl) fun _ => pure _

theorem rangeOf (a b : Nat) : OnCoreWith p (LexM.rangeOf a b) :=
  get_bind (fun _ _ => rfl) fun _ => pure _

theorem reportSpan (a b : Nat) (c : Code) (args : Array Arg) (hc : p c) :
    OnCoreWith p (LexM.reportSpan a b c args) :=
  bind (rangeOf a b) fun _ => report _ _ _ hc

theorem emit (kind : TokenKind) (start : Nat) (hc : p Code.lexTokenTooLong) :
    OnCoreWith p (LexM.emit kind start) := by
  unfold LexM.emit
  refine bind pos fun stop => ?_
  dsimp only
  refine ite (ite ?_ ?_) ?_
  · exact bind (reportSpan _ _ _ _ hc) fun _ => get_bind (fun _ _ => rfl) fun _ => pure _
  all_goals exact get_bind (fun _ _ => rfl) fun _ => pure _

theorem emitError (start : Nat) (hc : p Code.lexTokenTooLong) :
    OnCoreWith p (LexM.emitError start) :=
  bind (emit _ _ hc) fun _ => pure _

theorem outOfMemory (r : Range) (cause : CapacityError) (hc : p Code.resOutOfMemory) :
    OnCoreWith p (LexM.outOfMemory r cause) :=
  bind (report _ _ _ hc) fun _ => get_bind (fun _ _ => rfl) fun _ => pure _

-- the three stores write the tokenizer they read back, so they are shown directly
theorem intern (text : ByteArray) : OnCoreWith p (LexM.intern text) := by
  intro s
  refine ⟨[], by simp, fun a => ?_⟩
  unfold LexM.intern
  rw [OnCore.run_get_bind, OnCore.run_get_bind]
  dsimp only [Lexer.reframe, Lexer.core]
  split <;> rfl

theorem resolve (slot : Nat) : OnCoreWith p (LexM.resolve slot) := by
  intro s
  refine ⟨[], by simp, fun a => ?_⟩
  unfold LexM.resolve
  rw [OnCore.run_get_bind, OnCore.run_get_bind]
  rfl

theorem store (text : ByteArray) : OnCoreWith p (LexM.store text) := by
  intro s
  refine ⟨[], by simp, fun a => ?_⟩
  unfold LexM.store
  rw [OnCore.run_get_bind, OnCore.run_get_bind]
  dsimp only [Lexer.reframe, Lexer.core]
  split <;> rfl

/-! ### Scanners that cannot stop

A scan reports lexical and resource problems only. -/

theorem loneSigil (start : Nat) : OnCoreWith Code.FromScan (LexM.loneSigil start) :=
  bind peek fun _ => bind (advance 1) fun _ =>
    bind (reportSpan _ _ _ _ (by decide)) fun _ => emitError start (by decide)

theorem suffixInfo (start : Nat) (suffix : ByteArray) :
    OnCoreWith Code.FromScan (LexM.suffixInfo start suffix) := by
  unfold LexM.suffixInfo
  dsimp only
  split
  · exact pure _
  · exact bind pos fun _ => bind (reportSpan _ _ _ _ (by decide)) fun _ => pure _

theorem finishInt (start val : Nat) (overflow : Bool) (suffix : ByteArray) :
    OnCoreWith Code.FromScan (LexM.finishInt start val overflow suffix) := by
  unfold LexM.finishInt
  refine bind (emit _ _ (by decide)) fun p => ?_
  dsimp only
  refine ite (pure _) (ite (bind (report _ _ _ (by decide)) fun _ => ?_) ?_)
  -- past the overflow report: the suffix, then a truncation report or none
  all_goals
    refine bind (suffixInfo _ _) fun info => ?_
    refine ite (pure _) (ite (pure _) (ite ?_ (ite ?_ (pure _))))
    all_goals exact bind (report _ _ _ (by decide)) fun _ => pure _

theorem finishFloat (start : Nat) (bits : UInt64) (suffix : ByteArray) :
    OnCoreWith Code.FromScan (LexM.finishFloat start bits suffix) := by
  unfold LexM.finishFloat
  refine bind (emit _ _ (by decide)) fun p => ?_
  dsimp only
  refine ite (pure _) (bind (suffixInfo _ _) fun info => ?_)
  exact ite (bind (report _ _ _ (by decide)) fun _ => pure _) (pure _)

theorem scanNumber (start : Nat) : OnCoreWith Code.FromScan (LexM.scanNumber start) := by
  unfold LexM.scanNumber
  refine bind content fun bs => bind (seek _) fun _ => ?_
  dsimp only
  split
  · exact bind (reportSpan _ _ _ _ (by decide)) fun _ => emitError _ (by decide)
  · exact bind (reportSpan _ _ _ _ (by decide)) fun _ => emitError _ (by decide)
  · exact ite (bind (reportSpan _ _ _ _ (by decide)) fun _ => finishFloat _ _ _) (finishFloat _ _ _)
  · exact finishInt _ _ _ _

theorem scanPunct (start : Nat) : OnCoreWith Code.FromScan (LexM.scanPunct start) := by
  unfold LexM.scanPunct
  refine bind content fun bs => ?_
  dsimp only
  split
  · exact bind (advance 1) fun _ => bind (emit _ _ (by decide)) fun _ => pure _
  · split
    · exact bind (advance _) fun _ => bind (emit _ _ (by decide)) fun _ => pure _
    · exact bind (advance 1) fun _ => bind (reportSpan _ _ _ _ (by decide)) fun _ =>
        emitError _ (by decide)

/-! ### The grammar state and the end -/

theorem close (n : Nat) (place : Range) (spelling : String) :
    OnCoreWith Code.FromLexer (LexM.close n place spelling) :=
  ite (bind (report _ _ _ (by decide)) fun _ => pure _) (pure _)

theorem after (tok : Token) : OnCoreWith Code.FromLexer (LexM.after tok) := by
  unfold LexM.after
  refine get_bind (fun _ _ => rfl) fun lx => ?_
  dsimp only
  -- a menu keyword still waiting for its body is reported before anything else
  refine ite (bind (report _ _ _ (by decide)) fun _ => bind (setFlags _) fun _ => ?_) ?_
  all_goals
    refine bind (setFlags _) fun _ => get_bind (fun _ _ => rfl) fun lx' => ?_
    split
    · exact ite (bind (setFlags _) fun _ => pure _)
        (ite (ite (bind (report _ _ _ (by decide)) fun _ => pure _)
          (bind (setFlags _) fun _ => bind (modify fun _ _ => rfl) fun _ => pure _)) (pure _))
    · exact bind (setFlags _) fun _ => pure _
    · exact bind (setFlags _) fun _ => pure _
    · exact bind (modify fun _ _ => rfl) fun _ => pure _
    · exact bind (close _ _ _) fun _ => bind (modify fun _ _ => rfl) fun _ => pure _
    · exact bind (modify fun _ _ => rfl) fun _ => pure _
    · exact bind (close _ _ _) fun _ => bind (modify fun _ _ => rfl) fun _ => pure _
    · exact bind (modify fun _ _ => rfl) fun _ =>
        ite (bind (setFlags _) fun _ => bind (modify fun _ _ => rfl) fun _ => pure _) (pure _)
    · refine ite (bind (setFlags _) fun _ => bind (modify fun _ _ => rfl) fun _ =>
        bind (pure _) fun _ => ?_) (bind (pure _) fun _ => ?_)
      all_goals exact bind (close _ _ _) fun _ => bind (modify fun _ _ => rfl) fun _ => pure _
    · exact pure _

theorem eof : OnCoreWith Code.FromLexer LexM.eof := by
  unfold LexM.eof
  refine get_bind (fun _ _ => rfl) fun lx => ?_
  dsimp only
  -- the checks of the end: a menu without its body, then each counter left open
  refine ite (bind (modify fun _ _ => rfl) fun _ =>
    ite (bind (report _ _ _ (by decide)) fun _ => bind (setFlags _) fun _ => ?_) ?_) (pure _)
  all_goals exact bind (rangeOf _ _) fun place => bind (forIn_list _ _ fun _ _ _ =>
    ite (bind (report _ _ _ (by decide)) fun _ => pure _) (pure _)) fun _ => pure _

end LexM.OnCoreWith

namespace ScanM.OnCoreWith

variable {α β γ : Type} {p : Code → Prop}

theorem pure (a : α) : OnCoreWith p (Pure.pure a : ScanM α) := LexM.OnCoreWith.pure _

theorem throw (e : LexError) : OnCoreWith p (MonadExcept.throw e : ScanM α) :=
  LexM.OnCoreWith.pure _

theorem lift {x : LexM α} (hx : LexM.OnCoreWith p x) : OnCoreWith p (liftM x : ScanM α) :=
  LexM.OnCoreWith.bind hx fun _ => LexM.OnCoreWith.pure _

theorem bind {x : ScanM α} {f : α → ScanM β} (hx : OnCoreWith p x) (hf : ∀ a, OnCoreWith p (f a)) :
    OnCoreWith p (x >>= f) := by
  unfold OnCoreWith
  rw [ExceptT.run_bind]
  refine LexM.OnCoreWith.bind hx fun r => ?_
  cases r with
  | error e => exact LexM.OnCoreWith.pure _
  | ok a => exact hf a

theorem ite {c : Prop} [Decidable c] {x y : ScanM α} (hx : OnCoreWith p x) (hy : OnCoreWith p y) :
    OnCoreWith p (if c then x else y) := by
  split
  · exact hx
  · exact hy

theorem get_bind {k : Lexer → ScanM β} (hk : ∀ (s : Lexer) a, k (s.reframe a) = k s.core)
    (hk' : ∀ s, OnCoreWith p (k s)) : OnCoreWith p (get >>= k) :=
  LexM.OnCoreWith.get_bind (k := fun s => (k s).run) (fun s a => by rw [hk]) hk'

theorem modify {f : Lexer → Lexer} (hf : ∀ (s : Lexer) a, f (s.reframe a) = (f s.core).reframe a) :
    OnCoreWith p (modify f : ScanM Unit) :=
  LexM.OnCoreWith.bind (LexM.OnCoreWith.modify hf) fun _ => LexM.OnCoreWith.pure _

theorem forIn_array (xs : Array γ) (b : β) {f : γ → β → ScanM (ForInStep β)}
    (hf : ∀ a ∈ xs, ∀ b, OnCoreWith p (f a b)) : OnCoreWith p (forIn xs b f) := by
  rw [← Array.forIn_toList]
  replace hf : ∀ a ∈ xs.toList, ∀ b, OnCoreWith p (f a b) := fun a ha =>
    hf a (Array.mem_toList_iff.1 ha)
  generalize xs.toList = l at hf
  induction l generalizing b with
  | nil => exact pure b
  | cons a xs ih =>
    rw [List.forIn_cons]
    refine bind (hf a List.mem_cons_self b) fun r => ?_
    cases r with
    | done b => exact pure b
    | yield b => exact ih b fun a ha => hf a (List.mem_cons_of_mem _ ha)

/-! ### Scanners that may stop on a full dictionary or store -/

open LexM.OnCoreWith in
theorem internName (text : ByteArray) (start stop : Nat) :
    OnCoreWith Code.FromScan (LexM.internName text start stop) := by
  unfold LexM.internName
  refine bind (lift (intern _)) fun r => ?_
  split
  · exact pure _
  · exact bind (lift (rangeOf _ _)) fun _ => bind (lift (outOfMemory _ _ (by decide))) fun _ => throw _

open LexM.OnCoreWith in
theorem scanIdent (start : Nat) : OnCoreWith Code.FromScan (LexM.scanIdent start) := by
  unfold LexM.scanIdent
  refine bind (lift content) fun bs => bind (lift (seek _)) fun _ => ?_
  split
  · exact bind (lift (emit _ _ (by decide))) fun _ => pure _
  · refine bind (internName _ _ _) fun slot => bind (lift (resolve _)) fun entry => ?_
    exact bind (lift (emit _ _ (by decide))) fun _ => pure _

open LexM.OnCoreWith in
theorem scanSigilName (start : Nat) (kind : TokenKind) :
    OnCoreWith Code.FromScan (LexM.scanSigilName start kind) := by
  unfold LexM.scanSigilName
  refine bind (lift content) fun bs => bind (lift pos) fun p => ?_
  refine bind (lift (seek _)) fun _ => ?_
  split
  · exact bind (lift (emit _ _ (by decide))) fun _ => pure _
  · exact bind (internName _ _ _) fun slot => bind (lift (emit _ _ (by decide))) fun _ => pure _

open LexM.OnCoreWith in
theorem scanBracketed (start : Nat) (kind : TokenKind) :
    OnCoreWith Code.FromScan (LexM.scanBracketed start kind) := by
  unfold LexM.scanBracketed
  refine bind (lift content) fun bs => bind (lift pos) fun p => ?_
  dsimp only
  refine ite (bind (lift (seek _)) fun _ => ?_) ?_
  · refine ite (bind (lift (reportSpan _ _ _ _ (by decide))) fun _ =>
      lift (emitError _ (by decide))) (ite (bind (lift (emit _ _ (by decide))) fun _ => pure _) ?_)
    exact bind (internName _ _ _) fun slot => bind (lift (emit _ _ (by decide))) fun _ => pure _
  · -- a malformed or unclosed name is reported over what was read, then gives an error token
    exact ite (bind (lift (seek _)) fun _ =>
        bind (lift (reportSpan _ _ _ _ (by decide))) fun _ => lift (emitError _ (by decide)))
      (bind (lift (seek _)) fun _ =>
        bind (lift (reportSpan _ _ _ _ (by decide))) fun _ => lift (emitError _ (by decide)))

open LexM.OnCoreWith in
theorem scanLiteral (start : Nat) (lit : OpenLiteral) (continuation : Bool) :
    OnCoreWith Code.FromScan (LexM.scanLiteral start lit continuation) := by
  unfold LexM.scanLiteral
  refine bind (lift content) fun bs => bind (lift pos) fun p => ?_
  have hnotes := Literal.body_notes bs lit p .empty #[] Literal.escapeNotes_empty
  have hcode : ∀ c ∈ Literal.escapeCodes, Code.FromScan c := by decide
  -- each note of the body is an escape problem
  refine bind (lift (seek _)) fun _ => bind (forIn_array _ _ fun n hn _ =>
    bind (lift (reportSpan _ _ _ _ (hcode _ (hnotes n hn)))) fun _ => pure _) fun _ => ?_
  -- however the body ends, the token follows, then its text in the store
  extract_lets token
  have htoken : ∀ flow, OnCoreWith Code.FromScan (token flow) := by
    intro flow
    refine bind (lift (emit _ _ (by decide))) fun x => ?_
    refine ite (pure _) (bind (lift (store _)) fun r => ?_)
    extract_lets withIndex
    split
    · exact bind (pure _) fun _ => pure _
    · exact bind (lift (outOfMemory _ _ (by decide))) fun _ => bind (throw _) fun _ => pure _
  split
  · refine bind (modify fun _ _ => rfl) fun _ => ?_
    split
    · exact ite (bind (lift (advance 1)) fun _ => bind (pure _) htoken) (bind (pure _) htoken)
    · exact bind (pure _) htoken
  · exact bind (modify fun _ _ => rfl) fun _ => bind (pure _) htoken
  · exact bind (modify fun _ _ => rfl) fun _ =>
      bind (lift (report _ _ _ (by decide))) fun _ => bind (pure _) htoken

open LexM.OnCoreWith in
theorem openLiteral (start stop : Nat) (kind : TokenKind) (style : Style) (cjk : Bool)
    (closer : Nat) : OnCoreWith Code.FromScan (LexM.openLiteral start stop kind style cjk closer) :=
  bind (lift (seek _)) fun _ => bind (lift (rangeOf _ _)) fun _ => scanLiteral _ _ _

open LexM.OnCoreWith in
theorem scanAt (start : Nat) : OnCoreWith Code.FromScan (LexM.scanAt start) := by
  unfold LexM.scanAt
  refine bind (lift content) fun bs => ?_
  exact ite (openLiteral _ _ _ _ _ _) (ite (bind (lift (seek _)) fun _ =>
    scanSigilName _ _) (lift (loneSigil _)))

open LexM.OnCoreWith in
theorem scanVar (start : Nat) (kind : TokenKind) :
    OnCoreWith Code.FromScan (LexM.scanVar start kind) := by
  unfold LexM.scanVar
  refine bind (lift content) fun bs => ?_
  exact ite (bind (lift (seek _)) fun _ => scanBracketed _ _)
    (ite (bind (lift (seek _)) fun _ => scanSigilName _ _) (lift (loneSigil _)))

open LexM.OnCoreWith in
theorem scanUnicode (start : Nat) : OnCoreWith Code.FromScan (LexM.scanUnicode start) := by
  unfold LexM.scanUnicode
  refine bind (lift content) fun bs => ?_
  split
  refine ite (bind (lift (advance 1)) fun _ =>
    bind (lift (reportSpan _ _ _ _ (by decide))) fun _ => lift (emitError _ (by decide))) ?_
  split
  · exact openLiteral _ _ _ _ _ _
  · exact ite (openLiteral _ _ _ _ _ _) (ite (scanIdent _) (bind (lift (advance _)) fun _ =>
      bind (lift (reportSpan _ _ _ _ (by decide))) fun _ => lift (emitError _ (by decide))))

open LexM.OnCoreWith in
/-- Scanning a significant token works on the core of the tokenizer and reports lexical and
resource problems only. -/
theorem scan : OnCoreWith Code.FromScan LexM.scan := by
  unfold LexM.scan
  refine get_bind (fun _ _ => rfl) fun lx => ?_
  exact ite (scanIdent _) (ite (lift (scanNumber _)) (ite (openLiteral _ _ _ _ _ _)
    (ite (scanAt _) (ite (scanVar _ _) (ite (scanVar _ _)
      (ite (bind (lift (seek _)) fun _ => scanSigilName _ _)
        (ite (openLiteral _ _ _ _ _ _) (ite (scanUnicode _) (lift (scanPunct _))))))))))

open LexM.OnCoreWith in
/-- Resuming a split message works on the core of the tokenizer and reports lexical and
resource problems only. -/
theorem continueMessage (lit : OpenLiteral) :
    OnCoreWith Code.FromScan (LexM.continueMessage lit) := by
  unfold LexM.continueMessage
  refine get_bind (fun _ _ => rfl) fun lx => ?_
  refine ite (bind (lift (setFlags _)) fun _ => scanLiteral _ _ _) ?_
  refine bind (lift (seek _)) fun _ => bind (lift (setFlags _)) fun _ => ?_
  extract_lets blank
  exact ite (bind (modify fun _ _ => rfl) fun _ => bind (lift (setFlags _)) fun _ =>
    bind (lift (report _ _ _ (by decide))) fun _ => pure _) (pure _)

end ScanM.OnCoreWith

/-! ### Steps under the tokenizer's own codes -/

namespace LexM.OnCore

variable {α : Type}

theorem twin {x : LexM α} (h : OnCore x) {s₁ s₂ : Lexer} (hc : s₁.core = s₂.core) :
    (x.run s₁).1 = (x.run s₂).1 ∧ (x.run s₁).2.core = (x.run s₂).2.core ∧
      ∃ ns, (∀ n ∈ ns, n.FromLexer) ∧ (x.run s₁).2.env.engine = diagnoseAll ns s₁.env.engine ∧
        (x.run s₂).2.env.engine = diagnoseAll ns s₂.env.engine :=
  OnCoreWith.twin (p := Code.FromLexer) h hc

theorem frame {x : LexM α} (h : OnCore x) (s : Lexer) :
    (x.run s).2.mode = s.mode ∧ (x.run s).2.lastDir = s.lastDir ∧ (x.run s).2.last = s.last :=
  OnCoreWith.frame (p := Code.FromLexer) h s

theorem seek (i : Nat) : OnCore (LexM.seek i) := OnCoreWith.seek (p := Code.FromLexer) i

theorem setFlags (f : LexFlags → LexFlags) : OnCore (LexM.setFlags f) :=
  OnCoreWith.setFlags (p := Code.FromLexer) f

theorem emit (kind : TokenKind) (start : Nat) : OnCore (LexM.emit kind start) :=
  OnCoreWith.emit (p := Code.FromLexer) kind start (by decide)

theorem after (tok : Token) : OnCore (LexM.after tok) := OnCoreWith.after tok

theorem eof : OnCore LexM.eof := OnCoreWith.eof

end LexM.OnCore

namespace ScanM.OnCore

variable {α β : Type}

theorem pure (a : α) : OnCore (Pure.pure a : ScanM α) := ScanM.OnCoreWith.pure (p := Code.FromLexer) _

theorem lift {x : LexM α} (hx : LexM.OnCore x) : OnCore (liftM x : ScanM α) :=
  ScanM.OnCoreWith.lift (p := Code.FromLexer) hx

theorem bind {x : ScanM α} {f : α → ScanM β} (hx : OnCore x) (hf : ∀ a, OnCore (f a)) :
    OnCore (x >>= f) :=
  ScanM.OnCoreWith.bind (p := Code.FromLexer) hx hf

theorem ite {c : Prop} [Decidable c] {x y : ScanM α} (hx : OnCore x) (hy : OnCore y) :
    OnCore (if c then x else y) :=
  ScanM.OnCoreWith.ite (p := Code.FromLexer) hx hy

theorem get_bind {k : Lexer → ScanM β} (hk : ∀ (s : Lexer) a, k (s.reframe a) = k s.core)
    (hk' : ∀ s, OnCore (k s)) : OnCore (get >>= k) :=
  ScanM.OnCoreWith.get_bind (p := Code.FromLexer) hk hk'

theorem modify {f : Lexer → Lexer} (hf : ∀ (s : Lexer) a, f (s.reframe a) = (f s.core).reframe a) :
    OnCore (modify f : ScanM Unit) :=
  ScanM.OnCoreWith.modify (p := Code.FromLexer) hf

/-- Scanning a significant token works on the core of the tokenizer. -/
theorem scan : OnCore LexM.scan :=
  LexM.OnCoreWith.mono ScanM.OnCoreWith.scan fun _ => Code.FromScan.fromLexer

/-- Resuming a split message works on the core of the tokenizer. -/
theorem continueMessage (lit : OpenLiteral) : OnCore (LexM.continueMessage lit) :=
  LexM.OnCoreWith.mono (ScanM.OnCoreWith.continueMessage lit) fun _ => Code.FromScan.fromLexer

end ScanM.OnCore

end NovelScript

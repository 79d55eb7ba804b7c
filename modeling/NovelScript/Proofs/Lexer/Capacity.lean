import Mathlib
import NovelScript.Proofs.Lexer.Restart
import NovelScript.Proofs.Lexer.Position
import NovelScript.Proofs.Lexer.LiteralStore
/-!
# A full store stops the tokenizer, cleanly

The dictionary and the string store have capacities, and a call of `lex` stops with an error
only when the token it reads needs room that is not there: a new slot for a name, or a new entry
for the text of a literal. The statement compares a tokenizer with a roomier twin, the same
tokenizer with larger capacities (`Lexer.withCaps`). A call of the twin that keeps the stores
within the smaller capacities (`Lexer.FitsIn`) is the call of the tokenizer itself; at the first
call that outgrows them the tokenizer stops. It stops cleanly: the stores are as they were before
that call, the engine gets the reports of the call up to the check, exactly one of them the
report of a full store, and every later call gives the same error and reports nothing.

`ScanM.Capped x` says this of one scan step. Only interning a name and storing a literal read the
capacities. The steps before them neither read nor write the stores and report no full store
(`LexM.Lead`); the steps after them keep the sizes of the stores (`ScanM.CapFree`). So each
scanner's proof follows its text, as for `LexM.OnCoreWith`. `Lexer.lex_capped` is one call,
`Lexer.lexRun_capped` a run, and `full_store_stops_lexing` the law for a whole run.

What outgrows the stores is what the roomier twin adds to them. A name new to the dictionary
adds a slot (`Lexer.lex_interns_new_name`). A literal adds its text only when its token fits the
length ceiling: a longer one is cut into an error token before its text would be stored
(`Lexer.lex_long_string`), so it never stops the tokenizer, however little room is left
(`long_string_is_never_stored`).
-/

set_option mvcgen.warning false

namespace NovelScript

open Utf8 Chars

/-- Whether a report is the report of a full store. -/
def Notice.isFull (n : Notice) : Bool := n.2.1 == Code.resOutOfMemory

/-- The reports `ns` hold exactly one report of a full store, the one that gives the message of
`cause`. -/
def Notice.OneFull (ns : List Notice) (cause : CapacityError) : Prop :=
  ∃ r, ns.filter Notice.isFull = [(r, Code.resOutOfMemory, #[.str cause.message])]

/-- Reports of other problems before them leave one report of a full store one. -/
theorem Notice.OneFull.quiet_append {ns₀ ns : List Notice} {cause : CapacityError}
    (hq : ∀ n ∈ ns₀, n.isFull = false) (h : Notice.OneFull ns cause) :
    Notice.OneFull (ns₀ ++ ns) cause := by
  obtain ⟨r, hr⟩ := h
  refine ⟨r, ?_⟩
  rw [List.filter_append, List.filter_eq_nil_iff.2 fun n hn => by simp [hq n hn], List.nil_append, hr]

namespace Lexer

/-- The tokenizer `s` with room for `D` dictionary slots and `M` bytes of stored text. -/
def withCaps (s : Lexer) (D M : Nat) : Lexer :=
  s.withStores { s.env.dict with max := D } { s.env.blobs with max := M }

/-- The stores of `s` fit in `D` slots and `M` bytes. -/
def FitsIn (s : Lexer) (D M : Nat) : Prop := s.env.dict.size ≤ D ∧ s.env.blobs.data.size ≤ M

instance (s : Lexer) (D M : Nat) : Decidable (s.FitsIn D M) :=
  inferInstanceAs (Decidable (_ ∧ _))

@[simp] theorem withCaps_dict_max (s : Lexer) (D M : Nat) : (s.withCaps D M).env.dict.max = D := rfl

@[simp] theorem withCaps_blobs_max (s : Lexer) (D M : Nat) : (s.withCaps D M).env.blobs.max = M :=
  rfl

@[simp] theorem withCaps_dict_size (s : Lexer) (D M : Nat) :
    (s.withCaps D M).env.dict.size = s.env.dict.size := rfl

@[simp] theorem withCaps_blobs_size (s : Lexer) (D M : Nat) :
    (s.withCaps D M).env.blobs.data.size = s.env.blobs.data.size := rfl

/-- Fitting depends on the sizes of the stores alone. -/
theorem FitsIn.of_sizes {s s' : Lexer} {D M : Nat} (h : s.FitsIn D M)
    (hd : s'.env.dict.size = s.env.dict.size) (hb : s'.env.blobs.data.size = s.env.blobs.data.size) :
    s'.FitsIn D M :=
  ⟨hd ▸ h.1, hb ▸ h.2⟩

end Lexer

/-! ### The stores with less room

Interning and storing read the capacity only to refuse a new entry. With less room they do what
they did as long as what they leave fits, refuse where it would not, and refuse again where they
refused with more room. -/

namespace Dict

variable {d d' : Dict} {text : ByteArray} {D slot : Nat}

theorem lookup_withMax_ok (h : d.lookup text = .ok (slot, d')) (hfit : d'.size ≤ D) :
    ({ d with max := D } : Dict).lookup text = .ok (slot, { d' with max := D }) := by
  rcases lookup_eq_ok h with ⟨hi, rfl⟩ | ⟨hi, -, rfl, rfl⟩
  · simp only [lookup, hi]
  · simp only [size, Array.size_push] at hfit
    unfold lookup
    simp only [hi]
    split
    · next hfull => simp only [size] at hfull; omega
    · rfl

theorem lookup_withMax_full (h : d.lookup text = .ok (slot, d')) (hfit : d.size ≤ D)
    (hout : D < d'.size) : ({ d with max := D } : Dict).lookup text = .error ⟨text⟩ := by
  rcases lookup_eq_ok h with ⟨-, rfl⟩ | ⟨hi, -, rfl, rfl⟩
  · omega
  · simp only [size, Array.size_push] at hfit hout
    unfold lookup
    simp only [hi]
    split
    · rfl
    · next hroom => simp only [size] at hroom; omega

theorem lookup_withMax_error {e : DictFull} (hD : D ≤ d.max) (h : d.lookup text = .error e) :
    ({ d with max := D } : Dict).lookup text = .error e := by
  unfold lookup at h ⊢
  split at h
  · cases h
  · next hi =>
    split at h
    · next hfull =>
      cases h
      simp only [hi]
      split
      · rfl
      · next hroom => simp only [size] at hfull hroom; omega
    · cases h

end Dict

namespace BlobStore

variable {s s' : BlobStore} {b : ByteArray} {i M : Nat}

theorem intern_withMax_ok (h : s.intern b = .ok (i, s')) (hfit : s'.data.size ≤ M) :
    ({ s with max := M } : BlobStore).intern b = .ok (i, { s' with max := M }) := by
  rcases internWith_eq_ok h with ⟨hb, rfl, rfl⟩ | ⟨hb, hf, rfl⟩ | ⟨hb, hf, -, rfl, rfl⟩
  · exact internWith_empty hb
  · exact internWith_found hb hf
  · have hroom : s.data.size + b.size ≤ M := by simpa [push] using hfit
    exact internWith_new hb hf hroom

theorem intern_withMax_full (h : s.intern b = .ok (i, s')) (hfit : s.data.size ≤ M)
    (hout : M < s'.data.size) : ({ s with max := M } : BlobStore).intern b = .error ⟨b.size⟩ := by
  rcases internWith_eq_ok h with ⟨-, -, rfl⟩ | ⟨-, -, rfl⟩ | ⟨hb, hf, -, -, rfl⟩
  · omega
  · omega
  · have hfull : M < s.data.size + b.size := by simpa [push] using hout
    exact internWith_full hb hf hfull

theorem intern_withMax_error {e : BlobFull} (hM : M ≤ s.max) (h : s.intern b = .error e) :
    ({ s with max := M } : BlobStore).intern b = .error e := by
  obtain ⟨hb, hf, hfull, rfl⟩ := internWith_eq_error h
  exact internWith_full hb hf (show M < s.data.size + b.size by omega)

end BlobStore

/-- Resolving a slot retags it at most: the dictionary keeps its size. -/
@[simp] theorem Dict.size_resolve (d : Dict) (slot : Nat) : (d.resolve slot).2.size = d.size := by
  rw [Dict.resolve_eq]
  split
  · rfl
  · split
    · exact Dict.setTag_size _ _
    · rfl

/-! ### Steps before the check -/

/-- A step on the core hands any engine the same reports. -/
theorem LexM.OnCoreWith.onEngine {α : Type} {p : Code → Prop} {x : LexM α} (h : OnCoreWith p x)
    (s : Lexer) : ∃ ns : List Notice, (∀ n ∈ ns, p n.2.1) ∧ ∀ e,
      x.run (s.onEngine e) = ((x.run s).1, (x.run s).2.onEngine (diagnoseAll ns e)) := by
  obtain ⟨ns, hns, hx⟩ := h s
  refine ⟨ns, hns, fun e => ?_⟩
  have h₂ := hx s.ambient
  rw [Lexer.reframe_ambient] at h₂
  rw [h₂, Lexer.reframe_onEngine]
  exact hx (s.ambient.withEngine e)

/-- `x` can come before a capacity check: it neither reads nor writes the stores, and hands any
engine the same reports, none of them the report of a full store. -/
structure LexM.Lead {α : Type} (x : LexM α) : Prop where
  blind : LexM.StoreBlind x
  quiet : ∀ s : Lexer, ∃ ns : List Notice, (∀ n ∈ ns, n.isFull = false) ∧ ∀ e,
    x.run (s.onEngine e) = ((x.run s).1, (x.run s).2.onEngine (diagnoseAll ns e))

/-- A scan step that can come before a capacity check. -/
def ScanM.Lead {α : Type} (x : ScanM α) : Prop := LexM.Lead x.run

namespace LexM.Lead

variable {α β γ : Type} {x : LexM α}

/-- A step on the core that reports no full store can come before a check. -/
theorem of_onCore (hb : StoreBlind x) (hq : OnCoreWith (· ≠ Code.resOutOfMemory) x) : Lead x := by
  refine ⟨hb, fun s => ?_⟩
  obtain ⟨ns, hns, h⟩ := hq.onEngine s
  exact ⟨ns, fun n hn => by simp [Notice.isFull, hns n hn], h⟩

theorem pure (a : α) : Lead (Pure.pure a : LexM α) :=
  ⟨StoreBlind.pure a, fun _ => ⟨[], by simp, fun _ => rfl⟩⟩

theorem bind {f : α → LexM β} (hx : Lead x) (hf : ∀ a, Lead (f a)) : Lead (x >>= f) := by
  refine ⟨StoreBlind.bind hx.blind fun a => (hf a).blind, fun s => ?_⟩
  obtain ⟨ns, hns, h⟩ := hx.quiet s
  obtain ⟨ms, hms, h'⟩ := (hf (x.run s).1).quiet (x.run s).2
  refine ⟨ns ++ ms, fun n hn => (List.mem_append.1 hn).elim (hns n) (hms n), fun e => ?_⟩
  simp only [OnCore.run_bind]
  rw [h e, h' (diagnoseAll ns e), diagnoseAll_append]

theorem get_bind {k : Lexer → LexM β} (hs : ∀ s d b, k (s.withStores d b) = k s)
    (he : ∀ (s : Lexer) e, k (s.onEngine e) = k s) (hk : ∀ s, Lead (k s)) : Lead (get >>= k) := by
  refine ⟨StoreBlind.get_bind hs fun s => (hk s).blind, fun s => ?_⟩
  obtain ⟨ns, hns, h⟩ := (hk s).quiet s
  exact ⟨ns, hns, fun e => by simp only [OnCore.run_get_bind, he]; exact h e⟩

theorem modify {f : Lexer → Lexer} (hs : ∀ s d b, f (s.withStores d b) = (f s).withStores d b)
    (he : ∀ (s : Lexer) e, f (s.onEngine e) = (f s).onEngine e) : Lead (modify f) :=
  ⟨StoreBlind.modify hs, fun s => ⟨[], by simp, fun e => congrArg (Prod.mk ()) (he s e)⟩⟩

theorem ite {c : Prop} [Decidable c] {y : LexM α} (hx : Lead x) (hy : Lead y) :
    Lead (if c then x else y) := by
  split
  · exact hx
  · exact hy

theorem seek (i : Nat) : Lead (LexM.seek i) := of_onCore (StoreBlind.seek i) (OnCoreWith.seek i)

theorem advance (n : Nat) : Lead (LexM.advance n) :=
  of_onCore (StoreBlind.advance n) (OnCoreWith.advance n)

theorem setFlags (f : LexFlags → LexFlags) : Lead (LexM.setFlags f) :=
  of_onCore (StoreBlind.setFlags f) (OnCoreWith.setFlags f)

theorem pos : Lead LexM.pos := of_onCore StoreBlind.pos OnCoreWith.pos

theorem content : Lead LexM.content := of_onCore StoreBlind.content OnCoreWith.content

theorem rangeOf (a b : Nat) : Lead (LexM.rangeOf a b) :=
  of_onCore (StoreBlind.rangeOf a b) (OnCoreWith.rangeOf a b)

theorem report (r : Range) {c : Code} (a : Array Arg) (hc : c ≠ Code.resOutOfMemory) :
    Lead (LexM.report r c a) :=
  of_onCore (StoreBlind.report r c a) (OnCoreWith.report r c a hc)

theorem reportSpan (a b : Nat) {c : Code} (args : Array Arg) (hc : c ≠ Code.resOutOfMemory) :
    Lead (LexM.reportSpan a b c args) :=
  of_onCore (StoreBlind.reportSpan a b c args) (OnCoreWith.reportSpan a b c args hc)

theorem emit (kind : TokenKind) (start : Nat) : Lead (LexM.emit kind start) :=
  of_onCore (StoreBlind.emit kind start) (OnCoreWith.emit kind start (by decide))

theorem emitError (start : Nat) : Lead (LexM.emitError start) :=
  of_onCore (StoreBlind.emitError start) (OnCoreWith.emitError start (by decide))

/-- The trivia before a token: its notes are about comments and directives. -/
theorem applyTrivia (t : Trivia) : Lead (LexM.applyTrivia t) := by
  refine ⟨StoreBlind.applyTrivia t, fun s => ⟨TriviaNote.noticesOf s.unit.id t.notes.toList,
    fun n hn => ?_, fun e => ?_⟩⟩
  · simp only [TriviaNote.noticesOf, List.mem_flatMap] at hn
    obtain ⟨note, -, hn⟩ := hn
    cases note <;> simp [TriviaNote.notices] at hn <;> subst hn <;> rfl
  · rw [applyTrivia_run, applyTrivia_run]
    rfl

end LexM.Lead

namespace ScanM.Lead

variable {α β γ : Type}

theorem pure (a : α) : Lead (Pure.pure a : ScanM α) := LexM.Lead.pure _

theorem lift {x : LexM α} (hx : LexM.Lead x) : Lead (liftM x : ScanM α) :=
  LexM.Lead.bind hx fun _ => LexM.Lead.pure _

theorem bind {x : ScanM α} {f : α → ScanM β} (hx : Lead x) (hf : ∀ a, Lead (f a)) :
    Lead (x >>= f) := by
  unfold Lead
  rw [ExceptT.run_bind]
  refine LexM.Lead.bind hx fun r => ?_
  cases r with
  | error e => exact LexM.Lead.pure _
  | ok a => exact hf a

theorem ite {c : Prop} [Decidable c] {x y : ScanM α} (hx : Lead x) (hy : Lead y) :
    Lead (if c then x else y) := by
  split
  · exact hx
  · exact hy

theorem get_bind {k : Lexer → ScanM β} (hs : ∀ s d b, k (s.withStores d b) = k s)
    (he : ∀ (s : Lexer) e, k (s.onEngine e) = k s) (hk : ∀ s, Lead (k s)) : Lead (get >>= k) :=
  LexM.Lead.get_bind (k := fun s => (k s).run) (fun s d b => by rw [hs]) (fun s e => by rw [he]) hk

theorem modify {f : Lexer → Lexer} (hs : ∀ s d b, f (s.withStores d b) = (f s).withStores d b)
    (he : ∀ (s : Lexer) e, f (s.onEngine e) = (f s).onEngine e) : Lead (modify f : ScanM Unit) :=
  LexM.Lead.bind (LexM.Lead.modify hs he) fun _ => LexM.Lead.pure _

theorem forIn_array (xs : Array γ) (b : β) {f : γ → β → ScanM (ForInStep β)}
    (hf : ∀ a ∈ xs, ∀ b, Lead (f a b)) : Lead (forIn xs b f) := by
  rw [← Array.forIn_toList]
  replace hf : ∀ a ∈ xs.toList, ∀ b, Lead (f a b) := fun a ha =>
    hf a (Array.mem_toList_iff.1 ha)
  generalize xs.toList = l at hf
  induction l generalizing b with
  | nil => exact pure b
  | cons a xs ih =>
    rw [List.forIn_cons]
    refine bind (hf a List.mem_cons_self b) fun r => ?_
    cases r with
    | done b => exact pure b
    | yield b => exact ih b fun a ha => hf a (List.mem_cons_of_mem _ ha)

end ScanM.Lead

/-! ### Steps after the check -/

/-- Resolving a slot does not look at the capacity. -/
theorem Dict.resolve_withMax (d : Dict) (D slot : Nat) :
    ({ d with max := D } : Dict).resolve slot =
      ((d.resolve slot).1, { (d.resolve slot).2 with max := D }) := by
  have hslot : ({ d with max := D } : Dict).slot? slot = d.slot? slot := rfl
  have hset : ∀ t, ({ d with max := D } : Dict).setTag slot t = { d.setTag slot t with max := D } := by
    intro t
    unfold Dict.setTag
    split <;> rfl
  rw [Dict.resolve_eq, Dict.resolve_eq, hslot]
  rcases d.slot? slot with _ | ⟨text, tag⟩
  · rfl
  · dsimp only
    generalize lookupKeyword? text = kw
    cases tag <;> cases kw <;> simp only [hset]

/-- `x` keeps to the capacities it is given: run with other capacities it does what it does,
and it keeps the sizes of the stores. -/
def LexM.CapFree {α : Type} (x : LexM α) : Prop :=
  ∀ (s : Lexer) (D M : Nat), x.run (s.withCaps D M) = ((x.run s).1, (x.run s).2.withCaps D M) ∧
    (x.run s).2.env.dict.size = s.env.dict.size ∧
    (x.run s).2.env.blobs.data.size = s.env.blobs.data.size

/-- A scan step that keeps to the capacities it is given. -/
def ScanM.CapFree {α : Type} (x : ScanM α) : Prop := LexM.CapFree x.run

namespace LexM.CapFree

variable {α β : Type} {x : LexM α}

theorem of_storeBlind (h : StoreBlind x) : CapFree x := by
  intro s D M
  obtain ⟨hd, hb⟩ := h.stores s
  refine ⟨?_, by rw [hd], by rw [hb]⟩
  rw [Lexer.withCaps, h, Lexer.withCaps, hd, hb]

theorem pure (a : α) : CapFree (Pure.pure a : LexM α) := of_storeBlind (StoreBlind.pure a)

theorem bind {f : α → LexM β} (hx : CapFree x) (hf : ∀ a, CapFree (f a)) : CapFree (x >>= f) := by
  intro s D M
  obtain ⟨hx₁, hxd, hxb⟩ := hx s D M
  obtain ⟨hf₁, hfd, hfb⟩ := hf (x.run s).1 (x.run s).2 D M
  simp only [OnCore.run_bind]
  exact ⟨by rw [hx₁, hf₁], hfd.trans hxd, hfb.trans hxb⟩

/-- Resolving a slot retags it at most, whatever the capacity. -/
theorem resolve (slot : Nat) : CapFree (LexM.resolve slot) := by
  intro s D M
  refine ⟨?_, Dict.size_resolve _ _, rfl⟩
  have hdict : (s.withCaps D M).env.dict = { s.env.dict with max := D } := rfl
  simp only [LexM.resolve_run, hdict, Dict.resolve_withMax]
  rfl

end LexM.CapFree

namespace ScanM.CapFree

variable {α β : Type}

theorem pure (a : α) : CapFree (Pure.pure a : ScanM α) := LexM.CapFree.pure _

theorem lift {x : LexM α} (hx : LexM.CapFree x) : CapFree (liftM x : ScanM α) :=
  LexM.CapFree.bind hx fun _ => LexM.CapFree.pure _

theorem throw (e : LexError) : CapFree (MonadExcept.throw e : ScanM α) := LexM.CapFree.pure _

theorem bind {x : ScanM α} {f : α → ScanM β} (hx : CapFree x) (hf : ∀ a, CapFree (f a)) :
    CapFree (x >>= f) := by
  unfold CapFree
  rw [ExceptT.run_bind]
  refine LexM.CapFree.bind hx fun r => ?_
  cases r with
  | error e => exact LexM.CapFree.pure _
  | ok a => exact hf a

/-- A step that can come before the check can come after it too. -/
theorem of_lead {x : ScanM α} (h : ScanM.Lead x) : CapFree x := LexM.CapFree.of_storeBlind h.blind

end ScanM.CapFree

/-! ### Stopping cleanly -/

/-- `x` run from `s` stops cleanly: with the error `err`, the stores as `s` has them, and any
engine handed the same reports `ns`, exactly one of them the report of the full store. -/
def ScanM.Stops {α : Type} (x : ScanM α) (s : Lexer) : Prop :=
  ∃ (err : LexError) (t : Lexer) (ns : List Notice), Notice.OneFull ns err.cause ∧
    t.env.dict = s.env.dict ∧ t.env.blobs = s.env.blobs ∧
    ∀ e, x.run.run (s.onEngine e) = (.error err, t.onEngine (diagnoseAll ns e))

namespace ScanM.Stops

variable {α β : Type} {x : ScanM α} {s : Lexer}

open LexM in
/-- Nothing after a stop runs. -/
theorem bind (h : x.Stops s) (f : α → ScanM β) : (x >>= f).Stops s := by
  obtain ⟨err, t, ns, hone, hd, hb, hrun⟩ := h
  exact ⟨err, t, ns, hone, hd, hb, fun e => run_bind_error (hrun e)⟩

open LexM in
/-- A stop after steps that can come before a check. -/
theorem lead_bind {f : α → ScanM β} {a : α} (hx : ScanM.Lead x) (ha : (x.run.run s).1 = .ok a)
    (hf : (f a).Stops (x.run.run s).2) : (x >>= f).Stops s := by
  obtain ⟨ns₀, hq, hx'⟩ := hx.quiet s
  obtain ⟨hd₀, hb₀⟩ := hx.blind.stores s
  obtain ⟨err, t, ns, hone, hd, hb, hrun⟩ := hf
  refine ⟨err, t, ns₀ ++ ns, hone.quiet_append hq, hd.trans hd₀, hb.trans hb₀, fun e => ?_⟩
  have hx'' : x.run.run (s.onEngine e) = (.ok a, (x.run.run s).2.onEngine (diagnoseAll ns₀ e)) := by
    rw [← ha]
    exact hx' e
  rw [run_bind_ok hx'', hrun, diagnoseAll_append]

open LexM in
/-- Reporting a full store and throwing the error stops cleanly. -/
theorem outOfMemory {f : LexError → ScanM β} (hf : ∀ err t, (f err).run.run t = (.error err, t))
    (r : Range) (cause : CapacityError) (s : Lexer) :
    (liftM (LexM.outOfMemory r cause) >>= f).Stops s := by
  refine ⟨⟨s.unit.path, cause⟩, s, [(r, Code.resOutOfMemory, #[.str cause.message])],
    ⟨r, by simp [Notice.isFull]⟩, rfl, rfl, fun e => ?_⟩
  rw [run_lift_bind, hf]
  cases e <;> rfl

end ScanM.Stops

/-! ### The checks -/

/-- A store operation that reads the capacities: with less room it does what it does as long as
the stores it leaves fit, where they would not it refuses whatever the engine and changes
nothing, and where it refuses with room it changes nothing either. -/
structure LexM.CapOp {ε : Type} (op : LexM (Except ε Nat)) : Prop where
  fits : ∀ (s : Lexer) (D M : Nat), D ≤ s.env.dict.max → M ≤ s.env.blobs.max → s.FitsIn D M →
    (op.run s).2.FitsIn D M → op.run (s.withCaps D M) = ((op.run s).1, (op.run s).2.withCaps D M)
  full : ∀ (s : Lexer) (D M : Nat), s.FitsIn D M → ¬ (op.run s).2.FitsIn D M →
    ∃ e, ∀ e', op.run ((s.withCaps D M).onEngine e') = (.error e, (s.withCaps D M).onEngine e')
  refuse : ∀ (s : Lexer) (e : ε), (op.run s).1 = .error e → (op.run s).2 = s

namespace LexM.CapOp

/-- Interning a name reads the capacity of the dictionary. -/
theorem intern (text : ByteArray) : CapOp (LexM.intern text) where
  fits s D M hD _ _ hfit := by
    simp only [LexM.intern_run] at hfit ⊢
    have hdict : (s.withCaps D M).env.dict = { s.env.dict with max := D } := rfl
    rcases hl : s.env.dict.lookup text with e | ⟨slot, d'⟩ <;> rw [hl] at hfit
    · rw [hdict, Dict.lookup_withMax_error hD hl]
    · rw [hdict, Dict.lookup_withMax_ok hl hfit.1]
      rfl
  full s D M hfit hout := by
    simp only [LexM.intern_run] at hout
    rcases hl : s.env.dict.lookup text with e | ⟨slot, d'⟩ <;> rw [hl] at hout
    · exact absurd hfit hout
    · have hbig : D < d'.size := by
        by_contra hle
        exact hout ⟨Nat.le_of_not_lt hle, hfit.2⟩
      refine ⟨⟨text⟩, fun e' => ?_⟩
      have hdict : ((s.withCaps D M).onEngine e').env.dict = { s.env.dict with max := D } := rfl
      rw [LexM.intern_run, hdict, Dict.lookup_withMax_full hl hfit.1 hbig]
  refuse s e h := by
    simp only [LexM.intern_run] at h ⊢
    rcases hl : s.env.dict.lookup text with e' | ⟨slot, d'⟩
    · rfl
    · rw [hl] at h
      cases h

/-- Storing a text reads the capacity of the string store. -/
theorem store (text : ByteArray) : CapOp (LexM.store text) where
  fits s D M _ hM _ hfit := by
    simp only [LexM.store_run] at hfit ⊢
    have hblobs : (s.withCaps D M).env.blobs = { s.env.blobs with max := M } := rfl
    rcases hi : s.env.blobs.intern text with e | ⟨i, b'⟩ <;> rw [hi] at hfit
    · rw [hblobs, BlobStore.intern_withMax_error hM hi]
    · rw [hblobs, BlobStore.intern_withMax_ok hi hfit.2]
      rfl
  full s D M hfit hout := by
    simp only [LexM.store_run] at hout
    rcases hi : s.env.blobs.intern text with e | ⟨i, b'⟩ <;> rw [hi] at hout
    · exact absurd hfit hout
    · have hbig : M < b'.data.size := by
        by_contra hle
        exact hout ⟨hfit.1, Nat.le_of_not_lt hle⟩
      refine ⟨⟨text.size⟩, fun e' => ?_⟩
      have hblobs : ((s.withCaps D M).onEngine e').env.blobs = { s.env.blobs with max := M } := rfl
      rw [LexM.store_run, hblobs, BlobStore.intern_withMax_full hi hfit.2 hbig]
  refuse s e h := by
    simp only [LexM.store_run] at h ⊢
    rcases hi : s.env.blobs.intern text with e' | ⟨i, b'⟩
    · rfl
    · rw [hi] at h
      cases h

end LexM.CapOp

/-- A scan step run with the capacities `D` and `M` from a tokenizer `s` with at least that much
room: while the stores the roomier run leaves fit, it does what that run does; where they would
not, it stops cleanly. -/
def ScanM.Capped {α : Type} (x : ScanM α) : Prop :=
  ∀ (s : Lexer) (D M : Nat), D ≤ s.env.dict.max → M ≤ s.env.blobs.max → s.FitsIn D M →
    ((x.run.run s).2.FitsIn D M →
      x.run.run (s.withCaps D M) = ((x.run.run s).1, (x.run.run s).2.withCaps D M)) ∧
    (¬ (x.run.run s).2.FitsIn D M → x.Stops (s.withCaps D M))

namespace ScanM.Capped

variable {α β : Type} {x : ScanM α}

/-- A step that keeps to the capacities never outgrows them. -/
theorem of_capFree (h : ScanM.CapFree x) : Capped x := by
  intro s D M _ _ hfit
  obtain ⟨heq, hd, hb⟩ := h s D M
  exact ⟨fun _ => heq, fun hout => absurd (hfit.of_sizes hd hb) hout⟩

theorem of_lead (h : ScanM.Lead x) : Capped x := of_capFree (.of_lead h)

theorem pure (a : α) : Capped (Pure.pure a : ScanM α) := of_capFree (.pure a)

open LexM in
/-- Steps before a check leave it to decide. -/
theorem lead {f : α → ScanM β} (hx : ScanM.Lead x) (hf : ∀ a, Capped (f a)) : Capped (x >>= f) := by
  intro s D M hD hM hfit
  obtain ⟨hd, hb⟩ := hx.blind.stores s
  have hsmall : x.run.run (s.withCaps D M) = ((x.run.run s).1, (x.run.run s).2.withCaps D M) :=
    (LexM.CapFree.of_storeBlind hx.blind s D M).1
  rcases hrun : x.run.run s with ⟨_ | a, s₁⟩ <;> rw [hrun] at hd hb hsmall
  · -- a step that cannot stop for a full store gave up: nothing else runs
    rw [run_bind_error hrun, run_bind_error hsmall]
    exact ⟨fun _ => rfl, fun hout => absurd (hfit.of_sizes (by rw [hd]) (by rw [hb])) hout⟩
  · rw [run_bind_ok hrun]
    obtain ⟨hfits, hstops⟩ := hf a s₁ D M (by rw [hd]; exact hD) (by rw [hb]; exact hM)
      (hfit.of_sizes (by rw [hd]) (by rw [hb]))
    refine ⟨fun h₁ => by rw [run_bind_ok hsmall]; exact hfits h₁, fun hout => ?_⟩
    exact Stops.lead_bind hx (by rw [hsmall]) (by rw [hsmall]; exact hstops hout)

open LexM in
/-- Steps after a check keep what it decided. -/
theorem bind_capFree {f : α → ScanM β} (hx : Capped x) (hf : ∀ a, ScanM.CapFree (f a)) :
    Capped (x >>= f) := by
  intro s D M hD hM hfit
  obtain ⟨hfits, hstops⟩ := hx s D M hD hM hfit
  rcases hrun : x.run.run s with ⟨_ | a, s₁⟩ <;> rw [hrun] at hfits hstops
  · rw [run_bind_error hrun]
    exact ⟨fun h₁ => run_bind_error (hfits h₁), fun hout => (hstops hout).bind f⟩
  · obtain ⟨heq, hd, hb⟩ := hf a s₁ D M
    rw [run_bind_ok hrun]
    refine ⟨fun h₂ => ?_, fun hout => (hstops fun h₁ => hout (h₁.of_sizes hd hb)).bind f⟩
    rw [run_bind_ok (hfits (h₂.of_sizes hd.symm hb.symm)), heq]

theorem ite {c : Prop} [Decidable c] {y : ScanM α} (hx : Capped x) (hy : Capped y) :
    Capped (if c then x else y) := by
  split
  · exact hx
  · exact hy

open LexM in
theorem get_bind {k : Lexer → ScanM β} (hk : ∀ s D M e, k ((s.withCaps D M).onEngine e) = k s)
    (hk' : ∀ s, Capped (k s)) : Capped (get >>= k) := by
  intro s D M hD hM hfit
  have hself : k (s.withCaps D M) = k s := hk s D M (s.withCaps D M).env.engine
  obtain ⟨hfits, hstops⟩ := hk' s s D M hD hM hfit
  refine ⟨fun h => by rw [run_get_bind, run_get_bind, hself]; exact hfits h, fun hout => ?_⟩
  obtain ⟨err, t, ns, hone, hd, hb, hrun⟩ := hstops hout
  exact ⟨err, t, ns, hone, hd, hb, fun e => by rw [run_get_bind, hk]; exact hrun e⟩

open LexM in
/-- A store operation that reads the capacities, then what follows its answer: a refusal stops
cleanly. -/
theorem checked {ε : Type} {op : LexM (Except ε Nat)} (hop : LexM.CapOp op)
    {f : Except ε Nat → ScanM β} (hok : ∀ i, ScanM.CapFree (f (.ok i)))
    (herr : ∀ e, ScanM.CapFree (f (.error e)) ∧ ∀ s, (f (.error e)).Stops s) :
    Capped (liftM op >>= f) := by
  intro s D M hD hM hfit
  have hrest : ∀ r, ScanM.CapFree (f r) := fun r => by
    cases r with
    | ok i => exact hok i
    | error e => exact (herr e).1
  rw [run_lift_bind]
  rcases hrun : op.run s with ⟨r, s₁⟩
  obtain ⟨heq, hd, hb⟩ := hrest r s₁ D M
  by_cases h₁ : s₁.FitsIn D M
  · -- what the store leaves fits: with less room it does the same, and so does the rest
    have hsmall := hop.fits s D M hD hM hfit (by rw [hrun]; exact h₁)
    rw [hrun] at hsmall
    exact ⟨fun _ => by rw [run_lift_bind, hsmall]; exact heq,
      fun hout => absurd (h₁.of_sizes hd hb) hout⟩
  · -- with room the store took a new entry, which with less room it refuses
    obtain ⟨e, he⟩ := hop.full s D M hfit (by rw [hrun]; exact h₁)
    refine ⟨fun h₂ => absurd (h₂.of_sizes hd.symm hb.symm) h₁, fun _ => ?_⟩
    obtain ⟨err, t, ns, hone, hd', hb', hstop⟩ := (herr e).2 (s.withCaps D M)
    exact ⟨err, t, ns, hone, hd', hb', fun e' => by rw [run_lift_bind, he e']; exact hstop e'⟩

end ScanM.Capped

/-! ### The scanners

Each proof follows the scanner's text: a `lead` for each step before the check, the check itself
where a name is interned or a literal stored, and what follows the check kept to the capacities. -/

namespace ScanM.Capped

/-- Interning a name: a full dictionary stops the scan cleanly. -/
theorem internName (text : ByteArray) (start stop : Nat) :
    Capped (LexM.internName text start stop) := by
  unfold LexM.internName
  refine checked (.intern text) (fun i => .pure i) fun e => ⟨?_, fun s => ?_⟩
  · exact .bind (.lift (.of_storeBlind (.rangeOf _ _))) fun _ =>
      .bind (.lift (.of_storeBlind (.outOfMemory _ _))) fun _ => .throw _
  · exact Stops.lead_bind (.lift (.rangeOf _ _)) rfl (Stops.outOfMemory (fun _ _ => rfl) _ _ _)

theorem scanIdent (start : Nat) : Capped (LexM.scanIdent start) := by
  unfold LexM.scanIdent
  refine lead (.lift .content) fun bs => lead (.lift (.seek _)) fun _ => ?_
  split
  · exact of_lead (.bind (.lift (.emit _ _)) fun _ => .pure _)
  · exact bind_capFree (internName _ _ _) fun slot =>
      .bind (.lift (.resolve _)) fun entry => .of_lead (.bind (.lift (.emit _ _)) fun _ => .pure _)

theorem scanSigilName (start : Nat) (kind : TokenKind) : Capped (LexM.scanSigilName start kind) := by
  unfold LexM.scanSigilName
  refine lead (.lift .content) fun bs => lead (.lift .pos) fun p => ?_
  refine lead (.lift (.seek _)) fun _ => ?_
  split
  · exact of_lead (.bind (.lift (.emit _ _)) fun _ => .pure _)
  · exact bind_capFree (internName _ _ _) fun slot =>
      .of_lead (.bind (.lift (.emit _ _)) fun _ => .pure _)

theorem scanBracketed (start : Nat) (kind : TokenKind) : Capped (LexM.scanBracketed start kind) := by
  unfold LexM.scanBracketed
  refine lead (.lift .content) fun bs => lead (.lift .pos) fun p => ?_
  dsimp only
  refine ite (lead (.lift (.seek _)) fun _ => ?_) ?_
  · refine ite (of_lead (.bind (.lift (.reportSpan _ _ _ (by decide))) fun _ =>
      .lift (.emitError _))) (ite (of_lead (.bind (.lift (.emit _ _)) fun _ => .pure _)) ?_)
    exact bind_capFree (internName _ _ _) fun slot =>
      .of_lead (.bind (.lift (.emit _ _)) fun _ => .pure _)
  · exact of_lead (.ite (.bind (.lift (.seek _)) fun _ =>
        .bind (.lift (.reportSpan _ _ _ (by decide))) fun _ => .lift (.emitError _))
      (.bind (.lift (.seek _)) fun _ =>
        .bind (.lift (.reportSpan _ _ _ (by decide))) fun _ => .lift (.emitError _)))

/-- A literal: its body, then its token, whose text goes to the store unless the token was cut
to the length ceiling; a full store stops the scan cleanly. -/
theorem scanLiteral (start : Nat) (lit : OpenLiteral) (continuation : Bool) :
    Capped (LexM.scanLiteral start lit continuation) := by
  unfold LexM.scanLiteral
  refine lead (.lift .content) fun bs => lead (.lift .pos) fun p => ?_
  have hnotes := Literal.body_notes bs lit p .empty #[] Literal.escapeNotes_empty
  have hcode : ∀ c ∈ Literal.escapeCodes, c ≠ Code.resOutOfMemory := by decide
  -- each note of the body is an escape problem
  refine lead (.lift (.seek _)) fun _ => lead (.forIn_array _ _ fun n hn _ =>
    .bind (.lift (.reportSpan _ _ _ (hcode _ (hnotes n hn)))) fun _ => .pure _) fun _ => ?_
  -- however the body ends, the token follows, then its text in the store
  extract_lets token
  have htoken : ∀ flow, Capped (token flow) := by
    intro flow
    refine lead (.lift (.emit _ _)) fun x => ?_
    refine ite (pure _) ?_
    refine checked (.store _) (fun i => ?_) fun e => ⟨?_, fun s => ?_⟩
    · exact .bind (.pure _) fun _ => .pure _
    · exact .bind (.lift (.of_storeBlind (.outOfMemory _ _))) fun _ =>
        .bind (.throw _) fun _ => .pure _
    · exact Stops.outOfMemory (fun _ _ => rfl) _ _ _
  split
  · refine lead (.modify (fun _ _ _ => rfl) fun _ _ => rfl) fun _ => ?_
    split
    · exact ite (lead (.lift (.advance 1)) fun _ => lead (.pure _) htoken) (lead (.pure _) htoken)
    · exact lead (.pure _) htoken
  · exact lead (.modify (fun _ _ _ => rfl) fun _ _ => rfl) fun _ => lead (.pure _) htoken
  · exact lead (.modify (fun _ _ _ => rfl) fun _ _ => rfl) fun _ =>
      lead (.lift (.report _ _ (by decide))) fun _ => lead (.pure _) htoken

theorem openLiteral (start stop : Nat) (kind : TokenKind) (style : Style) (cjk : Bool)
    (closer : Nat) : Capped (LexM.openLiteral start stop kind style cjk closer) :=
  lead (.lift (.seek _)) fun _ => lead (.lift (.rangeOf _ _)) fun _ => scanLiteral _ _ _

/-- A scanner that never interns or stores. -/
theorem of_storeBlind {α : Type} {x : LexM α} (h : LexM.StoreBlind x) : Capped (liftM x : ScanM α) :=
  of_capFree (.lift (.of_storeBlind h))

theorem scanAt (start : Nat) : Capped (LexM.scanAt start) := by
  unfold LexM.scanAt
  refine lead (.lift .content) fun bs => ?_
  exact ite (openLiteral _ _ _ _ _ _) (ite (lead (.lift (.seek _)) fun _ =>
    scanSigilName _ _) (of_storeBlind (.loneSigil _)))

theorem scanVar (start : Nat) (kind : TokenKind) : Capped (LexM.scanVar start kind) := by
  unfold LexM.scanVar
  refine lead (.lift .content) fun bs => ?_
  exact ite (lead (.lift (.seek _)) fun _ => scanBracketed _ _)
    (ite (lead (.lift (.seek _)) fun _ => scanSigilName _ _) (of_storeBlind (.loneSigil _)))

theorem scanUnicode (start : Nat) : Capped (LexM.scanUnicode start) := by
  unfold LexM.scanUnicode
  refine lead (.lift .content) fun bs => ?_
  split
  refine ite (of_lead (.bind (.lift (.advance 1)) fun _ =>
    .bind (.lift (.reportSpan _ _ _ (by decide))) fun _ => .lift (.emitError _))) ?_
  split
  · exact openLiteral _ _ _ _ _ _
  · exact ite (openLiteral _ _ _ _ _ _) (ite (scanIdent _) (of_lead (.bind (.lift (.advance _)) fun _ =>
      .bind (.lift (.reportSpan _ _ _ (by decide))) fun _ => .lift (.emitError _))))

/-- Scanning a significant token stops only where it outgrows the capacities, and then cleanly. -/
theorem scan : Capped LexM.scan := by
  unfold LexM.scan
  refine get_bind (fun _ _ _ _ => rfl) fun lx => ?_
  exact ite (scanIdent _) (ite (of_storeBlind (.scanNumber _)) (ite (openLiteral _ _ _ _ _ _)
    (ite (scanAt _) (ite (scanVar _ _) (ite (scanVar _ _)
      (ite (lead (.lift (.seek _)) fun _ => scanSigilName _ _)
        (ite (openLiteral _ _ _ _ _ _) (ite (scanUnicode _) (of_storeBlind (.scanPunct _))))))))))

end ScanM.Capped

/-! ### The stream -/

namespace ScanM.Capped

/-- Resuming a split message: the next piece may need the store, the blank between pieces
never does. -/
theorem continueMessage (lit : OpenLiteral) : Capped (LexM.continueMessage lit) := by
  unfold LexM.continueMessage
  refine get_bind (fun _ _ _ _ => rfl) fun lx => ?_
  refine ite (lead (.lift (.setFlags _)) fun _ => scanLiteral _ _ _) ?_
  refine lead (.lift (.seek _)) fun _ => lead (.lift (.setFlags _)) fun _ => ?_
  extract_lets blank
  exact of_lead (.ite (.bind (.modify (fun _ _ _ => rfl) fun _ _ => rfl) fun _ =>
    .bind (.lift (.setFlags _)) fun _ => .bind (.lift (.report _ _ (by decide))) fun _ => .pure _)
    (.pure _))

theorem hitToken (hit : DirectiveHit) : Capped (LexM.hitToken hit) :=
  of_lead (.bind (.lift (.seek _)) fun _ => .bind (.lift (.emit _ _)) fun _ =>
    .get_bind (fun _ _ _ => rfl) (fun _ _ => rfl) fun _ => .pure _)

theorem significant : Capped LexM.significant := by
  unfold LexM.significant
  refine get_bind (fun _ _ _ _ => rfl) fun lx => ite (of_storeBlind .eof) ?_
  refine lead (.modify (fun _ _ _ => rfl) fun _ _ => rfl) fun _ => ?_
  extract_lets token
  exact ite (lead (.lift (.setFlags _)) fun _ =>
      bind_capFree scan fun _ => .lift (.of_storeBlind (.after _)))
    (bind_capFree scan fun _ => .lift (.of_storeBlind (.after _)))

/-- One token of the stream stops only where it outgrows the capacities, and then cleanly. -/
theorem next : Capped LexM.next := by
  unfold LexM.next
  refine get_bind (fun _ _ _ _ => rfl) fun lx => ?_
  split
  · next lit _ => exact continueMessage lit
  · refine lead (.lift (.applyTrivia _)) fun _ => ?_
    split
    · exact hitToken _
    · exact significant

end ScanM.Capped

/-! ### Calls and runs of `lex` -/

namespace Lexer

/-- A call of `lex` from `s` stops cleanly: it gives an error and hands any engine the same
reports, exactly one of them the report of the full store; the tokenizer it leaves holds the
stores of `s`, and from it every later `peek` and `lex` gives that error and changes nothing,
whatever the engine. -/
def StopsCleanly (s : Lexer) : Prop :=
  ∃ (err : LexError) (t : Lexer) (ns : List Notice), Notice.OneFull ns err.cause ∧
    t.env.dict = s.env.dict ∧ t.env.blobs = s.env.blobs ∧
    (∀ e, Lexer.lex.run (s.onEngine e) = (.error err, t.onEngine (diagnoseAll ns e))) ∧
    ∀ e n, Lexer.peek.run (t.onEngine e) = (.error err, t.onEngine e) ∧
      (t.onEngine e).lexRun n = (List.replicate n (.error err), t.onEngine e)

theorem keep_handOut_env (s : Lexer) (r : Except LexError Token) : ((s.keep r).handOut r).env = s.env := by
  cases r <;> rfl

theorem keep_handOut_withCaps (s : Lexer) (r : Except LexError Token) (D M : Nat) :
    ((s.withCaps D M).keep r).handOut r = ((s.keep r).handOut r).withCaps D M := by
  cases r <;> rfl

/-- One call of `lex` with the capacities `D` and `M`: while the stores a roomier call leaves
fit, it makes that call; where they would not, it stops cleanly. -/
theorem lex_capped (s : Lexer) (D M : Nat) (hD : D ≤ s.env.dict.max) (hM : M ≤ s.env.blobs.max)
    (hfit : s.FitsIn D M) :
    ((Lexer.lex.run s).2.FitsIn D M →
      Lexer.lex.run (s.withCaps D M) = ((Lexer.lex.run s).1, (Lexer.lex.run s).2.withCaps D M)) ∧
    (¬ (Lexer.lex.run s).2.FitsIn D M → (s.withCaps D M).StopsCleanly) := by
  cases herr : s.err with
  | some e =>
    -- a stopped tokenizer reads nothing
    rw [lex_run_of_err herr, lex_run_of_err (s := s.withCaps D M) herr]
    exact ⟨fun _ => rfl, fun hout => absurd hfit hout⟩
  | none =>
    cases hl : s.look with
    | some t =>
      rw [lex_run_eq, lex_run_eq, peek_of_look herr hl, peek_of_look (s := s.withCaps D M) herr hl]
      exact ⟨fun _ => rfl, fun hout => absurd (hfit.of_sizes rfl rfl) hout⟩
    | none =>
      -- a fresh call computes the next token
      have hsame (t : Lexer) (r : Except LexError Token) :
          ((t.keep r).handOut r).FitsIn D M ↔ t.FitsIn D M := by
        simp only [FitsIn, keep_handOut_env]
      obtain ⟨hfits, hstops⟩ := ScanM.Capped.next s D M hD hM hfit
      rw [lex_run_of_fresh herr hl, lex_run_of_fresh (s := s.withCaps D M) herr hl, hsame]
      refine ⟨fun h => by rw [hfits h, keep_handOut_withCaps], fun hout => ?_⟩
      obtain ⟨err, t, ns, hone, hd, hb, hrun⟩ := hstops hout
      -- the error stops the tokenizer, which then keeps giving it
      have hstopped (e : Option Engine) :
          (((t.keep (.error err)).handOut (.error err)).onEngine e).err = some err := rfl
      refine ⟨err, (t.keep (.error err)).handOut (.error err), ns, hone, hd, hb, fun e => ?_,
        fun e n => ⟨peek_of_err (hstopped e), lexRun_of_err (hstopped e) n⟩⟩
      rw [lex_run_of_fresh (s := (s.withCaps D M).onEngine e) herr hl, hrun e]
      rfl

/-- A run only adds to well-formed stores and keeps their capacities. -/
theorem lexRun_grows (n : Nat) {s : Lexer} (hs : s.StoresOk) :
    s.env.dict.size ≤ (s.lexRun n).2.env.dict.size ∧
      s.env.blobs.data.size ≤ (s.lexRun n).2.env.blobs.data.size ∧
      (s.lexRun n).2.env.dict.max = s.env.dict.max ∧ (s.lexRun n).2.env.blobs.max = s.env.blobs.max := by
  have h := lexRun_extends n hs
  exact ⟨h.dict.size_le, h.blobs.size_le hs.blobs, h.dict.max, h.blobs.max⟩

/-- Stores that fit in the end fit all along. -/
theorem FitsIn.of_grows {s s' : Lexer} {D M : Nat} (h : s'.FitsIn D M)
    (hd : s.env.dict.size ≤ s'.env.dict.size) (hb : s.env.blobs.data.size ≤ s'.env.blobs.data.size) :
    s.FitsIn D M :=
  ⟨hd.trans h.1, hb.trans h.2⟩

/-- While the stores of a roomier run fit, a run with the capacities `D` and `M` is that run. -/
theorem lexRun_capped (n : Nat) {s : Lexer} (hs : s.StoresOk) {D M : Nat}
    (hD : D ≤ s.env.dict.max) (hM : M ≤ s.env.blobs.max) (hfit : (s.lexRun n).2.FitsIn D M) :
    (s.withCaps D M).lexRun n = ((s.lexRun n).1, (s.lexRun n).2.withCaps D M) := by
  induction n generalizing s with
  | zero => rfl
  | succ n ih =>
    -- the first call, then the rest of the run from where it leaves the stores
    obtain ⟨hs₁, -⟩ := lex_replays s hs
    obtain ⟨hd₁, hb₁, hdmax, hbmax⟩ := lexRun_grows 1 hs
    obtain ⟨hd₂, hb₂, -, -⟩ := lexRun_grows n hs₁
    rw [lexRun_cons] at hfit ⊢
    have hfit₁ : (Lexer.lex.run s).2.FitsIn D M := hfit.of_grows hd₂ hb₂
    obtain ⟨hcall, -⟩ := lex_capped s D M hD hM (hfit₁.of_grows hd₁ hb₁)
    rw [lexRun_cons, hcall hfit₁, ih hs₁ (hdmax ▸ hD) (hbmax ▸ hM) hfit]

end Lexer

/-! ### What outgrows the stores -/

namespace LexM

open Std.Do

/-- Reading a name new to a dictionary with room interns it: the dictionary grows by one slot. -/
theorem scanIdent_interns_new (start : Nat) (s₀ : Lexer)
    (hfit : identEnd s₀.text start - start ≤ maxTokenLen)
    (hnew : s₀.env.dict.index[s₀.text.extract start (identEnd s₀.text start)]? = none)
    (hroom : s₀.env.dict.size < s₀.env.dict.max) :
    ⦃fun s => ⌜s = s₀⌝⦄ scanIdent start
    ⦃post⟨fun _ s => ⌜s.env.dict.size = s₀.env.dict.size + 1⌝, fun _ _ => ⌜False⌝⟩⦄ := by
  mvcgen -trivial [scanIdent, content, seek, internName, intern, resolve, outOfMemory, rangeOf]
  all_goals subst ‹_ = s₀›
  case vc1 => exact absurd ‹_ > maxTokenLen› (Nat.not_lt.2 hfit)
  case vc2 =>
    -- a new text takes a new slot, and resolving it only retags
    have hl := ‹Dict.lookup _ _ = Except.ok _›
    simp +zetaDelta only at hl
    rcases Dict.lookup_eq_ok hl with ⟨hi, -⟩ | ⟨-, -, -, rfl⟩
    · rw [hi] at hnew
      cases hnew
    · simp only [Lexer.noteEmit_dict, Dict.size_resolve]
      simp only [Dict.size, Array.size_push]
  case vc3 =>
    -- a new text with room is never refused
    have hl := ‹Dict.lookup _ _ = Except.error _›
    simp +zetaDelta only at hl
    unfold Dict.lookup at hl
    rw [hnew, if_neg (by omega)] at hl
    cases hl

end LexM

namespace Lexer

/-- A call that scans a name new to a dictionary with room interns it: the dictionary the call
leaves has one slot more. -/
theorem lex_interns_new_name {s : Lexer} (herr : s.err = none) (hlook : s.look = none)
    (hsc : s.scanning = true) (hid : identStartAt s.text s.trivia.stop = true)
    (hfit : identEnd s.text s.trivia.stop - s.trivia.stop ≤ maxTokenLen)
    (hnew : s.env.dict.index[s.text.extract s.trivia.stop (identEnd s.text s.trivia.stop)]? = none)
    (hroom : s.env.dict.size < s.env.dict.max) :
    (Lexer.lex.run s).2.env.dict.size = s.env.dict.size + 1 := by
  have hid' : identStartAt s.scanState.text s.scanState.off = true := hid
  have hr := ScanM.of_triple (LexM.scanIdent_interns_new s.scanState.off s.scanState hfit hnew hroom) rfl
  rw [← LexM.scan_run_of_identStart hid'] at hr
  rcases hx : LexM.scan.run.run s.scanState with ⟨e | tok, s₂⟩ <;> rw [hx] at hr
  · exact hr.elim
  · -- the grammar update after the scan leaves the stores alone
    rw [LexM.lex_run_of_scan herr hlook hsc hx, keep_handOut_env,
      ((LexM.StoreBlind.after _).stores s₂).1]
    exact hr

/-- A call that scans a string too long for a token gives the error token it is cut into and
leaves both stores as they were. -/
theorem lex_long_string {s : Lexer} (herr : s.err = none) (hlook : s.look = none)
    (hsc : s.scanning = true) (hq : byteAt s.text s.trivia.stop = 0x22)
    (hlong : maxTokenLen < (Literal.body s.text
      ⟨.string, .none, false, 0x22, Range.make s.unit.id s.trivia.stop (s.trivia.stop + 1)⟩
      (s.trivia.stop + 1) .empty #[]).stop - s.trivia.stop) :
    ∃ t, (Lexer.lex.run s).1 = .ok t ∧ t.kind = .error ∧
      (Lexer.lex.run s).2.env.dict = s.env.dict ∧ (Lexer.lex.run s).2.env.blobs = s.env.blobs := by
  have hq' : byteAt s.scanState.text s.scanState.off = 0x22 := hq
  have hr := ScanM.of_triple (LexM.scanLiteral_clamped s.scanState.off
    ⟨.string, .none, false, 0x22, Range.make s.scanState.unit.id s.scanState.off (s.scanState.off + 1)⟩
    false { s.scanState with off := s.scanState.off + 1 } hlong) rfl
  rw [← LexM.openLiteral_run, ← LexM.scan_run_of_quote hq'] at hr
  rcases hx : LexM.scan.run.run s.scanState with ⟨e | tok, s₂⟩ <;> rw [hx] at hr
  · exact hr.elim
  · obtain ⟨hk, hd, hb⟩ := hr
    have hu := LexM.of_triple (LexM.after_spec { tok with lineStart := s.atLineStart } s₂) rfl
    have hst := (LexM.StoreBlind.after { tok with lineStart := s.atLineStart }).stores s₂
    rw [LexM.lex_run_of_scan herr hlook hsc hx, keep_handOut_env, hst.1, hst.2]
    exact ⟨_, rfl, hu.kind.trans hk, hd, hb⟩

end Lexer

/-- A full store stops the tokenizer, cleanly. Run a tokenizer with well-formed stores and, beside
it, the same tokenizer with capacities `D` and `M` at most its own. While the stores of the first
run fit in `D` slots and `M` bytes, the second run gives the same results and leaves the same
tokenizer, but for the capacities. The call after the last one that fits, the first whose stores
would outgrow them, stops the second run cleanly: it gives an error, hands the engine exactly one
report of a full store, leaves the stores as they were before it, and every later `peek` and
`lex` gives the same error and changes nothing. -/
theorem full_store_stops_lexing (s : Lexer) (hs : s.StoresOk) (D M : Nat)
    (hD : D ≤ s.env.dict.max) (hM : M ≤ s.env.blobs.max) (n : Nat) :
    ((s.lexRun n).2.FitsIn D M →
      (s.withCaps D M).lexRun n = ((s.lexRun n).1, (s.lexRun n).2.withCaps D M)) ∧
    ((s.lexRun n).2.FitsIn D M → ¬ (s.lexRun (n + 1)).2.FitsIn D M →
      ((s.lexRun n).2.withCaps D M).StopsCleanly) := by
  refine ⟨Lexer.lexRun_capped n hs hD hM, fun hfit hout => ?_⟩
  obtain ⟨-, -, hdmax, hbmax⟩ := Lexer.lexRun_grows n hs
  rw [Lexer.lexRun_succ] at hout
  exact (Lexer.lex_capped _ D M (hdmax ▸ hD) (hbmax ▸ hM) hfit).2 hout

/-- The law for a number read with room, then a name with no room left for it. -/
theorem full_store_stops_lexing_at_name :
    let s := Lexer.create ⟨0, "a.nvl", ⟨#[0x31, 0x20, 0x61]⟩, #[0], {}⟩ .ignore {}
    s.StoresOk ∧ 0 ≤ s.env.dict.max ∧ 0 ≤ s.env.blobs.max ∧
      (s.lexRun 1).2.FitsIn 0 0 ∧ ¬ (s.lexRun (1 + 1)).2.FitsIn 0 0 ∧
      (s.withCaps 0 0).lexRun 1 = ((s.lexRun 1).1, (s.lexRun 1).2.withCaps 0 0) ∧
      ((s.lexRun 1).2.withCaps 0 0).StopsCleanly := by
  intro s
  have hs : s.StoresOk := ⟨Dict.indexed_empty.named, BlobStore.WF.empty⟩
  -- the number stores nothing
  have hfit : (s.lexRun 1).2.FitsIn 0 0 := by with_unfolding_all decide
  -- the name is new to the empty dictionary, which the number left as it was
  have hgrow : (s.lexRun (1 + 1)).2.env.dict.size = (s.lexRun 1).2.env.dict.size + 1 := by
    rw [Lexer.lexRun_succ]
    refine Lexer.lex_interns_new_name (by with_unfolding_all decide) (by with_unfolding_all decide) (by with_unfolding_all decide)
      (by with_unfolding_all decide) (by with_unfolding_all decide) ?_ (by with_unfolding_all decide)
    exact Std.HashMap.getElem?_eq_none (Std.HashMap.not_mem_of_isEmpty (by with_unfolding_all decide))
  have hout : ¬ (s.lexRun (1 + 1)).2.FitsIn 0 0 := fun h => by
    have := h.1
    omega
  obtain ⟨h₁, h₂⟩ := full_store_stops_lexing s hs 0 0 (Nat.zero_le _) (Nat.zero_le _) 1
  exact ⟨hs, Nat.zero_le _, Nat.zero_le _, hfit, hout, h₁ hfit, h₂ hfit hout⟩

/-- A string of five thousand `a`s that the input ends inside. -/
def longStringUnit : SourceUnit := ⟨0, "", Lexer.headRun 0x22 0x61 5000, #[], {}⟩

/-- A store with room for ten bytes and a new literal of five thousand: the tokenizer does not
stop. The literal is too long for a token, so it is cut into an error token and its text is
never stored. -/
theorem long_string_is_never_stored :
    let s := Lexer.create longStringUnit .ignore { blobs := BlobStore.create 10 }
    ∃ t, (Lexer.lex.run s).1 = .ok t ∧ t.kind = .error ∧
      (Lexer.lex.run s).2.env.blobs = s.env.blobs := by
  intro s
  have hsize : s.text.size = 5001 := Lexer.headRun_size _ _ _
  have hb₀ : byteAt s.text 0 = 0x22 := Lexer.headRun_byteAt_zero _ _ _
  have hbj : ∀ j, 1 ≤ j → j < 5001 → byteAt s.text j = 0x61 :=
    fun _ h₁ h₂ => Lexer.headRun_byteAt _ _ h₁ h₂
  have htriv : s.trivia = ⟨0, false, #[], none⟩ :=
    Trivia.skip_of_start (show 0 < s.text.size by omega) (by rw [hb₀]; rfl) (by rw [hb₀]; rfl)
      (by simp [spaceAt, hb₀]) (by rw [hb₀]; rfl) _ _ _
  have hsc : s.scanning = true := by simp [Lexer.scanning, htriv, hsize]; rfl
  -- the body is five thousand plain letters, and the input ends inside it
  have hbody (lit : OpenLiteral) (hc : lit.closer = 0x22) :
      (Literal.body s.text lit 1 .empty #[]).stop = 5001 :=
    (Literal.body_stop_of_plain _ _ 1 _ _ (by omega) fun j h₁ h₂ => by
      rw [hbj j h₁ (by omega), hc]; decide).trans hsize
  obtain ⟨t, ht, hk, -, hb⟩ := Lexer.lex_long_string rfl rfl hsc (by rw [htriv]; exact hb₀)
    (by rw [htriv]; simp only [Nat.zero_add]; rw [hbody _ rfl]; decide)
  exact ⟨t, ht, hk, hb⟩

end NovelScript

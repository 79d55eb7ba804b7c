import Mathlib
import NovelScript.Proofs.Directive.Runner
import NovelScript.Proofs.Lexer.Grammar
import NovelScript.Proofs.Ident.Dictionary
import NovelScript.Proofs.Blob.Interning
/-!
# Restarting a tokenizer

`Lexer.reset` moves a tokenizer back to the start of its unit with every piece of its own state
fresh, while the dictionary, the string store and the engine it shares keep what the first run
put in them. A second run still hands out exactly the tokens of a fresh run from the stores as
they were at the start, and the engine gets the same reports: a text interned again gets the slot
it got the first time, a literal stored again the index it got, and a capacity check fails
exactly where it failed before.

The stores a run leaves extend the stores of every point of that run (`Dict.ExtendedBy`,
`BlobStore.ExtendedBy`): texts and contents keep their slots and indices, a slot its text and
tag but for a keyword spelling resolved, the capacities are the same, and what was added was
added while there was room. `LexM.Replays x` says that `x`, run against stores that extend the
ones it leaves, does what it does on its own and leaves those stores as they are. It is closed
under the operations of the monad, so each scanner's proof follows its text, as for
`LexM.OnCoreWith`; only interning, resolving and storing read the stores. A run of `lex` then
replays (`Lexer.lexRun_replays`), and `relex_after_reset` is the restart law.
-/

namespace NovelScript

/-! ### Later states of the stores -/

/-- The entry `e'` is `e`, or `e` with its keyword spelling resolved to that keyword. -/
def DictEntry.ExtendedBy (e e' : DictEntry) : Prop :=
  e'.text = e.text ∧
    (e'.tag = e.tag ∨ e.tag = .unresolved ∧ (lookupKeyword? e.text).map .keyword = some e'.tag)

/-- The dictionary `d'` is a later state of `d`: every slot keeps its text, and its tag unless a
keyword spelling was resolved; every text keeps its slot; a text `d` lacks was interned only
while `d` had room; the capacity is the same. -/
structure Dict.ExtendedBy (d d' : Dict) : Prop where
  slot : ∀ s e, d.slot? s = some e → ∃ e', d'.slot? s = some e' ∧ e.ExtendedBy e'
  index : ∀ (text : ByteArray) (s : Nat), d.index[text]? = some s → d'.index[text]? = some s
  fresh : ∀ (text : ByteArray) (s : Nat), d.index[text]? = none → d'.index[text]? = some s →
    d.size < d.max
  max : d'.max = d.max

/-- Every slot the index of `d` names holds an entry. -/
def Dict.Indexed (d : Dict) : Prop :=
  ∀ (text : ByteArray) (s : Nat), d.index[text]? = some s → ∃ e, d.slot? s = some e

/-- Every slot the index of `d` names is at most its size: it holds an entry, or it is the
reserved slot 0, which a new text is given when its slot wraps at 2^32. -/
def Dict.Named (d : Dict) : Prop :=
  ∀ (text : ByteArray) (s : Nat), d.index[text]? = some s → s ≤ d.size

namespace Dict

variable {d d' E : Dict} {text : ByteArray} {reg : Nat → Prop}

theorem indexed_empty : ({} : Dict).Indexed := by
  intro text s hs
  simp at hs

theorem Indexed.named (hd : d.Indexed) : d.Named := by
  intro text s hs
  obtain ⟨e, he⟩ := hd text s hs
  exact (slot?_bounds he).2

theorem ExtendedBy.refl (d : Dict) : d.ExtendedBy d where
  slot s e he := ⟨e, he, rfl, .inl rfl⟩
  index _ _ h := h
  fresh _ _ h h' := by rw [h] at h'; cases h'
  max := rfl

/-- A later dictionary has at least as many slots. -/
theorem ExtendedBy.size_le (h : d.ExtendedBy E) : d.size ≤ E.size := by
  rcases Nat.eq_zero_or_pos d.size with h0 | hpos
  · omega
  have hlt : d.size - 1 < d.entries.size := by
    simp only [size] at hpos ⊢
    omega
  have he : d.slot? d.size = some d.entries[d.size - 1] := by
    unfold slot?
    rw [if_neg (by omega)]
    exact Array.getElem?_eq_getElem hlt
  obtain ⟨e', he', -⟩ := h.slot _ _ he
  exact (slot?_bounds he').2

/-- A new text in a dictionary with room: the extensions of the grown dictionary are
extensions of the old one, and they give the text the slot it was given. -/
theorem ExtendedBy.lookup_ok {s : Nat} (hl : d.lookup text = .ok (s, d')) (h : d'.ExtendedBy E) :
    d.ExtendedBy E ∧ E.lookup text = .ok (s, E) := by
  rcases lookup_eq_ok hl with ⟨hi, rfl⟩ | ⟨hi, hlt, -, rfl⟩
  · exact ⟨h, by simp [lookup, h.index _ _ hi]⟩
  have hE : E.index[text]? = some s := h.index _ _ (by simp)
  refine ⟨⟨?_, ?_, ?_, ?_⟩, by simp [lookup, hE]⟩
  · -- the old slots sit below the new one
    intro s e he
    refine h.slot s e ?_
    rw [slot?_push, if_neg (by have := slot?_bounds he; omega)]
    exact he
  · intro text' s hs
    have hne : (text == text') = false := by
      simp only [beq_eq_false_iff_ne, ne_eq]
      rintro rfl
      rw [hi] at hs
      cases hs
    exact h.index text' s (by rw [Std.HashMap.getElem?_insert, hne]; exact hs)
  · intro text' s hs hs'
    by_cases heq : text' = text
    · exact hlt
    · have hne : (text == text') = false := by simpa using Ne.symm heq
      have := h.fresh text' s (by rw [Std.HashMap.getElem?_insert, hne]; exact hs) hs'
      simp only [size, Array.size_push] at this ⊢
      omega
  · exact h.max

/-- A full dictionary stays full: an extension refuses the text it refused. -/
theorem ExtendedBy.lookup_error {e : DictFull} (hl : d.lookup text = .error e) (h : d.ExtendedBy E) :
    E.lookup text = .error e := by
  unfold lookup at hl
  split at hl
  · cases hl
  rename_i hi
  split at hl
  · cases hl
    rename_i hfull
    have hE : E.index[text]? = none := by
      rcases hx : E.index[text]? with _ | s
      · rfl
      · exact absurd (h.fresh text s hi hx) (by omega)
    have hsize := h.size_le
    unfold lookup
    rw [hE, if_pos (by rw [h.max]; omega)]
  · cases hl

/-- Interning keeps the slots the index names within the dictionary, the new one included:
wrapped or not, it is at most the new size. -/
theorem lookup_named (hd : d.Named) {s : Nat} (hl : d.lookup text = .ok (s, d')) :
    d'.Named ∧ d'.index[text]? = some s ∧ s ≤ d'.size := by
  rcases lookup_eq_ok hl with ⟨hi, rfl⟩ | ⟨hi, -, rfl, rfl⟩
  · exact ⟨hd, hi, hd text s hi⟩
  have hsize : d.size + 1 ≤ ({ d with entries := d.entries.push ⟨text, .unresolved⟩ } : Dict).size := by
    simp [size]
  have hnew : (d.size + 1) % 2 ^ 32 ≤ d.size + 1 := Nat.mod_le _ _
  refine ⟨fun text' s' hs' => ?_, by simp, by simp only [size, Array.size_push] at hsize ⊢; omega⟩
  rw [Std.HashMap.getElem?_insert] at hs'
  split at hs'
  · cases hs'
    simp only [size, Array.size_push] at hsize ⊢
    omega
  · have := hd text' s' hs'
    simp only [size, Array.size_push] at this ⊢
    omega

theorem Named.setTag (hd : d.Named) (s : Nat) (tag : SlotTag) : (d.setTag s tag).Named := by
  intro text s' hs'
  rw [setTag_index] at hs'
  rw [setTag_size]
  exact hd text s' hs'

/-- Resolving a slot whose keyword spelling is not yet resolved tags it as that keyword. -/
theorem resolve_of_keyword {s k : Nat} {e : DictEntry} (he : d.slot? s = some e)
    (hu : e.tag = .unresolved) (hk : lookupKeyword? e.text = some k) :
    d.resolve s = (some { e with tag := .keyword k }, d.setTag s (.keyword k)) := by
  rw [resolve_eq, he]
  simp only [hu, hk]

/-- Resolving any other slot answers its entry and changes nothing. -/
theorem resolve_of_settled {s : Nat} {e : DictEntry} (he : d.slot? s = some e)
    (hs : ∀ k, e.tag = .unresolved → lookupKeyword? e.text ≠ some k) : d.resolve s = (some e, d) := by
  rw [resolve_eq, he]
  dsimp only
  split
  · rename_i k hu hk
    exact absurd hk (hs k hu)
  · rfl

theorem Named.resolve (hd : d.Named) (s : Nat) : (d.resolve s).2.Named := by
  rw [resolve_eq]
  split
  · exact hd
  · split
    · exact hd.setTag _ _
    · exact hd

/-- Retagging a slot: the extensions of the retagged dictionary that keep the new tag extend the
old one. -/
theorem ExtendedBy.of_setTag {s k : Nat} {e : DictEntry} (he : d.slot? s = some e)
    (hu : e.tag = .unresolved) (hk : lookupKeyword? e.text = some k)
    (h : (d.setTag s (.keyword k)).ExtendedBy E) : d.ExtendedBy E where
  slot t e₀ h₀ := by
    by_cases hts : t = s
    · subst hts
      obtain rfl : e = e₀ := Option.some.inj (he.symm.trans h₀)
      have hs' : (d.setTag t (.keyword k)).slot? t = some { e with tag := .keyword k } := by
        rw [slot?_setTag, if_pos rfl, he]
        rfl
      obtain ⟨e', hE, htext, htag⟩ := h.slot _ _ hs'
      refine ⟨e', hE, htext, .inr ⟨hu, ?_⟩⟩
      rcases htag with htag | ⟨hu', -⟩
      · rw [hk, htag]
        rfl
      · cases hu'
    · exact h.slot t e₀ (by rw [slot?_setTag, if_neg hts]; exact h₀)
  index t s' hs' := h.index t s' (by rw [setTag_index]; exact hs')
  fresh t s' hs' hE := by
    have := h.fresh t s' (by rw [setTag_index]; exact hs') hE
    rwa [setTag_size, setTag_max] at this
  max := h.max.trans (setTag_max _ _)

/-- Resolving a slot against a later dictionary: the later one has the slot resolved already,
so it answers the same entry and stays as it is. -/
theorem ExtendedBy.resolve {s : Nat} {e : DictEntry} (he : d.slot? s = some e)
    (h : (d.resolve s).2.ExtendedBy E) : d.ExtendedBy E ∧ E.resolve s = ((d.resolve s).1, E) := by
  by_cases hkw : ∃ k, e.tag = .unresolved ∧ lookupKeyword? e.text = some k
  · obtain ⟨k, hu, hk⟩ := hkw
    rw [resolve_of_keyword he hu hk] at h ⊢
    have hs' : (d.setTag s (.keyword k)).slot? s = some { e with tag := .keyword k } := by
      rw [slot?_setTag, if_pos rfl, he]
      rfl
    obtain ⟨e', hE, htext, htag⟩ := h.slot _ _ hs'
    have htag' : e'.tag = .keyword k := by
      rcases htag with htag | ⟨hu', -⟩
      · exact htag
      · cases hu'
    refine ⟨h.of_setTag he hu hk, ?_⟩
    have he' : e' = { e with tag := .keyword k } := by
      cases e'
      simp_all
    rw [resolve_of_settled hE (fun k' hu' => by rw [htag'] at hu'; cases hu'), he']
  · have hs : ∀ k, e.tag = .unresolved → lookupKeyword? e.text ≠ some k :=
      fun k hu hk => hkw ⟨k, hu, hk⟩
    rw [resolve_of_settled he hs] at h ⊢
    obtain ⟨e', hE, htext, htag⟩ := h.slot s e he
    -- a settled slot keeps its tag in every later dictionary
    have he' : e' = e := by
      rcases htag with htag | ⟨hu, hk⟩
      · cases e'
        cases e
        simp_all
      · obtain ⟨k, hk', -⟩ := Option.map_eq_some_iff.1 hk
        exact absurd hk' (hs k hu)
    subst he'
    exact ⟨h, resolve_of_settled hE hs⟩

/-- Resolving a slot of `d`, or the reserved slot 0, against a later dictionary. -/
theorem ExtendedBy.resolve_of_le {s : Nat} (hs : s ≤ d.size) (h : (d.resolve s).2.ExtendedBy E) :
    d.ExtendedBy E ∧ E.resolve s = ((d.resolve s).1, E) := by
  rcases Nat.eq_zero_or_pos s with rfl | hpos
  · -- slot 0 holds nothing in any dictionary, so resolving it changes nothing
    exact ⟨h, rfl⟩
  obtain ⟨e, he⟩ := slot?_of_le (by omega) hs
  exact h.resolve he

end Dict

/-! ### Replaying a step against later stores -/

namespace Lexer

variable {s s' : Lexer} {d : Dict} {b : BlobStore}

/-- The tokenizer `s` sharing the dictionary `d` and the store `b` in place of its own. -/
def withStores (s : Lexer) (d : Dict) (b : BlobStore) : Lexer :=
  { s with env := { s.env with dict := d, blobs := b } }

@[simp] theorem withStores_dict (s : Lexer) (d : Dict) (b : BlobStore) :
    (s.withStores d b).env.dict = d := rfl

@[simp] theorem withStores_blobs (s : Lexer) (d : Dict) (b : BlobStore) :
    (s.withStores d b).env.blobs = b := rfl

@[simp] theorem withStores_self (s : Lexer) : s.withStores s.env.dict s.env.blobs = s := rfl

@[simp] theorem withStores_withStores (s : Lexer) (d d' : Dict) (b b' : BlobStore) :
    (s.withStores d b).withStores d' b' = s.withStores d' b' := rfl

/-- The stores of `s` are in the shape every run keeps: the index of the dictionary names only
slots within it, and the string store is well formed. -/
structure StoresOk (s : Lexer) : Prop where
  dict : s.env.dict.Named
  blobs : s.env.blobs.WF

/-- Well-formed stores depend on the stores alone. -/
theorem StoresOk.of_stores (h : s.StoresOk) (hd : s'.env.dict = s.env.dict)
    (hb : s'.env.blobs = s.env.blobs) : s'.StoresOk :=
  ⟨hd ▸ h.dict, hb ▸ h.blobs⟩

/-- The stores of `s` are extended by `d` and `b`. -/
structure StoresExtendedBy (s : Lexer) (d : Dict) (b : BlobStore) : Prop where
  dict : s.env.dict.ExtendedBy d
  blobs : s.env.blobs.ExtendedBy b

theorem StoresExtendedBy.refl (h : s.StoresOk) : s.StoresExtendedBy s.env.dict s.env.blobs :=
  ⟨.refl _, .refl h.blobs⟩

/-- Extensions of the stores depend on the stores alone. -/
theorem StoresExtendedBy.of_stores (h : s'.StoresExtendedBy d b) (hd : s'.env.dict = s.env.dict)
    (hb : s'.env.blobs = s.env.blobs) : s.StoresExtendedBy d b :=
  ⟨hd ▸ h.dict, hb ▸ h.blobs⟩

end Lexer

/-- `x` never reads or writes the stores: run with other stores in place of its own, it gives its
result and leaves its state with those stores. -/
def LexM.StoreBlind {α : Type} (x : LexM α) : Prop :=
  ∀ (s : Lexer) (d : Dict) (b : BlobStore),
    x.run (s.withStores d b) = ((x.run s).1, (x.run s).2.withStores d b)

namespace LexM.StoreBlind

variable {α β γ : Type} {x : LexM α}

/-- A step blind to the stores leaves them as they were. -/
theorem stores (h : StoreBlind x) (s : Lexer) :
    (x.run s).2.env.dict = s.env.dict ∧ (x.run s).2.env.blobs = s.env.blobs := by
  have h' := congrArg Prod.snd (h s s.env.dict s.env.blobs)
  rw [Lexer.withStores_self] at h'
  rw [h']
  exact ⟨rfl, rfl⟩

theorem pure (a : α) : StoreBlind (Pure.pure a : LexM α) := fun _ _ _ => rfl

theorem bind {f : α → LexM β} (hx : StoreBlind x) (hf : ∀ a, StoreBlind (f a)) :
    StoreBlind (x >>= f) := by
  intro s d b
  simp only [OnCore.run_bind]
  rw [hx, hf]

theorem get_bind {k : Lexer → LexM β} (hk : ∀ s d b, k (s.withStores d b) = k s)
    (hk' : ∀ s, StoreBlind (k s)) : StoreBlind (get >>= k) := by
  intro s d b
  simp only [OnCore.run_get_bind]
  rw [hk, hk']

theorem modify {f : Lexer → Lexer} (hf : ∀ s d b, f (s.withStores d b) = (f s).withStores d b) :
    StoreBlind (modify f) :=
  fun s d b => congrArg (Prod.mk ()) (hf s d b)

theorem ite {c : Prop} [Decidable c] {y : LexM α} (hx : StoreBlind x) (hy : StoreBlind y) :
    StoreBlind (if c then x else y) := by
  split
  · exact hx
  · exact hy

theorem forIn_list (xs : List γ) (b : β) {f : γ → β → LexM (ForInStep β)}
    (hf : ∀ a ∈ xs, ∀ b, StoreBlind (f a b)) : StoreBlind (forIn xs b f) := by
  induction xs generalizing b with
  | nil => exact pure b
  | cons a xs ih =>
    rw [List.forIn_cons]
    refine bind (hf a List.mem_cons_self b) fun r => ?_
    cases r with
    | done b => exact pure b
    | yield b => exact ih b fun a ha => hf a (List.mem_cons_of_mem _ ha)

/-- A step given in closed form that neither reads nor writes the stores. -/
theorem of_run {a : Lexer → α} {f : Lexer → Lexer} (hx : ∀ s, x.run s = (a s, f s))
    (ha : ∀ s d b, a (s.withStores d b) = a s)
    (hf : ∀ s d b, f (s.withStores d b) = (f s).withStores d b) : StoreBlind x := by
  intro s d b
  rw [hx, hx, ha, hf]

/-! #### The primitives -/

theorem report (r : Range) (c : Code) (a : Array Arg) : StoreBlind (LexM.report r c a) :=
  modify fun s _ _ => by obtain ⟨_, _, ⟨_, _, _ | _⟩⟩ := s <;> rfl

theorem seek (i : Nat) : StoreBlind (LexM.seek i) := modify fun _ _ _ => rfl

theorem advance (n : Nat) : StoreBlind (LexM.advance n) := modify fun _ _ _ => rfl

theorem setFlags (f : LexFlags → LexFlags) : StoreBlind (LexM.setFlags f) :=
  modify fun _ _ _ => rfl

theorem pos : StoreBlind LexM.pos := get_bind (fun _ _ _ => rfl) fun _ => pure _

theorem peek : StoreBlind LexM.peek :=
  get_bind (fun _ _ _ => rfl) fun _ => get_bind (fun _ _ _ => rfl) fun _ => pure _

theorem content : StoreBlind LexM.content := get_bind (fun _ _ _ => rfl) fun _ => pure _

theorem rangeOf (a b : Nat) : StoreBlind (LexM.rangeOf a b) :=
  get_bind (fun _ _ _ => rfl) fun _ => pure _

theorem reportSpan (a b : Nat) (c : Code) (args : Array Arg) :
    StoreBlind (LexM.reportSpan a b c args) :=
  bind (rangeOf a b) fun _ => report _ _ _

theorem emit (kind : TokenKind) (start : Nat) : StoreBlind (LexM.emit kind start) := by
  unfold LexM.emit
  refine bind pos fun stop => ?_
  dsimp only
  refine ite (ite ?_ ?_) ?_
  · exact bind (reportSpan _ _ _ _) fun _ => get_bind (fun _ _ _ => rfl) fun _ => pure _
  all_goals exact get_bind (fun _ _ _ => rfl) fun _ => pure _

theorem emitError (start : Nat) : StoreBlind (LexM.emitError start) :=
  bind (emit _ _) fun _ => pure _

theorem outOfMemory (r : Range) (cause : CapacityError) : StoreBlind (LexM.outOfMemory r cause) :=
  bind (report _ _ _) fun _ => get_bind (fun _ _ _ => rfl) fun _ => pure _

theorem applyTrivia (t : Trivia) : StoreBlind (LexM.applyTrivia t) :=
  of_run (applyTrivia_run t) (fun _ _ _ => rfl) fun _ _ _ => rfl

/-! #### The scanners that never touch the stores

Each proof follows the scanner's text: a `bind` for each step, a split for each test. -/

theorem loneSigil (start : Nat) : StoreBlind (LexM.loneSigil start) :=
  bind peek fun _ => bind (advance 1) fun _ => bind (reportSpan _ _ _ _) fun _ => emitError start

theorem suffixInfo (start : Nat) (suffix : ByteArray) : StoreBlind (LexM.suffixInfo start suffix) := by
  unfold LexM.suffixInfo
  dsimp only
  split
  · exact pure _
  · exact bind pos fun _ => bind (reportSpan _ _ _ _) fun _ => pure _

theorem finishInt (start val : Nat) (overflow : Bool) (suffix : ByteArray) :
    StoreBlind (LexM.finishInt start val overflow suffix) := by
  unfold LexM.finishInt
  refine bind (emit _ _) fun p => ?_
  dsimp only
  refine ite (pure _) (ite (bind (report _ _ _) fun _ => ?_) ?_)
  all_goals
    refine bind (suffixInfo _ _) fun info => ?_
    refine ite (pure _) (ite (pure _) (ite ?_ (ite ?_ (pure _))))
    all_goals exact bind (report _ _ _) fun _ => pure _

theorem finishFloat (start : Nat) (bits : UInt64) (suffix : ByteArray) :
    StoreBlind (LexM.finishFloat start bits suffix) := by
  unfold LexM.finishFloat
  refine bind (emit _ _) fun p => ?_
  dsimp only
  refine ite (pure _) (bind (suffixInfo _ _) fun info => ?_)
  exact ite (bind (report _ _ _) fun _ => pure _) (pure _)

theorem scanNumber (start : Nat) : StoreBlind (LexM.scanNumber start) := by
  unfold LexM.scanNumber
  refine bind content fun bs => bind (seek _) fun _ => ?_
  dsimp only
  split
  · exact bind (reportSpan _ _ _ _) fun _ => emitError _
  · exact bind (reportSpan _ _ _ _) fun _ => emitError _
  · exact ite (bind (reportSpan _ _ _ _) fun _ => finishFloat _ _ _) (finishFloat _ _ _)
  · exact finishInt _ _ _ _

theorem scanPunct (start : Nat) : StoreBlind (LexM.scanPunct start) := by
  unfold LexM.scanPunct
  refine bind content fun bs => ?_
  dsimp only
  split
  · exact bind (advance 1) fun _ => bind (emit _ _) fun _ => pure _
  · split
    · exact bind (advance _) fun _ => bind (emit _ _) fun _ => pure _
    · exact bind (advance 1) fun _ => bind (reportSpan _ _ _ _) fun _ => emitError _

theorem close (n : Nat) (place : Range) (spelling : String) :
    StoreBlind (LexM.close n place spelling) :=
  ite (bind (report _ _ _) fun _ => pure _) (pure _)

theorem after (tok : Token) : StoreBlind (LexM.after tok) := by
  unfold LexM.after
  refine get_bind (fun _ _ _ => rfl) fun lx => ?_
  dsimp only
  refine ite (bind (report _ _ _) fun _ => bind (setFlags _) fun _ => ?_) ?_
  all_goals
    refine bind (setFlags _) fun _ => get_bind (fun _ _ _ => rfl) fun lx' => ?_
    split
    · exact ite (bind (setFlags _) fun _ => pure _)
        (ite (ite (bind (report _ _ _) fun _ => pure _)
          (bind (setFlags _) fun _ => bind (modify fun _ _ _ => rfl) fun _ => pure _)) (pure _))
    · exact bind (setFlags _) fun _ => pure _
    · exact bind (setFlags _) fun _ => pure _
    · exact bind (modify fun _ _ _ => rfl) fun _ => pure _
    · exact bind (close _ _ _) fun _ => bind (modify fun _ _ _ => rfl) fun _ => pure _
    · exact bind (modify fun _ _ _ => rfl) fun _ => pure _
    · exact bind (close _ _ _) fun _ => bind (modify fun _ _ _ => rfl) fun _ => pure _
    · exact bind (modify fun _ _ _ => rfl) fun _ =>
        ite (bind (setFlags _) fun _ => bind (modify fun _ _ _ => rfl) fun _ => pure _) (pure _)
    · refine ite (bind (setFlags _) fun _ => bind (modify fun _ _ _ => rfl) fun _ =>
        bind (pure _) fun _ => ?_) (bind (pure _) fun _ => ?_)
      all_goals exact bind (close _ _ _) fun _ => bind (modify fun _ _ _ => rfl) fun _ => pure _
    · exact pure _

theorem eof : StoreBlind LexM.eof := by
  unfold LexM.eof
  refine get_bind (fun _ _ _ => rfl) fun lx => ?_
  dsimp only
  refine ite (bind (modify fun _ _ _ => rfl) fun _ =>
    ite (bind (report _ _ _) fun _ => bind (setFlags _) fun _ => ?_) ?_) (pure _)
  all_goals exact bind (rangeOf _ _) fun place => bind (forIn_list _ _ fun _ _ _ =>
    ite (bind (report _ _ _) fun _ => pure _) (pure _)) fun _ => pure _

end LexM.StoreBlind

/-- `x` replays against later stores: from a tokenizer with well-formed stores it keeps them so,
and run with stores that extend the ones it leaves, it gives its own result,
moves the rest of the tokenizer as it does, and leaves those stores as they are; they extend
the stores it started from too. -/
def LexM.Replays {α : Type} (x : LexM α) : Prop :=
  ∀ s : Lexer, s.StoresOk → (x.run s).2.StoresOk ∧
    ∀ d b, (x.run s).2.StoresExtendedBy d b → s.StoresExtendedBy d b ∧
      x.run (s.withStores d b) = ((x.run s).1, (x.run s).2.withStores d b)

/-- A scan step replays against later stores. -/
def ScanM.Replays {α : Type} (x : ScanM α) : Prop := LexM.Replays x.run

namespace LexM.Replays

variable {α β γ : Type}

theorem pure (a : α) : Replays (pure a : LexM α) := fun _ hs => ⟨hs, fun _ _ h => ⟨h, rfl⟩⟩

theorem bind {x : LexM α} {f : α → LexM β} (hx : Replays x) (hf : ∀ a, Replays (f a)) :
    Replays (x >>= f) := by
  intro s hs
  simp only [OnCore.run_bind]
  obtain ⟨hs₁, hx'⟩ := hx s hs
  obtain ⟨hs₂, hf'⟩ := hf (x.run s).1 (x.run s).2 hs₁
  refine ⟨hs₂, fun d b h => ?_⟩
  -- the continuation first, back to the stores `x` left; then `x` itself
  obtain ⟨h₁, hrun₁⟩ := hf' d b h
  obtain ⟨h₀, hrun₀⟩ := hx' d b h₁
  exact ⟨h₀, by rw [hrun₀]; exact hrun₁⟩

/-- A step that reads the tokenizer but not its stores. -/
theorem get_bind {k : Lexer → LexM β} (hk : ∀ s d b, k (s.withStores d b) = k s)
    (hk' : ∀ s, Replays (k s)) : Replays (get >>= k) := by
  intro s hs
  simp only [OnCore.run_get_bind]
  obtain ⟨hs', h⟩ := hk' s s hs
  exact ⟨hs', fun d b hd => by rw [hk]; exact h d b hd⟩

/-- A step blind to the stores replays against any stores. -/
theorem of_storeBlind {x : LexM α} (h : StoreBlind x) : Replays x := by
  intro s hs
  obtain ⟨hd, hb⟩ := h.stores s
  exact ⟨hs.of_stores hd hb, fun d b hext => ⟨hext.of_stores hd hb, h s d b⟩⟩

/-- A change of the tokenizer that leaves its stores alone. -/
theorem modify {f : Lexer → Lexer} (hf : ∀ s d b, f (s.withStores d b) = (f s).withStores d b) :
    Replays (modify f) :=
  of_storeBlind (StoreBlind.modify hf)

theorem ite {c : Prop} [Decidable c] {x y : LexM α} (hx : Replays x) (hy : Replays y) :
    Replays (if c then x else y) := by
  split
  · exact hx
  · exact hy

/-! #### The primitives -/

theorem report (r : Range) (c : Code) (a : Array Arg) : Replays (LexM.report r c a) :=
  of_storeBlind (StoreBlind.report r c a)

theorem seek (i : Nat) : Replays (LexM.seek i) := of_storeBlind (StoreBlind.seek i)

theorem advance (n : Nat) : Replays (LexM.advance n) := of_storeBlind (StoreBlind.advance n)

theorem setFlags (f : LexFlags → LexFlags) : Replays (LexM.setFlags f) :=
  of_storeBlind (StoreBlind.setFlags f)

theorem pos : Replays LexM.pos := of_storeBlind StoreBlind.pos

theorem content : Replays LexM.content := of_storeBlind StoreBlind.content

theorem rangeOf (a b : Nat) : Replays (LexM.rangeOf a b) := of_storeBlind (StoreBlind.rangeOf a b)

theorem reportSpan (a b : Nat) (c : Code) (args : Array Arg) : Replays (LexM.reportSpan a b c args) :=
  of_storeBlind (StoreBlind.reportSpan a b c args)

theorem emit (kind : TokenKind) (start : Nat) : Replays (LexM.emit kind start) :=
  of_storeBlind (StoreBlind.emit kind start)

theorem emitError (start : Nat) : Replays (LexM.emitError start) :=
  of_storeBlind (StoreBlind.emitError start)

theorem outOfMemory (r : Range) (cause : CapacityError) : Replays (LexM.outOfMemory r cause) :=
  of_storeBlind (StoreBlind.outOfMemory r cause)

theorem applyTrivia (t : Trivia) : Replays (LexM.applyTrivia t) :=
  of_storeBlind (StoreBlind.applyTrivia t)

theorem loneSigil (start : Nat) : Replays (LexM.loneSigil start) :=
  of_storeBlind (StoreBlind.loneSigil start)

theorem scanNumber (start : Nat) : Replays (LexM.scanNumber start) :=
  of_storeBlind (StoreBlind.scanNumber start)

theorem scanPunct (start : Nat) : Replays (LexM.scanPunct start) :=
  of_storeBlind (StoreBlind.scanPunct start)

theorem after (tok : Token) : Replays (LexM.after tok) := of_storeBlind (StoreBlind.after tok)

theorem eof : Replays LexM.eof := of_storeBlind StoreBlind.eof

end LexM.Replays

/-! #### The stores -/

namespace LexM

theorem intern_run (text : ByteArray) (s : Lexer) :
    (intern text).run s = match s.env.dict.lookup text with
      | .ok (slot, d) => (.ok slot, s.withStores d s.env.blobs)
      | .error e => (.error e, s) := by
  unfold intern
  rw [OnCore.run_get_bind]
  rcases s.env.dict.lookup text with e | ⟨slot, d⟩ <;> rfl

theorem store_run (text : ByteArray) (s : Lexer) :
    (store text).run s = match s.env.blobs.intern text with
      | .ok (i, b) => (.ok i, s.withStores s.env.dict b)
      | .error e => (.error e, s) := by
  unfold store
  rw [OnCore.run_get_bind]
  rcases s.env.blobs.intern text with e | ⟨i, b⟩ <;> rfl

theorem resolve_run (slot : Nat) (s : Lexer) :
    (resolve slot).run s =
      ((s.env.dict.resolve slot).1, s.withStores (s.env.dict.resolve slot).2 s.env.blobs) := rfl

end LexM

namespace LexM.Replays

/-- Interning against a later dictionary: a text it holds keeps its slot, and a full dictionary
refuses again. -/
theorem intern (text : ByteArray) : Replays (LexM.intern text) := by
  intro s hs
  simp only [intern_run]
  rcases hl : s.env.dict.lookup text with e | ⟨slot, d'⟩
  · refine ⟨hs, fun d b h => ⟨h, ?_⟩⟩
    simp only [Lexer.withStores_dict, h.dict.lookup_error hl]
  · refine ⟨⟨(Dict.lookup_named hs.dict hl).1, hs.blobs⟩, fun d b h => ?_⟩
    obtain ⟨hd, hl'⟩ := h.dict.lookup_ok hl
    refine ⟨⟨hd, h.blobs⟩, ?_⟩
    simp only [Lexer.withStores_dict, hl']
    rfl

/-- Storing against a later store: a content it holds keeps its index, and content that did
not fit does not fit again. -/
theorem store (text : ByteArray) : Replays (LexM.store text) := by
  intro s hs
  simp only [store_run]
  rcases hi : s.env.blobs.intern text with e | ⟨i, b'⟩
  · refine ⟨hs, fun d b h => ⟨h, ?_⟩⟩
    simp only [Lexer.withStores_blobs, h.blobs.intern_error hs.blobs hi]
  · refine ⟨⟨hs.dict, (hs.blobs.intern hi).2⟩, fun d b h => ?_⟩
    obtain ⟨hb, hi'⟩ := h.blobs.intern_ok hs.blobs hi
    refine ⟨⟨h.dict, hb⟩, ?_⟩
    simp only [Lexer.withStores_blobs, hi']
    rfl

end LexM.Replays

namespace ScanM.Replays

variable {α β γ : Type}

theorem pure (a : α) : Replays (Pure.pure a : ScanM α) := LexM.Replays.pure _

theorem throw (e : LexError) : Replays (MonadExcept.throw e : ScanM α) := LexM.Replays.pure _

theorem lift {x : LexM α} (hx : LexM.Replays x) : Replays (liftM x : ScanM α) :=
  LexM.Replays.bind hx fun _ => LexM.Replays.pure _

theorem bind {x : ScanM α} {f : α → ScanM β} (hx : Replays x) (hf : ∀ a, Replays (f a)) :
    Replays (x >>= f) := by
  unfold Replays
  rw [ExceptT.run_bind]
  refine LexM.Replays.bind hx fun r => ?_
  cases r with
  | error e => exact LexM.Replays.pure _
  | ok a => exact hf a

theorem ite {c : Prop} [Decidable c] {x y : ScanM α} (hx : Replays x) (hy : Replays y) :
    Replays (if c then x else y) := by
  split
  · exact hx
  · exact hy

theorem get_bind {k : Lexer → ScanM β} (hk : ∀ s d b, k (s.withStores d b) = k s)
    (hk' : ∀ s, Replays (k s)) : Replays (get >>= k) :=
  LexM.Replays.get_bind (k := fun s => (k s).run) (fun s d b => by rw [hk]) hk'

theorem modify {f : Lexer → Lexer} (hf : ∀ s d b, f (s.withStores d b) = (f s).withStores d b) :
    Replays (modify f : ScanM Unit) :=
  LexM.Replays.bind (LexM.Replays.modify hf) fun _ => LexM.Replays.pure _

theorem forIn_array (xs : Array γ) (b : β) {f : γ → β → ScanM (ForInStep β)}
    (hf : ∀ a ∈ xs, ∀ b, Replays (f a b)) : Replays (forIn xs b f) := by
  rw [← Array.forIn_toList]
  replace hf : ∀ a ∈ xs.toList, ∀ b, Replays (f a b) := fun a ha =>
    hf a (Array.mem_toList_iff.1 ha)
  generalize xs.toList = l at hf
  induction l generalizing b with
  | nil => exact pure b
  | cons a xs ih =>
    rw [List.forIn_cons]
    refine bind (hf a List.mem_cons_self b) fun r => ?_
    cases r with
    | done b => exact pure b
    | yield b => exact ih b fun a ha => hf a (List.mem_cons_of_mem _ ha)

open LexM.Replays in
theorem internName (text : ByteArray) (start stop : Nat) :
    Replays (LexM.internName text start stop) := by
  unfold LexM.internName
  refine bind (lift (intern _)) fun r => ?_
  split
  · exact pure _
  · exact bind (lift (rangeOf _ _)) fun _ => bind (lift (outOfMemory _ _)) fun _ => throw _

end ScanM.Replays

namespace LexM

/-- A name that got its slot was interned: the dictionary gave that slot, and nothing else of
the tokenizer changed. -/
theorem internName_run_ok {text : ByteArray} {start stop slot : Nat} {s s₁ : Lexer}
    (h : (internName text start stop).run.run s = (.ok slot, s₁)) :
    s.env.dict.lookup text = .ok (slot, s₁.env.dict) ∧ s₁ = s.withStores s₁.env.dict s.env.blobs := by
  unfold internName at h
  rw [run_lift_bind, intern_run] at h
  rcases hl : s.env.dict.lookup text with e | ⟨slot', d⟩ <;> rw [hl] at h
  · exact absurd (congrArg Prod.fst h) nofun
  · cases h
    exact ⟨rfl, rfl⟩

end LexM

namespace ScanM.Replays

variable {β : Type}

open LexM in
/-- Interning a name and resolving its slot: the slot the index names is one of the dictionary's
or the reserved slot 0, so a later dictionary has it resolved already and answers the same. -/
theorem internName_resolve (text : ByteArray) (start stop : Nat)
    {k : Nat → Option DictEntry → ScanM β} (hk : ∀ slot e, Replays (k slot e)) :
    Replays (LexM.internName text start stop >>= fun slot => liftM (LexM.resolve slot) >>= k slot) := by
  intro s hs
  obtain ⟨hs₁, hname⟩ := internName text start stop s hs
  rcases hx : (LexM.internName text start stop).run.run s with ⟨_ | slot, s₁⟩
  · -- a full dictionary stops the step before the slot is resolved
    rw [hx] at hs₁ hname
    rw [run_bind_error hx]
    refine ⟨hs₁, fun d b h => ?_⟩
    obtain ⟨h₀, hrun₀⟩ := hname d b h
    exact ⟨h₀, run_bind_error hrun₀⟩
  rw [hx] at hs₁ hname
  obtain ⟨hl, -⟩ := internName_run_ok hx
  have hle := (Dict.lookup_named hs.dict hl).2.2
  rw [run_bind_ok hx, run_lift_bind, resolve_run]
  obtain ⟨hs₃, hk'⟩ := hk slot (s₁.env.dict.resolve slot).1
    (s₁.withStores (s₁.env.dict.resolve slot).2 s₁.env.blobs) ⟨hs₁.dict.resolve slot, hs₁.blobs⟩
  refine ⟨hs₃, fun d b h => ?_⟩
  obtain ⟨h₂, hrun₂⟩ := hk' d b h
  obtain ⟨hd₁, hres⟩ := h₂.dict.resolve_of_le hle
  obtain ⟨h₀, hrun₀⟩ := hname d b ⟨hd₁, h₂.blobs⟩
  refine ⟨h₀, ?_⟩
  rw [run_bind_ok hrun₀, run_lift_bind, resolve_run]
  simp only [Lexer.withStores_dict, Lexer.withStores_blobs, hres, Lexer.withStores_withStores] at hrun₂ ⊢
  exact hrun₂

end ScanM.Replays

/-! #### The scanners that intern or store -/

namespace ScanM.Replays

open LexM.Replays in
theorem scanIdent (start : Nat) : Replays (LexM.scanIdent start) := by
  unfold LexM.scanIdent
  refine bind (lift content) fun bs => bind (lift (seek _)) fun _ => ?_
  split
  · exact bind (lift (emit _ _)) fun _ => pure _
  · exact internName_resolve _ _ _ fun slot entry => bind (lift (emit _ _)) fun _ => pure _

open LexM.Replays in
theorem scanSigilName (start : Nat) (kind : TokenKind) :
    Replays (LexM.scanSigilName start kind) := by
  unfold LexM.scanSigilName
  refine bind (lift content) fun bs => bind (lift pos) fun p => ?_
  refine bind (lift (seek _)) fun _ => ?_
  split
  · exact bind (lift (emit _ _)) fun _ => pure _
  · exact bind (internName _ _ _) fun slot => bind (lift (emit _ _)) fun _ => pure _

open LexM.Replays in
theorem scanBracketed (start : Nat) (kind : TokenKind) :
    Replays (LexM.scanBracketed start kind) := by
  unfold LexM.scanBracketed
  refine bind (lift content) fun bs => bind (lift pos) fun p => ?_
  dsimp only
  refine ite (bind (lift (seek _)) fun _ => ?_) ?_
  · refine ite (bind (lift (reportSpan _ _ _ _)) fun _ => lift (emitError _))
      (ite (bind (lift (emit _ _)) fun _ => pure _) ?_)
    exact bind (internName _ _ _) fun slot => bind (lift (emit _ _)) fun _ => pure _
  · exact ite (bind (lift (seek _)) fun _ => bind (lift (reportSpan _ _ _ _)) fun _ =>
        lift (emitError _))
      (bind (lift (seek _)) fun _ => bind (lift (reportSpan _ _ _ _)) fun _ => lift (emitError _))

open LexM.Replays in
theorem scanLiteral (start : Nat) (lit : OpenLiteral) (continuation : Bool) :
    Replays (LexM.scanLiteral start lit continuation) := by
  unfold LexM.scanLiteral
  refine bind (lift content) fun bs => bind (lift pos) fun p => ?_
  refine bind (lift (seek _)) fun _ => bind (forIn_array _ _ fun n _ _ =>
    bind (lift (reportSpan _ _ _ _)) fun _ => pure _) fun _ => ?_
  -- however the body ends, the token follows, then its text in the store
  extract_lets token
  have htoken : ∀ flow, Replays (token flow) := by
    intro flow
    refine bind (lift (emit _ _)) fun x => ?_
    refine ite (pure _) (bind (lift (store _)) fun r => ?_)
    extract_lets withIndex
    split
    · exact bind (pure _) fun _ => pure _
    · exact bind (lift (outOfMemory _ _)) fun _ => bind (throw _) fun _ => pure _
  split
  · refine bind (modify fun _ _ _ => rfl) fun _ => ?_
    split
    · exact ite (bind (lift (advance 1)) fun _ => bind (pure _) htoken) (bind (pure _) htoken)
    · exact bind (pure _) htoken
  · exact bind (modify fun _ _ _ => rfl) fun _ => bind (pure _) htoken
  · exact bind (modify fun _ _ _ => rfl) fun _ =>
      bind (lift (report _ _ _)) fun _ => bind (pure _) htoken

open LexM.Replays in
theorem openLiteral (start stop : Nat) (kind : TokenKind) (style : Style) (cjk : Bool)
    (closer : Nat) : Replays (LexM.openLiteral start stop kind style cjk closer) :=
  bind (lift (seek _)) fun _ => bind (lift (rangeOf _ _)) fun _ => scanLiteral _ _ _

open LexM.Replays in
theorem scanAt (start : Nat) : Replays (LexM.scanAt start) := by
  unfold LexM.scanAt
  refine bind (lift content) fun bs => ?_
  exact ite (openLiteral _ _ _ _ _ _) (ite (bind (lift (seek _)) fun _ =>
    scanSigilName _ _) (lift (loneSigil _)))

open LexM.Replays in
theorem scanVar (start : Nat) (kind : TokenKind) : Replays (LexM.scanVar start kind) := by
  unfold LexM.scanVar
  refine bind (lift content) fun bs => ?_
  exact ite (bind (lift (seek _)) fun _ => scanBracketed _ _)
    (ite (bind (lift (seek _)) fun _ => scanSigilName _ _) (lift (loneSigil _)))

open LexM.Replays in
theorem scanUnicode (start : Nat) : Replays (LexM.scanUnicode start) := by
  unfold LexM.scanUnicode
  refine bind (lift content) fun bs => ?_
  split
  refine ite (bind (lift (advance 1)) fun _ =>
    bind (lift (reportSpan _ _ _ _)) fun _ => lift (emitError _)) ?_
  split
  · exact openLiteral _ _ _ _ _ _
  · exact ite (openLiteral _ _ _ _ _ _) (ite (scanIdent _) (bind (lift (advance _)) fun _ =>
      bind (lift (reportSpan _ _ _ _)) fun _ => lift (emitError _)))

open LexM.Replays in
/-- Scanning a significant token replays against later stores. -/
theorem scan : Replays LexM.scan := by
  unfold LexM.scan
  refine get_bind (fun _ _ _ => rfl) fun lx => ?_
  exact ite (scanIdent _) (ite (lift (scanNumber _)) (ite (openLiteral _ _ _ _ _ _)
    (ite (scanAt _) (ite (scanVar _ _) (ite (scanVar _ _)
      (ite (bind (lift (seek _)) fun _ => scanSigilName _ _)
        (ite (openLiteral _ _ _ _ _ _) (ite (scanUnicode _) (lift (scanPunct _))))))))))

open LexM.Replays in
/-- Resuming a split message replays against later stores. -/
theorem continueMessage (lit : OpenLiteral) : Replays (LexM.continueMessage lit) := by
  unfold LexM.continueMessage
  refine get_bind (fun _ _ _ => rfl) fun lx => ?_
  refine ite (bind (lift (setFlags _)) fun _ => scanLiteral _ _ _) ?_
  refine bind (lift (seek _)) fun _ => bind (lift (setFlags _)) fun _ => ?_
  extract_lets blank
  exact ite (bind (modify fun _ _ _ => rfl) fun _ => bind (lift (setFlags _)) fun _ =>
    bind (lift (report _ _ _)) fun _ => pure _) (pure _)

open LexM.Replays in
theorem hitToken (hit : DirectiveHit) : Replays (LexM.hitToken hit) :=
  bind (lift (seek _)) fun _ => bind (lift (emit _ _)) fun _ =>
    get_bind (fun _ _ _ => rfl) fun _ => pure _

open LexM.Replays in
theorem significant : Replays LexM.significant := by
  unfold LexM.significant
  refine get_bind (fun _ _ _ => rfl) fun lx => ite (lift eof) ?_
  refine bind (modify fun _ _ _ => rfl) fun _ => ?_
  extract_lets token
  exact ite (bind (lift (setFlags _)) fun _ => bind scan fun _ => lift (after _))
    (bind scan fun _ => lift (after _))

end ScanM.Replays

/-! ### The stream -/

open LexM.Replays ScanM.Replays in
/-- One token of the stream replays against later stores. -/
theorem ScanM.Replays.next : ScanM.Replays LexM.next := by
  unfold LexM.next
  refine get_bind (fun _ _ _ => rfl) fun lx => ?_
  split
  · next lit _ => exact ScanM.Replays.continueMessage lit
  · refine bind (lift (applyTrivia _)) fun _ => ?_
    split
    · exact bind (lift (seek _)) fun _ => bind (lift (emit _ _)) fun _ =>
        get_bind (fun _ _ _ => rfl) fun _ => pure _
    · exact significant

open LexM.Replays in
/-- A call of `lex` replays against later stores. -/
theorem Lexer.lex_replays : LexM.Replays Lexer.lex := by
  unfold Lexer.lex Lexer.peek
  refine bind (get_bind (fun _ _ _ => rfl) fun lx => ?_) fun r => ?_
  · split
    · exact pure _
    split
    · exact pure _
    refine bind ScanM.Replays.next fun r => ?_
    split
    · exact bind (modify fun _ _ _ => rfl) fun _ => pure _
    · exact bind (modify fun _ _ _ => rfl) fun _ => pure _
  · split
    · exact bind (modify fun _ _ _ => rfl) fun _ => pure _
    · exact pure _

/-! ### Runs, and the restart law -/

namespace Lexer

variable {α : Type}

/-- A run of `lex` calls replays against later stores. -/
theorem lexRun_replays :
    ∀ n : Nat, LexM.Replays (fun s => s.lexRun n : LexM (List (Except LexError Token)))
  | 0 => LexM.Replays.pure []
  | n + 1 => LexM.Replays.bind lex_replays fun r =>
      LexM.Replays.bind (lexRun_replays n) fun rs => LexM.Replays.pure (r :: rs)

/-- The stores a run leaves extend the stores it started from. -/
theorem lexRun_extends (n : Nat) {s : Lexer} (hs : s.StoresOk) :
    s.StoresExtendedBy (s.lexRun n).2.env.dict (s.lexRun n).2.env.blobs :=
  ((lexRun_replays n s hs).2 _ _ (StoresExtendedBy.refl (lexRun_replays n s hs).1)).1

theorem Blind.pure (a : α) : Blind (Pure.pure a : StateM Lexer α) :=
  fun _ => ⟨[], by simp, fun _ => rfl⟩

theorem Blind.bind {β : Type} {x : StateM Lexer α} {f : α → StateM Lexer β} (hx : Blind x)
    (hf : ∀ a, Blind (f a)) : Blind (x >>= f) := by
  intro s
  obtain ⟨ns, hns, h⟩ := hx s
  obtain ⟨ms, hms, h'⟩ := hf (x.run s).1 (x.run s).2
  refine ⟨ns ++ ms, fun n hn => ?_, fun e => ?_⟩
  · rcases List.mem_append.1 hn with hn | hn
    exacts [hns n hn, hms n hn]
  · show (f (x.run (s.onEngine e)).1).run (x.run (s.onEngine e)).2 = _
    rw [h e, h' (diagnoseAll ns e), diagnoseAll_append]
    rfl

/-- A run of `lex` calls never looks at the engine. -/
theorem lexRun_blind : ∀ n : Nat, Blind (fun s => s.lexRun n : StateM Lexer (List (Except LexError Token)))
  | 0 => Blind.pure []
  | n + 1 => Blind.bind lex_blind fun r => Blind.bind (lexRun_blind n) fun rs => Blind.pure (r :: rs)

/-- A run keeps a ready tokenizer that keeps no token ready so, with its unit and mode. -/
theorem lexRun_frame (n : Nat) {s : Lexer} (hr : s.Ready) (hl : s.look = none) :
    (s.lexRun n).2.Ready ∧ (s.lexRun n).2.look = none ∧ (s.lexRun n).2.unit = s.unit ∧
      (s.lexRun n).2.mode = s.mode := by
  induction n generalizing s with
  | zero => exact ⟨hr, hl, rfl, rfl⟩
  | succ n ih =>
    obtain ⟨hr₁, hl₁, hu₁, hm₁⟩ := lex_run_frame hr hl
    obtain ⟨hr₂, hl₂, hu₂, hm₂⟩ := ih hr₁ hl₁
    rw [lexRun_cons]
    exact ⟨hr₂, hl₂, hu₂.trans hu₁, hm₂.trans hm₁⟩

end Lexer

/-- Restarting a tokenizer: after any `k` calls of `lex` from stores in shape and a reset, any
`n` further calls give the results of `n` calls of a fresh tokenizer over the same unit and
mode, started from the stores as they were before the first call and reporting to the engine
the first run left, and leave its state, engine included, with only the stores differing. -/
theorem relex_after_reset (u : SourceUnit) (mode : DirectiveMode) (env : LexEnv)
    (hd : env.dict.Indexed) (hb : env.blobs.WF) (k n : Nat) :
    let s₁ := ((Lexer.create u mode env).lexRun k).2
    ∃ d b, s₁.reset.lexRun n =
      (((Lexer.create u mode { env with engine := s₁.env.engine }).lexRun n).1,
        ((Lexer.create u mode { env with engine := s₁.env.engine }).lexRun n).2.withStores d b) := by
  intro s₁
  set s₀ := Lexer.create u mode env
  set E := s₁.env.engine
  have hs₀ : s₀.StoresOk := ⟨hd.named, hb⟩
  -- the fresh tokenizer is the first one reporting to the engine the first run left
  have hfresh : Lexer.create u mode { env with engine := E } = s₀.onEngine E := rfl
  rw [hfresh]
  -- runs from `s₀` and from the fresh tokenizer differ in their engines only
  have hblind (m : Nat) : ∃ ns, (s₀.onEngine E).lexRun m =
      ((s₀.lexRun m).1, (s₀.lexRun m).2.onEngine (diagnoseAll ns E)) := by
    obtain ⟨ns, -, h⟩ := Lexer.lexRun_blind m s₀
    exact ⟨ns, h E⟩
  -- reset keeps the unit, the mode and the stores of the first run
  obtain ⟨-, -, hu, hm⟩ := Lexer.lexRun_frame k (Lexer.ready_create u mode env) rfl
  have hreset : s₁.reset = (s₀.onEngine E).withStores s₁.env.dict s₁.env.blobs := by
    have hu' : s₁.unit = u := hu
    have hm' : s₁.mode = mode := hm
    rw [Lexer.reset, hu', hm']
    rfl
  -- for the first `m ≤ k` tokens the restarted run replays the fresh one against the stores
  -- the first run left, which extend every store the fresh run reaches by then
  have hprefix (m : Nat) (hmk : m ≤ k) : s₁.reset.lexRun m =
      (((s₀.onEngine E).lexRun m).1,
        ((s₀.onEngine E).lexRun m).2.withStores s₁.env.dict s₁.env.blobs) := by
    obtain ⟨ns, hns⟩ := hblind m
    have hsplit : s₁ = ((s₀.lexRun m).2.lexRun (k - m)).2 := by
      show (s₀.lexRun k).2 = _
      rw [← Nat.add_sub_cancel' hmk, Lexer.lexRun_add, Nat.add_sub_cancel_left]
    have hok : (s₀.lexRun m).2.StoresOk := (Lexer.lexRun_replays m s₀ hs₀).1
    have hext : ((s₀.onEngine E).lexRun m).2.StoresExtendedBy s₁.env.dict s₁.env.blobs := by
      rw [hns, hsplit]
      exact (Lexer.lexRun_extends (k - m) hok).of_stores rfl rfl
    rw [hreset]
    exact ((Lexer.lexRun_replays m (s₀.onEngine E) (hs₀.of_stores rfl rfl)).2 _ _ hext).2
  by_cases hnk : n ≤ k
  · exact ⟨_, _, hprefix n hnk⟩
  -- past `k` the restarted run holds the very state of the fresh one
  obtain ⟨m, rfl⟩ : ∃ m, n = k + m := ⟨n - k, by omega⟩
  obtain ⟨ns, hns⟩ := hblind k
  have hsame : ((s₀.onEngine E).lexRun k).2.withStores s₁.env.dict s₁.env.blobs =
      ((s₀.onEngine E).lexRun k).2 := by
    rw [hns]
    rfl
  refine ⟨((s₀.onEngine E).lexRun (k + m)).2.env.dict, ((s₀.onEngine E).lexRun (k + m)).2.env.blobs, ?_⟩
  rw [Lexer.withStores_self, Lexer.lexRun_add k m s₁.reset, hprefix k le_rfl, hsame,
    ← Lexer.lexRun_add]

/-- The restart law from empty stores for the script `a "b" c`, whose names and string go into
the stores: reset after the name and the string, and run over four calls, past the end. -/
theorem relex_after_reset_from_empty :
    let u : SourceUnit := ⟨0, "a.nvl", ⟨#[0x61, 0x20, 0x22, 0x62, 0x22, 0x20, 0x63]⟩, #[], {}⟩
    ({} : Dict).Indexed ∧ ({} : BlobStore).WF ∧
      let s₁ := ((Lexer.create u .ignore {}).lexRun 2).2
      ∃ d b, s₁.reset.lexRun 4 =
        (((Lexer.create u .ignore { engine := s₁.env.engine }).lexRun 4).1,
          ((Lexer.create u .ignore { engine := s₁.env.engine }).lexRun 4).2.withStores d b) :=
  ⟨Dict.indexed_empty, BlobStore.WF.empty,
    relex_after_reset _ .ignore {} Dict.indexed_empty BlobStore.WF.empty 2 4⟩

end NovelScript

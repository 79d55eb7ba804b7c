import Mathlib
import NovelScript.Ident.Dict
/-!
# The identifier dictionary stays sound

The dictionary gives each identifier text a slot and tags slots as keywords or built-in types.
`Dict.Sound reg` is what every use of it keeps: the index and the slots are inverse to each
other, so a text has one slot and a slot one text; a keyword tag names the keyword the slot's
text spells; a type tag names a built-in type of `reg` whose name the slot holds, and every
type of `reg` is interned under its name with that tag. `reg` is the set of types that
`registerBuiltins` registered, empty when it was not run.

Interning (`Dict.lookup_sound`), resolving (`Dict.resolve_sound`) and registering the built-in
types (`Dict.Sound.registerBuiltins`) keep the invariant, and interning and resolving only add
slots, never change the text of one (`Dict.Grows`). Its first part, `Dict.Paired` (the index and
the slots inverse, no more texts than the capacity), is kept by every call whatever tag it sets. What `resolve` answers for a slot is then
decided by the slot's text alone (`Dict.resolve_entry`), whatever order texts were first seen in.
-/

namespace NovelScript

/-! ### Keyword spellings and built-in names -/

theorem keywordName_eq (i : Nat) (hi : i < keywordTexts.length) :
    keywordName (i + 1) = keywordTexts[i] := by
  have h : ∀ i < keywordTexts.length, keywordName (i + 1) = keywordTexts[i]! := by with_unfolding_all decide
  simpa [getElem!_pos keywordTexts i hi] using h i hi

/-- A text that spells a keyword is that keyword's printed name. -/
theorem keywordName_of_lookup {text : ByteArray} {k : Nat} (h : lookupKeyword? text = some k) :
    (keywordName k).toUTF8 = text ∧ k < 256 := by
  unfold lookupKeyword? String.fromUTF8? at h
  split at h
  · rename_i hv
    obtain ⟨i, hi, rfl⟩ := Option.map_eq_some_iff.1 h
    obtain ⟨hlt, hw, -⟩ := List.idxOf?_eq_some_iff.1 hi
    refine ⟨?_, by simp [keywordTexts] at hlt; omega⟩
    rw [keywordName_eq i hlt, hw]
    exact ByteArray.ext rfl
  · -- an invalid text looks up the NUL word, which is no keyword
    obtain ⟨i, hi, -⟩ := Option.map_eq_some_iff.1 h
    obtain ⟨hlt, hw, -⟩ := List.idxOf?_eq_some_iff.1 hi
    have hnul : ∀ w ∈ keywordTexts, w ≠ "\x00" := by with_unfolding_all decide
    exact absurd hw (hnul _ (List.getElem_mem hlt))

/-- A keyword code found by spelling is never 0. -/
theorem lookupKeyword_ne_zero {text : ByteArray} {k : Nat} (h : lookupKeyword? text = some k) :
    k ≠ 0 := by
  obtain ⟨i, -, rfl⟩ := Option.map_eq_some_iff.1 h
  omega

theorem builtinType_mem {r : Nat} {bt : BuiltinType} (h : builtinType? r = some bt) :
    bt ∈ builtinTypes := by
  unfold builtinType? at h
  split at h
  · cases h
  · exact List.mem_of_getElem? h

/-- No built-in type is named by a keyword. -/
theorem lookupKeyword_builtin {r : Nat} {bt : BuiltinType} (h : builtinType? r = some bt) :
    lookupKeyword? bt.name.toUTF8 = none := by
  have hall : ∀ bt ∈ builtinTypes, lookupKeyword? bt.name.toUTF8 = none := by with_unfolding_all decide
  exact hall bt (builtinType_mem h)

/-- Built-in types are told apart by their names. -/
theorem builtinType_inj {r r' : Nat} {bt bt' : BuiltinType} (h : builtinType? r = some bt)
    (h' : builtinType? r' = some bt') (hn : bt.name = bt'.name) : r = r' := by
  have hnodup : (builtinTypes.map (·.name)).Nodup := by with_unfolding_all decide
  unfold builtinType? at h h'
  split at h
  · cases h
  split at h'
  · cases h'
  obtain ⟨hi, rfl⟩ := List.getElem?_eq_some_iff.1 h
  obtain ⟨hi', rfl⟩ := List.getElem?_eq_some_iff.1 h'
  have hb : r - 1 < (builtinTypes.map (·.name)).length := by simpa using hi
  have hb' : r' - 1 < (builtinTypes.map (·.name)).length := by simpa using hi'
  have heq : (builtinTypes.map (·.name))[r - 1] = (builtinTypes.map (·.name))[r' - 1] := by
    simpa using hn
  have := (hnodup.getElem_inj_iff).1 heq
  omega

namespace Dict

variable {d d' : Dict} {reg : Nat → Prop}

/-! ### Slots -/

/-- Slot `s` of `d` holds `text`. -/
def Holds (d : Dict) (s : Nat) (text : ByteArray) : Prop := (d.slot? s).map (·.text) = some text

/-- `text` names a built-in type of `reg`. -/
def Registered (reg : Nat → Prop) (text : ByteArray) : Prop :=
  ∃ r bt, reg r ∧ builtinType? r = some bt ∧ bt.name.toUTF8 = text

/-- Every slot of `d` holds in `d'` the text it holds in `d`. -/
def Grows (d d' : Dict) : Prop := ∀ s text, d.Holds s text → d'.Holds s text

theorem Grows.refl (d : Dict) : d.Grows d := fun _ _ h => h

theorem Grows.trans {d'' : Dict} (h : d.Grows d') (h' : d'.Grows d'') : d.Grows d'' :=
  fun s text hs => h' s text (h s text hs)

theorem holds_iff {s : Nat} {text : ByteArray} : d.Holds s text ↔ ∃ e, d.slot? s = some e ∧ e.text = text := by
  simp [Holds]

theorem slot?_bounds {s : Nat} {e : DictEntry} (h : d.slot? s = some e) : 1 ≤ s ∧ s ≤ d.size := by
  unfold slot? at h
  split at h
  · cases h
  · have := (Array.getElem?_eq_some_iff.1 h).1
    simp only [size]
    omega

/-- Every slot from 1 to the size holds an entry. -/
theorem slot?_of_le {s : Nat} (h0 : s ≠ 0) (hs : s ≤ d.size) : ∃ e, d.slot? s = some e := by
  unfold slot?
  rw [if_neg h0]
  exact ⟨_, Array.getElem?_eq_getElem (by simp only [size] at hs; omega)⟩

/-- The slots of a dictionary with one more entry. -/
theorem slot?_push (e : DictEntry) (index : Std.HashMap ByteArray Nat) (s : Nat) :
    ({ d with entries := d.entries.push e, index := index } : Dict).slot? s =
      if s = d.size + 1 then some e else d.slot? s := by
  unfold slot?
  by_cases h0 : s = 0
  · simp [h0]
  · simp only [h0, if_false, Array.getElem?_push, size]
    by_cases hs : s = d.entries.size + 1
    · simp [hs]
    · rw [if_neg (by omega), if_neg hs]

/-- The slots after a slot's tag is replaced. -/
theorem slot?_setTag (s : Nat) (tag : SlotTag) (s' : Nat) :
    (d.setTag s tag).slot? s' = if s' = s then (d.slot? s).map ({ · with tag := tag }) else d.slot? s' := by
  unfold setTag
  by_cases h0 : s = 0
  · subst h0
    by_cases h : s' = 0 <;> simp [h, slot?]
  · rw [if_neg h0]
    unfold slot?
    by_cases h : s' = s
    · subst h
      simp [h0, Array.getElem?_modify]
    · by_cases h' : s' = 0
      · simp [h', Ne.symm h0]
      · simp only [h', h, if_false, Array.getElem?_modify]
        rw [if_neg (by omega)]

theorem holds_setTag {s s' : Nat} {tag : SlotTag} {text : ByteArray} :
    (d.setTag s tag).Holds s' text ↔ d.Holds s' text := by
  unfold Holds
  rw [slot?_setTag]
  split
  · subst_vars
    cases d.slot? s' <;> simp
  · rfl

@[simp] theorem setTag_index (s : Nat) (tag : SlotTag) : (d.setTag s tag).index = d.index := by
  unfold setTag
  split <;> rfl

@[simp] theorem setTag_size (s : Nat) (tag : SlotTag) : (d.setTag s tag).size = d.size := by
  unfold setTag size
  split <;> simp

@[simp] theorem setTag_max (s : Nat) (tag : SlotTag) : (d.setTag s tag).max = d.max := by
  unfold setTag
  split <;> rfl

theorem Grows.setTag (s : Nat) (tag : SlotTag) : d.Grows (d.setTag s tag) :=
  fun _ _ h => holds_setTag.2 h

/-! ### The invariant -/

/-- The dictionary invariant, for the built-in types `reg` registered in it: the index lists
each slot under its text and nothing else, tags agree with the texts they are attached to,
every type of `reg` is interned and tagged, and the slots fit the 32-bit slot numbers. -/
structure Sound (reg : Nat → Prop) (d : Dict) : Prop where
  slot : ∀ text s, d.index[text]? = some s → d.Holds s text
  index : ∀ s e, d.slot? s = some e → d.index[e.text]? = some s
  keyword : ∀ s e k, d.slot? s = some e → e.tag = .keyword k → lookupKeyword? e.text = some k
  type : ∀ s e r, d.slot? s = some e → e.tag = .type r →
    reg r ∧ ∃ bt, builtinType? r = some bt ∧ bt.name.toUTF8 = e.text
  registered : ∀ r bt, reg r → builtinType? r = some bt →
    ∃ s e, d.slot? s = some e ∧ e.text = bt.name.toUTF8 ∧ e.tag = .type r
  size : d.size ≤ d.max
  max : d.max < 2 ^ 32

/-- The part of the invariant every call keeps, whatever tags it sets: the index lists each slot
under its text and nothing else, the dictionary holds no more texts than its capacity, and the
capacity keeps every slot a 32-bit word. -/
structure Paired (d : Dict) : Prop where
  slot : ∀ text s, d.index[text]? = some s → d.Holds s text
  index : ∀ s e, d.slot? s = some e → d.index[e.text]? = some s
  size : d.size ≤ d.max
  max : d.max < 2 ^ 32

theorem Sound.paired (h : d.Sound reg) : d.Paired := ⟨h.slot, h.index, h.size, h.max⟩

/-- A capacity below 2^32 asked for, or the default, is below 2^32. -/
theorem create_max_lt {m : Int} (hm : m < 2 ^ 32) : (Dict.create m).max < 2 ^ 32 := by
  show (if m ≤ 0 then defaultMaxSlots else m.toNat) < 2 ^ 32
  split
  · decide
  · omega

theorem Paired.create {m : Int} (hm : m < 2 ^ 32) : (Dict.create m).Paired where
  slot _ _ h := by simp [Dict.create] at h
  index s e h := by simp [Dict.create, slot?] at h
  size := Nat.zero_le _
  max := create_max_lt hm

/-- One text, one slot. -/
theorem Paired.slot_inj (h : d.Paired) {s s' : Nat} {text : ByteArray} (hs : d.Holds s text)
    (hs' : d.Holds s' text) : s = s' := by
  obtain ⟨e, he, rfl⟩ := holds_iff.1 hs
  obtain ⟨e', he', hee⟩ := holds_iff.1 hs'
  have h₁ := h.index s e he
  have h₂ := h.index s' e' he'
  rw [hee] at h₂
  exact Option.some.inj (h₁.symm.trans h₂)

/-- One slot, one text. -/
theorem holds_inj {s : Nat} {text text' : ByteArray} (hs : d.Holds s text)
    (hs' : d.Holds s text') : text = text' :=
  Option.some.inj (hs.symm.trans hs')

theorem Paired.setTag (h : d.Paired) (s : Nat) (tag : SlotTag) : (d.setTag s tag).Paired where
  slot text s' hs' := holds_setTag.2 (h.slot text s' (by rwa [setTag_index] at hs'))
  index s' e' he' := by
    rw [slot?_setTag] at he'
    rw [setTag_index]
    split at he'
    · subst_vars
      obtain ⟨e, he, rfl⟩ := Option.map_eq_some_iff.1 he'
      exact h.index _ e he
    · exact h.index s' e' he'
  size := by simpa using h.size
  max := by simpa using h.max

theorem Sound.congr_reg {reg' : Nat → Prop} (h : d.Sound reg) (hr : ∀ r, reg r ↔ reg' r) :
    d.Sound reg' := by
  have : reg = reg' := funext fun r => propext (hr r)
  exact this ▸ h

/-- One text, one slot. -/
theorem Sound.slot_inj (h : d.Sound reg) {s s' : Nat} {text : ByteArray} (hs : d.Holds s text)
    (hs' : d.Holds s' text) : s = s' :=
  h.paired.slot_inj hs hs'

theorem Sound.lt_of_holds (h : d.Sound reg) {s : Nat} {text : ByteArray} (hs : d.Holds s text) :
    s < 2 ^ 32 := by
  obtain ⟨e, he, -⟩ := holds_iff.1 hs
  have := slot?_bounds he
  have := h.size
  have := h.max
  omega

theorem Sound.create {m : Int} (hm : m < 2 ^ 32) : (Dict.create m).Sound fun _ => False where
  slot _ _ h := by simp [Dict.create] at h
  index s e h := by simp [Dict.create, slot?] at h
  keyword s e k h := by simp [Dict.create, slot?] at h
  type s e r h := by simp [Dict.create, slot?] at h
  registered _ _ h := h.elim
  size := Nat.zero_le _
  max := create_max_lt hm

/-- The dictionary a tokenizer gets by default. -/
theorem Sound.empty : ({} : Dict).Sound fun _ => False :=
  Sound.create (m := 0) (by decide)

/-! ### Interning -/

theorem lookup_eq_ok {text : ByteArray} {s : Nat} (hl : d.lookup text = .ok (s, d')) :
    (d.index[text]? = some s ∧ d' = d) ∨
      (d.index[text]? = none ∧ d.size < d.max ∧ s = (d.size + 1) % 2 ^ 32 ∧
        d' = { d with entries := d.entries.push ⟨text, .unresolved⟩,
                      index := d.index.insert text s }) := by
  unfold lookup at hl
  split at hl
  · cases hl
    exact .inl ⟨‹_›, rfl⟩
  · split at hl
    · cases hl
    · cases hl
      exact .inr ⟨‹_›, by omega, rfl, rfl⟩

/-- Below a capacity under 2^32 the next slot is a 32-bit word: it does not wrap. -/
theorem next_slot (hmax : d.max < 2 ^ 32) (hlt : d.size < d.max) :
    (d.size + 1) % 2 ^ 32 = d.size + 1 :=
  Nat.mod_eq_of_lt (by omega)

/-- The slot an interned text is given stays below every slot that comes after it. -/
theorem slot?_of_lookup_new (e : DictEntry) (index : Std.HashMap ByteArray Nat) {s : Nat}
    {e' : DictEntry} (he : d.slot? s = some e') :
    ({ d with entries := d.entries.push e, index := index } : Dict).slot? s = some e' := by
  rw [slot?_push, if_neg (by have := slot?_bounds he; omega)]
  exact he

/-- Interning only adds slots. -/
theorem Grows.lookup {text : ByteArray} {s : Nat} (hl : d.lookup text = .ok (s, d')) : d.Grows d' := by
  rcases lookup_eq_ok hl with ⟨-, rfl⟩ | ⟨-, -, rfl, rfl⟩
  · exact Grows.refl _
  · intro s' text' hs'
    obtain ⟨e, he, rfl⟩ := holds_iff.1 hs'
    simp [Holds, slot?_of_lookup_new _ _ he]

/-- Interning a text keeps the index and the slots inverse and gives a slot that holds the
text. -/
theorem Paired.lookup (h : d.Paired) {text : ByteArray} {s : Nat}
    (hl : d.lookup text = .ok (s, d')) : d'.Paired ∧ d'.Holds s text := by
  rcases lookup_eq_ok hl with ⟨hi, rfl⟩ | ⟨hi, hlt, hs, rfl⟩
  · exact ⟨h, h.slot text s hi⟩
  -- a new text takes the next slot, which the capacity keeps from wrapping; every old slot
  -- stays below it
  rw [next_slot h.max hlt] at hs
  subst hs
  have hnew : ({ d with entries := d.entries.push ⟨text, .unresolved⟩,
                        index := d.index.insert text (d.size + 1) } : Dict).slot? (d.size + 1) =
        some ⟨text, .unresolved⟩ := by
    rw [slot?_push, if_pos rfl]
  have hne : ∀ s e, d.slot? s = some e → (text == e.text) = false := by
    intro s e he
    have := h.index s e he
    simp only [beq_eq_false_iff_ne, ne_eq]
    rintro rfl
    rw [hi] at this
    cases this
  refine ⟨⟨?_, ?_, ?_, h.max⟩, by simp [Holds, hnew]⟩
  · intro text' s' hs'
    rw [Std.HashMap.getElem?_insert] at hs'
    split at hs'
    · cases hs'
      rename_i heq
      obtain rfl := beq_iff_eq.1 heq
      simp [Holds, hnew]
    · obtain ⟨e, he, rfl⟩ := holds_iff.1 (h.slot text' s' hs')
      simp [Holds, slot?_of_lookup_new _ _ he]
  · intro s' e he
    rw [slot?_push] at he
    split at he
    · rename_i hs
      cases he
      simp [hs]
    · rw [Std.HashMap.getElem?_insert, hne s' e he]
      exact h.index s' e he
  · simp only [Dict.size, Array.size_push] at hlt ⊢
    omega

/-- Interning a text keeps the invariant, only adds slots, and gives a slot that holds the text. -/
theorem lookup_sound (h : d.Sound reg) {text : ByteArray} {s : Nat}
    (hl : d.lookup text = .ok (s, d')) : d'.Sound reg ∧ d.Grows d' ∧ d'.Holds s text := by
  obtain ⟨hp, hs⟩ := h.paired.lookup hl
  have hmax : d'.max = d.max := by
    rcases lookup_eq_ok hl with ⟨-, rfl⟩ | ⟨-, -, -, rfl⟩ <;> rfl
  -- the slots of `d'` are those of `d` and, possibly, the new one, which is unresolved
  have hslots : ∀ s' e, d'.slot? s' = some e → d.slot? s' = some e ∨ e.tag = .unresolved := by
    rcases lookup_eq_ok hl with ⟨-, rfl⟩ | ⟨-, -, rfl, rfl⟩
    · exact fun _ _ he => .inl he
    · intro s' e he
      rw [slot?_push] at he
      split at he
      · cases he
        exact .inr rfl
      · exact .inl he
  have hgrow := Grows.lookup hl
  refine ⟨⟨hp.slot, hp.index, ?_, ?_, ?_, hp.size, hmax ▸ h.max⟩, hgrow, hs⟩
  · intro s' e k he hk
    rcases hslots s' e he with he | hu
    · exact h.keyword s' e k he hk
    · rw [hu] at hk
      cases hk
  · intro s' e r he hr
    rcases hslots s' e he with he | hu
    · exact h.type s' e r he hr
    · rw [hu] at hr
      cases hr
  · intro r bt hr hb
    obtain ⟨s', e, he, htext, htag⟩ := h.registered r bt hr hb
    obtain ⟨e', he', hee'⟩ := holds_iff.1 (hgrow s' e.text (holds_iff.2 ⟨e, he, rfl⟩))
    -- the old slot kept its entry, since interning does not retag
    rcases lookup_eq_ok hl with ⟨-, rfl⟩ | ⟨-, -, rfl, rfl⟩
    · exact ⟨s', e, he, htext, htag⟩
    · exact ⟨s', e, slot?_of_lookup_new _ _ he, htext, htag⟩

/-! ### Resolving -/

/-- Tagging a slot whose text spells keyword `k` as that keyword keeps the invariant. -/
theorem Sound.setKeyword (h : d.Sound reg) {s : Nat} {e : DictEntry} {k : Nat}
    (he : d.slot? s = some e) (hu : e.tag = .unresolved) (hk : lookupKeyword? e.text = some k) :
    (d.setTag s (.keyword k)).Sound reg := by
  refine ⟨?_, ?_, ?_, ?_, ?_, by simpa using h.size, by simpa using h.max⟩
  · intro text s' hs'
    rw [setTag_index] at hs'
    exact holds_setTag.2 (h.slot text s' hs')
  · intro s' e' he'
    rw [slot?_setTag] at he'
    rw [setTag_index]
    split at he'
    · subst_vars
      rw [he] at he'
      cases he'
      exact h.index _ e he
    · exact h.index s' e' he'
  · intro s' e' k' he' hk'
    rw [slot?_setTag] at he'
    split at he'
    · subst_vars
      rw [he] at he'
      cases he'
      cases hk'
      exact hk
    · exact h.keyword s' e' k' he' hk'
  · intro s' e' r he' hr
    rw [slot?_setTag] at he'
    split at he'
    · subst_vars
      rw [he] at he'
      cases he'
      cases hr
    · exact h.type s' e' r he' hr
  · intro r bt hr hb
    obtain ⟨s', e', he', htext, htag⟩ := h.registered r bt hr hb
    -- the slot tagged as a type is not the unresolved one
    have hne : s' ≠ s := by
      rintro rfl
      rw [he] at he'
      cases he'
      rw [hu] at htag
      cases htag
    refine ⟨s', e', ?_, htext, htag⟩
    rw [slot?_setTag, if_neg hne]
    exact he'

theorem resolve_eq (d : Dict) (s : Nat) :
    d.resolve s = match d.slot? s with
      | none => (none, d)
      | some e => match e.tag, lookupKeyword? e.text with
        | .unresolved, some k => (some { e with tag := .keyword k }, d.setTag s (.keyword k))
        | _, _ => (some e, d) := rfl

theorem Paired.resolve (h : d.Paired) (s : Nat) : (d.resolve s).2.Paired := by
  rw [resolve_eq]
  split
  · exact h
  · split
    · exact h.setTag s _
    · exact h

/-- Resolving only retags. -/
theorem Grows.resolve (s : Nat) : d.Grows (d.resolve s).2 := by
  rw [resolve_eq]
  split
  · exact Grows.refl d
  · split
    · exact Grows.setTag s _
    · exact Grows.refl d

/-- Resolving keeps the invariant and only adds tags. -/
theorem resolve_sound (h : d.Sound reg) (s : Nat) :
    (d.resolve s).2.Sound reg ∧ d.Grows (d.resolve s).2 := by
  refine ⟨?_, Grows.resolve s⟩
  rw [resolve_eq]
  split
  · exact h
  · rename_i e he
    split
    · rename_i k hu hk
      exact h.setKeyword he hu hk
    · exact h

/-- What `resolve` answers for a slot that holds `text`: an entry of that text, a keyword
exactly when the text spells one, a built-in type exactly when the text names a registered
one. -/
theorem resolve_entry (h : d.Sound reg) {s : Nat} {text : ByteArray} (hs : d.Holds s text) :
    ∃ e, (d.resolve s).1 = some e ∧ e.text = text ∧
      (∀ k, e.tag = .keyword k ↔ lookupKeyword? text = some k) ∧
      ((∃ r, e.tag = .type r) ↔ Registered reg text) := by
  obtain ⟨e, he, rfl⟩ := holds_iff.1 hs
  -- the tag the slot had before, read against the text
  have htype : (∃ r, e.tag = .type r) ↔ Registered reg e.text := by
    constructor
    · rintro ⟨r, hr⟩
      obtain ⟨hreg, bt, hb, hn⟩ := h.type s e r he hr
      exact ⟨r, bt, hreg, hb, hn⟩
    · rintro ⟨r, bt, hreg, hb, hn⟩
      obtain ⟨s', e', he', htext, htag⟩ := h.registered r bt hreg hb
      have hss : s' = s := h.slot_inj (holds_iff.2 ⟨e', he', htext.trans hn⟩) hs
      subst hss
      rw [he] at he'
      cases he'
      exact ⟨r, htag⟩
  rw [resolve_eq, he]
  dsimp only
  split
  · -- an unresolved keyword spelling becomes that keyword
    rename_i k hu hk
    refine ⟨_, rfl, rfl, fun k' => ?_, ?_⟩
    · simp [hk]
    · simp only [hu, reduceCtorEq, exists_false, false_iff] at htype ⊢
      exact htype
  · rename_i hnot
    refine ⟨e, rfl, rfl, fun k => ⟨h.keyword s e k he, fun hk => ?_⟩, htype⟩
    rcases ht : e.tag with _ | k' | r
    · exact absurd hk (hnot _ ht)
    · have := h.keyword s e k' he ht
      rw [hk] at this
      cases this
      rfl
    · obtain ⟨-, bt, hb, hn⟩ := h.type s e r he ht
      rw [← hn, lookupKeyword_builtin hb] at hk
      cases hk

/-! ### Registering the built-in types -/

/-- Tagging the slot of a built-in type's name with that type keeps the invariant, with the type
added to the registered ones. -/
theorem Sound.setType (h : d.Sound reg) {s r : Nat} {bt : BuiltinType} (hb : builtinType? r = some bt)
    (hs : d.Holds s bt.name.toUTF8) : (d.setTag s (.type r)).Sound fun r' => reg r' ∨ r' = r := by
  obtain ⟨e, he, hn⟩ := holds_iff.1 hs
  refine ⟨?_, ?_, ?_, ?_, ?_, by simpa using h.size, by simpa using h.max⟩
  · intro text s' hs'
    rw [setTag_index] at hs'
    exact holds_setTag.2 (h.slot text s' hs')
  · intro s' e' he'
    rw [slot?_setTag] at he'
    rw [setTag_index]
    split at he'
    · subst_vars
      rw [he] at he'
      cases he'
      exact h.index _ e he
    · exact h.index s' e' he'
  · intro s' e' k he' hk
    rw [slot?_setTag] at he'
    split at he'
    · subst_vars
      rw [he] at he'
      cases he'
      cases hk
    · exact h.keyword s' e' k he' hk
  · intro s' e' r' he' hr
    rw [slot?_setTag] at he'
    split at he'
    · subst_vars
      rw [he] at he'
      cases he'
      cases hr
      exact ⟨.inr rfl, bt, hb, hn.symm⟩
    · obtain ⟨hreg, h'⟩ := h.type s' e' r' he' hr
      exact ⟨.inl hreg, h'⟩
  · intro r' bt' hr' hb'
    rcases hr' with hreg | rfl
    · obtain ⟨s', e', he', htext, htag⟩ := h.registered r' bt' hreg hb'
      by_cases hss : s' = s
      · -- the slot already held this name, so the type is the same one
        subst hss
        rw [he] at he'
        cases he'
        have hrr : r' = r := builtinType_inj hb' hb (by
          have := htext.symm.trans hn
          rw [String.toUTF8_eq_toByteArray, String.toUTF8_eq_toByteArray] at this
          exact String.toByteArray_inj.1 this)
        subst hrr
        exact ⟨s', { e with tag := .type r' }, by rw [slot?_setTag, if_pos rfl, he]; rfl, htext, rfl⟩
      · exact ⟨s', e', by rw [slot?_setTag, if_neg hss]; exact he', htext, htag⟩
    · rw [hb] at hb'
      cases hb'
      exact ⟨s, { e with tag := .type r' }, by rw [slot?_setTag, if_pos rfl, he]; rfl, hn, rfl⟩

/-- Registering the built-in types from the `next`-th on keeps the invariant; the types
registered are those from `next` up to where the dictionary filled, all of the list when it
did not. -/
theorem Sound.registerFrom (h : d.Sound reg) (next : Nat) (types : List BuiltinType)
    (ht : ∀ i (hi : i < types.length), builtinType? (next + i) = some types[i]) :
    ∃ k, next ≤ k ∧ (d.registerFrom next types).1.Sound (fun r => reg r ∨ (next ≤ r ∧ r < k)) ∧
      ((d.registerFrom next types).2 = none → k = next + types.length) := by
  -- nothing registered from `next` on: the registered types are the ones before
  have hnone : d.Sound (fun r => reg r ∨ (next ≤ r ∧ r < next)) :=
    h.congr_reg fun r => ⟨.inl, fun hr => hr.elim id fun hr => absurd hr.2 (by omega)⟩
  induction types generalizing d reg next with
  | nil => exact ⟨next, le_rfl, hnone, fun _ => rfl⟩
  | cons bt rest ih =>
    unfold registerFrom
    split
    · rename_i s d₁ hl
      obtain ⟨h₁, -, hs⟩ := lookup_sound h hl
      have hb : builtinType? next = some bt := ht 0 (by simp)
      have hrest : ∀ i (hi : i < rest.length), builtinType? (next + 1 + i) = some rest[i] := by
        intro i hi
        rw [show next + 1 + i = next + (i + 1) by omega]
        exact ht (i + 1) (by simp; omega)
      obtain ⟨k, hle, hk, hdone⟩ := ih (h₁.setType hb hs) (next + 1) hrest
        ((h₁.setType hb hs).congr_reg fun r =>
          ⟨.inl, fun hr => hr.elim id fun hr => absurd hr.2 (by omega)⟩)
      -- the type just registered joins the ones registered after it
      refine ⟨k, by omega, hk.congr_reg fun r => ?_, fun hn => ?_⟩
      · constructor
        · rintro ((hr | rfl) | ⟨h₁, h₂⟩)
          · exact .inl hr
          · exact .inr ⟨le_rfl, by omega⟩
          · exact .inr ⟨by omega, h₂⟩
        · rintro (hr | ⟨h₁, h₂⟩)
          · exact .inl (.inl hr)
          · by_cases hrn : r = next
            · exact .inl (.inr hrn)
            · exact .inr ⟨by omega, h₂⟩
      · rw [hdone hn, List.length_cons]
        omega
    · exact ⟨next, le_rfl, hnone, fun h => by cases h⟩

/-- Registering the built-in types keeps the invariant; the types registered are the first
ones of the table, all of them unless the dictionary filled. -/
theorem Sound.registerBuiltins (h : d.Sound reg) :
    ∃ k, d.registerBuiltins.1.Sound (fun r => reg r ∨ (1 ≤ r ∧ r < k)) ∧
      (d.registerBuiltins.2 = none → k = builtinTypes.length + 1) := by
  obtain ⟨k, -, hk, hnone⟩ := h.registerFrom 1 builtinTypes (fun i hi => by
    simp [builtinType?, Nat.add_comm 1 i, List.getElem?_eq_getElem hi])
  exact ⟨k, hk, fun hn => by rw [hnone hn]; omega⟩

/-! ### Registering into a dictionary with room -/

theorem size_setTag (s : Nat) (tag : SlotTag) : (d.setTag s tag).size = d.size := by
  unfold setTag
  split <;> simp [size]

/-- Below its capacity a dictionary interns any text, taking at most one more slot. -/
theorem lookup_room (hlt : d.size < d.max) (text : ByteArray) :
    ∃ s d', d.lookup text = .ok (s, d') ∧ d'.size ≤ d.size + 1 ∧ d'.max = d.max := by
  unfold lookup
  split
  · exact ⟨_, d, rfl, by omega, rfl⟩
  · rw [if_neg (by omega)]
    exact ⟨_, _, rfl, by simp [size], rfl⟩

/-- Registering types into a dictionary with room for all of them never fills it. -/
theorem registerFrom_room (next : Nat) (types : List BuiltinType)
    (h : d.size + types.length ≤ d.max) : (d.registerFrom next types).2 = none := by
  induction types generalizing d next with
  | nil => rfl
  | cons bt rest ih =>
    simp only [List.length_cons] at h
    have hlt : d.size < d.max := by omega
    obtain ⟨s, d₁, hl, hsize, hmax⟩ := lookup_room hlt bt.name.toUTF8
    rw [registerFrom, hl]
    -- each type takes at most one slot, and tagging takes none
    refine ih (next + 1) ?_
    rw [size_setTag]
    have : (d₁.setTag s (.type next)).max = d₁.max := by unfold setTag; split <;> rfl
    omega

theorem registerBuiltins_room (h : d.size + builtinTypes.length ≤ d.max) :
    d.registerBuiltins.2 = none :=
  registerFrom_room 1 builtinTypes h

end Dict

end NovelScript

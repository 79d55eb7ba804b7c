import Mathlib
import NovelScript.Proofs.Ident.Dictionary
import NovelScript.Proofs.FirstSeen
/-!
# The dictionary after any sequence of calls

A dictionary is driven by five calls: interning a text (`Lookup` and `LookupBytes` alike),
finding a text without interning it, tagging a slot as a keyword or as a built-in type, and
resolving a slot. `DictCall` names them and `Dict.run` applies a sequence of them; a call that
fails leaves the dictionary as it was.

`Dict.calls_keep_slots` states what every sequence of calls from an empty dictionary of
capacity `0 < D < 2^32` leads to. Every slot a successful interning answered still holds its text at
the end, so two answers share a slot exactly when they share a text; the slots hold the texts
interned, in the order they were first seen, and never more than `D` of them. At every point of
the run (`Dict.Answers`), finding a text agrees with interning it when interning changes
nothing, interning fails exactly for a new text in a full dictionary, and resolving a slot tags
it as a keyword exactly when it is unresolved and spells one, without touching its text or any
tag set before.

Everything rests on `Dict.Paired`, which every call keeps, and on `Dict.Grows`: no call changes
the text of a slot.

Slots are 32-bit words. From a capacity of 2^32 on, the 2^32-th new text is given the reserved
slot 0 (`Dict.wrapped_slot_is_reserved`), and later ones reuse slots 1, 2, ….
-/

namespace NovelScript

/-- A call on the dictionary. -/
inductive DictCall where
  /-- Intern a text, by string or by bytes. -/
  | lookup (text : ByteArray)
  /-- Find the slot of a text without interning it. -/
  | find (text : ByteArray)
  /-- Tag a slot as keyword `k`. -/
  | setKeyword (slot k : Nat)
  /-- Tag a slot as built-in type `ref`. -/
  | setType (slot ref : Nat)
  /-- Read a slot, tagging an unresolved keyword spelling as that keyword. -/
  | resolve (slot : Nat)

namespace DictCall

/-- The dictionary after a call; an interning that fails leaves it as it was. -/
def apply (d : Dict) : DictCall → Dict
  | lookup text => match d.lookup text with
    | .ok (_, d') => d'
    | .error _ => d
  | find _ => d
  | setKeyword slot k => d.setTag slot (.keyword k)
  | setType slot ref => d.setTag slot (.type ref)
  | resolve slot => (d.resolve slot).2

/-- The text an interning call stored or found and the slot it answered, when it succeeded. -/
def answer (d : Dict) : DictCall → Option (ByteArray × Nat)
  | lookup text => match d.lookup text with
    | .ok (s, _) => some (text, s)
    | .error _ => none
  | _ => none

variable {d d' : Dict} {text : ByteArray} {s : Nat}

theorem apply_lookup_ok (hl : d.lookup text = .ok (s, d')) : (lookup text).apply d = d' := by
  simp [apply, hl]

theorem apply_lookup_error {e : DictFull} (hl : d.lookup text = .error e) :
    (lookup text).apply d = d := by
  simp [apply, hl]

theorem answer_lookup_ok (hl : d.lookup text = .ok (s, d')) :
    (lookup text).answer d = some (text, s) := by
  simp [answer, hl]

theorem answer_lookup_error {e : DictFull} (hl : d.lookup text = .error e) :
    (lookup text).answer d = none := by
  simp [answer, hl]

end DictCall

namespace Dict

/-- The dictionary after a sequence of calls. -/
def run (d : Dict) (calls : List DictCall) : Dict := calls.foldl DictCall.apply d

/-- What the successful internings of a sequence of calls answered, in order. -/
def answers (d : Dict) : List DictCall → List (ByteArray × Nat)
  | [] => []
  | c :: calls => (c.answer d).toList ++ answers (c.apply d) calls

/-- The texts of the slots, slot 1 first. -/
def texts (d : Dict) : List ByteArray := d.entries.toList.map (·.text)

variable {d d' : Dict}

@[simp] theorem run_nil (d : Dict) : d.run [] = d := rfl

@[simp] theorem run_cons (d : Dict) (c : DictCall) (calls : List DictCall) :
    d.run (c :: calls) = (c.apply d).run calls := rfl

@[simp] theorem answers_nil (d : Dict) : d.answers [] = [] := rfl

@[simp] theorem answers_cons (d : Dict) (c : DictCall) (calls : List DictCall) :
    d.answers (c :: calls) = (c.answer d).toList ++ (c.apply d).answers calls := rfl

/-! ### One call -/

theorem max_lookup {text : ByteArray} {s : Nat} (hl : d.lookup text = .ok (s, d')) :
    d'.max = d.max := by
  rcases lookup_eq_ok hl with ⟨-, rfl⟩ | ⟨-, -, -, rfl⟩ <;> rfl

theorem max_resolve (s : Nat) : (d.resolve s).2.max = d.max := by
  rw [resolve_eq]
  split
  · rfl
  · split <;> simp

theorem max_apply (c : DictCall) : (c.apply d).max = d.max := by
  cases c with
  | lookup text =>
    rcases hl : d.lookup text with e | ⟨s, d₁⟩
    · rw [DictCall.apply_lookup_error hl]
    · rw [DictCall.apply_lookup_ok hl, max_lookup hl]
  | find => rfl
  | setKeyword => exact setTag_max _ _
  | setType => exact setTag_max _ _
  | resolve s => exact max_resolve s

theorem Paired.apply (h : d.Paired) (c : DictCall) : (c.apply d).Paired := by
  cases c with
  | lookup text =>
    rcases hl : d.lookup text with e | ⟨s, d₁⟩
    · rwa [DictCall.apply_lookup_error hl]
    · rw [DictCall.apply_lookup_ok hl]
      exact (h.lookup hl).1
  | find => exact h
  | setKeyword s k => exact h.setTag s _
  | setType s r => exact h.setTag s _
  | resolve s => exact h.resolve s

theorem Grows.apply (c : DictCall) : d.Grows (c.apply d) := by
  cases c with
  | lookup text =>
    rcases hl : d.lookup text with e | ⟨s, d₁⟩
    · rw [DictCall.apply_lookup_error hl]
      exact Grows.refl d
    · rw [DictCall.apply_lookup_ok hl]
      exact Grows.lookup hl
  | find => exact Grows.refl d
  | setKeyword s k => exact Grows.setTag s _
  | setType s r => exact Grows.setTag s _
  | resolve s => exact Grows.resolve s

/-! ### The texts of the slots -/

theorem getElem?_texts (d : Dict) (i : Nat) : d.texts[i]? = (d.slot? (i + 1)).map (·.text) := by
  simp [texts, slot?]

theorem texts_ext {d d' : Dict}
    (h : ∀ s, (d'.slot? s).map (·.text) = (d.slot? s).map (·.text)) : d'.texts = d.texts :=
  List.ext_getElem? fun i => by rw [getElem?_texts, getElem?_texts, h]

theorem texts_setTag (s : Nat) (tag : SlotTag) : (d.setTag s tag).texts = d.texts :=
  texts_ext fun s' => by
    rw [slot?_setTag]
    split
    · rename_i hs
      subst hs
      rw [Option.map_map]
      rfl
    · rfl

theorem texts_resolve (s : Nat) : (d.resolve s).2.texts = d.texts := by
  rw [resolve_eq]
  split
  · rfl
  · split
    · exact texts_setTag s _
    · rfl

/-- A text is among the texts exactly when the index lists it. -/
theorem Paired.mem_texts (h : d.Paired) {text : ByteArray} :
    text ∈ d.texts ↔ ∃ s, d.index[text]? = some s := by
  constructor
  · intro hm
    obtain ⟨i, hi, hget⟩ := List.getElem_of_mem hm
    have := getElem?_texts d i
    rw [List.getElem?_eq_getElem hi, hget] at this
    obtain ⟨e, he, hte⟩ := Option.map_eq_some_iff.1 this.symm
    exact ⟨i + 1, hte ▸ h.index _ e he⟩
  · rintro ⟨s, hs⟩
    obtain ⟨e, he, rfl⟩ := holds_iff.1 (h.slot text s hs)
    have hb := slot?_bounds he
    have := getElem?_texts d (s - 1)
    rw [Nat.sub_add_cancel hb.1, he, Option.map_some] at this
    exact List.mem_of_getElem? this

/-- No text is in two slots. -/
theorem Paired.nodup_texts (h : d.Paired) : d.texts.Nodup := by
  refine List.nodup_iff_getElem?_ne_getElem?.2 fun i j hij hj => ?_
  rw [getElem?_texts, getElem?_texts]
  intro heq
  have hi : i < d.size := by
    have : d.texts.length = d.size := by simp [texts, Dict.size]
    omega
  obtain ⟨e, he⟩ : ∃ e, d.slot? (i + 1) = some e := by
    simp only [slot?, Nat.add_one_ne_zero, if_false, Nat.add_sub_cancel]
    exact ⟨_, Array.getElem?_eq_getElem (by simpa [Dict.size] using hi)⟩
  obtain ⟨e', he', hee⟩ := Option.map_eq_some_iff.1 (he ▸ heq.symm : _ = some e.text)
  have := h.slot_inj (holds_iff.2 ⟨e, he, rfl⟩) (holds_iff.2 ⟨e', he', hee⟩)
  omega

/-- A new text goes into the next slot, after all the others. -/
theorem texts_lookup_new (h : d.Paired) {text : ByteArray} {s : Nat}
    (hl : d.lookup text = .ok (s, d')) (hn : d.index[text]? = none) :
    s = d.size + 1 ∧ d'.texts = d.texts ++ [text] := by
  rcases lookup_eq_ok hl with ⟨hi, -⟩ | ⟨-, hlt, rfl, rfl⟩
  · rw [hn] at hi
    cases hi
  · exact ⟨next_slot h.max hlt, by simp [texts]⟩

/-- One call adds to the texts only the text a successful interning stored, unless it was there
before. -/
theorem texts_apply (h : d.Paired) (c : DictCall) (rest : List ByteArray) :
    ((c.apply d).texts ++ rest).eraseDups =
      (d.texts ++ ((c.answer d).toList.map Prod.fst ++ rest)).eraseDups := by
  cases c with
  | lookup text =>
    rcases hl : d.lookup text with e | ⟨s, d₁⟩
    · rw [DictCall.apply_lookup_error hl, DictCall.answer_lookup_error hl]
      rfl
    rw [DictCall.apply_lookup_ok hl, DictCall.answer_lookup_ok hl]
    simp only [Option.toList_some, List.map_cons, List.map_nil, List.singleton_append]
    rcases hi : d.index[text]? with _ | s'
    · -- a new text is appended
      rw [(texts_lookup_new h hl hi).2, List.append_assoc, List.singleton_append]
    · -- a text seen before leaves the dictionary as it was
      rcases lookup_eq_ok hl with ⟨-, rfl⟩ | ⟨hn, -⟩
      · rw [eraseDups_append_cons_of_mem (h.mem_texts.2 ⟨s', hi⟩)]
      · rw [hi] at hn
        cases hn
  | find => rfl
  | setKeyword s k => simp [DictCall.apply, DictCall.answer, texts_setTag]
  | setType s r => simp [DictCall.apply, DictCall.answer, texts_setTag]
  | resolve s => simp [DictCall.apply, DictCall.answer, texts_resolve]

/-! ### A run -/

theorem Paired.run (h : d.Paired) (calls : List DictCall) : (d.run calls).Paired := by
  induction calls generalizing d with
  | nil => exact h
  | cons c calls ih => exact ih (h.apply c)

theorem Grows.run (calls : List DictCall) : d.Grows (d.run calls) := by
  induction calls generalizing d with
  | nil => exact Grows.refl d
  | cons c calls ih => exact (Grows.apply c).trans ih

theorem max_run (calls : List DictCall) : (d.run calls).max = d.max := by
  induction calls generalizing d with
  | nil => rfl
  | cons c calls ih => rw [run_cons, ih, max_apply]

/-- Every slot an interning answered holds its text at the end of the run. -/
theorem Paired.answers_hold (h : d.Paired) (calls : List DictCall) :
    ∀ p ∈ d.answers calls, (d.run calls).Holds p.2 p.1 := by
  induction calls generalizing d with
  | nil => simp
  | cons c calls ih =>
    intro p hp
    rw [answers_cons, List.mem_append] at hp
    rcases hp with hp | hp
    · -- the call's own answer holds after it, and the rest of the run keeps it
      cases c with
      | lookup text =>
        rcases hl : d.lookup text with e | ⟨s, d₁⟩
        · simp [DictCall.answer_lookup_error hl] at hp
        · rw [DictCall.answer_lookup_ok hl, Option.toList_some, List.mem_singleton] at hp
          subst hp
          rw [run_cons, DictCall.apply_lookup_ok hl]
          exact Grows.run calls _ _ (h.lookup hl).2
      | _ => simp [DictCall.answer] at hp
    · exact ih (h.apply c) p hp

/-- The slots of a run hold the texts it interned, in the order they were first seen. -/
theorem Paired.texts_run (h : d.Paired) (calls : List DictCall) :
    (d.run calls).texts = (d.texts ++ (d.answers calls).map Prod.fst).eraseDups := by
  induction calls generalizing d with
  | nil => simp [eraseDups_of_nodup h.nodup_texts]
  | cons c calls ih =>
    rw [run_cons, ih (h.apply c), texts_apply h, answers_cons, List.map_append]

/-! ### What the dictionary answers -/

/-- Finding a text gives the slot interning it gives without changing anything. -/
theorem find_iff_lookup (d : Dict) (text : ByteArray) (s : Nat) :
    d.find? text = some s ↔ d.lookup text = .ok (s, d) := by
  unfold find?
  constructor
  · intro hs
    simp [lookup, hs]
  · intro hl
    rcases lookup_eq_ok hl with ⟨hi, -⟩ | ⟨-, -, -, hd⟩
    · exact hi
    · -- interning a new text adds a slot, so the dictionary cannot stay the same
      have := congrArg Dict.size hd
      simp [Dict.size] at this

/-- Interning fails exactly for a new text in a full dictionary. -/
theorem lookup_error_iff (h : d.Paired) (text : ByteArray) :
    d.lookup text = .error ⟨text⟩ ↔ d.find? text = none ∧ d.size = d.max := by
  have hle := h.size
  unfold lookup find?
  split
  · simp_all
  · rename_i hn
    split
    · simp only [true_iff]
      exact ⟨hn, by omega⟩
    · simp only [reduceCtorEq, false_iff, not_and]
      omega

/-- Resolving slot `s`: an invalid slot is left alone; a valid one keeps its text and is tagged
as the keyword its text spells when it was unresolved, and keeps any tag set before; no other
slot changes. -/
def Resolves (d : Dict) (s : Nat) : Prop :=
  (d.slot? s = none → d.resolve s = (none, d)) ∧
  ∀ e, d.slot? s = some e → ∃ e', (d.resolve s).1 = some e' ∧
    (d.resolve s).2.slot? s = some e' ∧ e'.text = e.text ∧
    e'.tag = (if e.tag = .unresolved then ((lookupKeyword? e.text).map .keyword).getD .unresolved
      else e.tag) ∧
    ∀ s', s' ≠ s → (d.resolve s).2.slot? s' = d.slot? s'

theorem resolves (d : Dict) (s : Nat) : d.Resolves s := by
  refine ⟨fun hn => by rw [resolve_eq, hn], fun e he => ?_⟩
  rw [resolve_eq, he]
  dsimp only
  split
  · -- an unresolved keyword spelling
    rename_i k hu hk
    refine ⟨_, rfl, by rw [slot?_setTag, if_pos rfl, he]; rfl, rfl, by simp [hu, hk], ?_⟩
    intro s' hs'
    rw [slot?_setTag, if_neg hs']
  · rename_i hnot
    refine ⟨e, rfl, he, rfl, ?_, fun _ _ => rfl⟩
    split
    · rename_i hu
      cases hk : lookupKeyword? e.text with
      | none => simp [hu]
      | some k => exact absurd hk (hnot _ hu)
    · rfl

/-- What a dictionary of capacity `D` answers to its next call. -/
structure Answers (D : Nat) (d : Dict) : Prop where
  /-- It holds at most `D` texts. -/
  size_le : d.size ≤ D
  /-- Finding a text gives the slot that interning it gives without changing anything. -/
  find_iff : ∀ text s, d.find? text = some s ↔ d.lookup text = .ok (s, d)
  /-- Interning fails exactly for a new text when the dictionary holds `D` texts. -/
  lookup_error_iff : ∀ text, d.lookup text = .error ⟨text⟩ ↔ d.find? text = none ∧ d.size = D
  /-- A new text is given the next slot, after all the others. -/
  lookup_new : ∀ text s d', d.find? text = none → d.lookup text = .ok (s, d') →
    s = d.size + 1 ∧ d'.texts = d.texts ++ [text]
  /-- Resolving tags an unresolved keyword spelling and nothing else. -/
  resolves : ∀ s, d.Resolves s

theorem Paired.answers {D : Nat} (h : d.Paired) (hmax : d.max = D) : d.Answers D where
  size_le := hmax ▸ h.size
  find_iff := find_iff_lookup d
  lookup_error_iff text := hmax ▸ lookup_error_iff h text
  lookup_new _ _ _ hn hl := texts_lookup_new h hl hn
  resolves := resolves d

/-- Any sequence of calls on an empty dictionary of capacity `0 < D < 2^32`: every slot an
interning answered holds its text to the end, so two answers share a slot exactly when they share
a text; the slots hold the interned texts in the order first seen; and at every point the
dictionary answers its next call as `Dict.Answers` says. -/
theorem calls_keep_slots (D : Nat) (hD : 0 < D) (hD32 : D < 2 ^ 32) (calls : List DictCall) :
    (∀ p ∈ (Dict.create D).answers calls,
      1 ≤ p.2 ∧ p.2 ≤ ((Dict.create D).run calls).size ∧
        ((Dict.create D).run calls).text p.2 = p.1) ∧
    (∀ p ∈ (Dict.create D).answers calls, ∀ q ∈ (Dict.create D).answers calls,
      p.2 = q.2 ↔ p.1 = q.1) ∧
    ((Dict.create D).run calls).texts = (((Dict.create D).answers calls).map Prod.fst).eraseDups ∧
    ((Dict.create D).run calls).Answers D := by
  have h := Paired.create (m := D) (by exact_mod_cast hD32)
  have hmax : ((Dict.create D).run calls).max = D := by
    rw [max_run]
    show (if (D : Int) ≤ 0 then defaultMaxSlots else (D : Int).toNat) = D
    rw [if_neg (by omega), Int.toNat_natCast]
  have hold := h.answers_hold calls
  have hrun := h.run calls
  refine ⟨fun p hp => ?_, fun p hp q hq => ?_, ?_, hrun.answers hmax⟩
  · obtain ⟨e, he, hte⟩ := holds_iff.1 (hold p hp)
    exact ⟨(slot?_bounds he).1, (slot?_bounds he).2, by simp [text, he, hte]⟩
  · -- one slot, one text; one text, one slot
    exact ⟨fun hs => holds_inj (hold p hp) (hs ▸ hold q hq),
      fun ht => hrun.slot_inj (hold p hp) (ht ▸ hold q hq)⟩
  · rw [h.texts_run]
    simp [texts, Dict.create]

/-- Two internings of `a` around one of `b`, in a dictionary of capacity 2. -/
theorem calls_keep_slots_two_texts :
    0 < 2 ∧ 2 < 2 ^ 32 ∧
    let calls := [DictCall.lookup ⟨#[0x61]⟩, .lookup ⟨#[0x62]⟩, .lookup ⟨#[0x61]⟩]
    (∀ p ∈ (Dict.create 2).answers calls,
      1 ≤ p.2 ∧ p.2 ≤ ((Dict.create 2).run calls).size ∧
        ((Dict.create 2).run calls).text p.2 = p.1) ∧
    (∀ p ∈ (Dict.create 2).answers calls, ∀ q ∈ (Dict.create 2).answers calls,
      p.2 = q.2 ↔ p.1 = q.1) ∧
    ((Dict.create 2).run calls).texts = (((Dict.create 2).answers calls).map Prod.fst).eraseDups ∧
    ((Dict.create 2).run calls).Answers 2 :=
  ⟨by decide, by decide, calls_keep_slots 2 (by decide) (by decide) _⟩

/-! ### Capacities of 2^32 texts and more -/

/-- Interning new texts one after another while there is room: the `i`-th is given the slot
`d.size + 1 + i` as a 32-bit word. -/
theorem answers_fresh (ts : List ByteArray) (hnd : ts.Nodup) (hn : ∀ t ∈ ts, d.index[t]? = none)
    (hroom : d.size + ts.length ≤ d.max) :
    d.answers (ts.map .lookup) = ts.mapIdx fun i t => (t, (d.size + 1 + i) % 2 ^ 32) := by
  induction ts generalizing d with
  | nil => rfl
  | cons t ts ih =>
    obtain ⟨htn, hnd⟩ := List.nodup_cons.1 hnd
    set d' : Dict := { d with entries := d.entries.push ⟨t, .unresolved⟩,
                              index := d.index.insert t ((d.size + 1) % 2 ^ 32) }
    have hl : d.lookup t = .ok ((d.size + 1) % 2 ^ 32, d') := by
      unfold lookup
      rw [hn t List.mem_cons_self, if_neg (by simp at hroom; omega)]
      rfl
    have hsize : d'.size = d.size + 1 := by simp [d', Dict.size]
    -- the texts still to come are new to the grown dictionary too
    have hn' : ∀ t' ∈ ts, d'.index[t']? = none := by
      intro t' ht'
      have hne : (t == t') = false := by
        simp only [beq_eq_false_iff_ne, ne_eq]
        rintro rfl
        exact htn ht'
      simp only [d', Std.HashMap.getElem?_insert, hne]
      exact hn t' (List.mem_cons_of_mem t ht')
    have hroom' : d'.size + ts.length ≤ d'.max := by
      have hmax : d'.max = d.max := rfl
      simp only [List.length_cons] at hroom
      omega
    rw [List.map_cons, answers_cons, DictCall.answer_lookup_ok hl, DictCall.apply_lookup_ok hl,
      ih hnd hn' hroom', List.mapIdx_cons, hsize]
    simp only [Option.toList_some, List.singleton_append, Nat.add_zero]
    congr 2
    funext i t'
    rw [Nat.add_right_comm d.size 1 1, Nat.add_assoc (d.size + 1) 1 i, Nat.add_comm 1 i]

/-- In a dictionary of capacity 2^32, interning 2^32 distinct texts gives the last of them the
reserved slot 0. -/
theorem wrapped_slot_is_reserved :
    (⟨Array.replicate (2 ^ 32) 0x61⟩, 0) ∈ (Dict.create (2 ^ 32)).answers
      (((List.range (2 ^ 32)).map fun i => (⟨Array.replicate (i + 1) 0x61⟩ : ByteArray)).map
        .lookup) := by
  set ts := (List.range (2 ^ 32)).map fun i => (⟨Array.replicate (i + 1) 0x61⟩ : ByteArray)
  have hmax : (Dict.create (2 ^ 32)).max = 2 ^ 32 := by decide
  have hnd : ts.Nodup := by
    refine (List.nodup_range).map fun i j hij => ?_
    have := congrArg (fun b : ByteArray => b.data.size) hij
    simpa using this
  have hlen : ts.length = 2 ^ 32 := by simp [ts]
  rw [answers_fresh ts hnd (fun t _ => Std.HashMap.getElem?_empty) (by
    rw [hlen, hmax]
    exact Nat.le_refl _), List.mem_mapIdx]
  refine ⟨2 ^ 32 - 1, by rw [hlen]; decide, ?_⟩
  simp only [ts, List.getElem_map, List.getElem_range]
  rfl

end Dict

end NovelScript

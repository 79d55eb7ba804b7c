import Std.Data.HashMap
import NovelScript.Token.Basic
import NovelScript.Text.Quoted
/-!
# The identifier dictionary

Identifier texts are interned: each distinct text gets a slot, numbered from 1 in the order
texts are first seen, and slot 0 stays reserved. A slot carries a tag: unresolved, a keyword,
or a built-in type. The dictionary holds at most `max` texts; interning a new text beyond
that fails and changes nothing. Slots are 32-bit words: in a dictionary whose capacity reaches
2^32 texts, they wrap around.
-/

namespace NovelScript

/-- The keywords of the script language, codes 1 to 23. -/
def keywordTexts : List String :=
  ["if", "elif", "else", "while", "for", "in", "break", "continue", "return", "goto", "call",
   "menu", "let", "var", "const", "func", "scene", "include", "wait", "end", "true", "false",
   "null"]

/-- The keyword code of `text`; keywords are case-sensitive. -/
def lookupKeyword? (text : ByteArray) : Option Nat :=
  (keywordTexts.idxOf? (String.fromUTF8? text |>.getD "\x00")).map (· + 1)

/-- The code of `goto`. -/
def keywordGoto : Nat := 10

/-- The code of `menu`. -/
def keywordMenu : Nat := 12

/-- The tag of a dictionary slot. -/
inductive SlotTag where
  | unresolved
  /-- A keyword, by code. -/
  | keyword (code : Nat)
  /-- A built-in type, by its reference (1-based index in the built-in table). -/
  | type (ref : Nat)
  deriving DecidableEq, Repr

namespace SlotTag

/-- The tag's kind code: 0 unresolved, 1 keyword, 2 type. -/
def kindCode : SlotTag → Nat
  | unresolved => 0 | keyword _ => 1 | type _ => 2

/-- The keyword code of a keyword tag, else 0. -/
def keywordCode : SlotTag → Nat
  | keyword k => k | _ => 0

/-- The type reference of a type tag, else 0. -/
def typeRef : SlotTag → Nat
  | type r => r | _ => 0

end SlotTag

/-- The printed name of tag kind code `n`. -/
def slotKindName (n : Nat) : String :=
  match n with
  | 0 => "unresolved" | 1 => "keyword" | 2 => "type" | _ => "unknown"

/-- One interned identifier. -/
structure DictEntry where
  text : ByteArray
  tag : SlotTag := .unresolved

/-- The dictionary is full. -/
structure DictFull where
  text : ByteArray

/-- The default capacity: 2^24 identifiers. -/
def defaultMaxSlots : Nat := Nat.pow 2 24

/-- Interned identifiers by slot, with the reverse index. -/
structure Dict where
  /-- Entries of slots 1, 2, …: entry `i` is slot `i + 1`. -/
  entries : Array DictEntry := #[]
  index : Std.HashMap ByteArray Nat := {}
  max : Nat := defaultMaxSlots

namespace Dict

/-- An empty dictionary of capacity `max`, the default when `max` is not positive. -/
def create (max : Int) : Dict := { max := if max ≤ 0 then defaultMaxSlots else max.toNat }

/-- The number of interned identifiers. -/
def size (d : Dict) : Nat := d.entries.size

/-- The slot of `text`, without interning. -/
def find? (d : Dict) (text : ByteArray) : Option Nat := d.index[text]?

/-- The slot of `text`, interning it when new. -/
def lookup (d : Dict) (text : ByteArray) : Except DictFull (Nat × Dict) :=
  match d.index[text]? with
  | some s => .ok (s, d)
  | none =>
    if d.size ≥ d.max then .error ⟨text⟩
    else
      -- slots are 32-bit: the slot of the 2^32-th text wraps to the reserved slot 0
      let s := (d.size + 1) % Nat.pow 2 32
      .ok (s, { d with entries := d.entries.push ⟨text, .unresolved⟩,
                       index := d.index.insert text s })

/-- Whether `slot` is an interned slot. -/
def has (d : Dict) (slot : Nat) : Bool := slot != 0 && slot ≤ d.size

/-- The entry of a slot. -/
def slot? (d : Dict) (slot : Nat) : Option DictEntry :=
  if slot = 0 then none else d.entries[slot - 1]?

/-- The text of a slot, empty for an invalid slot. -/
def text (d : Dict) (slot : Nat) : ByteArray := ((d.slot? slot).map (·.text)).getD .empty

/-- Replaces the tag of a slot; an invalid slot is left alone. -/
def setTag (d : Dict) (slot : Nat) (tag : SlotTag) : Dict :=
  if slot = 0 then d else
  { d with entries := d.entries.modify (slot - 1) fun e => { e with tag := tag } }

/-- The entry of a slot, tagging an unresolved keyword spelling as that keyword first. -/
def resolve (d : Dict) (slot : Nat) : Option DictEntry × Dict :=
  match d.slot? slot with
  | none => (none, d)
  | some e =>
    match e.tag, lookupKeyword? e.text with
    | .unresolved, some k =>
      let e' := { e with tag := .keyword k }
      (some e', d.setTag slot (.keyword k))
    | _, _ => (some e, d)

end Dict

/-- The message of a full dictionary. -/
def DictFull.message (e : DictFull) : ByteArray :=
  ("intern ".toUTF8 ++ (Quoted.quote e.text).toUTF8) ++ ": identifier dictionary full".toUTF8

/-- A built-in type: its name, its kind code, its bit width (0 when it has none) and its sign. -/
structure BuiltinType where
  name : String
  kind : Nat
  bits : Nat
  signed : Bool

/-- The built-in types; reference `i + 1` is entry `i`. Kinds: 0 void, 1 integer, 2 register
integer, 3 pointer integer, 4 float, 5 string view, 6 dynamic string, 7 fixed string. -/
def builtinTypes : List BuiltinType :=
  [⟨"void", 0, 0, false⟩, ⟨"s1", 1, 1, true⟩, ⟨"s8", 1, 8, true⟩, ⟨"s16", 1, 16, true⟩,
   ⟨"s32", 1, 32, true⟩, ⟨"s64", 1, 64, true⟩, ⟨"u1", 1, 1, false⟩, ⟨"u8", 1, 8, false⟩,
   ⟨"u16", 1, 16, false⟩, ⟨"u32", 1, 32, false⟩, ⟨"u64", 1, 64, false⟩,
   ⟨"sreg", 2, 0, true⟩, ⟨"ureg", 2, 0, false⟩, ⟨"sptr", 3, 0, true⟩, ⟨"uptr", 3, 0, false⟩,
   ⟨"f32", 4, 32, true⟩, ⟨"f64", 4, 64, true⟩, ⟨"strview", 5, 0, false⟩,
   ⟨"string", 6, 0, false⟩, ⟨"strfixed", 7, 0, false⟩]

/-- The built-in type of a reference. -/
def builtinType? (ref : Nat) : Option BuiltinType :=
  if ref = 0 then none else builtinTypes[ref - 1]?

namespace Dict

/-- Interns the names of `types` in order, tagging the slot of the `i`-th (from `next`) with
type `i`; stops at a full dictionary, keeping what was interned before. -/
def registerFrom (d : Dict) (next : Nat) : List BuiltinType → Dict × Option DictFull
  | [] => (d, none)
  | bt :: rest =>
    match d.lookup bt.name.toUTF8 with
    | .ok (s, d) => registerFrom (d.setTag s (.type next)) (next + 1) rest
    | .error e => (d, some e)

/-- Interns the built-in type names in table order and tags each slot with its type. -/
def registerBuiltins (d : Dict) : Dict × Option DictFull := registerFrom d 1 builtinTypes

end Dict

end NovelScript

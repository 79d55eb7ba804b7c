import Mathlib
import NovelScript.Proofs.Lexer.Runes
/-!
# The decoding of literal bodies

`Literal.decode` is a reference decoding of a string, speaker or message body, written over the
characters of the text (`Utf8.runesAt`) rather than byte offsets:

* the closer ends the body;
* a backslash starts an escape (`Literal.escapeSpec`): `\n \t \r \0 \a \b \f \v \\ \" \'`
  give their byte (`Literal.letterEscapes`), `\xHH` the byte 0xHH and a bad `\x` U+FFFD
  (`Literal.hexSpec`), `\u{h}` what the `\u` escape gives and any other `\u` form U+FFFD
  (`Literal.unicodeSpec`), a backslash before a newline drops the newline and the next line's
  indentation, one before any other character gives that character, reported unless it is the
  closer, and one at the end of the input gives nothing;
* a newline ends a plain string, unterminated and before the newline; it splits a message
  before a line of blanks only; otherwise it is kept and the next line's indentation dropped;
* every other character is copied as it is spelled, an invalid byte included.

`Literal.body_decode` proves that the decoder reads exactly this: the text, the codes of its
reports in order, the way it ends and where it stops. The proof goes down the body one step at a
time, with a lemma for each piece the step reads: indentation and the blank-line lookahead
(`Literal.runesAt_indentEnd`, `Literal.blankLineFrom_eq`), `\x` (`Literal.hexSpec_runesAt`),
the digits and checks of `\u` (`Literal.unicodeDigits_runes`, `Literal.unicodeEscape_runes`)
and whole escapes (`Literal.escape_runes`).
-/

namespace NovelScript

open Utf8 Chars

namespace Literal

/-! ### The reference decoding -/

/-- Space, tab, carriage return and the ideographic space U+3000: what indentation is made of. -/
def isIndent (c : Rune) : Bool := c.cp = 0x20 || c.cp = 0x09 || c.cp = 0x0D || c.cp = 0x3000

/-- The characters after the indentation that starts `cs`. -/
def dropIndent (cs : List Rune) : List Rune := cs.dropWhile isIndent

/-- Whether the line that starts `cs` holds only indentation and ends in a newline. -/
def blankLine (cs : List Rune) : Bool :=
  match dropIndent cs with
  | c :: _ => c.cp = 0x0A
  | [] => false

/-- The ASCII byte of a hex digit character. -/
def hexDigit? (cp : Nat) : Option UInt8 :=
  if cp < 0x80 ∧ isHex cp.toUInt8 then some cp.toUInt8 else none

/-- Whether a character is a hex digit. -/
def isHexDigit (c : Rune) : Bool := (hexDigit? c.cp).isSome

/-- The one-letter escapes and the bytes they stand for. -/
def letterEscapes : List (Char × UInt8) :=
  [('n', 0x0A), ('t', 0x09), ('r', 0x0D), ('0', 0x00), ('a', 0x07), ('b', 0x08), ('f', 0x0C),
    ('v', 0x0B), ('\\', 0x5C), ('"', 0x22), ('\'', 0x27)]

/-- The byte the one-letter escape `\c` stands for, when `c` is one. -/
def letterByte? (cp : Nat) : Option UInt8 := (letterEscapes.find? (·.1.toNat = cp)).map (·.2)

/-- What an escape stands for: its bytes, the codes it is reported with, and the characters
after it. -/
structure Piece where
  bytes : List UInt8
  codes : List Code
  rest : List Rune

/-- U+FFFD, reported with `codes`, the literal going on with `rest`. -/
def Piece.bad (codes : List Code) (rest : List Rune) : Piece :=
  ⟨(encode replacement).data.toList, codes, rest⟩

/-- The characters after one hex digit, if `cs` starts with one. -/
def skipHexDigit : List Rune → List Rune
  | c :: cs => if isHexDigit c then cs else c :: cs
  | [] => []

/-- `\x` followed by `cs`: two hex digits give the byte they spell; anything else gives
U+FFFD, past the one hex digit there is. -/
def hexSpec (cs : List Rune) : Piece :=
  match cs with
  | c₁ :: c₂ :: rest =>
    match hexDigit? c₁.cp, hexDigit? c₂.cp with
    | some a, some b => ⟨[(hexValue [a, b]).toUInt8], [], rest⟩
    | _, _ => .bad [Code.lexBadHexEscape] (skipHexDigit cs)
  | _ => .bad [Code.lexBadHexEscape] (skipHexDigit cs)

/-- Whether `c` stops the digits of `\u{…}`: a closing brace, a newline or the closer. -/
def stopsDigits (closer : Nat) (c : Rune) : Bool := c.cp = 0x7D || c.cp = 0x0A || c.cp = closer

/-- The reports of `\u{ds` cut off before its brace: a bad digit if there is one, and the cut. -/
def cutCodes (ds : List Rune) : List Code :=
  (if ds.all isHexDigit then [] else [Code.lexBadUnicodeHex]) ++
    [Code.lexUnicodeUnterminated]

/-- `\u` followed by `cs`: hex digits in braces give `unicodeText` of their value, with the
reports of `unicodeCodes`; no digits or a bad one give U+FFFD; a newline, the closer or the end
of the input before the closing brace cuts the escape off there, and no brace at all cuts it
off at once. -/
def unicodeSpec (closer : Nat) (cs : List Rune) : Piece :=
  match cs with
  | c :: body =>
    if c.cp = 0x7B then
      match body.span fun d => !stopsDigits closer d with
      | (ds, e :: rest) =>
        if e.cp = 0x7D ∧ e.cp ≠ closer then
          if ds ≠ [] ∧ ds.all isHexDigit then
            let v := hexValue (ds.filterMap fun d => hexDigit? d.cp)
            ⟨(unicodeText v).data.toList, unicodeCodes v, rest⟩
          else .bad [Code.lexBadUnicodeHex] rest
        else .bad (cutCodes ds) (e :: rest)
      | (ds, []) => .bad (cutCodes ds) []
    else .bad [Code.lexUnicodeUnterminated] cs
  | [] => .bad [Code.lexUnicodeUnterminated] []

/-- The escape whose backslash comes before `cs`. -/
def escapeSpec (closer : Nat) : List Rune → Piece
  | [] => ⟨[], [], []⟩
  | c :: cs =>
    match letterByte? c.cp with
    | some v => ⟨[v], [], cs⟩
    | none =>
      if c.cp = 0x78 then hexSpec cs
      else if c.cp = 0x75 then unicodeSpec closer cs
      else if c.cp = 0x0A then ⟨[], [], dropIndent cs⟩
      else ⟨(encode c.cp).data.toList, if c.cp = closer then [] else [Code.lexUnknownEscape], cs⟩

@[simp] theorem Piece.bad_rest (codes : List Code) (rest : List Rune) :
    (Piece.bad codes rest).rest = rest := rfl

theorem skipHexDigit_suffix : ∀ cs : List Rune, skipHexDigit cs <:+ cs
  | [] => List.suffix_refl _
  | c :: cs => by
    rw [skipHexDigit]
    split
    · exact List.suffix_cons _ _
    · exact List.suffix_refl _

theorem hexSpec_suffix (cs : List Rune) : (hexSpec cs).rest <:+ cs := by
  unfold hexSpec
  split
  · split
    · exact (List.suffix_cons _ _).trans (List.suffix_cons _ _)
    · simpa using skipHexDigit_suffix _
  · simpa using skipHexDigit_suffix _

theorem span_snd_suffix {α : Type} (p : α → Bool) (l : List α) : (l.span p).2 <:+ l := by
  rw [List.span_eq_takeWhile_dropWhile]
  exact List.dropWhile_suffix p

theorem unicodeSpec_suffix (closer : Nat) (cs : List Rune) :
    (unicodeSpec closer cs).rest <:+ cs := by
  unfold unicodeSpec
  split
  · rename_i c body
    split
    · split
      · rename_i ds e rest hspan
        -- the digits end where the span stops, inside the escape
        have h : e :: rest <:+ c :: body := by
          have := span_snd_suffix (fun d => !stopsDigits closer d) body
          rw [hspan] at this
          exact this.trans (List.suffix_cons _ _)
        split
        · split
          · exact (List.suffix_cons _ _).trans h
          · simpa using (List.suffix_cons _ _).trans h
        · simpa using h
      · simp
    · simp
  · simp

theorem escapeSpec_suffix (closer : Nat) : ∀ cs : List Rune, (escapeSpec closer cs).rest <:+ cs
  | [] => List.suffix_refl _
  | c :: cs => by
    rw [escapeSpec]
    have hc : cs <:+ c :: cs := List.suffix_cons _ _
    split
    · exact hc
    · split
      · exact (hexSpec_suffix cs).trans hc
      · split
        · exact (unicodeSpec_suffix closer cs).trans hc
        · split
          · exact (List.dropWhile_suffix _).trans hc
          · exact hc

/-- A decoded body: the text, the codes reported in order, how it ended, and the characters
after it. -/
structure Decoded where
  text : List UInt8
  codes : List Code
  ending : BodyEnd
  rest : List Rune

/-- `d` after `text`, reported with `codes` before its own codes. -/
def Decoded.prepend (text : List UInt8) (codes : List Code) (d : Decoded) : Decoded :=
  { d with text := text ++ d.text, codes := codes ++ d.codes }

/-- The reference decoding of a literal body, character by character: the closer ends it; a
backslash starts an escape; a newline ends a plain string, unterminated, splits a message
before a blank line, and otherwise is kept with the next line's indentation dropped; every other
character is copied as it is spelled, an invalid byte included. -/
def decode (lit : OpenLiteral) : List Rune → Decoded
  | [] => ⟨[], [], .unterminated, []⟩
  | c :: cs =>
    if c.cp = lit.closer then ⟨[], [], .closed, cs⟩
    else if c.cp = 0x5C then
      let e := escapeSpec lit.closer cs
      (decode lit e.rest).prepend e.bytes e.codes
    else if c.cp = 0x0A then
      if lit.kind = .string then ⟨[], [], .unterminated, c :: cs⟩
      else if lit.kind = .message ∧ blankLine cs then ⟨[], [], .split, c :: cs⟩
      else (decode lit (dropIndent cs)).prepend [0x0A] []
    else (decode lit cs).prepend c.bytes []
termination_by cs => cs.length
decreasing_by
  · exact Nat.lt_succ_of_le (escapeSpec_suffix _ _).length_le
  · exact Nat.lt_succ_of_le (List.dropWhile_suffix _).length_le
  · exact Nat.lt_succ_self _

/-! ### Indentation, character by character -/

/-- The character at `i` is indentation exactly when a blank byte or the bytes of U+3000 stand
there. -/
theorem isIndent_decodeAt {bs : ByteArray} {i : Nat} (h : i < bs.size) (bytes : List UInt8) :
    isIndent ⟨(decodeAt bs i).1, bytes⟩ = (isBlank (byteAt bs i) || spaceAt bs i) := by
  by_cases hb : isBlank (byteAt bs i) = true
  · rw [decodeAt_ascii h (lt_of_isBlank hb)]
    simp only [isIndent, hb, Bool.true_or]
    rcases (isBlank_iff _).1 hb with h' | h' | h' <;> simp [h']
  by_cases hs : spaceAt bs i = true
  · simp [decodeAt_spaceAt hs, hs, isIndent]
  have hne : (decodeAt bs i).1 ≠ 0x3000 := fun h3 => hs (spaceAt_of_decodeAt h3)
  simp only [Bool.eq_false_iff.2 hb, Bool.eq_false_iff.2 hs, Bool.or_false, isIndent, hne,
    decide_false, Bool.or_false, Bool.or_eq_false_iff, decide_eq_false_iff_not]
  rw [isBlank_iff] at hb
  rcases decodeAt_cases bs i with hr | ⟨-, hr⟩ | hr
  · simp [hr, replacement]
  · rw [hr]; omega
  · omega

theorem dropIndent_cons (c : Rune) (cs : List Rune) :
    dropIndent (c :: cs) = if isIndent c then dropIndent cs else c :: cs :=
  List.dropWhile_cons

theorem blankLine_cons (c : Rune) (cs : List Rune) :
    blankLine (c :: cs) = if isIndent c then blankLine cs else decide (c.cp = 0x0A) := by
  by_cases hc : isIndent c <;> simp [blankLine, dropIndent_cons, hc]

/-- The characters after the indentation the model skips are those after the indentation the
reference drops. -/
theorem runesAt_indentEnd (bs : ByteArray) (i : Nat) :
    runesAt bs (indentEnd bs i) = dropIndent (runesAt bs i) := by
  fun_induction indentEnd bs i with
  | case1 i hi hb ih =>
    rw [ih, runesAt_ascii hi (lt_of_isBlank hb), dropIndent_cons]
    have := isIndent_decodeAt hi [byteAt bs i]
    rw [decodeAt_ascii hi (lt_of_isBlank hb)] at this
    simp [this, hb]
  | case2 i hi hb hs ih =>
    rw [ih, runesAt_of_lt hi, dropIndent_cons, isIndent_decodeAt hi, decodeAt_spaceAt hs]
    simp [hs]
  | case3 i hi hb hs =>
    rw [runesAt_of_lt hi, dropIndent_cons, isIndent_decodeAt hi]
    simp [hb, hs]
  | case4 i hi =>
    rw [runesAt_of_le (Nat.le_of_not_lt hi)]
    rfl

/-- The model's blank-line lookahead is the reference's, read on the characters. -/
theorem blankLineFrom_eq (bs : ByteArray) (i : Nat) :
    blankLineFrom bs i = blankLine (runesAt bs i) := by
  fun_induction blankLineFrom bs i with
  | case1 i hi b hnl =>
    -- a newline right away: the line is blank
    have hb : byteAt bs i = 0x0A := by simpa [b] using hnl
    have ha : byteAt bs i < 0x80 := by rw [hb]; decide
    have hind := isIndent_decodeAt hi [byteAt bs i]
    rw [decodeAt_ascii hi ha] at hind
    rw [runesAt_ascii hi ha, blankLine_cons, hind]
    simp [hb, isBlank, spaceAt]
  | case2 i hi b hnl hb ih =>
    have hb' : isBlank (byteAt bs i) = true := hb
    have hind := isIndent_decodeAt hi [byteAt bs i]
    rw [decodeAt_ascii hi (lt_of_isBlank hb')] at hind
    rw [ih, runesAt_ascii hi (lt_of_isBlank hb'), blankLine_cons, hind]
    simp [hb']
  | case3 i hi b hnl hb hs ih =>
    rw [ih, runesAt_of_lt hi, blankLine_cons, isIndent_decodeAt hi, decodeAt_spaceAt hs]
    simp [hs]
  | case4 i hi b hnl hb hs =>
    -- any other character: not indentation, and no newline either
    have hb' : isBlank (byteAt bs i) = false := Bool.eq_false_iff.2 hb
    have hcp : (decodeAt bs i).1 ≠ 0x0A := fun h => by
      simp [b, (decodeAt_eq_newline h).2] at hnl
    rw [runesAt_of_lt hi, blankLine_cons, isIndent_decodeAt hi]
    simp [hb', hs, hcp]
  | case5 i hi =>
    rw [runesAt_of_le (Nat.le_of_not_lt hi)]
    rfl

/-! ### `\x` and `\u`, character by character -/

/-- The character at `j` is a hex digit exactly when the byte there is one. -/
theorem hexDigit?_decodeAt {bs : ByteArray} {j : Nat} (h : j < bs.size) :
    hexDigit? (decodeAt bs j).1 = if isHex (byteAt bs j) then some (byteAt bs j) else none := by
  by_cases hx : isHex (byteAt bs j) = true
  · have hlt := lt_of_isHex hx
    have hasc : (byteAt bs j).toNat < 0x80 := by rw [UInt8.lt_iff_toNat_lt] at hlt; simpa using hlt
    rw [decodeAt_ascii h hlt]
    simp [hexDigit?, hasc, hx]
  · rw [if_neg hx]
    unfold hexDigit?
    rcases decodeAt_cases bs j with hr | ⟨-, hr⟩ | hr
    · simp [hr, replacement]
    · simp [hr, hx]
    · rw [if_neg (by omega)]

theorem hexDigit?_of_runesAt {bs : ByteArray} {j : Nat} {c : Rune} {cs : List Rune}
    (h : runesAt bs j = c :: cs) :
    hexDigit? c.cp = if isHex (byteAt bs j) then some (byteAt bs j) else none := by
  obtain ⟨hj, hc, -⟩ := runesAt_eq_cons h
  rw [hc, hexDigit?_decodeAt hj]

/-- A hex byte is a character of its own, and a hex digit. -/
theorem runesAt_hex {bs : ByteArray} {j : Nat} (h : isHex (byteAt bs j) = true) :
    runesAt bs j = ⟨(byteAt bs j).toNat, [byteAt bs j]⟩ :: runesAt bs (j + 1) ∧
      hexDigit? (byteAt bs j).toNat = some (byteAt bs j) := by
  have hj := lt_size_of_isHex h
  have hr := runesAt_ascii hj (lt_of_isHex h)
  refine ⟨hr, ?_⟩
  simpa [h] using hexDigit?_of_runesAt hr

theorem hexValue_pair (a b : UInt8) : hexValue [a, b] = digitVal a * 16 + digitVal b := by
  simp [hexValue, Nat.ofDigits]
  ring

/-- `\x` read on the characters is `\x` read on the bytes: two hex bytes give their value,
and otherwise the escape stops after the one hex byte there is. -/
theorem hexSpec_runesAt (bs : ByteArray) (j : Nat) :
    hexSpec (runesAt bs j) =
      if isHex (byteAt bs j) && isHex (byteAt bs (j + 1)) then
        ⟨[(digitVal (byteAt bs j) * 16 + digitVal (byteAt bs (j + 1))).toUInt8], [], runesAt bs (j + 2)⟩
      else .bad [Code.lexBadHexEscape] (runesAt bs (if isHex (byteAt bs j) then j + 1 else j)) := by
  by_cases h1 : isHex (byteAt bs j) = true
  · obtain ⟨hr1, hd1⟩ := runesAt_hex h1
    rw [hr1]
    by_cases h2 : isHex (byteAt bs (j + 1)) = true
    · obtain ⟨hr2, hd2⟩ := runesAt_hex h2
      rw [hr2]
      simp [hexSpec, hd1, hd2, h1, h2, hexValue_pair]
    · -- one hex digit: the escape stops after it
      rw [Bool.eq_false_iff.2 h2]
      cases hr : runesAt bs (j + 1) with
      | nil => simp [hexSpec, skipHexDigit, isHexDigit, hd1, h1, hr]
      | cons c cs =>
        have hd := hexDigit?_of_runesAt hr
        rw [if_neg h2] at hd
        simp [hexSpec, skipHexDigit, isHexDigit, hd1, hd, h1, hr]
  · -- no hex digit: the escape stops right after the x
    rw [Bool.eq_false_iff.2 h1]
    cases hr : runesAt bs j with
    | nil => simp [hexSpec, skipHexDigit, hr]
    | cons c cs =>
      have hd := hexDigit?_of_runesAt hr
      rw [if_neg h1] at hd
      cases cs with
      | nil => simp [hexSpec, skipHexDigit, isHexDigit, hd, hr]
      | cons c₂ cs => simp [hexSpec, skipHexDigit, isHexDigit, hd, hr]

/-- Where the digits of `\u{…}` stop, told by the characters that stop them: after a closing
brace that is not the closer (`ok`), or cut off at a newline, the closer or the end of the input
(`error`). -/
def digitsEnd (closer : Nat) : List Rune → Except (List Rune) (List Rune)
  | e :: rest => if e.cp = 0x7D ∧ e.cp ≠ closer then .ok rest else .error (e :: rest)
  | [] => .error []

/-- The digit reader over characters `ds` that do not stop it, up to `tail`, which starts with
a character that does or is empty: it is bad once a non-digit is seen, reports the first
non-digit once, reads the value of the digits when all are digits, and stops as `digitsEnd`
says. -/
theorem unicodeDigits_runes (bs : ByteArray) (closer start : Nat) (tail : List Rune)
    (htail : ∀ e ∈ tail.head?, stopsDigits closer e = true) :
    ∀ (ds : List Rune) (p v count : Nat) (bad : Bool) (notes : Array LiteralNote),
      runesAt bs p = ds ++ tail → (∀ d ∈ ds, stopsDigits closer d = false) →
      let r := unicodeDigits bs closer start p v count bad notes
      r.2.2.1 = (bad || !ds.all isHexDigit) ∧
      (∃ more : Array LiteralNote, r.2.2.2.1 = notes ++ more ∧
        more.toList.map (·.code) =
          if bad || ds.all isHexDigit then [] else [Code.lexBadUnicodeHex]) ∧
      (r.2.2.1 = false →
        r.1 = (ds.filterMap fun d => hexDigit? d.cp).foldl satPush v ∧ r.2.1 = count + ds.length) ∧
      (r.2.2.2.2.mapError (runesAt bs)).map (runesAt bs) = digitsEnd closer tail := by
  intro ds
  induction ds with
  | nil =>
    -- the character at the cursor stops the reader
    intro p v count bad notes hp _
    rw [List.nil_append] at hp
    subst hp
    unfold unicodeDigits
    by_cases hlt : p < bs.size
    · rw [if_pos hlt]
      have hw := (decodeAt_width bs p hlt).1
      have hcons := runesAt_of_lt hlt
      rw [hcons] at htail ⊢
      generalize decodeAt bs p = rs at hcons htail hw ⊢
      obtain ⟨r, sz⟩ := rs
      have hstop := htail _ rfl
      simp only [stopsDigits, Bool.or_eq_true, decide_eq_true_eq] at hstop
      dsimp only at hw hstop ⊢
      by_cases hnc : r = 0x0A ∨ r = closer
      · have hb : (r == 0x0A || r == closer) = true := by simpa using hnc
        have hnot : ¬(r = 0x7D ∧ r ≠ closer) := by omega
        simp [hb, digitsEnd, hnot, hcons, Except.map, Except.mapError]
      · have h7d : r = 0x7D := by omega
        have hb : (r == 0x0A || r == closer) = false := by simpa using hnc
        have hc : r ≠ closer := fun h => hnc (.inr h)
        subst h7d
        simp [digitsEnd, Nat.max_eq_left hw, hc, Except.map, Except.mapError]
    · rw [if_neg hlt, runesAt_of_le (Nat.le_of_not_lt hlt)]
      simp [digitsEnd, runesAt_of_le (Nat.le_of_not_lt hlt), Except.map, Except.mapError]
  | cons d ds ih =>
    -- a character that does not stop the reader: a digit is pushed, anything else is bad
    intro p v count bad notes hp hds
    obtain ⟨hlt, hd, hrest⟩ := runesAt_eq_cons hp
    have hw := (decodeAt_width bs p hlt).1
    have hdstop := hds d List.mem_cons_self
    simp only [stopsDigits, Bool.or_eq_false_iff, decide_eq_false_iff_not] at hdstop
    obtain ⟨⟨h7d, hnl⟩, hcl⟩ := hdstop
    have hds' : ∀ x ∈ ds, stopsDigits closer x = false := fun x hx =>
      hds x (List.mem_cons_of_mem _ hx)
    unfold unicodeDigits
    rw [if_pos hlt]
    generalize decodeAt bs p = rs at hd hw hrest ⊢
    obtain ⟨r, sz⟩ := rs
    dsimp only at hd hw hrest ⊢
    have ih' := fun v count bad notes => ih (p + sz) v count bad notes hrest.symm hds'
    subst hd
    have hb : (d.cp == 0x0A || d.cp == closer) = false := by simp [hnl, hcl]
    have h7 : (d.cp == 0x7D) = false := by simp [h7d]
    simp only [hb, h7, Bool.false_eq_true, if_false, Nat.max_eq_left hw]
    by_cases hx : isHexDigit d = true
    · have hx' : (decide (d.cp < 128) && isHex d.cp.toUInt8) = true := by
        simpa [isHexDigit, hexDigit?] using hx
      have hdig : hexDigit? d.cp = some d.cp.toUInt8 := by
        simp only [isHexDigit, hexDigit?] at hx ⊢
        simpa using hx'
      rw [if_pos hx', show (if v ≤ maxRune then v * 16 + digitVal d.cp.toUInt8 else v) =
        satPush v d.cp.toUInt8 from rfl]
      obtain ⟨h1, ⟨more, h2, h3⟩, h4, h5⟩ := ih' (satPush v d.cp.toUInt8) (count + 1) bad notes
      refine ⟨by simp [h1, hx], ⟨more, h2, by simp [h3, hx]⟩, fun hbad => ?_, h5⟩
      obtain ⟨hv, hc⟩ := h4 hbad
      refine ⟨by simp [hv, hdig], by simp [hc]; omega⟩
    · have hx' : (decide (d.cp < 128) && isHex d.cp.toUInt8) = false := by
        simpa [isHexDigit, hexDigit?] using hx
      rw [if_neg (by simp [hx'])]
      obtain ⟨h1, ⟨more, h2, h3⟩, -, h5⟩ := ih' v count true (if bad = true then notes else
        notes.push ⟨p, p + sz, Code.lexBadUnicodeHex, #[.codepoint d.cp]⟩)
      refine ⟨by simp [h1, hx], ?_, fun hbad => by simp [h1] at hbad, h5⟩
      cases bad
      · simp only [Bool.false_eq_true, if_false] at h2 ⊢
        refine ⟨#[⟨p, p + sz, Code.lexBadUnicodeHex, #[.codepoint d.cp]⟩] ++ more, ?_, ?_⟩
        · rw [h2]
          simp
        · simp at h3
          simp [h3, hx]
      · exact ⟨more, by simpa using h2, by simpa using h3⟩

/-- The checks on the value of `\u{h}` with digits: out of range above U+10FFFF, a surrogate
from U+D800 to U+DFFF, its UTF-8 form otherwise. An accumulator that follows the value passes
them as the value does. -/
theorem checked_value {a v : Nat} (ht : Tracks a v) (start j : Nat) (notes : Array LiteralNote) :
    ∃ more : Array LiteralNote,
      (if a > maxRune then
          (j, encode replacement, notes.push ⟨start, j, Code.lexUnicodeOutOfRange, #[.codepoint a]⟩)
        else if (0xD800 ≤ a && a ≤ 0xDFFF) = true then
          (j, encode replacement, notes.push ⟨start, j, Code.lexUnicodeSurrogate, #[.codepoint a]⟩)
        else (j, encode a, notes)) = (j, unicodeText v, notes ++ more) ∧
      more.toList.map (·.code) = unicodeCodes v ∧ ∀ n ∈ more, n.start = start ∧ n.stop = j := by
  obtain ⟨heq, hgt⟩ := ht
  by_cases hbig : maxRune < v
  · refine ⟨#[⟨start, j, Code.lexUnicodeOutOfRange, #[.codepoint a]⟩], ?_, ?_, ?_⟩
    · simp [hgt hbig, unicodeText, IsScalar, Nat.not_le.2 hbig]
    · simp [unicodeCodes, hbig]
    · simp
  have hsmall := Nat.le_of_not_lt hbig
  obtain rfl := heq hsmall
  by_cases hsur : 0xD800 ≤ a ∧ a ≤ 0xDFFF
  · refine ⟨#[⟨start, j, Code.lexUnicodeSurrogate, #[.codepoint a]⟩], ?_, ?_, ?_⟩
    · simp [hsmall, hsur, unicodeText, IsScalar]
    · simp [unicodeCodes, hbig, hsur]
    · simp
  · refine ⟨#[], ?_, ?_, ?_⟩
    · simp only [gt_iff_lt, hbig, if_false]
      simp [hsur, unicodeText, IsScalar, hsmall]
    · simp [unicodeCodes, hbig, hsur]
    · simp

/-- `\u` read on the characters is `\u` read on the bytes: the same text, the same codes in
order, and the same place to go on from. -/
theorem unicodeEscape_runes (bs : ByteArray) (closer start i : Nat) :
    (unicodeEscape bs closer start i).2.1.data.toList = (unicodeSpec closer (runesAt bs i)).bytes ∧
      (unicodeEscape bs closer start i).2.2.toList.map (·.code) =
        (unicodeSpec closer (runesAt bs i)).codes ∧
      runesAt bs (unicodeEscape bs closer start i).1 = (unicodeSpec closer (runesAt bs i)).rest := by
  unfold unicodeEscape
  by_cases hopen : byteAt bs i = 0x7B ∧ i < bs.size
  swap
  · -- no opening brace: cut off at once
    have hcond : (byteAt bs i != 0x7B || decide (i ≥ bs.size)) = true := by
      by_cases hb : byteAt bs i = 0x7B
      · have : bs.size ≤ i := Nat.le_of_not_lt fun h => hopen ⟨hb, h⟩
        simp [this]
      · simp [hb]
    rw [if_pos hcond]
    by_cases hi : i < bs.size
    · have hb : byteAt bs i ≠ 0x7B := fun hb => hopen ⟨hb, hi⟩
      have hcp : (decodeAt bs i).1 ≠ 0x7B := fun h7 => by
        obtain ⟨-, -, hdec⟩ := decodeAt_lt_128 (by rw [h7]; decide)
        rw [hdec] at h7
        exact hb (UInt8.toNat_inj.1 (by simpa using h7))
      rw [runesAt_of_lt hi]
      simp [unicodeSpec, hcp, Piece.bad]
    · rw [runesAt_of_le (Nat.le_of_not_lt hi)]
      simp [unicodeSpec, Piece.bad]
  obtain ⟨hb, hi⟩ := hopen
  have hcond : (byteAt bs i != 0x7B || decide (i ≥ bs.size)) = false := by
    simp [hb, Nat.not_le.2 hi]
  rw [if_neg (by rw [hcond]; decide), runesAt_ascii hi (by rw [hb]; decide), hb]
  -- the digits run up to the first character that stops them
  have hds : ∀ d ∈ (runesAt bs (i + 1)).takeWhile (fun d => !stopsDigits closer d),
      stopsDigits closer d = false := fun d hd => by simpa using List.mem_takeWhile_imp hd
  have htail : ∀ e ∈ ((runesAt bs (i + 1)).dropWhile (fun d => !stopsDigits closer d)).head?,
      stopsDigits closer e = true := by
    intro e he
    have hne : (runesAt bs (i + 1)).dropWhile (fun d => !stopsDigits closer d) ≠ [] := by
      intro h; simp [h] at he
    have hhead := List.head_dropWhile_not (fun d => !stopsDigits closer d) hne
    rw [List.head?_eq_some_head hne, Option.mem_some_iff] at he
    subst he
    simpa using hhead
  obtain ⟨h1, ⟨more, h2, h3⟩, h4, h5⟩ := unicodeDigits_runes bs closer start _ htail _ (i + 1) 0 0
    false #[] List.takeWhile_append_dropWhile.symm hds
  simp only [unicodeSpec, List.span_eq_takeWhile_dropWhile]
  generalize (runesAt bs (i + 1)).takeWhile (fun d => !stopsDigits closer d) = ds at *
  generalize (runesAt bs (i + 1)).dropWhile (fun d => !stopsDigits closer d) = tail at *
  generalize unicodeDigits bs closer start (i + 1) 0 0 false #[] = res at h1 h2 h4 h5 ⊢
  obtain ⟨v, count, bad, notes, e⟩ := res
  dsimp only at h1 h2 h4 h5 ⊢
  simp only [show UInt8.toNat 123 = 123 from rfl, if_true]
  subst h1 h2
  rcases e with q | q <;> simp only [Except.map, Except.mapError] at h5
  · -- cut off before a closing brace
    cases tail with
    | nil =>
      simp only [digitsEnd, Except.error.injEq] at h5
      simp [Piece.bad, cutCodes, h3, h5]
    | cons e rest =>
      by_cases hc : e.cp = 0x7D ∧ e.cp ≠ closer
      · rw [digitsEnd, if_pos hc] at h5
        cases h5
      · rw [digitsEnd, if_neg hc, Except.error.injEq] at h5
        simp [Piece.bad, cutCodes, h3, h5, hc]
  · -- closed by a brace that is not the closer
    cases tail with
    | nil => simp [digitsEnd] at h5
    | cons e rest =>
      by_cases hc : e.cp = 0x7D ∧ e.cp ≠ closer
      swap
      · rw [digitsEnd, if_neg hc] at h5
        cases h5
      rw [digitsEnd, if_pos hc, Except.ok.injEq] at h5
      have hcl : (0x7D : Nat) ≠ closer := hc.1 ▸ hc.2
      by_cases hall : ds.all isHexDigit = true
      swap
      · simp [Piece.bad, h3, h5, hc.1, hcl, hall]
      obtain ⟨hv, hcount⟩ := h4 (by simp [hall])
      have hmore : more = #[] := by simpa [hall] using h3
      subst hv hcount hmore
      by_cases hne : ds = []
      · subst hne
        simp [Piece.bad, h5, hc.1, hcl]
      · obtain ⟨more, heq, hcodes, -⟩ := checked_value (tracks_foldl
          (ds.filterMap fun d => hexDigit? d.cp)) start q #[]
        simp only [hall, Bool.not_true, Bool.or_false, Bool.false_eq_true, if_false,
          List.length_eq_zero_iff, hne, Nat.zero_add, Array.empty_append]
        rw [heq]
        simp [hc.1, hcl, hne, hcodes, h5]

/-! ### Escapes and bodies, character by character -/

theorem simpleEscape?_lt {r : Nat} {v : UInt8} (h : simpleEscape? r = some v) : r < 0x80 := by
  unfold simpleEscape? at h
  split at h <;> first | omega | cases h

/-- The reference table of one-letter escapes is the one the decoder uses. -/
theorem letterByte?_eq (r : Nat) : letterByte? r = simpleEscape? r := by
  by_cases hr : r < 0x80
  · interval_cases r <;> rfl
  · have hs : simpleEscape? r = none := by
      cases h : simpleEscape? r with
      | none => rfl
      | some v => exact absurd (simpleEscape?_lt h) hr
    rw [hs]
    simp [letterByte?, letterEscapes]
    omega

/-- An escape read on the characters is the escape read on the bytes: the same text, the same
codes in order, and the same place to go on from. -/
theorem escape_runes (bs : ByteArray) (closer start : Nat) :
    (escape bs closer start).2.1.data.toList = (escapeSpec closer (runesAt bs (start + 1))).bytes ∧
      (escape bs closer start).2.2.toList.map (·.code) =
        (escapeSpec closer (runesAt bs (start + 1))).codes ∧
      runesAt bs (escape bs closer start).1 = (escapeSpec closer (runesAt bs (start + 1))).rest := by
  unfold escape
  by_cases hi : start + 1 < bs.size
  swap
  · -- a backslash at the end of the input stands for nothing
    have hend := Nat.le_of_not_lt hi
    simp [(decodeAt_width_eq_zero bs (start + 1)).2 hend, runesAt_of_le hend, escapeSpec]
  have hw := (decodeAt_width bs (start + 1) hi).1
  rw [runesAt_of_lt hi]
  dsimp only
  generalize hd : decodeAt bs (start + 1) = rs at hw ⊢
  obtain ⟨r, sz⟩ := rs
  dsimp only at hw ⊢
  rw [if_neg (by omega)]
  simp only [escapeSpec]
  -- the letters of the escapes are ASCII, one byte each
  have hascii : r < 0x80 → sz = 1 := fun hr => by
    obtain ⟨-, -, hdec⟩ := decodeAt_lt_128 (by rw [hd]; exact hr)
    rw [hd] at hdec
    exact (Prod.mk.inj hdec).2
  rw [letterByte?_eq]
  cases hs : simpleEscape? r with
  | some v =>
    obtain rfl := hascii (simpleEscape?_lt hs)
    simp
  | none =>
    dsimp only
    by_cases hx : r = 0x78
    · subst hx
      obtain rfl := hascii (by decide)
      rw [hexSpec_runesAt]
      simp only [show ((0x78 : Nat) == 0x78) = true from rfl, if_true]
      by_cases hh : (isHex (byteAt bs (start + 1 + 1)) && isHex (byteAt bs (start + 1 + 1 + 1))) = true
      · rw [if_pos hh, if_pos hh]
        simp
      · rw [if_neg hh, if_neg hh]
        simp [Piece.bad]
    by_cases hu : r = 0x75
    · subst hu
      obtain rfl := hascii (by decide)
      obtain ⟨h1, h2, h3⟩ := unicodeEscape_runes bs closer start (start + 1 + 1)
      simp [h1, h2, h3]
    by_cases hn : r = 0x0A
    · subst hn
      obtain rfl := hascii (by decide)
      simp [runesAt_indentEnd]
    simp only [hx, hu, hn, beq_iff_eq, if_false]
    split <;> simp

/-- The body the model reads from `i` is the reference decoding of the characters from `i` on:
its text and codes are those of `decode` after what came before, it ends the same way, and it
stops where `decode` leaves the rest. -/
theorem body_decode (bs : ByteArray) (lit : OpenLiteral) (i : Nat) (text : ByteArray)
    (notes : Array LiteralNote) :
    (body bs lit i text notes).text.data.toList =
        text.data.toList ++ (decode lit (runesAt bs i)).text ∧
      (body bs lit i text notes).notes.toList.map (·.code) =
        notes.toList.map (·.code) ++ (decode lit (runesAt bs i)).codes ∧
      (body bs lit i text notes).ending = (decode lit (runesAt bs i)).ending ∧
      runesAt bs (body bs lit i text notes).stop = (decode lit (runesAt bs i)).rest := by
  fun_induction body bs lit i text notes with
  | case1 i text notes hi r sz hdec hcl =>
    simp only [beq_iff_eq] at hcl
    rw [runesAt_of_lt hi, hdec, decode, if_pos hcl]
    simp
  | case2 i text notes hi r sz hdec hcl hbs j piece more hesc ih =>
    -- an escape: its text and codes, then the body after it
    simp only [beq_iff_eq] at hcl hbs
    subst hbs
    obtain rfl := width_of_ascii hdec (by decide)
    obtain ⟨hb1, hb2, hb3⟩ := escape_runes bs lit.closer i
    have hj := (escape_stop bs lit.closer i hi).1
    rw [hesc] at hb1 hb2 hb3 hj
    dsimp only at hb1 hb2 hb3 hj
    rw [Nat.max_eq_left hj, hb3] at ih
    obtain ⟨t1, t2, t3, t4⟩ := ih
    rw [runesAt_of_lt hi, hdec, decode, if_neg hcl, if_pos rfl, Nat.max_eq_left hj]
    dsimp only
    refine ⟨?_, ?_, t3, t4⟩
    · simp [Decoded.prepend, t1, hb1]
    · simp [Decoded.prepend, t2, hb2]
  | case3 i text notes hi r sz hdec hcl hbs hnl hstr =>
    -- a newline ends a plain string, before it
    simp only [beq_iff_eq] at hcl hbs hnl hstr
    subst hnl
    rw [runesAt_of_lt hi, hdec, decode, if_neg hcl, if_neg hbs, if_pos rfl, if_pos hstr]
    simp
  | case4 i text notes hi r sz hdec hcl hbs hnl hstr hsplit =>
    -- a newline before a blank line splits a message, before it
    simp only [beq_iff_eq, Bool.and_eq_true] at hcl hbs hnl hstr hsplit
    subst hnl
    obtain rfl := width_of_ascii hdec (by decide)
    rw [blankLineFrom_eq] at hsplit
    rw [runesAt_of_lt hi, hdec, decode, if_neg hcl, if_neg hbs, if_pos rfl, if_neg hstr,
      if_pos hsplit]
    simp
  | case5 i text notes hi r sz hdec hcl hbs hnl hstr hsplit ih =>
    -- any other newline is kept, and the next line's indentation dropped
    simp only [beq_iff_eq, Bool.and_eq_true] at hcl hbs hnl hstr hsplit
    subst hnl
    obtain rfl := width_of_ascii hdec (by decide)
    rw [blankLineFrom_eq] at hsplit
    rw [Nat.max_eq_left (le_indentEnd bs (i + 1)), runesAt_indentEnd] at ih
    obtain ⟨t1, t2, t3, t4⟩ := ih
    rw [runesAt_of_lt hi, hdec, decode, if_neg hcl, if_neg hbs, if_pos rfl, if_neg hstr,
      if_neg hsplit, Nat.max_eq_left (le_indentEnd bs (i + 1))]
    refine ⟨?_, ?_, t3, t4⟩
    · simp [Decoded.prepend, t1]
    · simp [Decoded.prepend, t2]
  | case6 i text notes hi r sz hdec hcl hbs hnl ih =>
    -- any other character is copied as it is spelled
    simp only [beq_iff_eq] at hcl hbs hnl
    have hw := (decodeAt_width bs i hi).1
    rw [hdec] at hw
    rw [Nat.max_eq_left hw] at ih
    obtain ⟨t1, t2, t3, t4⟩ := ih
    rw [runesAt_of_lt hi, hdec, decode, if_neg hcl, if_neg hbs, if_neg hnl, Nat.max_eq_left hw]
    refine ⟨?_, ?_, t3, t4⟩
    · simp [Decoded.prepend, t1, bytesFrom]
    · simp [Decoded.prepend, t2]
  | case7 i text notes hi =>
    rw [runesAt_of_le (Nat.le_of_not_lt hi), decode]
    simp

end Literal

end NovelScript

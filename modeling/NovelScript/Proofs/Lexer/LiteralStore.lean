import Mathlib
import NovelScript.Proofs.Lexer.Decoding
import NovelScript.Proofs.Blob.Interning
/-!
# What a literal token leaves in the string store

A string, speaker or message token does not carry its text: the lexer decodes the body, interns
the decoded bytes in the shared string store (`BlobStore`) and puts the index in the token's value.
`LexM.scanLiteral_stores_decoding` states what a token of the literal's kind leaves behind
(`Literal.Stored`): the store holds, at the token's index, the reference decoding of the body
(`Literal.decode`), the store stays well formed, the engine received the body's reports in order
and then the unterminated report at the opener when the input ran out, and a body that did not
reach its closer left the cursor where the decoding stopped.

The store's invariant is `BlobStore.WF`, the keyed-store invariant under the program's key.
Interning keeps it and gives an index that holds the content (`BlobStore.WF.intern`), which is
what lets a later lookup by index give back the bytes the token stands for.
-/

set_option mvcgen.warning false

namespace NovelScript

open Utf8 Chars

/-- The report of a literal note, in a unit whose id is `uid`. -/
def LiteralNote.notice (uid : Nat) (n : LiteralNote) : Notice :=
  (Range.make uid n.start n.stop, n.code, n.args)

/-- A token that keeps its kind is not reported. -/
theorem Lexer.noteEmit_of_kept {kind : TokenKind} {start : Nat} {lx : Lexer}
    (h : (emitted kind lx.unit.id start lx.off).2 = true) : lx.noteEmit kind start = lx := by
  unfold emitted at h
  unfold Lexer.noteEmit
  split at h
  · cases h
  · rw [if_neg fun h' => by omega]

/-- A token of a kind other than the error kind keeps it exactly when it is not clamped. -/
theorem emitted_kept {kind : TokenKind} {unit start stop : Nat} (hk : kind ≠ .error)
    (h : (emitted kind unit start stop).1.kind = kind) : (emitted kind unit start stop).2 = true := by
  unfold emitted at h ⊢
  by_cases hc : stop - start > maxTokenLen
  · rw [if_pos hc] at h
    exact absurd h.symm hk
  · rw [if_neg hc]

namespace Literal

/-- What a string, speaker or message token `t` read from `s₀` leaves in `s`: the store holds
the reference decoding of the body at the token's index and stays well formed; the engine got
the body's reports in order, then the unterminated report at the opener when the body ran out;
and a body that did not reach its closer left the cursor where the decoding stopped. -/
structure Stored (lit : OpenLiteral) (s₀ : Lexer) (t : Token) (s : Lexer) : Prop where
  text : ∃ i : Nat, t.value = i.toUInt64 ∧
    s.env.blobs.get? i = some ⟨(decode lit (runesAt s₀.text s₀.off)).text.toArray⟩
  wf : s.env.blobs.WF
  reports : ∃ ns : List Notice, ns.map (·.2.1) = (decode lit (runesAt s₀.text s₀.off)).codes ∧
    s.env.engine = diagnoseAll (ns ++
      if (decode lit (runesAt s₀.text s₀.off)).ending = .unterminated then
        [(lit.opener, Code.lexUnterminatedString, #[])] else []) s₀.env.engine
  stop : (decode lit (runesAt s₀.text s₀.off)).ending ≠ .closed →
    runesAt s₀.text s.off = (decode lit (runesAt s₀.text s₀.off)).rest

/-- A literal token over the body read from `s₀` is `Stored` once its text is interned in the
store it started with, the engine has its notes and the unterminated report, and the cursor is
at the end of a body that did not reach its closer. -/
theorem stored_of_body {lit : OpenLiteral} {s₀ s : Lexer} {t : Token} {i : Nat}
    {store : BlobStore} (hwf : s₀.env.blobs.WF)
    (hint : s₀.env.blobs.intern (body s₀.text lit s₀.off .empty #[]).text = .ok (i, store))
    (hval : t.value = i.toUInt64) (hblobs : s.env.blobs = store)
    (hengine : s.env.engine = diagnoseAll
      ((body s₀.text lit s₀.off .empty #[]).notes.toList.map (LiteralNote.notice s₀.unit.id) ++
        if (body s₀.text lit s₀.off .empty #[]).ending = .unterminated then
          [(lit.opener, Code.lexUnterminatedString, #[])] else []) s₀.env.engine)
    (hoff : (body s₀.text lit s₀.off .empty #[]).ending ≠ .closed →
      s.off = (body s₀.text lit s₀.off .empty #[]).stop) :
    Stored lit s₀ t s := by
  obtain ⟨htext, hcodes, hend, hrest⟩ := body_decode s₀.text lit s₀.off .empty #[]
  have hbytes : (body s₀.text lit s₀.off .empty #[]).text =
      ⟨(decode lit (runesAt s₀.text s₀.off)).text.toArray⟩ := by
    apply ByteArray.ext
    apply Array.ext'
    simpa using htext
  rw [hbytes] at hint
  obtain ⟨hget, hwf'⟩ := BlobStore.WF.intern hwf hint
  refine ⟨⟨i, hval, hblobs ▸ hget⟩, hblobs ▸ hwf', ?_, ?_⟩
  · refine ⟨_, ?_, hengine.trans (by rw [hend])⟩
    rw [List.map_map, show ((·.2.1) ∘ LiteralNote.notice s₀.unit.id) = (·.code) from rfl]
    simpa using hcodes
  · intro hne
    rw [hoff (hend ▸ hne), hrest]

end Literal

namespace Literal

/-- A body over plain ASCII characters, none of them the closer, a backslash or a newline, runs
out at the end of the text. -/
theorem body_stop_of_plain (bs : ByteArray) (lit : OpenLiteral) (i : Nat) (text : ByteArray)
    (notes : Array LiteralNote) (hi : i ≤ bs.size)
    (hplain : ∀ j, i ≤ j → j < bs.size → byteAt bs j < 0x80 ∧ (byteAt bs j).toNat ≠ lit.closer ∧
      byteAt bs j ≠ 0x5C ∧ byteAt bs j ≠ 0x0A) :
    (body bs lit i text notes).stop = bs.size := by
  fun_induction body bs lit i text notes
  case case6 i text notes hlt r sz hdec hcl hbs hnl ih =>
    -- a plain character is one byte long, and the body goes on after it
    obtain ⟨ha, -, -, -⟩ := hplain i le_rfl hlt
    rw [decodeAt_ascii hlt ha] at hdec
    obtain ⟨-, rfl⟩ := Prod.mk.inj hdec
    exact ih (by omega) fun j hj hj' => hplain j (by omega) hj'
  case case7 i text notes hge =>
    show i = bs.size
    omega
  -- the closer, a backslash and a newline do not occur
  all_goals
    obtain ⟨ha, hc, hb, hn⟩ := hplain _ le_rfl ‹_›
    have hr := congrArg Prod.fst ((decodeAt_ascii ‹_› ha).symm.trans ‹decodeAt bs _ = _›)
    have hb' : (byteAt bs _).toNat ≠ 0x5C := fun h => hb (UInt8.toNat_inj.1 h)
    have hn' : (byteAt bs _).toNat ≠ 0x0A := fun h => hn (UInt8.toNat_inj.1 h)
    simp only [beq_iff_eq] at *
    omega

end Literal

namespace LexM

open Std.Do

/-- A string, speaker or message token read by the lexer stands for the reference decoding of its
body: for a literal of a kind other than the error kind, read from a well-formed store, a token
that keeps the literal's kind (it was not clamped for length) leaves the store holding the decoded
text at the token's index, the reports of the body in the engine, and the cursor where a body that
did not reach its closer stopped. A run that fails (the store is full) promises nothing. -/
theorem scanLiteral_stores_decoding (start : Nat) (lit : OpenLiteral) (continuation : Bool)
    (s₀ : Lexer) (hk : lit.kind ≠ .error) (hwf : s₀.env.blobs.WF) :
    ⦃fun s => ⌜s = s₀⌝⦄ scanLiteral start lit continuation
    ⦃post⟨fun t s => ⌜t.kind = lit.kind → Literal.Stored lit s₀ t s⌝, fun _ _ => ⌜True⌝⟩⦄ := by
  mvcgen -trivial [scanLiteral, content, pos, seek, advance, store, outOfMemory, rangeOf, reportSpan]
  case inv1 =>
    -- the notes reported so far are those of the cursor's prefix
    exact ⇓cur s' => ⌜s'.unit = s₀.unit ∧ s'.env.blobs = s₀.env.blobs ∧
      s'.off = (Literal.body s₀.text lit s₀.off .empty #[]).stop ∧
      s'.env.engine = diagnoseAll (List.map (LiteralNote.notice s₀.unit.id) ( List.Cursor.prefix cur.1))
        s₀.env.engine⌝
  all_goals subst ‹_ = s₀›
  case vc1.step =>
    obtain ⟨hu, hbl, hoff, heng⟩ : _ ∧ _ ∧ _ ∧ _ := ‹_›
    refine ⟨hu, hbl, hoff, ?_⟩
    simp [hu, heng, diagnoseAll_append, diagnoseAll, LiteralNote.notice]
  case vc2.pre => exact ⟨rfl, rfl, rfl, rfl⟩
  all_goals
    obtain ⟨hu, hbl, hoff, heng⟩ : _ ∧ _ ∧ _ ∧ _ := ‹_›
    intro hkind
    have hkept := emitted_kept hk hkind
  -- a clamped token is no token of the literal's kind
  case vc3.post.success.h_1.h_1.isTrue.isTrue | vc5.post.success.h_1.h_1.isFalse.isTrue |
      vc7.post.success.h_1.h_2.isTrue | vc9.post.success.h_2.isTrue | vc11.post.success.h_3.isTrue =>
    have hdrop := ‹(!(emitted lit.kind _ start _).2) = true›
    rw [hkept] at hdrop
    cases hdrop
  all_goals
    have hint := ‹BlobStore.intern _ _ = Except.ok _›
    rw [Lexer.noteEmit_of_kept hkept] at hint ⊢
  -- closed: the cursor may have moved past a flow letter, which the claim leaves open
  case vc4.post.success.h_1.h_1.isTrue.isFalse.h_1 | vc6.post.success.h_1.h_1.isFalse.isFalse.h_1 |
      vc8.post.success.h_1.h_2.isFalse.h_1 =>
    have hend := ‹(_ : Body).ending = BodyEnd.closed›
    refine Literal.stored_of_body hwf (hbl ▸ hint) rfl rfl ?_ fun hne => absurd hend hne
    simp +zetaDelta only at hend ⊢
    simp [heng, hend]
    rfl
  -- split before a blank line: the cursor stays at the newline
  case vc10.post.success.h_2.isFalse.h_1 =>
    have hend := ‹(_ : Body).ending = BodyEnd.split›
    refine Literal.stored_of_body hwf (hbl ▸ hint) rfl rfl ?_ fun _ => hoff
    simp +zetaDelta only at hend ⊢
    simp [heng, hend]
    rfl
  -- ran out: the opener is reported after the body's notes
  case vc12.post.success.h_3.isFalse.h_1 =>
    have hend := ‹(_ : Body).ending = BodyEnd.unterminated›
    refine Literal.stored_of_body hwf (hbl ▸ hint) rfl rfl ?_ fun _ => hoff
    simp +zetaDelta only at hend ⊢
    simp [heng, hend, diagnoseAll_append, diagnoseAll]
    rfl

/-- A literal too long for a token stores nothing: the cursor ends at or past the end of its
body, so the token is cut to the length ceiling into an error token, which is returned before the
text would be stored, and both stores stay as they were. -/
theorem scanLiteral_clamped (start : Nat) (lit : OpenLiteral) (continuation : Bool) (s₀ : Lexer)
    (hlong : maxTokenLen < (Literal.body s₀.text lit s₀.off .empty #[]).stop - start) :
    ⦃fun s => ⌜s = s₀⌝⦄ scanLiteral start lit continuation
    ⦃post⟨fun t s => ⌜t.kind = .error ∧ s.env.dict = s₀.env.dict ∧ s.env.blobs = s₀.env.blobs⌝,
      fun _ _ => ⌜False⌝⟩⦄ := by
  mvcgen -trivial [scanLiteral, content, pos, seek, advance, store, outOfMemory, rangeOf, reportSpan]
  case inv1 =>
    -- the body's notes are only reported, and the cursor stays at the body's end
    exact ⇓ _ s' => ⌜s'.env.dict = s₀.env.dict ∧ s'.env.blobs = s₀.env.blobs ∧
      s'.off = (Literal.body s₀.text lit s₀.off .empty #[]).stop⌝
  all_goals subst ‹_ = s₀›
  case vc1.step => simpa using ‹_ ∧ _›
  case vc2.pre => exact ⟨rfl, rfl, rfl⟩
  case vc18.post.except => simp
  -- the token ends at the body's end or one flow letter past it, over the ceiling either way:
  -- the branches that keep it and store its text are unreachable, and the cut token leaves the
  -- stores as the body found them
  all_goals
    obtain ⟨hd, hb, hoff⟩ : _ ∧ _ ∧ _ := ‹_›
    have hcut := Nat.lt_of_lt_of_le hlong (Nat.sub_le_sub_right (Nat.le_succ _) start)
    simp_all +zetaDelta [emitted]

/-- The string `"\u{110000}"` read after its opening quote, with a fresh store. -/
theorem scanLiteral_stores_decoding_past_max :
    Literal.plainString.kind ≠ .error ∧
      ({ Lexer.create ⟨0, "", Literal.pastMaxRuneText, #[], {}⟩ .ignore {} with off := 1 } :
        Lexer).env.blobs.WF ∧
      ⦃fun s => ⌜s = { Lexer.create ⟨0, "", Literal.pastMaxRuneText, #[], {}⟩ .ignore {} with
        off := 1 }⌝⦄
      scanLiteral 0 Literal.plainString false
      ⦃post⟨fun t s => ⌜t.kind = Literal.plainString.kind → Literal.Stored Literal.plainString
        { Lexer.create ⟨0, "", Literal.pastMaxRuneText, #[], {}⟩ .ignore {} with off := 1 } t s⌝,
        fun _ _ => ⌜True⌝⟩⦄ :=
  ⟨by decide, BlobStore.WF.empty,
    scanLiteral_stores_decoding 0 Literal.plainString false _ (by decide) BlobStore.WF.empty⟩

end LexM

end NovelScript

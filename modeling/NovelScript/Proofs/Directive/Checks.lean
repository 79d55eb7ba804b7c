import Mathlib
import NovelScript.Proofs.Directive.Runner
/-!
# What the self-test runner checks

The fold `Tally.step` over a unit's token stream makes one scenario for each test directive of
the stream, and judges it the way the directive's expectation asks:

* a balance expectation is checked when its directive is read, against the counter of its pair
  after the tokens before the directive (directives leave the counters as they are, so this is
  the counter after the last token that is no directive);
* a token or end expectation waits for the first token after its directive that is no
  directive, and passes iff that token meets it; directives in a row share that token.

The fold's invariant `Tally.Tracks` says this of every prefix of the stream, with the positions
of the waiting and of the checked directives; `Tally.tracks_foldl` proves it by induction over
the stream, one lemma per kind of token. Over a whole stream that ends with its end token no
expectation is left waiting, and `Directive.check_scenarios` reads the result back through the
runner of `Proofs/Directive/Runner`.
-/

namespace NovelScript

/-- The token `t` of the unit `u` meets the expectation `e`: a token expectation by its kind,
its line start when one is asked and its text when one is given, an end expectation by being
the end token. A balance expectation is never met by a token. -/
def Expect.Accepts (u : SourceUnit) : Expect → Token → Prop
  | .token ls k lit, t => t.kind = k ∧ (ls = true → t.lineStart = true) ∧
      (lit.size ≠ 0 → u.slice t.range = lit)
  | .eof, t => t.kind = .eof
  | .balance .., _ => False

theorem Expect.kind_eq_balance {e : Expect} : e.kind = .balance ↔ ∃ o n, e = .balance o n := by
  cases e <;> simp [Expect.kind]

theorem Directive.meets_iff (u : SourceUnit) (e : Expect) (t : Token) :
    meets u e t = true ↔ e.Accepts u t := by
  cases e with
  | token ls k lit =>
    simp only [meets, Expect.Accepts, Bool.and_eq_true, beq_iff_eq, Bool.or_eq_true,
      Bool.not_eq_true', ByteArray.isEmpty]
    cases ls <;> cases t.lineStart <;> by_cases hl : lit.size = 0 <;> simp [hl]
  | balance o n => simp [meets, Expect.Accepts]
  | eof => simp [meets, Expect.Accepts]

namespace Directive

/-! ### Positions in a token stream -/

section Stream

variable {ts pre : List Token} {t x : Token} {j k : Nat}

/-- No token after position `j` of `ts` is other than a directive: an expectation stated at `j`
has nothing yet to be checked against. -/
def Quiet (ts : List Token) (j : Nat) : Prop :=
  ∀ m x, j < m → ts[m]? = some x → x.kind = .directive

/-- The token at position `k` of `ts` is the first after position `j` that is no directive. -/
def Settles (ts : List Token) (j k : Nat) : Prop :=
  j < k ∧ (∃ x, ts[k]? = some x ∧ x.kind ≠ .directive) ∧
    ∀ m x, j < m → m < k → ts[m]? = some x → x.kind = .directive

/-- The token at position `j` of `ts` is a test directive of `u` stating the expectation `e`. -/
def StatesAt (u : SourceUnit) (ts : List Token) (j : Nat) (e : Expect) : Prop :=
  ∃ x, ts[j]? = some x ∧ x.kind = .directive ∧ x.has TokenFlag.testDirective = true ∧
    parse (body (u.slice x.range)) = .ok e

theorem getElem?_snoc_eq_some :
    (pre ++ [t])[j]? = some x ↔ pre[j]? = some x ∨ (j = pre.length ∧ t = x) := by
  rw [List.getElem?_append]
  split
  · next hj => simp [Nat.ne_of_lt hj]
  · next hj =>
    have hn : pre[j]? = none := List.getElem?_eq_none (Nat.le_of_not_lt hj)
    rw [hn, List.getElem?_singleton]
    constructor
    · intro h
      simp only [Option.ite_none_right_eq_some, Option.some.injEq] at h
      exact .inr ⟨by omega, h.2⟩
    · rintro (h | ⟨rfl, rfl⟩)
      · cases h
      · simp

theorem getElem?_snoc (h : pre[j]? = some x) (t : Token) : (pre ++ [t])[j]? = some x :=
  getElem?_snoc_eq_some.2 (.inl h)

theorem getElem?_snoc_length (pre : List Token) (t : Token) : (pre ++ [t])[pre.length]? = some t :=
  getElem?_snoc_eq_some.2 (.inr ⟨rfl, rfl⟩)

theorem lt_of_getElem? (h : ts[j]? = some x) : j < ts.length :=
  (List.getElem?_eq_some_iff.1 h).1

theorem statesAt_snoc {u : SourceUnit} {e : Expect} :
    StatesAt u (pre ++ [t]) j e ↔ StatesAt u pre j e ∨
      (j = pre.length ∧ t.kind = .directive ∧ t.has TokenFlag.testDirective = true ∧
        parse (body (u.slice t.range)) = .ok e) := by
  constructor
  · rintro ⟨x, hx, hk, hf, he⟩
    rcases getElem?_snoc_eq_some.1 hx with hx | ⟨rfl, rfl⟩
    · exact .inl ⟨x, hx, hk, hf, he⟩
    · exact .inr ⟨rfl, hk, hf, he⟩
  · rintro (⟨x, hx, hk, hf, he⟩ | ⟨rfl, hk, hf, he⟩)
    · exact ⟨x, getElem?_snoc hx t, hk, hf, he⟩
    · exact ⟨t, getElem?_snoc_length pre t, hk, hf, he⟩

theorem StatesAt.lt {u : SourceUnit} {e : Expect} (h : StatesAt u ts j e) : j < ts.length := by
  obtain ⟨x, hx, -⟩ := h
  exact lt_of_getElem? hx

/-- A position states one expectation at most. -/
theorem StatesAt.unique {u : SourceUnit} {e e' : Expect} (h : StatesAt u ts j e)
    (h' : StatesAt u ts j e') : e = e' := by
  obtain ⟨x, hx, -, -, he⟩ := h
  obtain ⟨x', hx', -, -, he'⟩ := h'
  rw [hx] at hx'
  cases hx'
  exact Except.ok.inj (he.symm.trans he')

/-- A token appended after position `j` keeps it quiet iff it is a directive. -/
theorem quiet_snoc (hj : j < pre.length) : Quiet (pre ++ [t]) j ↔ Quiet pre j ∧ t.kind = .directive := by
  constructor
  · intro h
    exact ⟨fun m x hm hx => h m x hm (getElem?_snoc hx t), h _ _ hj (getElem?_snoc_length pre t)⟩
  · rintro ⟨h, ht⟩ m x hm hx
    rcases getElem?_snoc_eq_some.1 hx with hx | ⟨-, rfl⟩
    · exact h m x hm hx
    · exact ht

/-- Nothing comes after the last position. -/
theorem quiet_last (pre : List Token) (t : Token) : Quiet (pre ++ [t]) pre.length := by
  intro m x hm hx
  rcases getElem?_snoc_eq_some.1 hx with hx | ⟨rfl, -⟩
  · exact absurd (lt_of_getElem? hx) (by omega)
  · omega

theorem Settles.snoc (h : Settles pre j k) (t : Token) : Settles (pre ++ [t]) j k := by
  obtain ⟨hjk, ⟨x, hx, hp⟩, hq⟩ := h
  refine ⟨hjk, ⟨x, getElem?_snoc hx t, hp⟩, fun m y hjm hmk hy => ?_⟩
  rcases getElem?_snoc_eq_some.1 hy with hy | ⟨rfl, -⟩
  · exact hq m y hjm hmk hy
  · exact absurd (lt_of_getElem? hx) (by omega)

/-- A token that is no directive, appended while position `j` is quiet, settles it. -/
theorem settles_snoc (hj : j < pre.length) (hq : Quiet pre j) (ht : t.kind ≠ .directive) :
    Settles (pre ++ [t]) j pre.length :=
  ⟨hj, ⟨t, getElem?_snoc_length pre t, ht⟩, fun m y hjm _ hy => hq m y hjm
    (by rcases getElem?_snoc_eq_some.1 hy with hy | ⟨rfl, -⟩ <;> [exact hy; omega])⟩

/-- The test directives of `pre ++ [t]`, for a directive `t`: those of `pre`, as quiet as they
were, and `t` itself when it is one, with nothing after it. -/
theorem statesAt_snoc_directive {u : SourceUnit} (ht : t.kind = .directive) (P : Expect → Prop → Prop) :
    (∃ e, StatesAt u (pre ++ [t]) j e ∧ P e (Quiet (pre ++ [t]) j)) ↔
      (∃ e, StatesAt u pre j e ∧ P e (Quiet pre j)) ∨
        (j = pre.length ∧ t.has TokenFlag.testDirective = true ∧
          ∃ e, parse (body (u.slice t.range)) = .ok e ∧ P e True) := by
  constructor
  · rintro ⟨e, hs, hp⟩
    rcases statesAt_snoc.1 hs with hs | ⟨rfl, -, hf, he⟩
    · rw [propext ((quiet_snoc hs.lt).trans (and_iff_left ht))] at hp
      exact .inl ⟨e, hs, hp⟩
    · rw [eq_true (quiet_last pre t)] at hp
      exact .inr ⟨rfl, hf, e, he, hp⟩
  · rintro (⟨e, hs, hp⟩ | ⟨rfl, hf, e, he, hp⟩)
    · rw [← propext ((quiet_snoc hs.lt).trans (and_iff_left ht))] at hp
      exact ⟨e, statesAt_snoc.2 (.inl hs), hp⟩
    · rw [← eq_true (quiet_last pre t)] at hp
      exact ⟨e, statesAt_snoc.2 (.inr ⟨rfl, ht, hf, he⟩), hp⟩

end Stream

/-! ### Waiting expectations and scenarios -/

/-- The waiting entry `w` is the expectation, and the range, of the test directive at position
`j` of `ts`: a token or end expectation. -/
def Waits (u : SourceUnit) (ts : List Token) (j : Nat) (w : Expect × Range) : Prop :=
  ∃ x, ts[j]? = some x ∧ w.2 = x.range ∧ parse (body (u.slice x.range)) = .ok w.1 ∧
    w.1.kind ≠ .balance

/-- How the scenario `s` judges the expectation stated at position `j` of the stream `ts` of
`u`: a balance expectation passes iff the counter of its pair after the tokens before `j` is
the count it states; a token or end expectation is judged against the first token after `j`
that is no directive, and passes iff that token meets it. -/
def JudgedAt (u : SourceUnit) (ts : List Token) (j : Nat) (s : Scenario) : Prop :=
  match s.expect with
  | .balance o n => (s.passed = true ↔ (Balances.afterAll {} (ts.take j)).count o = n)
  | e => ∃ k x, Settles ts j k ∧ ts[k]? = some x ∧ (s.passed = true ↔ e.Accepts u x)

/-- The scenario `s` reports the check of the test directive at position `j` of the stream
`ts` of `u`: its file, range and expectation are the directive's, and it is judged as the
expectation asks. -/
def Reports (u : SourceUnit) (ts : List Token) (j : Nat) (s : Scenario) : Prop :=
  ∃ x, ts[j]? = some x ∧ s.file = u.path ∧ s.range = x.range ∧
    parse (body (u.slice x.range)) = .ok s.expect ∧ JudgedAt u ts j s

section Snoc

variable {u : SourceUnit} {pre : List Token} {t : Token} {j : Nat}

theorem judgedAt_balance {s : Scenario} {o : TokenKind} {n : Nat} (he : s.expect = .balance o n)
    (ts : List Token) :
    JudgedAt u ts j s ↔ (s.passed = true ↔ (Balances.afterAll {} (ts.take j)).count o = n) := by
  unfold JudgedAt
  rw [he]

theorem judgedAt_of_ne {s : Scenario} (he : s.expect.kind ≠ .balance) (ts : List Token) :
    JudgedAt u ts j s ↔ ∃ k x, Settles ts j k ∧ ts[k]? = some x ∧ (s.passed = true ↔ s.expect.Accepts u x) := by
  unfold JudgedAt
  split
  · next o n hb => simp [hb, Expect.kind] at he
  · rfl

/-- A judgement made on a prefix of the stream stands on the longer stream. -/
theorem JudgedAt.snoc {s : Scenario} (h : JudgedAt u pre j s) (hj : j < pre.length) (t : Token) :
    JudgedAt u (pre ++ [t]) j s := by
  by_cases hb : s.expect.kind = .balance
  · -- the counters are read before `j`, which the new token does not reach
    obtain ⟨o, n, he⟩ := Expect.kind_eq_balance.1 hb
    rw [judgedAt_balance he] at h ⊢
    rwa [List.take_append_of_le_length (Nat.le_of_lt hj)]
  · obtain ⟨k, x, hs, hx, hp⟩ := (judgedAt_of_ne hb pre).1 h
    exact (judgedAt_of_ne hb _).2 ⟨k, x, hs.snoc t, getElem?_snoc hx t, hp⟩

theorem Reports.snoc {s : Scenario} (h : Reports u pre j s) (t : Token) : Reports u (pre ++ [t]) j s := by
  obtain ⟨x, hx, hfile, hr, he, hj⟩ := h
  exact ⟨x, getElem?_snoc hx t, hfile, hr, he, hj.snoc (lt_of_getElem? hx) t⟩

theorem Waits.snoc {w : Expect × Range} (h : Waits u pre j w) (t : Token) : Waits u (pre ++ [t]) j w := by
  obtain ⟨x, hx, hr, he, hb⟩ := h
  exact ⟨x, getElem?_snoc hx t, hr, he, hb⟩

end Snoc

/-! ### Settling the waiting expectations -/

/-- A check adds its scenario at the end, numbered by its place. -/
theorem CheckResult.add_scenarios (res : CheckResult) (u : SourceUnit) (e : Expect) (r : Range)
    (ok : Bool) (got : ByteArray) :
    (res.add u e r ok got).scenarios.toList =
      res.scenarios.toList ++ [⟨res.scenarios.size, u.path, r, e, ok, if ok then .empty else got⟩] := by
  unfold CheckResult.add
  split <;> simp

/-- Checking a waiting token or end expectation adds its scenario, judged by `meets`. -/
theorem settled_cons (u : SourceUnit) (t : Token) {e : Expect} (he : e.kind ≠ .balance) (r : Range)
    (w : List (Expect × Range)) (res : CheckResult) :
    settled u t ((e, r) :: w) res = settled u t w (res.add u e r (meets u e t) (describeToken u t)) := by
  cases e with
  | token ls k lit => rfl
  | balance o n => exact absurd rfl he
  | eof => rfl

theorem counted_settled (u : SourceUnit) (t : Token) :
    ∀ (w : List (Expect × Range)) {res : CheckResult}, res.Counted → (settled u t w res).Counted
  | [], _, h => h
  | (.token .., _) :: w, _, h => counted_settled u t w (h.add ..)
  | (.eof, _) :: w, _, h => counted_settled u t w (h.add ..)
  | (.balance .., _) :: w, _, h => counted_settled u t w h

/-- Settling the expectations waiting at the positions `ws` against the token `t`, which is no
directive and comes after all of them with only directives between, adds their scenarios in
order, each judged against `t`. -/
theorem settled_reports {u : SourceUnit} {pre : List Token} {t : Token} (ht : t.kind ≠ .directive)
    {ws : List Nat} {w : List (Expect × Range)} (hw : List.Forall₂ (Waits u pre) ws w)
    (hq : ∀ j ∈ ws, Quiet pre j) {ps : List Nat} {res : CheckResult}
    (h : List.Forall₂ (Reports u (pre ++ [t])) ps res.scenarios.toList) :
    List.Forall₂ (Reports u (pre ++ [t])) (ps ++ ws) (settled u t w res).scenarios.toList := by
  induction hw generalizing ps res with
  | nil => simpa [settled] using h
  | @cons j er ws w hj hw ih =>
    obtain ⟨e, r⟩ := er
    obtain ⟨x, hx, hr, he, hb⟩ := hj
    have hlt := lt_of_getElem? hx
    -- the scenario of `j` is judged against `t`, the first token after it that is no directive
    have hnew : Reports u (pre ++ [t]) j
        ⟨res.scenarios.size, u.path, r, e, meets u e t, if meets u e t then .empty else describeToken u t⟩ :=
      ⟨x, getElem?_snoc hx t, rfl, hr, he, (judgedAt_of_ne hb _).2
        ⟨pre.length, t, settles_snoc hlt (hq j (.head ws)) ht, getElem?_snoc_length pre t,
          meets_iff u e t⟩⟩
    have hadd : List.Forall₂ (Reports u (pre ++ [t])) (ps ++ [j])
        (res.add u e r (meets u e t) (describeToken u t)).scenarios.toList := by
      rw [CheckResult.add_scenarios]
      exact List.rel_append h (.cons hnew .nil)
    rw [settled_cons u t hb]
    simpa using ih (fun j hj => hq j (.tail _ hj)) hadd

end Directive

/-! ### The invariant of the fold -/

namespace Tally

open Directive

/-- What the tally after the tokens `pre` of `u` holds: the counters after them, the checks
numbered by their place and counted, the expectations stated after the last token that is no
directive waiting in order, and one scenario for each other test directive, reporting its
check. -/
structure Tracks (u : SourceUnit) (pre : List Token) (st : Tally) : Prop where
  bal : st.bal = Balances.afterAll {} pre
  counted : st.res.Counted
  waits : ∃ ws : List Nat, ws.Nodup ∧
    (∀ j, j ∈ ws ↔ ∃ e, StatesAt u pre j e ∧ e.kind ≠ .balance ∧ Quiet pre j) ∧
    List.Forall₂ (Waits u pre) ws st.waiting
  checks : ∃ ps : List Nat, ps.Nodup ∧
    (∀ j, j ∈ ps ↔ ∃ e, StatesAt u pre j e ∧ (e.kind = .balance ∨ ¬Quiet pre j)) ∧
    List.Forall₂ (Reports u pre) ps st.res.scenarios.toList

/-- A position past every listed one keeps the list free of repeats. -/
theorem nodup_snoc_of_lt {l : List Nat} {n : Nat} (hl : l.Nodup) (h : ∀ j ∈ l, j < n) :
    (l ++ [n]).Nodup :=
  List.nodup_append.2 ⟨hl, List.nodup_singleton _, fun a ha b hb hab => by
    rw [List.mem_singleton] at hb
    exact absurd (h a ha) (by omega)⟩

theorem tracks_nil (u : SourceUnit) : Tracks u [] {} where
  bal := rfl
  counted := CheckResult.counted_empty
  waits := ⟨[], .nil, fun j => by simp [StatesAt], .nil⟩
  checks := ⟨[], .nil, fun j => by simp [StatesAt], by simp⟩

variable {u : SourceUnit} {pre : List Token} {st : Tally} {t : Token}

theorem afterAll_snoc_directive (ht : t.kind = .directive) (pre : List Token) :
    Balances.afterAll {} (pre ++ [t]) = Balances.afterAll {} pre := by
  rw [Balances.afterAll, List.foldl_append, List.foldl_cons, List.foldl_nil, ht]
  exact Balances.push_of_plain _ (.inr (.inr (.inl rfl)))

/-- A directive that states nothing is passed over. -/
theorem Tracks.passOver (h : Tracks u pre st) (ht : t.kind = .directive)
    (hn : t.has TokenFlag.testDirective = true → ∀ e, parse (body (u.slice t.range)) ≠ .ok e) :
    Tracks u (pre ++ [t]) st := by
  obtain ⟨hbal, hcount, ⟨ws, hwn, hwm, hw⟩, ⟨ps, hpn, hpm, hp⟩⟩ := h
  refine ⟨by rw [hbal, afterAll_snoc_directive ht], hcount, ⟨ws, hwn, fun j => ?_, ?_⟩,
    ⟨ps, hpn, fun j => ?_, ?_⟩⟩
  · rw [hwm, statesAt_snoc_directive ht (fun e q => e.kind ≠ .balance ∧ q)]
    exact (or_iff_left fun ⟨_, hf, e, he, _⟩ => hn hf e he).symm
  · exact hw.imp fun j w h => h.snoc t
  · rw [hpm, statesAt_snoc_directive ht (fun e q => e.kind = .balance ∨ ¬q)]
    exact (or_iff_left fun ⟨_, hf, e, he, _⟩ => hn hf e he).symm
  · exact hp.imp fun j s h => h.snoc t

/-- A balance expectation is checked at once, against the counters after the tokens before it. -/
theorem Tracks.balance (h : Tracks u pre st) (ht : t.kind = .directive)
    (hf : t.has TokenFlag.testDirective = true) {o : TokenKind} {n : Nat}
    (he : parse (body (u.slice t.range)) = .ok (.balance o n)) :
    Tracks u (pre ++ [t]) (st.step u t) := by
  obtain ⟨hbal, hcount, ⟨ws, hwn, hwm, hw⟩, ⟨ps, hpn, hpm, hp⟩⟩ := h
  rw [step_balance ht hf he]
  have hnew : Reports u (pre ++ [t]) pre.length ⟨st.res.scenarios.size, u.path, t.range,
      .balance o n, st.bal.count o == n,
      if st.bal.count o == n then .empty else (toString (st.bal.count o)).toUTF8⟩ := by
    refine ⟨t, getElem?_snoc_length pre t, rfl, rfl, he, (judgedAt_balance rfl _).2 ?_⟩
    rw [List.take_left, ← hbal, beq_iff_eq]
  refine ⟨by rw [hbal, afterAll_snoc_directive ht], hcount.add .., ⟨ws, hwn, fun j => ?_, ?_⟩,
    ⟨ps ++ [pre.length], ?_, fun j => ?_, ?_⟩⟩
  · rw [hwm, statesAt_snoc_directive ht (fun e q => e.kind ≠ .balance ∧ q)]
    simp [he, Expect.kind]
  · exact hw.imp fun j w h => h.snoc t
  · refine nodup_snoc_of_lt hpn fun j hj => ?_
    obtain ⟨e, hs, -⟩ := (hpm j).1 hj
    exact hs.lt
  · rw [List.mem_append, hpm, List.mem_singleton,
      statesAt_snoc_directive ht (fun e q => e.kind = .balance ∨ ¬q)]
    simp [hf, he, Expect.kind]
  · rw [CheckResult.add_scenarios]
    exact List.rel_append (hp.imp fun j s h => h.snoc t) (.cons hnew .nil)

/-- A token or end expectation waits for the next token that is no directive. -/
theorem Tracks.wait (h : Tracks u pre st) (ht : t.kind = .directive)
    (hf : t.has TokenFlag.testDirective = true) {e : Expect} (hb : e.kind ≠ .balance)
    (he : parse (body (u.slice t.range)) = .ok e) :
    Tracks u (pre ++ [t]) (st.step u t) := by
  obtain ⟨hbal, hcount, ⟨ws, hwn, hwm, hw⟩, ⟨ps, hpn, hpm, hp⟩⟩ := h
  rw [step_wait ht hf hb he]
  refine ⟨by rw [hbal, afterAll_snoc_directive ht], hcount, ⟨ws ++ [pre.length], ?_, fun j => ?_, ?_⟩,
    ⟨ps, hpn, fun j => ?_, hp.imp fun j s h => h.snoc t⟩⟩
  · refine nodup_snoc_of_lt hwn fun j hj => ?_
    obtain ⟨e, hs, -⟩ := (hwm j).1 hj
    exact hs.lt
  · rw [List.mem_append, hwm, List.mem_singleton,
      statesAt_snoc_directive ht (fun e q => e.kind ≠ .balance ∧ q)]
    simp [hf, he, hb]
  · exact List.rel_append (hw.imp fun j w h => h.snoc t)
      (.cons ⟨t, getElem?_snoc_length pre t, rfl, he, hb⟩ .nil)
  · rw [hpm, statesAt_snoc_directive ht (fun e q => e.kind = .balance ∨ ¬q)]
    simp [he, hb]

/-- A token that is no directive settles every waiting expectation. -/
theorem Tracks.plain (h : Tracks u pre st) (ht : t.kind ≠ .directive) :
    Tracks u (pre ++ [t]) (st.step u t) := by
  obtain ⟨hbal, hcount, ⟨ws, hwn, hwm, hw⟩, ⟨ps, hpn, hpm, hp⟩⟩ := h
  rw [step_plain ht]
  -- no position before `t` is quiet any more, and `t` states nothing
  have hq : ∀ j, j < pre.length → ¬Quiet (pre ++ [t]) j :=
    fun j hj hq => ht ((quiet_snoc hj).1 hq).2
  have hs : ∀ j e, StatesAt u (pre ++ [t]) j e ↔ StatesAt u pre j e :=
    fun j e => statesAt_snoc.trans (or_iff_left fun h => ht h.2.1)
  refine ⟨?_, counted_settled u t _ hcount, ⟨[], .nil, fun j => ?_, .nil⟩,
    ⟨ps ++ ws, ?_, fun j => ?_, ?_⟩⟩
  · rw [hbal, Balances.afterAll, Balances.afterAll, List.foldl_append]
    rfl
  · simp only [List.not_mem_nil, false_iff, not_exists, not_and]
    exact fun e hse _ hqj => hq j ((hs j e).1 hse).lt hqj
  · refine List.nodup_append.2 ⟨hpn, hwn, fun a ha b hb hab => ?_⟩
    subst hab
    obtain ⟨e, hse, hc⟩ := (hpm a).1 ha
    obtain ⟨e', hse', hb', hq'⟩ := (hwm a).1 hb
    cases hse.unique hse'
    rcases hc with hc | hc
    · exact hb' hc
    · exact hc hq'
  · rw [List.mem_append, hpm, hwm]
    constructor
    · rintro (⟨e, hse, -⟩ | ⟨e, hse, -, -⟩) <;> exact ⟨e, (hs j e).2 hse, .inr (hq j hse.lt)⟩
    · rintro ⟨e, hse, -⟩
      rw [hs] at hse
      by_cases hqj : Quiet pre j
      · by_cases hb : e.kind = .balance
        · exact .inl ⟨e, hse, .inl hb⟩
        · exact .inr ⟨e, hse, hb, hqj⟩
      · exact .inl ⟨e, hse, .inr hqj⟩
  · exact settled_reports ht hw (fun j hj => ((hwm j).1 hj).choose_spec.2.2)
      (hp.imp fun j s h => h.snoc t)

/-- One step of the fold keeps the invariant, whatever the token. -/
theorem Tracks.step (h : Tracks u pre st) (t : Token) : Tracks u (pre ++ [t]) (st.step u t) := by
  by_cases hk : t.kind = .directive
  · -- a directive either states an expectation of the self-tests or is passed over
    by_cases hs : ∃ e, t.has TokenFlag.testDirective = true ∧ parse (body (u.slice t.range)) = .ok e
    · obtain ⟨e, hf, he⟩ := hs
      by_cases hb : e.kind = .balance
      · obtain ⟨o, n, rfl⟩ := Expect.kind_eq_balance.1 hb
        exact h.balance hk hf he
      · exact h.wait hk hf hb he
    · have hn : t.has TokenFlag.testDirective = true → ∀ e, parse (body (u.slice t.range)) ≠ .ok e :=
        fun hf e he => hs ⟨e, hf, he⟩
      rw [step_passOver hk hn]
      exact h.passOver hk hn
  · exact h.plain hk

/-- The fold over any stream keeps the invariant. -/
theorem tracks_foldl (u : SourceUnit) (ts : List Token) : Tracks u ts (ts.foldl (step u) {}) := by
  induction ts using List.reverseRecOn with
  | nil => exact tracks_nil u
  | append_singleton pre t ih =>
    rw [List.foldl_append, List.foldl_cons, List.foldl_nil]
    exact ih.step t

end Tally

/-- Each check has passed or failed. -/
theorem CheckResult.Counted.total {res : CheckResult} (h : res.Counted) :
    res.passed + res.failed = res.scenarios.size := by
  rw [h.passed, h.failed, ← Array.length_toList]
  exact (List.length_eq_length_filter_add (Scenario.passed)).symm

/-- Every test directive a tokenizer hands out states an expectation. -/
theorem Lexer.lexRun_test_parses {L : Lexer} (hr : L.Ready) (hl : L.look = none) {ts : List Token}
    (hrun : (L.lexRun ts.length).1 = ts.map .ok) :
    ∀ x ∈ ts, x.kind = .directive → x.has TokenFlag.testDirective = true →
      ∃ e, Directive.parse (Directive.body (L.unit.slice x.range)) = .ok e := by
  induction ts generalizing L with
  | nil => exact fun x hx => absurd hx List.not_mem_nil
  | cons y ts ih =>
    intro x hx hk hf
    rw [List.length_cons, Lexer.lexRun_cons] at hrun
    obtain ⟨hy, hrest⟩ := List.cons.inj hrun
    obtain ⟨hr₁, hl₁, hu₁, -⟩ := Lexer.lex_run_frame hr hl
    rcases List.mem_cons.1 hx with rfl | hx
    · exact Lexer.lex_test_parses hr hl hy hk hf
    · rw [← hu₁]
      exact ih hr₁ hl₁ hrest x hx hk hf

/-- Results of `lex` that are all tokens, read off as options. -/
theorem results_eq_of_toOption : ∀ {rs : List (Except LexError Token)} {ts : List Token},
    rs.map Except.toOption = ts.map some → rs = ts.map .ok
  | [], [], _ => rfl
  | .ok r :: rs, t :: ts, h => by
    simp only [List.map_cons, List.cons.injEq, Except.toOption, Option.some.injEq] at h
    rw [h.1, results_eq_of_toOption h.2, List.map_cons]
  | .error _ :: _, _ :: _, h => by simp [Except.toOption] at h
  | [], _ :: _, h => by simp at h
  | _ :: _, [], h => by simp at h

namespace Directive

/-- The self-test runner on the active unit `u` of a context, not lexed yet, whose stream with
test directives kept is `pre` and then the end token `t`. The run ends without error. Its
scenarios are one for each test directive of the stream (the positions `ps`, each once), each
numbered by its place and reporting the check of its directive: a balance expectation against
the counter of its pair after the tokens before it, a token or end expectation against the
first token after it that is no directive. Each scenario has passed or failed, and the engine
gets, besides the tokenizer's own reports, one self-test report for each failed scenario, at its
directive and with the code of its kind of expectation. -/
theorem check_scenarios {c : Context} {u : SourceUnit} (hf : c.stack.back? = some { unit := u })
    (hm : c.opts.mode = .tests) {pre : List Token} {t : Token}
    (hrun : ((Lexer.create u .tests ⟨c.dict, c.blobs, none⟩).lexRun (pre.length + 1)).1 =
      (pre ++ [t]).map .ok)
    (heof : t.kind = .eof) (hpre : ∀ x ∈ pre, x.kind ≠ .eof) {fuel : Nat} (hfuel : pre.length < fuel) :
    ∃ res c' ns, (check u fuel [] {}).run.run c = (.ok (res, none), c') ∧
      (∃ ps : List Nat, ps.Nodup ∧
        (∀ j, j ∈ ps ↔ ∃ x, (pre ++ [t])[j]? = some x ∧ x.kind = .directive ∧
          x.has TokenFlag.testDirective = true) ∧
        List.Forall₂ (Reports u (pre ++ [t])) ps res.scenarios.toList) ∧
      (∀ i (h : i < res.scenarios.size), res.scenarios[i].index = i) ∧
      res.passed + res.failed = res.scenarios.size ∧
      some c'.engine = diagnoseAll ns (some c.engine) ∧ testNotes ns = res.failures := by
  have hr := Lexer.ready_create u .tests ⟨c.dict, c.blobs, none⟩
  have hc : c.Runs (Lexer.create u .tests ⟨c.dict, c.blobs, none⟩) := hm ▸ Context.runs_fresh hf
  obtain ⟨c', ns, hcheck, he, hfail⟩ := check_run heof pre {} fuel hc hr rfl rfl rfl hrun hpre hfuel
  obtain ⟨-, hcount, -, ⟨ps, hpn, hpm, hp⟩⟩ := Tally.tracks_foldl u (pre ++ [t])
  refine ⟨_, c', ns, hcheck, ⟨ps, hpn, fun j => ?_, hp⟩, hcount.index, hcount.total, he, ?_⟩
  · rw [hpm]
    constructor
    · rintro ⟨e, ⟨x, hx, hk, hfl, -⟩, -⟩
      exact ⟨x, hx, hk, hfl⟩
    · rintro ⟨x, hx, hk, hfl⟩
      obtain ⟨e, he⟩ := Lexer.lexRun_test_parses hr rfl
        (by rw [List.length_append, List.length_singleton]; exact hrun) x
        (List.mem_of_getElem? hx) hk hfl
      -- the end token comes after the directive and is none: the directive was checked
      have hj : j < pre.length := by
        rcases getElem?_snoc_eq_some.1 hx with hx | ⟨-, rfl⟩
        · exact lt_of_getElem? hx
        · rw [heof] at hk
          cases hk
      refine ⟨e, ⟨x, hx, hk, hfl, he⟩, .inr fun hq => ?_⟩
      have ht := hq pre.length t hj (getElem?_snoc_length pre t)
      rw [heof] at ht
      cases ht
  · rw [hfail]
    simp [CheckResult.failures]

/-- A unit holding one end expectation, checked on a fresh context: its stream is the directive
and the end token. -/
theorem check_scenarios_expect_eof :
    let u : SourceUnit := ⟨0, "t.nvl", "//:: EXPECT-EOF\n".toUTF8, #[15], {}⟩
    let c : Context :=
      { Context.create { mode := .tests } FileReader.empty [] with stack := #[{ unit := u }] }
    let ts : List Token := [⟨.directive, 0, 0, 15, true, 1, 0⟩, ⟨.eof, 0, 16, 0, true, 0, 0⟩]
    ∃ res c' ns, (check u (tokenBudget u.content.size) [] {}).run.run c = (.ok (res, none), c') ∧
      (∃ ps : List Nat, ps.Nodup ∧
        (∀ j, j ∈ ps ↔ ∃ x, ts[j]? = some x ∧ x.kind = .directive ∧
          x.has TokenFlag.testDirective = true) ∧
        List.Forall₂ (Reports u ts) ps res.scenarios.toList) ∧
      (∀ i (h : i < res.scenarios.size), res.scenarios[i].index = i) ∧
      res.passed + res.failed = res.scenarios.size ∧
      some c'.engine = diagnoseAll ns (some c.engine) ∧ testNotes ns = res.failures :=
  @check_scenarios _ _ rfl rfl [⟨.directive, 0, 0, 15, true, 1, 0⟩] ⟨.eof, 0, 16, 0, true, 0, 0⟩
    (results_eq_of_toOption (by decide +kernel)) rfl (by decide) _
    (by simp only [tokenBudget, List.length_singleton]; omega)

end Directive

end NovelScript

import ApiLinks.Yaml.TokenStream
import Mathlib.Logic.Basic

/-!
# Steps of the token pass

* `TokenStream.gap_stop` : a token begins at a character that is no space, break or comment;
* `TokenStream.readToken_of_not_isIndicator` : a character that is no indicator
  begins a plain scalar or nothing;
* `TokenStream.Reads s s'` : what reading one token can do, `TokenStream.reads_of_readToken`;
* `TokenStream.run_succ` : the pass goes on from token to token;
* `unifyBreaks_append` : unifying the breaks leaves other characters where they are.
-/

namespace ApiLinks.Yaml

variable {c d : Char} {t rest : Text}

/-! ## Line breaks -/

theorem unifyBreaks_cons (hc : c ≠ '\r') (t : Text) :
    unifyBreaks (c :: t) = (if c = '\u0085' then '\n' else c) :: unifyBreaks t := by
  rw [unifyBreaks]
  · simp only [hc, false_or]
  · rintro rest rfl -
    exact hc rfl

theorem unifyBreaks_eq_self (h : ∀ c ∈ t, c ≠ '\r' ∧ c ≠ '\u0085') : unifyBreaks t = t := by
  induction t with
  | nil => rfl
  | cons c t ih =>
    obtain ⟨hreturn, hnext⟩ := h c List.mem_cons_self
    rw [unifyBreaks_cons hreturn, if_neg hnext, ih fun d hd => h d (List.mem_cons_of_mem c hd)]

/-- Up to a character that is no break, breaks become line feeds and all else stays. -/
theorem unifyBreaks_append (hc : c ≠ '\r' ∧ c ≠ '\n' ∧ c ≠ '\u0085') (before after : Text) :
    ∃ start, unifyBreaks (before ++ c :: after) = start ++ c :: unifyBreaks after ∧
      ∀ d ∈ start, d = '\n' ∨ d ∈ before ∧ d ≠ '\r' ∧ d ≠ '\u0085' := by
  induction before using unifyBreaks.induct with
  | case1 =>
    refine ⟨[], ?_, fun d hd => nomatch hd⟩
    rw [List.nil_append, unifyBreaks_cons hc.1, if_neg hc.2.2]
    rfl
  | case2 rest ih =>
    obtain ⟨start, hstart, hmem⟩ := ih
    refine ⟨'\n' :: start, ?_, ?_⟩
    · rw [List.cons_append, List.cons_append, unifyBreaks, hstart]
      rfl
    · intro d hd
      rcases List.mem_cons.mp hd with hd | hd
      · exact Or.inl hd
      · exact (hmem d hd).imp_right fun h => ⟨by simp [h.1], h.2⟩
  | case3 x rest hx ih =>
    obtain ⟨start, hstart, hmem⟩ := ih
    refine ⟨(if x = '\r' ∨ x = '\u0085' then '\n' else x) :: start, ?_, ?_⟩
    · rw [List.cons_append, unifyBreaks, hstart]
      · rfl
      · intro more hreturn hmore
        cases rest with
        | nil => exact hc.2.1 (List.cons.inj hmore).1
        | cons y rest => exact hx _ hreturn (by rw [(List.cons.inj hmore).1])
    · intro d hd
      rcases List.mem_cons.mp hd with hd | hd
      · split at hd
        · exact Or.inl hd
        · rename_i hkept
          subst hd
          exact Or.inr ⟨List.mem_cons_self, not_or.mp hkept⟩
      · exact (hmem d hd).imp_right fun h => ⟨List.mem_cons_of_mem x h.1, h.2⟩

namespace TokenStream

variable {s s' : TokenStream} {p : Position} {inFlow allowed : Bool}

/-! ## Steps -/

/-- Where a token begins. -/
theorem gap_stop (hbreak : isBreak c = false) (hspace : c ≠ ' ')
    (htab : c = '\t' → inFlow = false ∧ allowed = true)
    (hmark : c = '\uFEFF' → 0 < p.column) (hcomment : c ≠ '#') (rest : Text) :
    gap inFlow (c :: rest) p false allowed = (⟨c :: rest, p⟩, allowed) := by
  have htab' : (c == '\t' && (inFlow || !allowed)) = false := by
    by_cases hc : c = '\t'
    · rw [(htab hc).1, (htab hc).2]
      exact Bool.and_false _
    · rw [beq_false_of_ne hc, Bool.false_and]
  have hmark' : (c == '\uFEFF' && p.column == 0) = false := by
    by_cases hc : c = '\uFEFF'
    · rw [beq_false_of_ne (Nat.ne_of_gt (hmark hc)), Bool.and_false]
    · rw [beq_false_of_ne hc, Bool.false_and]
  rw [gap, hbreak, beq_false_of_ne hspace, htab', hmark']
  simp only [Bool.false_eq_true, if_false, Bool.or_false, if_neg hcomment]

/-- The indicators, one by one. -/
def indicators : List Char :=
  ['-', '?', ':', ',', '[', ']', '\x7b', '\x7d', '#', '&', '*', '!', '|', '>', '\'', '"', '%', '@', '\u0060']

/-- A class of characters without indicators. -/
theorem isIndicator_eq_false {p : Char → Bool} (hp : indicators.any p = false) (hc : p c = true) :
    isIndicator c = false := by
  rw [Bool.eq_false_iff]
  intro h
  have hin : c ∈ indicators := by
    simpa only [isIndicator, indicators, Bool.or_eq_true, beq_iff_eq, List.mem_cons, List.not_mem_nil,
      or_false, or_assoc] using h
  exact List.any_eq_false.mp hp c hin hc

theorem ne_of_isIndicator (hc : isIndicator c = false) (hd : isIndicator d = true) : c ≠ d := by
  rintro rfl
  rw [hc] at hd
  cases hd

/-- Without an indicator or a document mark, a plain scalar begins or nothing does. -/
theorem readToken_of_not_isIndicator (hc : isIndicator c = false)
    (hmark : (s.cursor.position.column == 0 && atDocumentMark (c :: rest)) = false) :
    s.readToken c rest = if beginsPlain s.inFlow c rest then s.plainScalar else none := by
  have hne {d : Char} (hd : isIndicator d = true) : c ≠ d := ne_of_isIndicator hc hd
  have hbeq {d : Char} (hd : isIndicator d = true) : (c == d) = false := beq_false_of_ne (hne hd)
  simp only [readToken, hmark, hbeq (d := '%') (by decide), hne (d := '[') (by decide),
    hne (d := '\x7b') (by decide), hne (d := ']') (by decide), hne (d := '\x7d') (by decide),
    hne (d := ',') (by decide), hbeq (d := '-') (by decide), hbeq (d := '?') (by decide),
    hbeq (d := ':') (by decide), hne (d := '*') (by decide), hne (d := '&') (by decide),
    hne (d := '!') (by decide), hbeq (d := '|') (by decide), hbeq (d := '>') (by decide),
    hne (d := '\'') (by decide), hne (d := '"') (by decide), Bool.false_and, Bool.and_false,
    Bool.false_eq_true, if_false]

/-- What reading one token can do. -/
inductive Reads (s s' : TokenStream) : Prop
  | atMargin (t : Token) (cursor : Cursor) (h : s.atMargin t cursor = some s') : Reads s s'
  | openFlow (t : Token) (h : s.openFlow t = some s') : Reads s s'
  | closeFlow (t : Token) (h : s.closeFlow t = some s') : Reads s s'
  | flowEntry (h : s.flowEntry = some s') : Reads s s'
  | blockEntry (h : s.blockEntry = some s') : Reads s s'
  | keySign (h : s.keySign = some s') : Reads s s'
  | valueSign (h : s.valueSign = some s') : Reads s s'
  | keyLike (read : Cursor → Option (Token × Cursor)) (h : s.keyLike read = some s') : Reads s s'
  | blockScalar (style : Style) (h : s.blockScalar style = some s') : Reads s s'
  | plainScalar (h : s.plainScalar = some s') : Reads s s'

theorem reads_of_readToken (hs : s.readToken c rest = some s') : Reads s s' := by
  unfold readToken at hs
  rcases ite_eq_iff.mp hs with ⟨-, hs⟩ | ⟨-, hs⟩
  · obtain ⟨⟨t, cursor⟩, -, hs⟩ := Option.bind_eq_some_iff.mp hs
    exact .atMargin t cursor hs
  rcases ite_eq_iff.mp hs with ⟨-, hs⟩ | ⟨-, hs⟩
  · exact .atMargin _ _ hs
  rcases ite_eq_iff.mp hs with ⟨-, hs⟩ | ⟨-, hs⟩
  · exact .openFlow _ hs
  rcases ite_eq_iff.mp hs with ⟨-, hs⟩ | ⟨-, hs⟩
  · exact .openFlow _ hs
  rcases ite_eq_iff.mp hs with ⟨-, hs⟩ | ⟨-, hs⟩
  · exact .closeFlow _ hs
  rcases ite_eq_iff.mp hs with ⟨-, hs⟩ | ⟨-, hs⟩
  · exact .closeFlow _ hs
  rcases ite_eq_iff.mp hs with ⟨-, hs⟩ | ⟨-, hs⟩
  · exact .flowEntry hs
  rcases ite_eq_iff.mp hs with ⟨-, hs⟩ | ⟨-, hs⟩
  · exact .blockEntry hs
  rcases ite_eq_iff.mp hs with ⟨-, hs⟩ | ⟨-, hs⟩
  · exact .keySign hs
  rcases ite_eq_iff.mp hs with ⟨-, hs⟩ | ⟨-, hs⟩
  · exact .valueSign hs
  rcases ite_eq_iff.mp hs with ⟨-, hs⟩ | ⟨-, hs⟩
  · exact .keyLike _ hs
  rcases ite_eq_iff.mp hs with ⟨-, hs⟩ | ⟨-, hs⟩
  · exact .keyLike _ hs
  rcases ite_eq_iff.mp hs with ⟨-, hs⟩ | ⟨-, hs⟩
  · exact .keyLike _ hs
  rcases ite_eq_iff.mp hs with ⟨-, hs⟩ | ⟨-, hs⟩
  · exact .blockScalar _ hs
  rcases ite_eq_iff.mp hs with ⟨-, hs⟩ | ⟨-, hs⟩
  · exact .blockScalar _ hs
  rcases ite_eq_iff.mp hs with ⟨-, hs⟩ | ⟨-, hs⟩
  · exact .keyLike _ hs
  rcases ite_eq_iff.mp hs with ⟨-, hs⟩ | ⟨-, hs⟩
  · exact .keyLike _ hs
  rcases ite_eq_iff.mp hs with ⟨-, hs⟩ | ⟨-, hs⟩
  · exact .plainScalar hs
  cases hs

theorem run_succ (h : s.toToken = some s') (hc : s'.cursor.rest = c :: rest) (fuel : Nat) :
    run (fuel + 1) s = (s'.readToken c rest).bind (run fuel) := by
  rw [run, h]
  simp only [Option.bind_eq_bind, Option.bind_some, hc]

end TokenStream

end ApiLinks.Yaml

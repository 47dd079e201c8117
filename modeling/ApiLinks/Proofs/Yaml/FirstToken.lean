import ApiLinks.Proofs.Text.Trimmed
import ApiLinks.Proofs.Yaml.TokenPass
import Mathlib.Data.List.TakeWhile

/-!
# The first token of a text in brackets

A text that has nothing but blanks before an opening bracket or brace begins with the sign of a flow
collection, or else with a plain scalar that one of the blanks begins. When a colon makes a key of what
begins there, the key's sign, and the start of a block mapping, are put in front of it. Nothing else comes
to stand before the first token.

* `Lead lead` : what can be put in front of the first token;
* `TokenStream.Placed lead candidates` : a candidate among the first tokens is that of the block, and is alone;
* `TokenStream.Headed first lead s` : the token found first, what stands in front of
  it, and where the candidates are;
* `TokenStream.Headed.readToken` : one step of the pass, and `TokenStream.Headed.run` all of its steps;
* `Token.ofText?_bracketed` : the first tokens of such a text.
-/

namespace ApiLinks.Yaml

/-- What the pass puts in front of the token found first: nothing, or the sign of a key, with
the start of a block or without. -/
inductive Lead : List Token → Prop
  | nothing : Lead []
  | key : Lead [.key]
  | block : Lead [.blockMappingStart, .key]

/-- The signs that open a flow collection. -/
inductive Token.OpensFlow : Token → Prop
  | sequence : OpensFlow .flowSequenceStart
  | mapping : OpensFlow .flowMappingStart

namespace TokenStream

/-- No candidate has its place in front of the token found first or of that which has been put there
already, but for the candidate of the block, the last in the list, as long as nothing has been put there. -/
def Placed (lead : List Token) : List (Option KeyCandidate) → Prop
  | [] => True
  | x :: rest => (∀ k ∈ x, k.place ≤ lead.length → lead = [] ∧ rest = []) ∧ Placed lead rest

/-- The tokens are counted and begin with `lead` and `first`, and the candidates are placed behind these. -/
structure Headed (first : Token) (lead : List Token) (s : TokenStream) : Prop where
  count : s.count = s.tokens.length
  found : lead ++ [first] <+: s.tokens.reverse
  placed : Placed lead (s.candidate :: s.outer)

variable {s s' : TokenStream} {first t : Token} {lead : List Token} {c : Char} {rest : Text} {place : Nat}
  {x : Option KeyCandidate} {xs ys : List (Option KeyCandidate)}

theorem Placed.none_cons (h : Placed lead xs) : Placed lead (none :: xs) := ⟨fun _ hk => (nomatch hk), h⟩

theorem Placed.refresh {p : Position} (h : Placed lead xs) (hs : xs.mapM (refresh p) = some ys) :
    Placed lead ys := by
  induction xs generalizing ys with
  | nil =>
    obtain rfl := Option.some.inj hs
    exact h
  | cons x xs ih =>
    rw [List.mapM_cons] at hs
    simp only [Option.bind_eq_bind, Option.bind_eq_some_iff] at hs
    obtain ⟨y, hy, zs, hzs, hs⟩ := hs
    obtain rfl := Option.some.inj hs
    refine ⟨fun k hk hplace => ?_, ih h.2 hzs⟩
    have hkept : y = none ∨ y = x := by
      cases x with
      | none => exact Or.inl (Option.some.inj hy).symm
      | some k' =>
        rw [TokenStream.refresh] at hy
        split at hy
        · split at hy
          · cases hy
          · exact Or.inl (Option.some.inj hy).symm
        · exact Or.inr (Option.some.inj hy).symm
    rcases hkept with rfl | rfl
    · cases hk
    · obtain ⟨hlead, hxs⟩ := h.1 k hk hplace
      subst hxs
      exact ⟨hlead, (Option.some.inj hzs).symm⟩

/-- In the order of the text, an insertion leaves so many tokens before it. -/
theorem reverse_tokens_insert (hc : s.count = s.tokens.length) (place : Nat) (t : Token) :
    (s.insert place t).tokens.reverse = s.tokens.reverse.take place ++ t :: s.tokens.reverse.drop place := by
  simp only [insert, hc, List.reverse_append, List.reverse_cons, List.append_assoc, List.singleton_append,
    List.take_reverse, List.drop_reverse]

theorem count_insert (hc : s.count = s.tokens.length) (place : Nat) (t : Token) :
    (s.insert place t).count = (s.insert place t).tokens.length := by
  simp only [insert, List.length_append, List.length_take, List.length_cons, List.length_drop]
  omega

namespace Headed

/-- What leaves the tokens and the candidates alone. -/
theorem congr (h : Headed first lead s) (htokens : s'.tokens = s.tokens) (hcount : s'.count = s.count)
    (hplaced : Placed lead (s'.candidate :: s'.outer)) : Headed first lead s' :=
  ⟨by rw [htokens, hcount, h.count], by rw [htokens]; exact h.found, hplaced⟩

theorem lead_lt_count (h : Headed first lead s) : lead.length < s.count := by
  have hlength := h.found.length_le
  rw [List.length_append, List.length_singleton, List.length_reverse, ← h.count] at hlength
  exact hlength

theorem push (h : Headed first lead s) (t : Token) : Headed first lead (s.push t) := by
  refine ⟨congrArg (· + 1) h.count, ?_, h.placed⟩
  rw [TokenStream.push, List.reverse_cons]
  exact h.found.trans (List.prefix_append _ _)

theorem insert (h : Headed first lead s) (hplace : lead.length < place) (t : Token) :
    Headed first lead (s.insert place t) := by
  refine ⟨count_insert h.count place t, ?_, h.placed⟩
  rw [reverse_tokens_insert h.count]
  have htake : lead ++ [first] <+: s.tokens.reverse.take place :=
    List.prefix_take_iff.mpr ⟨h.found, by rw [List.length_append, List.length_singleton]; exact hplace⟩
  exact htake.trans (List.prefix_append _ _)

theorem openBlock (h : Headed first lead s) (hplace : lead.length < place) (column : Nat) (t : Token) :
    Headed first lead (s.openBlock column place t) := by
  unfold TokenStream.openBlock
  split
  · exact h
  · have hmoved : Headed first lead { s with indent := column, indents := s.indent :: s.indents } :=
      h.congr rfl rfl h.placed
    exact hmoved.insert hplace t

theorem closeTo (column : Int) (indents : List Int) (h : Headed first lead s) :
    Headed first lead (TokenStream.closeTo column indents s) := by
  induction indents generalizing s with
  | nil => exact h
  | cons outer rest ih =>
    rw [TokenStream.closeTo]
    split
    · have hmoved : Headed first lead { s with indent := outer, indents := rest } := h.congr rfl rfl h.placed
      exact ih (hmoved.push .blockEnd)
    · exact h

theorem closeBlocks (h : Headed first lead s) (column : Int) : Headed first lead (s.closeBlocks column) := by
  unfold TokenStream.closeBlocks
  split
  · exact h
  · exact h.closeTo column s.indents

theorem dropStale (h : Headed first lead s) (hs : s.dropStale = some s') : Headed first lead s' := by
  simp only [TokenStream.dropStale, Option.bind_eq_bind, Option.bind_eq_some_iff] at hs
  obtain ⟨candidate, hcandidate, outer, houter, hs⟩ := hs
  obtain rfl := Option.some.inj hs
  refine h.congr rfl rfl (h.placed.refresh (p := s.cursor.position) ?_)
  rw [List.mapM_cons, hcandidate, houter]
  rfl

theorem dropCandidate (h : Headed first lead s) (hs : s.dropCandidate = some s') : Headed first lead s' := by
  unfold TokenStream.dropCandidate at hs
  split at hs
  · split at hs
    · cases hs
    · obtain rfl := Option.some.inj hs
      exact h.congr rfl rfl h.placed.2.none_cons
  · obtain rfl := Option.some.inj hs
    exact h

/-- A new candidate has all tokens before it. -/
theorem saveCandidate (h : Headed first lead s) (hs : s.saveCandidate = some s') : Headed first lead s' := by
  unfold TokenStream.saveCandidate at hs
  split at hs
  · simp only [Option.bind_eq_bind, Option.bind_eq_some_iff] at hs
    obtain ⟨dropped, hdropped, hs⟩ := hs
    obtain rfl := Option.some.inj hs
    have hd := h.dropCandidate hdropped
    refine hd.congr rfl rfl ⟨?_, hd.placed.2⟩
    rintro k ⟨⟩ hplace
    exact absurd hd.lead_lt_count (Nat.not_lt.mpr hplace)
  · obtain rfl := Option.some.inj hs
    exact h

theorem toToken (h : Headed first lead s) (hs : s.toToken = some s') : Headed first lead s' := by
  simp only [TokenStream.toToken, Option.bind_eq_bind, Option.bind_eq_some_iff] at hs
  obtain ⟨moved, hmoved, hs⟩ := hs
  obtain rfl := Option.some.inj hs
  have hgap : Headed first lead
      { s with cursor := (gap s.inFlow s.cursor.rest s.cursor.position false s.keyAllowed).1
               keyAllowed := (gap s.inFlow s.cursor.rest s.cursor.position false s.keyAllowed).2 } :=
    h.congr rfl rfl h.placed
  exact (hgap.dropStale hmoved).closeBlocks _

/-- Without candidates a token can be put in front of all others. -/
theorem insert_front (h : Headed first lead s) (hcandidate : s.candidate = none)
    (houter : s.outer = []) (t : Token) :
    Headed first (t :: lead) (s.insert 0 t) := by
  refine ⟨count_insert h.count 0 t, ?_, ?_⟩
  · rw [reverse_tokens_insert h.count]
    exact List.cons_prefix_cons.mpr ⟨rfl, h.found⟩
  · change Placed (t :: lead) (s.candidate :: s.outer)
    rw [hcandidate, houter]
    exact Placed.none_cons trivial

theorem forget (h : Headed first lead s) : Headed first lead { s with candidate := none } :=
  h.congr rfl rfl h.placed.2.none_cons

/-- Elsewhere in the text. -/
theorem moved (h : Headed first lead s) (keyAllowed : Bool) (cursor : Cursor) :
    Headed first lead { s with keyAllowed, cursor } := h.congr rfl rfl h.placed

/-! ### The kinds of tokens -/

theorem atMargin {cursor : Cursor} (h : Headed first lead s) (hs : s.atMargin t cursor = some s') :
    Headed first lead s' := by
  simp only [TokenStream.atMargin, Option.bind_eq_bind, Option.bind_eq_some_iff] at hs
  obtain ⟨dropped, hdropped, hs⟩ := hs
  obtain rfl := Option.some.inj hs
  exact (((h.closeBlocks (-1)).dropCandidate hdropped).moved _ _).push t

theorem openFlow (h : Headed first lead s) (hs : s.openFlow t = some s') : Headed first lead s' := by
  simp only [TokenStream.openFlow, Option.bind_eq_bind, Option.bind_eq_some_iff] at hs
  obtain ⟨saved, hsaved, hs⟩ := hs
  obtain rfl := Option.some.inj hs
  have hd := h.saveCandidate hsaved
  have hopened : Headed first lead { saved with outer := saved.candidate :: saved.outer, candidate := none } :=
    hd.congr rfl rfl hd.placed.none_cons
  exact (hopened.moved _ _).push t

theorem closeFlow (h : Headed first lead s) (hs : s.closeFlow t = some s') : Headed first lead s' := by
  simp only [TokenStream.closeFlow, Option.bind_eq_bind, Option.bind_eq_some_iff] at hs
  obtain ⟨dropped, hdropped, hs⟩ := hs
  obtain rfl := Option.some.inj hs
  have hd := h.dropCandidate hdropped
  apply push
  cases houter : dropped.outer with
  | nil => exact hd.moved _ _
  | cons candidate outer =>
    have hplaced := hd.placed.2
    rw [houter] at hplaced
    exact hd.congr rfl rfl hplaced

theorem flowEntry (h : Headed first lead s) (hs : s.flowEntry = some s') : Headed first lead s' := by
  simp only [TokenStream.flowEntry, Option.bind_eq_bind, Option.bind_eq_some_iff] at hs
  obtain ⟨dropped, hdropped, hs⟩ := hs
  obtain rfl := Option.some.inj hs
  exact ((h.dropCandidate hdropped).moved _ _).push .flowEntry

theorem blockEntry (h : Headed first lead s) (hs : s.blockEntry = some s') : Headed first lead s' := by
  unfold TokenStream.blockEntry at hs
  split at hs
  · cases hs
  · simp only [Option.bind_eq_bind, Option.bind_eq_some_iff] at hs
    obtain ⟨dropped, hdropped, hs⟩ := hs
    obtain rfl := Option.some.inj hs
    exact (((h.openBlock h.lead_lt_count _ _).dropCandidate hdropped).moved _ _).push .blockEntry

theorem keySign (h : Headed first lead s) (hs : s.keySign = some s') : Headed first lead s' := by
  unfold TokenStream.keySign at hs
  split at hs
  · cases hs
  · simp only [Option.bind_eq_bind, Option.bind_eq_some_iff] at hs
    obtain ⟨dropped, hdropped, hs⟩ := hs
    obtain rfl := Option.some.inj hs
    exact (((h.openBlock h.lead_lt_count _ _).dropCandidate hdropped).moved _ _).push .key

/-- The sign of a value puts a key's sign in front of its candidate. If that is the token found first, the
candidate was alone, and nothing else will be put there. -/
theorem valueSign (h : Headed first lead s) (hlead : Lead lead) (hs : s.valueSign = some s') :
    ∃ lead', Lead lead' ∧ Headed first lead' s' := by
  unfold TokenStream.valueSign at hs
  split at hs
  · rename_i k hk
    obtain rfl := Option.some.inj hs
    by_cases hplace : k.place ≤ lead.length
    · obtain ⟨rfl, houter⟩ := h.placed.1 k hk hplace
      have hkey := h.forget.insert_front rfl houter .key
      rw [Nat.le_zero.mp hplace, TokenStream.openBlock]
      split
      · exact ⟨_, .key, (hkey.moved _ _).push .value⟩
      · have hblock : Headed first [.key] { ({ s with candidate := none } : TokenStream).insert 0 .key with
            indent := k.position.column, indents := s.indent :: s.indents } := hkey.congr rfl rfl hkey.placed
        exact ⟨_, .block, ((hblock.insert_front rfl houter .blockMappingStart).moved _ _).push .value⟩
    · have hinserted :=
        (h.insert (Nat.not_le.mp hplace) .key).openBlock (Nat.not_le.mp hplace) k.position.column
        .blockMappingStart
      exact ⟨lead, hlead, (hinserted.forget.moved _ _).push .value⟩
  · split at hs
    · cases hs
    · obtain rfl := Option.some.inj hs
      exact ⟨lead, hlead, ((h.openBlock h.lead_lt_count _ _).moved _ _).push .value⟩

theorem keyLike {read : Cursor → Option (Token × Cursor)} (h : Headed first lead s)
    (hs : s.keyLike read = some s') :
    Headed first lead s' := by
  simp only [TokenStream.keyLike, Option.bind_eq_bind, Option.bind_eq_some_iff] at hs
  obtain ⟨saved, hsaved, ⟨t, cursor⟩, -, hs⟩ := hs
  obtain rfl := Option.some.inj hs
  exact ((h.saveCandidate hsaved).moved _ _).push t

theorem blockScalar {style : Style} (h : Headed first lead s) (hs : s.blockScalar style = some s') :
    Headed first lead s' := by
  simp only [TokenStream.blockScalar, Option.bind_eq_bind, Option.bind_eq_some_iff] at hs
  obtain ⟨dropped, hdropped, ⟨text, cursor⟩, -, hs⟩ := hs
  obtain rfl := Option.some.inj hs
  exact ((h.dropCandidate hdropped).moved _ _).push (.scalar style text)

theorem plainScalar (h : Headed first lead s) (hs : s.plainScalar = some s') : Headed first lead s' := by
  simp only [TokenStream.plainScalar, Option.bind_eq_bind, Option.bind_eq_some_iff] at hs
  obtain ⟨saved, hsaved, ⟨text, brokeLine, cursor⟩, -, hs⟩ := hs
  obtain rfl := Option.some.inj hs
  exact ((h.saveCandidate hsaved).moved _ _).push (.scalar .plain text)

/-- **One step keeps the first token and what stands in front of it**, up to the key's
sign and the start of a block. -/
theorem readToken (h : Headed first lead s) (hlead : Lead lead) (hs : s.readToken c rest = some s') :
    ∃ lead', Lead lead' ∧ Headed first lead' s' := by
  cases reads_of_readToken hs with
  | atMargin t cursor hs => exact ⟨lead, hlead, h.atMargin hs⟩
  | openFlow t hs => exact ⟨lead, hlead, h.openFlow hs⟩
  | closeFlow t hs => exact ⟨lead, hlead, h.closeFlow hs⟩
  | flowEntry hs => exact ⟨lead, hlead, h.flowEntry hs⟩
  | blockEntry hs => exact ⟨lead, hlead, h.blockEntry hs⟩
  | keySign hs => exact ⟨lead, hlead, h.keySign hs⟩
  | valueSign hs => exact h.valueSign hlead hs
  | keyLike read hs => exact ⟨lead, hlead, h.keyLike hs⟩
  | blockScalar style hs => exact ⟨lead, hlead, h.blockScalar hs⟩
  | plainScalar hs => exact ⟨lead, hlead, h.plainScalar hs⟩

theorem finish {tokens : List Token} (h : Headed first lead s) (hs : s.finish = some tokens) :
    lead ++ [first] <+: tokens := by
  simp only [TokenStream.finish, Option.bind_eq_bind, Option.bind_eq_some_iff] at hs
  obtain ⟨dropped, hdropped, hs⟩ := hs
  obtain rfl := Option.some.inj hs
  exact ((h.closeBlocks (-1)).dropCandidate hdropped).found

/-- **The whole pass keeps the first token** and puts nothing else in front of it. -/
theorem run {fuel : Nat} {tokens : List Token} (h : Headed first lead s) (hlead : Lead lead)
    (hs : TokenStream.run fuel s = some tokens) : ∃ lead', Lead lead' ∧ lead' ++ [first] <+: tokens := by
  induction fuel generalizing s lead with
  | zero => cases hs
  | succ fuel ih =>
    simp only [TokenStream.run, Option.bind_eq_bind, Option.bind_eq_some_iff] at hs
    obtain ⟨moved, hmoved, hs⟩ := hs
    have hm := h.toToken hmoved
    split at hs
    · exact ⟨lead, hlead, hm.finish hs⟩
    · obtain ⟨next, hnext, hs⟩ := Option.bind_eq_some_iff.mp hs
      obtain ⟨lead', hlead', hn⟩ := hm.readToken hlead hnext
      exact ih hn hlead' hs

end Headed

/-! ## The first step -/

/-- Nothing has been found yet, and no bracket is open. -/
structure Fresh (s : TokenStream) : Prop where
  tokens : s.tokens = []
  count : s.count = 0
  outer : s.outer = []

theorem Fresh.saveCandidate (h : Fresh s) (hs : s.saveCandidate = some s') : Fresh s' := by
  unfold TokenStream.saveCandidate at hs
  split at hs
  · simp only [Option.bind_eq_bind, Option.bind_eq_some_iff, dropCandidate] at hs
    obtain ⟨dropped, hdropped, hs⟩ := hs
    obtain rfl := Option.some.inj hs
    split at hdropped
    · split at hdropped
      · cases hdropped
      · obtain rfl := Option.some.inj hdropped
        exact ⟨h.tokens, h.count, h.outer⟩
    · obtain rfl := Option.some.inj hdropped
      exact ⟨h.tokens, h.count, h.outer⟩
  · obtain rfl := Option.some.inj hs
    exact h

/-- The first token, whose candidate is that of the block. -/
theorem Fresh.headed (h : Fresh s) (ht : s'.tokens = first :: s.tokens) (hc : s'.count = s.count + 1)
    (hplaced : s'.candidate :: s'.outer = [x] ∨ s'.candidate :: s'.outer = [none, x]) : Headed first [] s' := by
  have hlast : Placed [] [x] := ⟨fun _ _ _ => ⟨rfl, rfl⟩, trivial⟩
  refine ⟨?_, ?_, ?_⟩
  · rw [ht, hc, h.tokens, h.count]
    rfl
  · rw [ht, h.tokens]
    exact List.prefix_rfl
  · rcases hplaced with hplaced | hplaced
    · rw [hplaced]
      exact hlast
    · rw [hplaced]
      exact hlast.none_cons

theorem Fresh.openFlow (h : Fresh s) (hs : s.openFlow t = some s') : Headed t [] s' := by
  simp only [TokenStream.openFlow, Option.bind_eq_bind, Option.bind_eq_some_iff] at hs
  obtain ⟨saved, hsaved, hs⟩ := hs
  obtain rfl := Option.some.inj hs
  have hf := h.saveCandidate hsaved
  refine hf.headed rfl rfl (x := saved.candidate) (Or.inr ?_)
  exact congrArg (none :: saved.candidate :: ·) hf.outer

theorem Fresh.plainScalar (h : Fresh s) (hs : s.plainScalar = some s') :
    ∃ text, Headed (.scalar .plain text) [] s' := by
  simp only [TokenStream.plainScalar, Option.bind_eq_bind, Option.bind_eq_some_iff] at hs
  obtain ⟨saved, hsaved, ⟨text, brokeLine, cursor⟩, -, hs⟩ := hs
  obtain rfl := Option.some.inj hs
  have hf := h.saveCandidate hsaved
  refine ⟨text, hf.headed rfl rfl (x := saved.candidate) (Or.inl ?_)⟩
  exact congrArg (saved.candidate :: ·) hf.outer

theorem readToken_openBracket (s : TokenStream) (rest : Text) :
    s.readToken '[' rest = s.openFlow .flowSequenceStart := by
  unfold TokenStream.readToken
  cases s.cursor.position.column == 0 <;> rfl

theorem readToken_openBrace (s : TokenStream) (rest : Text) :
    s.readToken '\x7b' rest = s.openFlow .flowMappingStart := by
  unfold TokenStream.readToken
  cases s.cursor.position.column == 0 <;> rfl

/-! ### Blanks before the first token -/

/-- The blanks that are passed over before the first token. -/
def isPadding (c : Char) : Bool := c == ' ' || isBreak c

/-- Outside of brackets a key may begin behind any spaces and breaks. -/
theorem gap_padding {start : Text} (h : ∀ c ∈ start, isPadding c = true) (t : Text) (p : Position) :
    ∃ p', gap false (start ++ t) p false true = gap false t p' false true := by
  induction start generalizing p with
  | nil => exact ⟨p, rfl⟩
  | cons c start ih =>
    have hc := h c List.mem_cons_self
    rw [List.cons_append, gap]
    split
    · exact ih (fun d hd => h d (List.mem_cons_of_mem c hd)) p.down
    · rename_i hbreak
      have hspace : (c == ' ') = true := (Bool.or_eq_true _ _).mp hc |>.resolve_right hbreak
      rw [hspace]
      exact ih (fun d hd => h d (List.mem_cons_of_mem c hd)) (p.right 1)

theorem ne_of_isBlank {d : Char} (hc : isBlank c = true) (hd : isBlank d = false) : c ≠ d := by
  rintro rfl
  rw [hc] at hd
  cases hd

theorem isIndicator_of_isBlank (hc : isBlank c = true) : isIndicator c = false :=
  isIndicator_eq_false (by decide) hc

/-- Where a blank is not passed over, a plain scalar begins or nothing does. -/
theorem readToken_blank (hc : isBlank c = true) :
    s.readToken c rest = if beginsPlain s.inFlow c rest then s.plainScalar else none := by
  have hmark : atDocumentMark (c :: rest) = false := by
    unfold atDocumentMark
    split
    · rename_i heq
      exact absurd (List.cons.inj heq).1 (ne_of_isBlank hc (by decide))
    · rename_i heq
      exact absurd (List.cons.inj heq).1 (ne_of_isBlank hc (by decide))
    · rfl
  exact readToken_of_not_isIndicator (isIndicator_of_isBlank hc) (by rw [hmark, Bool.and_false])

/-- The step of the first token, behind the blanks that are passed over. -/
theorem run_first {start : Text} (h : ∀ d ∈ start, isPadding d = true) (hbreak : isBreak c = false)
    (hspace : c ≠ ' ') (hmark : c ≠ '\uFEFF') (hcomment : c ≠ '#') (rest : Text) (fuel : Nat) :
    ∃ s, Fresh s ∧ run (fuel + 1) (ofText (start ++ c :: rest)) = (s.readToken c rest).bind (run fuel) := by
  obtain ⟨p, hp⟩ := gap_padding h (c :: rest) ⟨0, 0, 0⟩
  rw [gap_stop hbreak hspace (fun _ => ⟨rfl, rfl⟩) (fun hc => absurd hc hmark) hcomment] at hp
  have htoken : (ofText (start ++ c :: rest)).toToken =
      some { ofText (start ++ c :: rest) with cursor := ⟨c :: rest, p⟩ } := by
    change ({ ofText (start ++ c :: rest) with
      cursor := (gap false (start ++ c :: rest) ⟨0, 0, 0⟩ false true).1
      keyAllowed := (gap false (start ++ c :: rest) ⟨0, 0, 0⟩ false true).2 } : TokenStream).dropStale.bind
        (fun s => some (s.closeBlocks s.cursor.position.column)) = _
    rw [hp]
    rfl
  exact ⟨_, ⟨rfl, rfl, rfl⟩, run_succ htoken rfl fuel⟩

variable {start : Text} {tokens : List Token} {fuel : Nat}

/-- An opening bracket or brace as the first token. -/
theorem run_opening (h : ∀ d ∈ start, isPadding d = true) (hc : c = '[' ∨ c = '\x7b')
    (hs : run (fuel + 1) (ofText (start ++ c :: rest)) = some tokens) :
    ∃ first lead, first.OpensFlow ∧ Lead lead ∧ lead ++ [first] <+: tokens := by
  rcases hc with rfl | rfl
  · obtain ⟨s, hfresh, hrun⟩ := run_first (c := '[') h (by decide) (by decide) (by decide) (by decide) rest fuel
    rw [hrun, readToken_openBracket] at hs
    obtain ⟨next, hnext, hs⟩ := Option.bind_eq_some_iff.mp hs
    obtain ⟨lead, hlead, hprefix⟩ := (hfresh.openFlow hnext).run .nothing hs
    exact ⟨_, lead, .sequence, hlead, hprefix⟩
  · obtain ⟨s, hfresh, hrun⟩ :=
      run_first (c := '\x7b') h (by decide) (by decide) (by decide) (by decide) rest fuel
    rw [hrun, readToken_openBrace] at hs
    obtain ⟨next, hnext, hs⟩ := Option.bind_eq_some_iff.mp hs
    obtain ⟨lead, hlead, hprefix⟩ := (hfresh.openFlow hnext).run .nothing hs
    exact ⟨_, lead, .mapping, hlead, hprefix⟩

/-- A blank that is not passed over begins the first token, a plain scalar. -/
theorem run_blank (h : ∀ d ∈ start, isPadding d = true) (hc : isBlank c = true) (hpadding : isPadding c = false)
    (hs : run (fuel + 1) (ofText (start ++ c :: rest)) = some tokens) :
    ∃ text lead, Lead lead ∧ lead ++ [.scalar .plain text] <+: tokens := by
  obtain ⟨hspace, hbreak⟩ := Bool.or_eq_false_iff.mp hpadding
  obtain ⟨s, hfresh, hrun⟩ := run_first h hbreak (beq_eq_false_iff_ne.mp hspace) (ne_of_isBlank hc (by decide))
    (ne_of_isBlank hc (by decide)) rest fuel
  rw [hrun, readToken_blank hc] at hs
  obtain ⟨next, hnext, hs⟩ := Option.bind_eq_some_iff.mp hs
  obtain ⟨-, hnext⟩ | ⟨-, hnext⟩ := ite_eq_iff.mp hnext
  · obtain ⟨text, hheaded⟩ := hfresh.plainScalar hnext
    obtain ⟨lead, hlead, hprefix⟩ := hheaded.run .nothing hs
    exact ⟨text, lead, hlead, hprefix⟩
  · cases hnext

end TokenStream

/-- The spaces and line breaks of a text, however these are written. -/
def isMargin (c : Char) : Bool := TokenStream.isPadding c || c == '\r' || c == '\u0085'

/-- **The tokens of a text with nothing but blanks before its bracket** begin with the sign of the bracket,
behind what can be put in front of it. Only where one of the blanks is neither a space nor a break can a
plain scalar stand there instead. -/
theorem Token.ofText?_bracketed {before after : Text} {tokens : List Token} (hbefore : Text.Blanks before)
    (hc : c = '[' ∨ c = '\x7b') (h : Token.ofText? (before ++ c :: after) = some tokens) :
    ∃ first lead, Lead lead ∧ lead ++ [first] <+: tokens ∧
      (first.OpensFlow ∨ (∃ text, first = .scalar .plain text) ∧ ∃ d ∈ before, isMargin d = false) := by
  unfold Token.ofText? at h
  split at h
  · have hbreak : c ≠ '\r' ∧ c ≠ '\n' ∧ c ≠ '\u0085' := by
      rcases hc with rfl | rfl
      · decide
      · decide
    obtain ⟨start, hstart, hmem⟩ := unifyBreaks_append hbreak before after
    rw [hstart] at h
    by_cases hall : ∀ d ∈ start, TokenStream.isPadding d = true
    · obtain ⟨first, lead, hfirst, hlead, hprefix⟩ := TokenStream.run_opening hall hc h
      exact ⟨first, lead, hlead, hprefix, Or.inl hfirst⟩
    · -- the first of the blanks that is not passed over
      have hne : start.dropWhile TokenStream.isPadding ≠ [] :=
        fun hnil => hall (List.dropWhile_eq_nil_iff.mp hnil)
      obtain ⟨d, more, hd⟩ := List.exists_cons_of_ne_nil hne
      have hpadding : TokenStream.isPadding d = false := by
        have hhead := List.head_dropWhile_not TokenStream.isPadding hne
        simpa only [hd, List.head_cons, Bool.not_eq_true] using hhead
      have hsplit : start = start.takeWhile TokenStream.isPadding ++ d :: more := by
        rw [← hd, List.takeWhile_append_dropWhile]
      have hin : d ∈ before ∧ d ≠ '\r' ∧ d ≠ '\u0085' := by
        refine (hmem d (by rw [hsplit]; simp)).resolve_left ?_
        rintro rfl
        exact absurd hpadding (by decide)
      rw [hsplit, List.append_assoc] at h
      obtain ⟨text, lead, hlead, hprefix⟩ :=
        TokenStream.run_blank (fun _ hx => List.mem_takeWhile_imp hx) (hbefore d hin.1) hpadding h
      refine ⟨_, lead, hlead, hprefix, Or.inr ⟨⟨text, rfl⟩, d, hin.1, ?_⟩⟩
      rw [isMargin, hpadding, beq_false_of_ne hin.2.1, beq_false_of_ne hin.2.2]
      rfl
  · cases h

end ApiLinks.Yaml

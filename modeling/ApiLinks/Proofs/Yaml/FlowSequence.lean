import ApiLinks.Proofs.Number.Decimal
import ApiLinks.Proofs.Text.Joined
import ApiLinks.Proofs.Yaml.TokenPass
import ApiLinks.Proofs.Yaml.Values

/-!
# Flow sequences of words

A YAML text that is a list of words in brackets is read as the sequence of what the words
mean as plain scalars. The words are made of letters, digits and points, with a comma and
a space between each two of them.

* `Yaml.IsWord t` : a run of letters, digits and points, and not the empty one;
* `Yaml.flowList items` : the list in brackets;
* `TokenStream.InList s found rest` : the token pass inside of the brackets, with
  what it has found and what is left;
* `Token.ofText?_flowList` : the tokens of a list, and `Node.ofText?_flowList` its node;
* `Yaml.data?_flowList` : the value of a list, which has one exactly if all its words have.
-/

namespace ApiLinks.Yaml

variable {items : List Text} {t rest : Text} {c d : Char} {found : List Token} {p : Position}

/-- The characters of words. -/
def isWordPart (c : Char) : Bool := c.isAlphanum || c == '.'

/-- A run of letters, digits and points. -/
structure IsWord (t : Text) : Prop where
  ne_nil : t ≠ []
  parts : ∀ c ∈ t, isWordPart c = true

/-- Texts in brackets, a comma and a space between each two of them. -/
def flowList (items : List Text) : Text := '[' :: Text.joined [',', ' '] items ++ [']']

/-- The signs and scalars that such a list is made of. -/
def flowTokens (items : List Text) : List Token :=
  .flowSequenceStart :: (items.map (Token.scalar .plain)).intersperse .flowEntry ++ [.flowSequenceEnd]

/-! ## The characters of words -/

theorem ne_of_isWordPart (hc : isWordPart c = true) (hd : isWordPart d = false) : c ≠ d := by
  rintro rfl
  rw [hc] at hd
  cases hd

theorem beq_of_isWordPart (hc : isWordPart c = true) (hd : isWordPart d = false) : (c == d) = false :=
  beq_false_of_ne (ne_of_isWordPart hc hd)

theorem toNat_of_isWordPart (hc : isWordPart c = true) : 0x2E ≤ c.toNat ∧ c.toNat ≤ 0x7A := by
  have hends : 'A'.toNat = 65 ∧ 'Z'.toNat = 90 ∧ 'a'.toNat = 97 ∧ 'z'.toNat = 122 := by decide
  have hrange {first last : Char} (hlow : first.val ≤ c.val) (hhigh : c.val ≤ last.val) :
      first.toNat ≤ c.toNat ∧ c.toNat ≤ last.toNat :=
    ⟨UInt32.le_iff_toNat_le.mp hlow, UInt32.le_iff_toNat_le.mp hhigh⟩
  rcases (Bool.or_eq_true _ _).mp hc with hc | hpoint
  · rcases (Bool.or_eq_true _ _).mp hc with hletter | hdigit
    · rcases (Bool.or_eq_true _ _).mp hletter with hupper | hlower
      · obtain ⟨hlow, hhigh⟩ := of_decide_eq_true hupper
        have := hrange hlow hhigh
        omega
      · obtain ⟨hlow, hhigh⟩ := (Bool.and_eq_true _ _).mp hlower
        have := hrange (of_decide_eq_true hlow) (of_decide_eq_true hhigh)
        omega
    · have := Number.toNat_of_isDigit hdigit
      omega
  · rw [beq_iff_eq.mp hpoint]
    decide

theorem isAllowed_of_isWordPart (hc : isWordPart c = true) : isAllowed c = true := by
  obtain ⟨hlow, hhigh⟩ := toNat_of_isWordPart hc
  unfold isAllowed
  simp only [Bool.or_eq_true, Bool.and_eq_true, decide_eq_true_eq, beq_iff_eq]
  omega

theorem isGap_of_isWordPart (hc : isWordPart c = true) : isGap c = false := by
  unfold isGap
  rw [beq_of_isWordPart hc (by decide), beq_of_isWordPart hc (by decide)]
  rfl

theorem isBreak_of_isWordPart (hc : isWordPart c = true) : isBreak c = false := by
  unfold isBreak
  rw [beq_of_isWordPart hc (by decide), beq_of_isWordPart hc (by decide), beq_of_isWordPart hc (by decide)]
  rfl

theorem isIndicator_of_isWordPart (hc : isWordPart c = true) : TokenStream.isIndicator c = false :=
  TokenStream.isIndicator_eq_false (by decide) hc

/-- The characters of a list: those of its words, and the signs. -/
theorem isWordPart_or_sign (h : ∀ t ∈ items, IsWord t) (hc : c ∈ flowList items) :
    isWordPart c = true ∨ c ∈ ['[', ']', ',', ' '] := by
  rcases List.mem_cons.mp hc with rfl | hc
  · exact Or.inr (by decide)
  · rcases List.mem_append.mp hc with hc | hc
    · rcases Text.mem_joined hc with hc | ⟨t, ht, hc⟩
      · refine Or.inr ?_
        rcases List.mem_cons.mp hc with rfl | hc
        · decide
        · rw [List.mem_singleton.mp hc]
          decide
      · exact Or.inl ((h t ht).parts c hc)
    · refine Or.inr ?_
      rw [List.mem_singleton.mp hc]
      decide

theorem all_isAllowed_flowList (h : ∀ t ∈ items, IsWord t) : (flowList items).all isAllowed = true := by
  have hsigns : ['[', ']', ',', ' '].all isAllowed = true := by decide
  refine List.all_eq_true.mpr fun c hc => ?_
  rcases isWordPart_or_sign h hc with hc | hc
  · exact isAllowed_of_isWordPart hc
  · exact List.all_eq_true.mp hsigns c hc

theorem unifyBreaks_flowList (h : ∀ t ∈ items, IsWord t) : unifyBreaks (flowList items) = flowList items := by
  have hsigns : '\r' ∉ ['[', ']', ',', ' '] ∧ '\u0085' ∉ ['[', ']', ',', ' '] := by decide
  refine unifyBreaks_eq_self fun c hc => ?_
  rcases isWordPart_or_sign h hc with hc | hc
  · exact ⟨ne_of_isWordPart hc (by decide), ne_of_isWordPart hc (by decide)⟩
  · exact ⟨ne_of_mem_of_not_mem hc hsigns.1, ne_of_mem_of_not_mem hc hsigns.2⟩

theorem length_flowList (hne : items ≠ []) (h : ∀ t ∈ items, IsWord t) :
    2 * items.length + 1 ≤ (flowList items).length := by
  have hpos (t : Text) (ht : IsWord t) : 0 < t.length := List.length_pos_iff.mpr ht.ne_nil
  have hjoined : 3 * items.length ≤ (Text.joined [',', ' '] items).length + 2 := by
    clear hne
    induction items with
    | nil => exact Nat.zero_le _
    | cons t items ih =>
      have ht := hpos t (h t List.mem_cons_self)
      have hrest := ih fun x hx => h x (List.mem_cons_of_mem t hx)
      by_cases hnil : items = []
      · subst hnil
        simp only [List.length_singleton, Text.joined_singleton]
        omega
      · rw [Text.joined_cons t hnil]
        simp only [List.length_cons, List.length_append, List.length_nil]
        omega
  have hlength : (flowList items).length = (Text.joined [',', ' '] items).length + 2 := by simp [flowList]
  have hitems := List.length_pos_iff.mpr hne
  omega

/-! ## One token -/

/-- In brackets a plain scalar reads a word up to the sign behind it. -/
theorem Scalar.plain_word {w : Text} (hw : ∀ c ∈ w, isWordPart c = true) (hd : d = ',' ∨ d = ']') (indent : Int)
    (rest : Text) (p : Position) (out : Text) :
    Scalar.plain true indent (w ++ d :: rest) p .nothing out =
      some (out.reverse ++ w, false, ⟨d :: rest, p.right w.length⟩) := by
  induction w generalizing p out with
  | nil =>
    have hends : endsPlain true d rest = true ∧ strandedColon true d rest = false ∧ isGap d = false ∧
        isBreak d = false := by
      rcases hd with rfl | rfl
      · exact ⟨rfl, rfl, rfl, rfl⟩
      · exact ⟨rfl, rfl, rfl, rfl⟩
    obtain ⟨hends, hstranded, hgap, hbreak⟩ := hends
    rw [List.nil_append, Scalar.plain, hgap, hbreak, hstranded, hends, List.append_nil]
    rfl
  | cons c w ih =>
    have hc := hw c List.mem_cons_self
    have hstranded : strandedColon true c (w ++ d :: rest) = false := by
      unfold strandedColon
      rw [beq_of_isWordPart hc (by decide)]
      rfl
    have hends : endsPlain true c (w ++ d :: rest) = false := by
      unfold endsPlain
      rw [beq_of_isWordPart hc (by decide), beq_of_isWordPart hc (by decide), beq_of_isWordPart hc (by decide),
        beq_of_isWordPart hc (by decide), beq_of_isWordPart hc (by decide), beq_of_isWordPart hc (by decide)]
      rfl
    rw [List.cons_append, Scalar.plain, isGap_of_isWordPart hc, isBreak_of_isWordPart hc, hstranded, hends]
    simp only [Bool.false_eq_true, if_false, Between.nothing, bne_self_eq_false, Bool.false_and]
    rw [← Between.nothing, ih fun x hx => hw x (List.mem_cons_of_mem c hx)]
    simp [Between.nothing, Between.folded, Position.right, Nat.add_assoc, Nat.add_comm 1]

namespace TokenStream

/-- A candidate that may be dropped. -/
def Optional (candidate : Option KeyCandidate) : Prop := ∀ k ∈ candidate, k.required = false

theorem refresh_of_optional {x : Option KeyCandidate} (h : Optional x) (p : Position) :
    ∃ y, refresh p x = some y ∧ Optional y := by
  cases x with
  | none => exact ⟨none, rfl, h⟩
  | some k =>
    rw [refresh, h k rfl]
    split
    · exact ⟨none, rfl, fun _ hk => nomatch hk⟩
    · exact ⟨some k, rfl, h⟩

/-- Inside of brackets, with what has been found and what is left. The block has no
column, and no key is demanded. -/
structure InList (s : TokenStream) (found : List Token) (rest : Text) : Prop where
  cursor : s.cursor.rest = rest
  column : 0 < s.cursor.position.column
  indents : s.indents = []
  outer : ∃ x, s.outer = [x] ∧ Optional x
  candidate : Optional s.candidate
  tokens : s.tokens = found

variable {s : TokenStream}

theorem no_spaces : ∀ b ∈ ([] : Text), b = ' ' := fun _ hb => nomatch hb

theorem gap_spaces {blanks : Text} (hb : ∀ b ∈ blanks, b = ' ') (inFlow : Bool) (p : Position)
    (allowed : Bool) (rest : Text) :
    gap inFlow (blanks ++ rest) p false allowed = gap inFlow rest (p.right blanks.length) false allowed := by
  induction blanks generalizing p with
  | nil => rfl
  | cons b blanks ih =>
    rw [hb b List.mem_cons_self, List.cons_append, gap, ih fun x hx => hb x (List.mem_cons_of_mem b hx)]
    simp [isBreak, Position.right, Nat.add_assoc, Nat.add_comm 1]

/-- The step at the end of the text, where no block and no bracket is open. -/
theorem run_end (hrest : s.cursor.rest = []) (hindents : s.indents = []) (houter : s.outer = [])
    (hk : Optional s.candidate) (fuel : Nat) : run (fuel + 1) s = some s.tokens.reverse := by
  obtain ⟨⟨_, p⟩, indent, _, keyAllowed, k, _, tokens, count⟩ := s
  subst hrest hindents houter
  obtain ⟨y, hy, hyo⟩ := refresh_of_optional hk p
  have htoken : toToken ⟨⟨[], p⟩, indent, [], keyAllowed, k, [], tokens, count⟩ =
      some ⟨⟨[], p⟩, indent, [], keyAllowed, y, [], tokens, count⟩ := by
    simp only [toToken, gap, dropStale, Option.bind_eq_bind, hy, Option.bind_some, List.mapM_nil]
    rfl
  rw [run, htoken]
  cases y with
  | none => rfl
  | some k' =>
    change (finish _) = _
    have hclosed :
        (⟨⟨[], p⟩, indent, [], keyAllowed, some k', [], tokens, count⟩ : TokenStream).closeBlocks (-1) =
        ⟨⟨[], p⟩, indent, [], keyAllowed, some k', [], tokens, count⟩ := rfl
    simp only [finish, hclosed, dropCandidate, hyo k' rfl, Bool.false_eq_true, if_false]
    rfl

namespace InList

theorem inFlow (h : InList s found rest) : s.inFlow = true := by
  obtain ⟨x, hx, -⟩ := h.outer
  rw [TokenStream.inFlow, hx]
  rfl

theorem closeBlocks (h : InList s found rest) (column : Int) : s.closeBlocks column = s := by
  rw [TokenStream.closeBlocks, h.inFlow, if_pos rfl]

theorem dropStale (h : InList s found rest) : ∃ s', s.dropStale = some s' ∧ InList s' found rest := by
  obtain ⟨x, hx, hxo⟩ := h.outer
  obtain ⟨y, hy, hyo⟩ := refresh_of_optional h.candidate s.cursor.position
  obtain ⟨z, hz, hzo⟩ := refresh_of_optional hxo s.cursor.position
  refine ⟨{ s with candidate := y, outer := [z] }, ?_, h.cursor, h.column, h.indents,
    ⟨z, rfl, hzo⟩, hyo, h.tokens⟩
  rw [TokenStream.dropStale, hy, hx]
  simp [hz]

theorem dropCandidate (h : InList s found rest) : ∃ s', s.dropCandidate = some s' ∧ InList s' found rest := by
  unfold TokenStream.dropCandidate
  cases hk : s.candidate with
  | none => exact ⟨s, rfl, h⟩
  | some k =>
    simp only [h.candidate k hk, Bool.false_eq_true, if_false]
    exact ⟨_, rfl, h.cursor, h.column, h.indents, h.outer, fun _ hk => (nomatch hk), h.tokens⟩

theorem saveCandidate (h : InList s found rest) : ∃ s', s.saveCandidate = some s' ∧ InList s' found rest := by
  unfold TokenStream.saveCandidate
  split
  · obtain ⟨s', hs', h'⟩ := h.dropCandidate
    rw [hs', h.inFlow]
    refine ⟨_, rfl, h'.cursor, h'.column, h'.indents, h'.outer, ?_, h'.tokens⟩
    rintro k ⟨⟩
    rfl
  · exact ⟨s, rfl, h⟩

/-- Moves to the next token over the spaces before it. -/
theorem toToken {blanks : Text} (hb : ∀ b ∈ blanks, b = ' ')
    (hc : isBreak c = false ∧ isGap c = false ∧ c ≠ '#') (h : InList s found (blanks ++ c :: rest)) :
    ∃ s', s.toToken = some s' ∧ InList s' found (c :: rest) := by
  have hcolumn : 0 < (s.cursor.position.right blanks.length).column :=
    Nat.lt_of_lt_of_le h.column (Nat.le_add_right _ _)
  have hgap : gap s.inFlow s.cursor.rest s.cursor.position false s.keyAllowed =
      (⟨c :: rest, s.cursor.position.right blanks.length⟩, s.keyAllowed) := by
    obtain ⟨hbreak, hgap, hcomment⟩ := hc
    have hspace : c ≠ ' ' ∧ c ≠ '\t' := by simpa [isGap] using hgap
    rw [h.cursor, gap_spaces hb,
      gap_stop hbreak hspace.1 (fun htab => absurd htab hspace.2) (fun _ => hcolumn) hcomment]
  have hmoved :
      InList { s with cursor := ⟨c :: rest, s.cursor.position.right blanks.length⟩ } found (c :: rest) :=
    ⟨rfl, hcolumn, h.indents, h.outer, h.candidate, h.tokens⟩
  obtain ⟨s', hs', h'⟩ := hmoved.dropStale
  refine ⟨s', ?_, h'⟩
  rw [TokenStream.toToken, hgap]
  simp only [Option.bind_eq_bind, hs', Option.bind_some, h'.closeBlocks]
  rfl

/-- Behind one more character, with one more token. -/
theorem right (h : InList s found (c :: rest)) (t : Token) (keyAllowed : Bool) :
    InList (({ s with keyAllowed }.forward 1).push t) (t :: found) rest := by
  refine ⟨?_, ?_, h.indents, h.outer, h.candidate, ?_⟩
  · simp [push, forward, Cursor.right, h.cursor]
  · simp [push, forward, Cursor.right, Position.right]
  · rw [push]
    exact congrArg (t :: ·) h.tokens

theorem first (h : InList s found rest) : (s.cursor.position.column == 0) = false :=
  beq_false_of_ne (Nat.ne_of_gt h.column)

theorem readToken_comma (h : InList s found (',' :: rest)) :
    ∃ s', s.readToken ',' rest = some s' ∧ InList s' (.flowEntry :: found) rest := by
  obtain ⟨s', hs', h'⟩ := h.dropCandidate
  refine ⟨_, ?_, h'.right .flowEntry true⟩
  rw [readToken, h.first]
  simp only [Bool.false_and, Bool.false_eq_true, if_false, Char.reduceEq, if_true, flowEntry, hs',
    Option.bind_eq_bind, Option.bind_some]
  rfl

/-- The bracket at the end leaves the list, and the text is at its end. -/
theorem readToken_close (h : InList s found [']']) :
    ∃ s', s.readToken ']' [] = some s' ∧ s'.cursor.rest = [] ∧ s'.indents = [] ∧ s'.outer = [] ∧
      Optional s'.candidate ∧ s'.tokens = .flowSequenceEnd :: found := by
  obtain ⟨s', hs', h'⟩ := h.dropCandidate
  obtain ⟨x, hx, hxo⟩ := h'.outer
  have hright := h'.right .flowSequenceEnd false
  refine ⟨({ s' with candidate := x, outer := [], keyAllowed := false }.forward 1).push .flowSequenceEnd,
    ?_, hright.cursor, h'.indents, rfl, hxo, hright.tokens⟩
  rw [readToken, h.first]
  simp only [Bool.false_and, Bool.false_eq_true, if_false, Char.reduceEq, if_true, closeFlow, hs',
    Option.bind_eq_bind, Option.bind_some, hx]
  rfl

theorem readToken_word (hc : isWordPart c = true) (h : InList s found (c :: rest)) :
    s.readToken c rest = s.plainScalar := by
  have hbegins : beginsPlain s.inFlow c rest = true := by
    rw [beginsPlain, isIndicator_of_isWordPart hc, atGap, isGap_of_isWordPart hc, isBreak_of_isWordPart hc]
    rfl
  rw [readToken_of_not_isIndicator (isIndicator_of_isWordPart hc) (by rw [h.first, Bool.false_and]),
    hbegins, if_pos rfl]

theorem plainScalar {w : Text} (hw : ∀ c ∈ w, isWordPart c = true) (hd : d = ',' ∨ d = ']')
    (h : InList s found (w ++ d :: rest)) :
    ∃ s', s.plainScalar = some s' ∧ InList s' (.scalar .plain w :: found) (d :: rest) := by
  obtain ⟨s', hs', h'⟩ := h.saveCandidate
  refine ⟨({ s' with keyAllowed := false, cursor := ⟨d :: rest, s'.cursor.position.right w.length⟩ }).push
    (.scalar .plain w), ?_, rfl, Nat.lt_of_lt_of_le h'.column (Nat.le_add_right _ _), h'.indents,
    h'.outer, h'.candidate, congrArg (Token.scalar .plain w :: ·) h'.tokens⟩
  rw [TokenStream.plainScalar, hs']
  simp only [Option.bind_eq_bind, Option.bind_some, h'.inFlow, h'.cursor, Scalar.plain_word hw hd]
  rfl

/-- The steps of one word. -/
theorem run_word {blanks : Text} (hb : ∀ b ∈ blanks, b = ' ') (ht : IsWord t) (hd : d = ',' ∨ d = ']')
    (h : InList s found (blanks ++ (t ++ d :: rest))) (fuel : Nat) :
    ∃ s', run (fuel + 1) s = run fuel s' ∧ InList s' (.scalar .plain t :: found) (d :: rest) := by
  obtain ⟨c, w, rfl⟩ := List.exists_cons_of_ne_nil ht.ne_nil
  have hc := ht.parts c List.mem_cons_self
  obtain ⟨s', hs', h'⟩ :=
    h.toToken hb ⟨isBreak_of_isWordPart hc, isGap_of_isWordPart hc, ne_of_isWordPart hc (by decide)⟩
  obtain ⟨s'', hs'', h''⟩ := plainScalar ht.parts hd h'
  refine ⟨s'', ?_, h''⟩
  rw [run_succ hs' h'.cursor, h'.readToken_word hc, hs'']
  rfl

theorem run_comma (h : InList s found (',' :: rest)) (fuel : Nat) :
    ∃ s', run (fuel + 1) s = run fuel s' ∧ InList s' (.flowEntry :: found) rest := by
  obtain ⟨s', hs', h'⟩ := toToken no_spaces ⟨rfl, rfl, by decide⟩ h
  obtain ⟨s'', hs'', h''⟩ := h'.readToken_comma
  refine ⟨s'', ?_, h''⟩
  rw [run_succ hs' h'.cursor, hs'']
  rfl

theorem run_close (h : InList s found [']']) (fuel : Nat) :
    run (fuel + 2) s = some (found.reverse ++ [.flowSequenceEnd]) := by
  obtain ⟨s', hs', h'⟩ := toToken no_spaces ⟨rfl, rfl, by decide⟩ h
  obtain ⟨s'', hs'', hrest, hindents, houter, hcandidate, htokens⟩ := h'.readToken_close
  rw [run_succ hs' h'.cursor, hs'', Option.bind_some, run_end hrest hindents houter hcandidate, htokens,
    List.reverse_cons]

/-- The steps of a list from any of its words on. -/
theorem run_items {blanks : Text} (hb : ∀ b ∈ blanks, b = ' ') (hne : items ≠ [])
    (hitems : ∀ t ∈ items, IsWord t)
    (h : InList s found (blanks ++ (Text.joined [',', ' '] items ++ [']']))) (fuel : Nat)
    (hfuel : 2 * items.length + 1 ≤ fuel) :
    run fuel s =
      some (found.reverse ++
        ((items.map (Token.scalar .plain)).intersperse .flowEntry ++ [.flowSequenceEnd])) := by
  induction items generalizing s found blanks fuel with
  | nil => exact absurd rfl hne
  | cons t items ih =>
    have ht := hitems t List.mem_cons_self
    rw [List.length_cons] at hfuel
    by_cases hrest : items = []
    · subst hrest
      obtain ⟨fuel, rfl⟩ : ∃ f, fuel = f + 3 := ⟨fuel - 3, by simp at hfuel; omega⟩
      rw [Text.joined_singleton] at h
      obtain ⟨s', hs', h'⟩ := h.run_word hb ht (Or.inr rfl) (fuel + 2)
      rw [hs', h'.run_close]
      simp
    · obtain ⟨fuel, rfl⟩ : ∃ f, fuel = f + 2 := ⟨fuel - 2, by omega⟩
      rw [Text.joined_cons t hrest] at h
      have hword :
          InList s found (blanks ++ (t ++ ',' :: ([' '] ++ (Text.joined [',', ' '] items ++ [']'])))) := by
        simpa using h
      obtain ⟨s', hs', h'⟩ := hword.run_word hb ht (Or.inl rfl) (fuel + 1)
      obtain ⟨s'', hs'', h''⟩ := h'.run_comma fuel
      have hspace : ∀ b ∈ [' '], b = ' ' := fun b hin => List.mem_singleton.mp hin
      rw [hs', hs'', ih hspace hrest (fun x hx => hitems x (List.mem_cons_of_mem t hx)) h'' fuel (by omega)]
      obtain ⟨u, us, rfl⟩ := List.exists_cons_of_ne_nil hrest
      simp

end InList

theorem run_open (fuel : Nat) (rest : Text) :
    ∃ s, run (fuel + 1) (ofText ('[' :: rest)) = run fuel s ∧ InList s [.flowSequenceStart] rest := by
  have htoken : (ofText ('[' :: rest)).toToken = some (ofText ('[' :: rest)) := rfl
  refine ⟨_, run_succ htoken rfl fuel, rfl, ?_, rfl, ⟨_, rfl, ?_⟩, ?_, rfl⟩
  · exact Nat.zero_lt_one
  · rintro k ⟨⟩
    rfl
  · exact fun _ hk => (nomatch hk)

end TokenStream

/-- The tokens of a list. -/
theorem Token.ofText?_flowList (hne : items ≠ []) (h : ∀ t ∈ items, IsWord t) :
    Token.ofText? (flowList items) = some (flowTokens items) := by
  rw [Token.ofText?, if_pos (all_isAllowed_flowList h), unifyBreaks_flowList h]
  obtain ⟨s, hs, hin⟩ := TokenStream.run_open (flowList items).length (Text.joined [',', ' '] items ++ [']'])
  have hfuel : 2 * items.length + 1 ≤ (flowList items).length := length_flowList hne h
  have hrun := hin.run_items TokenStream.no_spaces hne h _ hfuel
  exact hs.trans hrun

/-! ## The node and its value -/

theorem flowTokens_cons (t : Text) (items : List Text) :
    flowTokens (t :: items) = .flowSequenceStart :: .scalar .plain t ::
      (items.flatMap (fun t => [.flowEntry, .scalar .plain t]) ++ [.flowSequenceEnd]) := by
  have hrest (t : Text) : ((t :: items).map (Token.scalar .plain)).intersperse .flowEntry =
      .scalar .plain t :: items.flatMap (fun t => [.flowEntry, .scalar .plain t]) := by
    induction items generalizing t with
    | nil => rfl
    | cons u items ih =>
      have hu := ih u
      simp only [List.map_cons, List.intersperse_cons_cons, List.flatMap_cons] at hu ⊢
      rw [hu]
      rfl
  rw [flowTokens, hrest]
  rfl

namespace NodeReader

theorem flowItems_end (fuel : Nat) (first : Bool) (tokens : List Token) (anchors : List (Text × Nat))
    (handles : List (Text × Text)) :
    flowItems (fuel + 1) first ⟨.flowSequenceEnd :: tokens, anchors, handles⟩ =
      some ([], ⟨tokens, anchors, handles⟩) := by
  cases first <;> rfl

theorem flowItems_first (fuel : Nat) (t : Text) (tokens : List Token) (anchors : List (Text × Nat))
    (handles : List (Text × Text)) :
    flowItems (fuel + 2) true ⟨.scalar .plain t :: tokens, anchors, handles⟩ =
      (flowItems (fuel + 1) false ⟨tokens, anchors, handles⟩).bind fun r =>
        some (.scalar ⟨none, none⟩ .plain t :: r.1, r.2) := by
  rw [flowItems]
  rfl

theorem flowItems_next (fuel : Nat) (t : Text) (tokens : List Token) (anchors : List (Text × Nat))
    (handles : List (Text × Text)) :
    flowItems (fuel + 2) false ⟨.flowEntry :: .scalar .plain t :: tokens, anchors, handles⟩ =
      (flowItems (fuel + 1) false ⟨tokens, anchors, handles⟩).bind fun r =>
        some (.scalar ⟨none, none⟩ .plain t :: r.1, r.2) := by
  rw [flowItems]
  rfl

/-- The items that follow the first one, each behind its comma. -/
theorem flowItems_rest (items : List Text) (anchors : List (Text × Nat))
    (handles : List (Text × Text)) (fuel : Nat) (hfuel : items.length + 2 ≤ fuel) :
    flowItems fuel false
        ⟨items.flatMap (fun t => [.flowEntry, .scalar .plain t]) ++ [.flowSequenceEnd], anchors, handles⟩ =
      some (items.map (Node.scalar ⟨none, none⟩ .plain), ⟨[], anchors, handles⟩) := by
  induction items generalizing fuel with
  | nil =>
    obtain ⟨fuel, rfl⟩ : ∃ f, fuel = f + 1 := ⟨fuel - 1, by omega⟩
    exact flowItems_end fuel false [] anchors handles
  | cons t items ih =>
    rw [List.length_cons] at hfuel
    obtain ⟨fuel, rfl⟩ : ∃ f, fuel = f + 2 := ⟨fuel - 2, by omega⟩
    have hnext := flowItems_next fuel t
      (items.flatMap (fun t => [.flowEntry, .scalar .plain t]) ++ [.flowSequenceEnd]) anchors handles
    rw [ih (fuel + 1) (by omega)] at hnext
    exact hnext

theorem document_flowTokens (hne : items ≠ []) (handles : List (Text × Text)) (fuel : Nat)
    (hfuel : items.length + 3 ≤ fuel) :
    document fuel ⟨flowTokens items, [], handles⟩ =
      some (.sequence ⟨none, none⟩ (items.map (.scalar ⟨none, none⟩ .plain)), ⟨[], [], handles⟩) := by
  obtain ⟨t, items, rfl⟩ := List.exists_cons_of_ne_nil hne
  rw [List.length_cons] at hfuel
  obtain ⟨fuel, rfl⟩ : ∃ f, fuel = f + 3 := ⟨fuel - 3, by omega⟩
  rw [flowTokens_cons, document_eq_node _ (by simp) (by simp) (by simp), node_flowSequence, flowItems_first,
    flowItems_rest items [] handles (fuel + 1) (by omega)]
  rfl

end NodeReader

/-- The node of a list. -/
theorem Node.ofText?_flowList (hne : items ≠ []) (h : ∀ t ∈ items, IsWord t) :
    Node.ofText? (flowList items) =
      some (some (.sequence ⟨none, none⟩ (items.map (.scalar ⟨none, none⟩ .plain)))) := by
  have hlength : (flowTokens items).isEmpty = false ∧ items.length ≤ (flowTokens items).length := by
    rw [flowTokens, List.length_append, List.length_cons, List.length_intersperse, List.length_map]
    exact ⟨rfl, by omega⟩
  rw [Node.ofText?, Token.ofText?_flowList hne h]
  simp only [Option.bind_eq_bind, Option.bind_some, hlength.1, Bool.false_eq_true, if_false]
  rw [NodeReader.document_flowTokens hne _ _ (by omega)]
  rfl

namespace Document

theorem mapM_plain (d : Document) (depth : Nat) (items : List Text) (n : Nat) :
    (items.map (Node.scalar ⟨none, none⟩ .plain)).mapM (d.data depth) n =
      (items.mapM plainData?).bind fun xs => some (xs, n) := by
  induction items with
  | nil => rfl
  | cons t items ih =>
    rw [List.map_cons, List.mapM_cons, List.mapM_cons]
    change ((d.data depth (.scalar ⟨none, none⟩ .plain t) n).bind fun r =>
      ((items.map (Node.scalar ⟨none, none⟩ .plain)).mapM (d.data depth) r.2).bind fun rs =>
        some (r.1 :: rs.1, rs.2)) = _
    rw [data_plain]
    cases plainData? t with
    | none => rfl
    | some x =>
      simp only [Option.bind_some, ih]
      cases items.mapM plainData? <;> rfl

end Document

/-- **A list of words is read as the sequence of what its words mean**, if every one of them means something. -/
theorem data?_flowList (hne : items ≠ []) (h : ∀ t ∈ items, IsWord t) :
    data? (flowList items) = (items.mapM plainData?).map .sequence := by
  rw [data?, Node.ofText?_flowList hne h]
  simp only [Option.bind_eq_bind, Option.bind_some, Document.depthLimit, Document.ofNode,
    Document.data_sequence, Document.mapM_plain]
  cases items.mapM plainData? <;> rfl

end ApiLinks.Yaml

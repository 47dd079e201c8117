import ApiLinks.Proofs.Template.Reading

/-!
# Templates put together

A template in two halves expands half by half, unless a span stands across the seam. Braces of other kinds
do no harm: what the first half leaves open is given up where the second one shows that no span ends there.

* `Straddles t u body` : a span begins in `t` and ends in `u`;
* `SafeSeam t u` : none does; `Settled.safeSeam`, `safeSeam_of_open` : two kinds of
  texts that make every seam safe;
* `IsReading.exists_append` : over a safe seam, readings are put together, with one
  literal piece for two that meet;
* `Template.expand_append`, `Template.expressions_append` : the halves of an expansion and of the expressions;
* `expand_eq_append_of_safeSeam` : the same, for any two texts.
-/

namespace ApiLinks

/-- The span of the body begins in `t` and ends in `u`. -/
def Straddles (t u body : Text) : Prop :=
  ∃ left right, left ≠ [] ∧ right ≠ [] ∧ braced body = left ++ right ∧ left <:+ t ∧ right <+: u

/-- No span stands across the seam of the two texts. -/
def SafeSeam (t u : Text) : Prop := ∀ body, IsBody body → ¬ Straddles t u body

variable {t u l m : Text}

theorem SafeSeam.mono (h : SafeSeam t u) (hl : l <:+ t) (hm : m <+: u) : SafeSeam l m := by
  rintro body hb ⟨left, right, hleft, hright, hspan, hlt, hru⟩
  exact h body hb ⟨left, right, hleft, hright, hspan, hlt.trans hl, hru.trans hm⟩

/-- Behind a text that leaves no brace open every seam is safe. -/
theorem Settled.safeSeam (h : Settled t) (u : Text) : SafeSeam t u := by
  rintro body hb ⟨left, right, hleft, hright, hspan, hlt, -⟩
  obtain ⟨c, left, rfl⟩ := List.exists_cons_of_ne_nil hleft
  obtain ⟨rfl, hbody⟩ : '{' = c ∧ body ++ ['}'] = left ++ right := by simpa [braced] using hspan
  -- the closing brace belongs to the right half, so that the left one is the start of the body
  obtain ⟨m, rfl, -⟩ : ∃ m, body = left ++ m ∧ right = m ++ ['}'] := by
    rcases List.append_eq_append_iff.mp hbody with ⟨m, hm, hr⟩ | ⟨m, hm, hr⟩
    · cases m with
      | nil => exact ⟨[], by simpa using hm.symm, by simpa using hr.symm⟩
      | cons d m =>
        have hnil : m ++ right = [] := (List.cons.inj hr).2.symm
        exact absurd (List.append_eq_nil_iff.mp hnil).2 hright
    · exact ⟨m, hm, hr⟩
  exact h left (fun hin => hb.no_open (List.mem_append_left m hin))
    (fun hin => hb.no_close (List.mem_append_left m hin)) hlt

/-- In front of a text that begins with an opening brace every seam is safe. -/
theorem safeSeam_of_open (t u : Text) : SafeSeam t ('{' :: u) := by
  rintro body hb ⟨left, right, hleft, hright, hspan, -, hru⟩
  obtain ⟨c, right, rfl⟩ := List.exists_cons_of_ne_nil hright
  obtain ⟨rfl, -⟩ := List.cons_prefix_cons.mp hru
  exact hleft (eq_nil_of_braced_eq_append hb hspan)

theorem SpanFree.append (ht : SpanFree t) (hu : SpanFree u) (h : SafeSeam t u) : SpanFree (t ++ u) := by
  intro body hb hi
  rcases List.infix_append_iff.mp hi with hi | hi | ⟨left, right, hspan, hlt, hru⟩
  · exact ht body hb hi
  · exact hu body hb hi
  · by_cases hleft : left = []
    · exact hu body hb (by rw [hspan, hleft, List.nil_append]; exact hru.isInfix)
    · by_cases hright : right = []
      · exact ht body hb (by rw [hspan, hright, List.append_nil]; exact hlt.isInfix)
      · exact h body hb ⟨left, right, hleft, hright, hspan, hlt, hru⟩

/-! ## Readings -/

namespace IsReading

variable {ps qs : List Piece}

theorem left (h : IsReading t (ps ++ qs)) : IsReading (ps.flatMap Piece.text) ps where
  text_eq := rfl
  literal_ne_nil x hx := h.literal_ne_nil x (List.mem_append_left qs hx)
  alternates := (List.isChain_append.mp h.alternates).1
  span x hx := h.span x (List.mem_append_left qs hx)
  spanFree x hx := h.spanFree x (List.mem_append_left qs hx)

/-- Of two neighbours one is a span. -/
theorem span_of_neighbours {p q : Piece} (h : IsReading t (ps ++ p :: q :: qs)) :
    p.expression?.isSome ∨ q.expression?.isSome :=
  ((List.isChain_append.mp h.alternates).2.1).rel

/-- Two literal pieces that meet are one piece. -/
theorem append_literal (hp : IsReading t (ps ++ [⟨l, none⟩])) (hq : IsReading u (⟨m, none⟩ :: qs))
    (h : SafeSeam t u) : IsReading (t ++ u) (ps ++ ⟨l ++ m, none⟩ :: qs) := by
  have ht : t = ps.flatMap Piece.text ++ l := by rw [← hp.text_eq]; simp
  have hu : u = m ++ qs.flatMap Piece.text := by rw [← hq.text_eq]; simp
  have hl : SpanFree l := hp.spanFree ⟨l, none⟩ (by simp) rfl
  have hm : SpanFree m := hq.spanFree ⟨m, none⟩ (by simp) rfl
  have hne : l ++ m ≠ [] := fun hn => hp.literal_ne_nil ⟨l, none⟩ (by simp) rfl (List.append_eq_nil_iff.mp hn).1
  have hseam : SafeSeam l m := h.mono (ht ▸ List.suffix_append _ l) (hu ▸ List.prefix_append m _)
  have hmiddle := of_literal (hl.append hm hseam) hne
  have hright : IsReading (l ++ m ++ qs.flatMap Piece.text) ([⟨l ++ m, none⟩] ++ qs) := by
    refine hmiddle.append hq.tail ?_
    rintro x hx y hy
    obtain rfl : (⟨l ++ m, none⟩ : Piece) = x := Option.some.inj hx
    obtain ⟨rest, rfl⟩ : ∃ rest, qs = y :: rest := List.head?_eq_some_iff.mp hy
    exact Or.inr ((span_of_neighbours
      (show IsReading u ([] ++ ⟨m, none⟩ :: y :: rest) from hq)).resolve_left Bool.false_ne_true)
  have hall := hp.left.append hright ?_
  · rwa [ht, hu, List.append_assoc, ← List.append_assoc l]
  · rintro x hx y hy
    obtain rfl : (⟨l ++ m, none⟩ : Piece) = y := Option.some.inj hy
    obtain ⟨rest, rfl⟩ : ∃ rest, ps = rest ++ [x] := List.getLast?_eq_some_iff.mp hx
    rw [List.append_assoc] at hp
    exact Or.inl ((span_of_neighbours
      (show IsReading t (rest ++ x :: ⟨l, none⟩ :: []) from hp)).resolve_right Bool.false_ne_true)

/-- Over a safe seam two readings make up one. What is read off the pieces is put together too, provided
that it does not tell two literal pieces from one. -/
theorem exists_append (hp : IsReading t ps) (hq : IsReading u qs) (h : SafeSeam t u) :
    ∃ rs, IsReading (t ++ u) rs ∧ ∀ (α : Type) (f : Piece → List α),
      (∀ l m, f ⟨l ++ m, none⟩ = f ⟨l, none⟩ ++ f ⟨m, none⟩) → rs.flatMap f = ps.flatMap f ++ qs.flatMap f := by
  by_cases hmeet : ∃ ps' qs' l m, ps = ps' ++ [⟨l, none⟩] ∧ qs = ⟨m, none⟩ :: qs'
  · obtain ⟨ps', qs', l, m, rfl, rfl⟩ := hmeet
    refine ⟨_, append_literal hp hq h, fun α f hf => ?_⟩
    simp only [List.flatMap_append, List.flatMap_cons, List.flatMap_nil, List.append_nil, hf, List.append_assoc]
  · refine ⟨ps ++ qs, hp.append hq ?_, fun α f _ => List.flatMap_append⟩
    rintro ⟨l, e?⟩ hx ⟨m, f?⟩ hy
    obtain ⟨ps', rfl⟩ := List.getLast?_eq_some_iff.mp hx
    obtain ⟨qs', rfl⟩ := List.head?_eq_some_iff.mp hy
    cases e? with
    | some e => exact Or.inl rfl
    | none =>
      cases f? with
      | some e => exact Or.inr rfl
      | none => exact absurd ⟨ps', qs', l, m, rfl, rfl⟩ hmeet

end IsReading

/-! ## Templates -/

/-- The text of a piece in an expansion. -/
def Piece.expand (b : Bindings) (p : Piece) : Text :=
  match p.expression? with
  | none => p.text
  | some e => e.expand b

namespace Template

theorem expand_eq_flatMap_pieces (t : Template) (b : Bindings) :
    t.expand b = t.pieces.flatMap (Piece.expand b) := by
  rw [t.expand_eq_flatMap, pieces, List.flatMap_map]
  rfl

theorem expressions_eq_flatMap_pieces (t : Template) :
    t.expressions = t.pieces.flatMap (·.expression?.toList) := by
  rw [pieces, List.flatMap_map, expressions, List.filterMap_eq_flatMap_toList]
  rfl

section Span

variable {body : Text} (hb : IsBody body)

include hb

theorem pieces_braced : (⟨braced body⟩ : Template).pieces = [⟨braced body, some (Expression.ofBody body)⟩] :=
  (isReading_pieces ⟨braced body⟩).unique (IsReading.of_span hb)

/-- A span alone expands to the expansion of its expression. -/
theorem expand_braced (b : Bindings) :
    (⟨braced body⟩ : Template).expand b = (Expression.ofBody body).expand b := by
  rw [expand_eq_flatMap_pieces, pieces_braced hb, List.flatMap_singleton]
  rfl

theorem expressions_braced : (⟨braced body⟩ : Template).expressions = [Expression.ofBody body] := by
  rw [expressions_eq_flatMap_pieces, pieces_braced hb]
  rfl

end Span

theorem flatMap_pieces_append (h : SafeSeam t u) {α : Type} {f : Piece → List α}
    (hf : ∀ l m, f ⟨l ++ m, none⟩ = f ⟨l, none⟩ ++ f ⟨m, none⟩) :
    (⟨t ++ u⟩ : Template).pieces.flatMap f =
      (⟨t⟩ : Template).pieces.flatMap f ++ (⟨u⟩ : Template).pieces.flatMap f := by
  obtain ⟨rs, hrs, hsplit⟩ := (isReading_pieces ⟨t⟩).exists_append (isReading_pieces ⟨u⟩) h
  rw [(isReading_pieces ⟨t ++ u⟩).unique hrs]
  exact hsplit α f hf

theorem expand_append (h : SafeSeam t u) (b : Bindings) :
    (⟨t ++ u⟩ : Template).expand b = (⟨t⟩ : Template).expand b ++ (⟨u⟩ : Template).expand b := by
  simp only [expand_eq_flatMap_pieces]
  exact flatMap_pieces_append h fun _ _ => rfl

theorem expressions_append (h : SafeSeam t u) :
    (⟨t ++ u⟩ : Template).expressions = (⟨t⟩ : Template).expressions ++ (⟨u⟩ : Template).expressions := by
  simp only [expressions_eq_flatMap_pieces]
  exact flatMap_pieces_append h fun _ _ => rfl

end Template

/-- **Over a safe seam a template expands half by half**, whatever braces stand in the halves and whether or
not they have expressions. The expressions are those of the first half and then those of the second one. -/
theorem expand_eq_append_of_safeSeam (t u : Text) (b : Bindings) (h : SafeSeam t u) :
    (⟨t ++ u⟩ : Template).expand b = (⟨t⟩ : Template).expand b ++ (⟨u⟩ : Template).expand b ∧
      (⟨t ++ u⟩ : Template).expressions = (⟨t⟩ : Template).expressions ++ (⟨u⟩ : Template).expressions :=
  ⟨Template.expand_append h b, Template.expressions_append h⟩

/-- A brace that is never closed stands in front of a span. -/
theorem expand_eq_append_of_safeSeam_unclosed :
    let b := Bindings.ofPairs [(['b'], .scalar ['x'])]
    SafeSeam ['/', '{', 'a'] ['{', 'b', '}', '}', '{'] ∧
      (⟨['/', '{', 'a', '{', 'b', '}', '}', '{']⟩ : Template).expand b = ['/', '{', 'a', 'x', '}', '{'] := by
  intro b
  have hseam : SafeSeam ['/', '{', 'a'] ['{', 'b', '}', '}', '{'] := safeSeam_of_open _ _
  have hfirst : (⟨['/', '{', 'a']⟩ : Template).expand b = ['/', '{', 'a'] := by decide
  have hsecond : (⟨['{', 'b', '}', '}', '{']⟩ : Template).expand b = ['x', '}', '{'] := by decide
  refine ⟨hseam, ?_⟩
  have hall := (expand_eq_append_of_safeSeam ['/', '{', 'a'] ['{', 'b', '}', '}', '{'] b hseam).1
  rw [hfirst, hsecond] at hall
  exact hall

end ApiLinks

import ApiLinks.Template.Basic
import Mathlib.Data.List.Chain

/-!
# Readings of a template

A reading cuts a text into literal pieces and spans and leaves no span inside a literal piece. A text has
one reading, and the pass over its characters finds it.

* `IsReading t pieces` : the pieces are a reading of the text `t`;
* `IsReading.unique` : two readings of a text are the same (`IsReading.head_eq` compares their first pieces);
* `IsReading.exists_index` : a span of the text is a piece of each of its readings;
* `Scan.run_literal`, `Scan.run_body` : characters that are no braces finish nothing;
* `Scan.Reads s t` : the state `s` of the pass after the text `t`, kept by every character (`Scan.Reads.step`);
* `Template.expand_eq_flatMap` : the expansion of a template is that of its parts in order;
* `pieces_eq_iff_isReading` : the pieces of a template are the reading of its
  text, and hold every span of it once.
-/

namespace ApiLinks

/-! ## Spans in a text -/

def isBrace (c : Char) : Bool := c == '{' || c == '}'

theorem isBrace_iff {c : Char} : isBrace c = true ↔ c = '{' ∨ c = '}' := by
  simp [isBrace]

theorem isBrace_eq_false_iff {c : Char} : isBrace c = false ↔ c ≠ '{' ∧ c ≠ '}' := by
  simp [isBrace]

theorem forall_isBrace_eq_false_iff {t : Text} : (∀ c ∈ t, isBrace c = false) ↔ '{' ∉ t ∧ '}' ∉ t := by
  constructor
  · intro h
    exact ⟨fun hin => (isBrace_eq_false_iff.mp (h _ hin)).1 rfl,
      fun hin => (isBrace_eq_false_iff.mp (h _ hin)).2 rfl⟩
  · rintro ⟨hopen, hclose⟩ c hc
    exact isBrace_eq_false_iff.mpr ⟨fun heq => hopen (heq ▸ hc), fun heq => hclose (heq ▸ hc)⟩

/-- What may stand between the braces of a span. -/
structure IsBody (body : Text) : Prop where
  ne_nil : body ≠ []
  no_open : '{' ∉ body
  no_close : '}' ∉ body

theorem IsBody.isBrace_eq_false {body : Text} (h : IsBody body) : ∀ c ∈ body, isBrace c = false :=
  forall_isBrace_eq_false_iff.mpr ⟨h.no_open, h.no_close⟩

/-- A body between its braces. -/
def braced (body : Text) : Text := '{' :: body ++ ['}']

/-- No span stands anywhere in the text. -/
def SpanFree (t : Text) : Prop := ∀ body, IsBody body → ¬ braced body <:+: t

/-- The last brace of the text, if there is one, does not open. -/
def Settled (t : Text) : Prop := ∀ body, '{' ∉ body → '}' ∉ body → ¬ ('{' :: body) <:+ t

theorem SpanFree.mono {t u : Text} (h : SpanFree u) (htu : t <:+: u) : SpanFree t :=
  fun body hb hi => h body hb (hi.trans htu)

theorem spanFree_nil : SpanFree [] := by
  intro body hb hi
  have := hi.length_le
  simp [braced] at this

/-- Only a closing brace behind an open body can complete a span. -/
theorem SpanFree.concat {t : Text} {c : Char} (h : SpanFree t)
    (hc : c = '}' → ∀ body, IsBody body → ¬ ('{' :: body) <:+ t) : SpanFree (t ++ [c]) := by
  intro body hb hi
  rcases List.infix_concat_iff.mp hi with hs | hs
  · rcases List.suffix_concat_iff.mp hs with hn | ⟨u, hu, hut⟩
    · simp [braced] at hn
    · obtain ⟨rfl, hc'⟩ := List.append_inj' (show ('{' :: body) ++ ['}'] = u ++ [c] from hu) rfl
      obtain rfl : '}' = c := by simpa using hc'
      exact hc rfl body hb hut
  · exact h body hb hs

theorem Settled.concat {t : Text} {c : Char} (h : Settled t) (hc : c ≠ '{') : Settled (t ++ [c]) := by
  intro body ho hcl hs
  rcases List.suffix_concat_iff.mp hs with hn | ⟨u, hu, hut⟩
  · simp at hn
  · cases u with
    | nil =>
      obtain ⟨rfl, -⟩ : '{' = c ∧ body = [] := by simpa using hu
      exact hc rfl
    | cons d u =>
      obtain ⟨rfl, rfl⟩ : '{' = d ∧ body = u ++ [c] := by simpa using hu
      exact h u (fun hm => ho (by simp [hm])) (fun hm => hcl (by simp [hm])) hut

/-- Behind a closing brace nothing is open. -/
theorem settled_concat_close (t : Text) : Settled (t ++ ['}']) := by
  intro body ho hcl hs
  rcases List.suffix_concat_iff.mp hs with hn | ⟨u, hu, -⟩
  · simp at hn
  · cases u with
    | nil => simp at hu
    | cons d u =>
      obtain ⟨-, rfl⟩ : '{' = d ∧ body = u ++ ['}'] := by simpa using hu
      exact hcl (by simp)

theorem settled_nil : Settled [] := by
  intro body _ _ hs
  simpa using hs.length_le

theorem braced_append_inj {b c r s : Text} (hb : IsBody b) (hc : IsBody c)
    (h : braced b ++ r = braced c ++ s) : b = c ∧ r = s := by
  have h' : b ++ '}' :: r = c ++ '}' :: s := by simpa [braced] using h
  rcases List.append_eq_append_iff.mp h' with ⟨m, hm, hr⟩ | ⟨m, hm, hr⟩
  · cases m with
    | nil => exact ⟨by simpa using hm.symm, by simpa using hr⟩
    | cons d m =>
      obtain ⟨rfl, -⟩ : '}' = d ∧ r = m ++ '}' :: s := by simpa using hr
      exact absurd (by simp [hm]) hc.no_close
  · cases m with
    | nil => exact ⟨by simpa using hm, by simpa using hr.symm⟩
    | cons d m =>
      obtain ⟨rfl, -⟩ : '}' = d ∧ s = m ++ '}' :: r := by simpa using hr
      exact absurd (by simp [hm]) hb.no_close

/-- An opening brace stands in a span only at its front. -/
theorem eq_nil_of_braced_eq_append {b l m : Text} (hb : IsBody b) (h : braced b = l ++ '{' :: m) : l = [] := by
  cases l with
  | nil => rfl
  | cons c l =>
    obtain ⟨-, h'⟩ : '{' = c ∧ b ++ ['}'] = l ++ '{' :: m := by simpa [braced] using h
    have hm : '{' ∈ b ++ ['}'] := by rw [h']; simp
    rw [List.mem_append] at hm
    rcases hm with hm | hm
    · exact absurd hm hb.no_open
    · simp at hm

/-- A literal text that a new span, or nothing, follows does not begin where a span does. -/
theorem SpanFree.append_ne_braced {l r b s : Text} (hl : SpanFree l) (hne : l ≠ [])
    (hr : r = [] ∨ ∃ r', r = '{' :: r') (hb : IsBody b) : l ++ r ≠ braced b ++ s := by
  intro h
  rcases List.append_eq_append_iff.mp h with ⟨m, hm, hrm⟩ | ⟨m, hm, -⟩
  · cases m with
    | nil =>
      have hlb : braced b = l := by rw [hm, List.append_nil]
      exact hl b hb (hlb ▸ List.infix_refl (braced b))
    | cons d m =>
      rcases hr with rfl | ⟨r', rfl⟩
      · simp at hrm
      · obtain ⟨rfl, -⟩ : '{' = d ∧ _ := by simpa using hrm
        exact hne (eq_nil_of_braced_eq_append hb hm)
  · exact hl b hb (hm ▸ (List.prefix_append (braced b) m).isInfix)

/-! ## Readings -/

/-- A part as its reader sees it: the text that it stands for and, of a span, the expression. -/
structure Piece where
  text : Text
  expression? : Option Expression
  deriving DecidableEq, Repr

/-- A cut of a text into literal pieces and spans: no literal piece is empty,
follows another one or hides a span. -/
structure IsReading (t : Text) (pieces : List Piece) : Prop where
  text_eq : pieces.flatMap Piece.text = t
  literal_ne_nil : ∀ p ∈ pieces, p.expression? = none → p.text ≠ []
  alternates : pieces.IsChain fun p q => p.expression?.isSome ∨ q.expression?.isSome
  span : ∀ p ∈ pieces, ∀ e, p.expression? = some e →
    ∃ body, IsBody body ∧ p.text = braced body ∧ e = Expression.ofBody body
  spanFree : ∀ p ∈ pieces, p.expression? = none → SpanFree p.text

namespace IsReading

variable {t : Text} {p q : Piece} {ps qs : List Piece}

theorem tail (h : IsReading t (p :: ps)) : IsReading (ps.flatMap Piece.text) ps where
  text_eq := rfl
  literal_ne_nil x hx := h.literal_ne_nil x (List.mem_cons_of_mem p hx)
  alternates := h.alternates.tail
  span x hx := h.span x (List.mem_cons_of_mem p hx)
  spanFree x hx := h.spanFree x (List.mem_cons_of_mem p hx)

theorem text_ne_nil (h : IsReading t ps) (hp : p ∈ ps) : p.text ≠ [] := by
  cases he : p.expression? with
  | none => exact h.literal_ne_nil p hp he
  | some e =>
    obtain ⟨body, -, ht, -⟩ := h.span p hp e he
    simp [ht, braced]

theorem span_after_literal (h : IsReading t (p :: q :: ps)) (hp : p.expression? = none) :
    ∃ body, IsBody body ∧ q.text = braced body := by
  have hq : p.expression?.isSome ∨ q.expression?.isSome := h.alternates.rel
  rw [hp, Option.isSome_none] at hq
  obtain ⟨e, he⟩ := Option.isSome_iff_exists.mp (hq.resolve_left (by decide))
  obtain ⟨body, hb, ht, -⟩ := h.span q (by simp) e he
  exact ⟨body, hb, ht⟩

/-- Behind a literal piece the text is over or a span begins. -/
theorem after_literal (h : IsReading t (p :: ps)) (hp : p.expression? = none) :
    ps.flatMap Piece.text = [] ∨ ∃ r, ps.flatMap Piece.text = '{' :: r := by
  cases ps with
  | nil => exact Or.inl rfl
  | cons q ps =>
    obtain ⟨body, -, ht⟩ := h.span_after_literal hp
    refine Or.inr ⟨body ++ '}' :: ps.flatMap Piece.text, ?_⟩
    rw [List.flatMap_cons, ht]
    simp [braced]

/-- A span cannot stand where a literal piece begins, nor inside it and over its end. -/
theorem literal_append_ne (h : IsReading t (p :: ps)) (hp : p.expression? = none) {l b s : Text}
    (hl : l <:+ p.text) (hne : l ≠ []) (hb : IsBody b) : l ++ ps.flatMap Piece.text ≠ braced b ++ s :=
  ((h.spanFree p (by simp) hp).mono hl.isInfix).append_ne_braced hne (h.after_literal hp) hb

/-- Of two literal pieces at the front of one text neither is longer. -/
theorem literal_not_longer (hp : IsReading t (p :: ps)) (hq : IsReading t (q :: qs))
    (hpn : p.expression? = none) (hqn : q.expression? = none) {m : Text} (hm : q.text = p.text ++ m)
    (hr : ps.flatMap Piece.text = m ++ qs.flatMap Piece.text) : m = [] := by
  by_contra hne
  cases ps with
  | nil => simp [hne] at hr
  | cons x ps =>
    obtain ⟨body, hb, ht⟩ := hp.span_after_literal hpn
    rw [List.flatMap_cons, ht] at hr
    exact hq.literal_append_ne hqn ⟨p.text, hm.symm⟩ hne hb hr.symm

theorem head_eq (hp : IsReading t (p :: ps)) (hq : IsReading t (q :: qs)) : p = q := by
  have h : p.text ++ ps.flatMap Piece.text = q.text ++ qs.flatMap Piece.text := by
    rw [← List.flatMap_cons, ← List.flatMap_cons, hp.text_eq, hq.text_eq]
  cases hpe : p.expression? with
  | none =>
    cases hqe : q.expression? with
    | none =>
      have ht : p.text = q.text := by
        rcases List.append_eq_append_iff.mp h with ⟨m, hm, hr⟩ | ⟨m, hm, hr⟩
        · rw [hm, literal_not_longer hp hq hpe hqe hm hr, List.append_nil]
        · rw [hm, literal_not_longer hq hp hqe hpe hm hr, List.append_nil]
      cases p; cases q; simp_all
    | some e =>
      obtain ⟨body, hb, ht, -⟩ := hq.span q (by simp) e hqe
      rw [ht] at h
      exact absurd h (hp.literal_append_ne hpe (List.suffix_refl _) (hp.text_ne_nil (by simp)) hb)
  | some e =>
    obtain ⟨body, hb, ht, rfl⟩ := hp.span p (by simp) e hpe
    cases hqe : q.expression? with
    | none =>
      rw [ht] at h
      exact absurd h.symm (hq.literal_append_ne hqe (List.suffix_refl _) (hq.text_ne_nil (by simp)) hb)
    | some f =>
      obtain ⟨body', hb', ht', rfl⟩ := hq.span q (by simp) f hqe
      rw [ht, ht'] at h
      obtain ⟨rfl, -⟩ := braced_append_inj hb hb' h
      cases p; cases q; simp_all

/-- **A text has at most one reading.** -/
theorem unique (hp : IsReading t ps) (hq : IsReading t qs) : ps = qs := by
  induction ps generalizing t qs with
  | nil =>
    cases qs with
    | nil => rfl
    | cons q qs =>
      have ht := hp.text_eq.trans hq.text_eq.symm
      rw [List.flatMap_nil, List.flatMap_cons, eq_comm, List.append_eq_nil_iff] at ht
      exact absurd ht.1 (hq.text_ne_nil (by simp))
  | cons p ps ih =>
    cases qs with
    | nil =>
      have ht := hp.text_eq.trans hq.text_eq.symm
      rw [List.flatMap_nil, List.flatMap_cons, List.append_eq_nil_iff] at ht
      exact absurd ht.1 (hp.text_ne_nil (by simp))
    | cons q qs =>
      obtain rfl := head_eq hp hq
      have ht := hp.text_eq.trans hq.text_eq.symm
      rw [List.flatMap_cons, List.flatMap_cons, List.append_cancel_left_eq] at ht
      rw [ih hp.tail (ht ▸ hq.tail)]

/-- A span that begins inside the first piece is the first piece. -/
theorem head_eq_span (h : IsReading t (p :: ps)) {before m body after : Text} (hb : IsBody body)
    (hm : p.text = before ++ m) (hne : m ≠ []) (hr : m ++ ps.flatMap Piece.text = braced body ++ after) :
    before = [] ∧ p = ⟨braced body, some (Expression.ofBody body)⟩ := by
  cases hp : p.expression? with
  | none => exact absurd hr (h.literal_append_ne hp ⟨before, hm.symm⟩ hne hb)
  | some e =>
    obtain ⟨body', hb', htp, rfl⟩ := h.span p (by simp) e hp
    obtain ⟨m', rfl⟩ : ∃ m', m = '{' :: m' := by
      cases m with
      | nil => exact absurd rfl hne
      | cons d m =>
        obtain ⟨rfl, -⟩ : d = '{' ∧ _ := by simpa [braced] using hr
        exact ⟨m, rfl⟩
    rw [htp] at hm
    obtain rfl := eq_nil_of_braced_eq_append hb' hm
    rw [List.nil_append] at hm
    rw [← hm] at hr
    obtain ⟨rfl, -⟩ := braced_append_inj hb' hb hr
    refine ⟨rfl, ?_⟩
    cases p
    simp_all

/-- A span that stands in the text is a piece of its reading, in the place where it stands. -/
theorem exists_index (h : IsReading t ps) {before body after : Text} (hb : IsBody body)
    (ht : t = before ++ (braced body ++ after)) :
    ∃ i, ps[i]? = some ⟨braced body, some (Expression.ofBody body)⟩ ∧
      (ps.take i).flatMap Piece.text = before := by
  induction ps generalizing t before with
  | nil =>
    have := h.text_eq.trans ht
    simp [braced] at this
  | cons p ps ih =>
    have hsplit := h.text_eq.trans ht
    rw [List.flatMap_cons] at hsplit
    rcases List.append_eq_append_iff.mp hsplit with ⟨m, hm, hr⟩ | ⟨m, hm, hr⟩
    · obtain ⟨i, hi, hti⟩ := ih h.tail hr
      exact ⟨i + 1, by simpa using hi, by rw [List.take_succ_cons, List.flatMap_cons, hti, hm]⟩
    · by_cases hmn : m = []
      · subst hmn
        have hr' : ps.flatMap Piece.text = [] ++ (braced body ++ after) := by simpa using hr.symm
        obtain ⟨i, hi, hti⟩ := ih h.tail hr'
        refine ⟨i + 1, by simpa using hi, ?_⟩
        rw [List.take_succ_cons, List.flatMap_cons, hti, hm, List.append_nil, List.append_nil]
      · obtain ⟨rfl, rfl⟩ := h.head_eq_span hb hm hmn hr.symm
        exact ⟨0, rfl, rfl⟩

/-- The texts of more pieces are longer. -/
theorem length_take_lt (h : IsReading t ps) {i j : Nat} (hij : i < j) (hi : i < ps.length) :
    ((ps.take i).flatMap Piece.text).length < ((ps.take j).flatMap Piece.text).length := by
  induction ps generalizing t i j with
  | nil => simp at hi
  | cons p ps ih =>
    have hp : 0 < p.text.length := List.length_pos_iff.mpr (h.text_ne_nil (by simp))
    cases j with
    | zero => omega
    | succ j =>
      rw [List.take_succ_cons, List.flatMap_cons, List.length_append]
      cases i with
      | zero =>
        rw [List.take_zero, List.flatMap_nil, List.length_nil]
        omega
      | succ i =>
        rw [List.take_succ_cons, List.flatMap_cons, List.length_append]
        have := ih h.tail (show i < j by omega) (by simpa using hi)
        omega

/-- Pieces in front of which the same text stands are one piece. -/
theorem index_unique (h : IsReading t ps) {i j : Nat} (hi : i < ps.length) (hj : j < ps.length)
    (hij : (ps.take i).flatMap Piece.text = (ps.take j).flatMap Piece.text) : i = j := by
  rcases Nat.lt_trichotomy i j with hlt | heq | hgt
  · have := h.length_take_lt hlt hi
    rw [hij] at this
    omega
  · exact heq
  · have := h.length_take_lt hgt hj
    rw [hij] at this
    omega

/-! ### Readings put together -/

theorem nil : IsReading [] [] := ⟨rfl, by simp, List.isChain_nil, by simp, by simp⟩

theorem of_span {body : Text} (hb : IsBody body) :
    IsReading (braced body) [⟨braced body, some (Expression.ofBody body)⟩] where
  text_eq := by simp
  literal_ne_nil x hx hxe := by
    obtain rfl := List.mem_singleton.mp hx
    cases hxe
  alternates := List.isChain_singleton _
  span x hx e he := by
    obtain rfl := List.mem_singleton.mp hx
    exact ⟨body, hb, rfl, by simpa using he.symm⟩
  spanFree x hx hxe := by
    obtain rfl := List.mem_singleton.mp hx
    cases hxe

theorem of_literal {l : Text} (hl : SpanFree l) (hne : l ≠ []) : IsReading l [⟨l, none⟩] where
  text_eq := by simp
  literal_ne_nil x hx _ := by
    obtain rfl := List.mem_singleton.mp hx
    exact hne
  alternates := List.isChain_singleton _
  span x hx e he := by
    obtain rfl := List.mem_singleton.mp hx
    cases he
  spanFree x hx _ := by
    obtain rfl := List.mem_singleton.mp hx
    exact hl

/-- Readings of two texts are a reading of both in a row, unless literal pieces meet. -/
theorem append {u : Text} (hp : IsReading t ps) (hq : IsReading u qs)
    (hseam : ∀ x ∈ ps.getLast?, ∀ y ∈ qs.head?, x.expression?.isSome ∨ y.expression?.isSome) :
    IsReading (t ++ u) (ps ++ qs) where
  text_eq := by rw [List.flatMap_append, hp.text_eq, hq.text_eq]
  literal_ne_nil x hx := (List.mem_append.mp hx).elim (hp.literal_ne_nil x) (hq.literal_ne_nil x)
  alternates := List.isChain_append.mpr ⟨hp.alternates, hq.alternates, hseam⟩
  span x hx := (List.mem_append.mp hx).elim (hp.span x) (hq.span x)
  spanFree x hx := (List.mem_append.mp hx).elim (hp.spanFree x) (hq.spanFree x)

end IsReading

/-! ## The pass over the characters -/

/-- The piece that a part is. -/
def Part.piece (p : Part) : Piece := ⟨p.text, p.expression?⟩

/-- The pieces of a template in order. -/
def Template.pieces (t : Template) : List Piece := t.parts.map Part.piece

@[simp] theorem Part.piece_span (body : Text) :
    (Part.span body).piece = ⟨braced body, some (Expression.ofBody body)⟩ := rfl

namespace Scan

/-- The open brace and the body behind it, if a span may have begun. -/
def opened (s : Scan) : Text :=
  match s.body? with
  | none => []
  | some body => '{' :: body.reverse

/-- The text that no finished part holds. -/
def pending (s : Scan) : Text := s.literal.reverse ++ s.opened

/-- The pieces that are finished. -/
def done (s : Scan) : List Piece := s.parts.reverse.map Part.piece

theorem pending_of_none {s : Scan} (hb : s.body? = none) : s.pending = s.literal.reverse := by
  rw [pending, opened, hb, List.append_nil]

theorem pending_of_some {s : Scan} {body : Text} (hb : s.body? = some body) :
    s.pending = s.literal.reverse ++ '{' :: body.reverse := by
  rw [pending, opened, hb]

/-! ### What one character does -/

theorem run_concat (s : Scan) (t : Text) (c : Char) : s.run (t ++ [c]) = (s.run t).step c := s.run_append t [c]

theorem step_open (s : Scan) : s.step '{' = ⟨s.parts, s.pending.reverse, some []⟩ := by
  unfold step
  cases hb : s.body? with
  | none => simp [pending_of_none hb]
  | some body => simp [pending_of_some hb]

theorem step_literal {s : Scan} {c : Char} (hb : s.body? = none) (hc : c ≠ '{') :
    s.step c = ⟨s.parts, c :: s.literal, none⟩ := by
  simp [step, hb, hc]

theorem step_body {s : Scan} {c : Char} {body : Text} (hb : s.body? = some body) (ho : c ≠ '{') (hc : c ≠ '}') :
    s.step c = ⟨s.parts, s.literal, some (c :: body)⟩ := by
  simp [step, hb, ho, hc]

theorem step_empty {s : Scan} (hb : s.body? = some []) :
    s.step '}' = ⟨s.parts, '}' :: '{' :: s.literal, none⟩ := by
  simp [step, hb]

theorem step_close {s : Scan} {body : Text} (hb : s.body? = some body) (hne : body ≠ []) :
    s.step '}' = ⟨.span body.reverse :: flush s.parts s.literal, [], none⟩ := by
  simp [step, hb, hne]

theorem reverse_flush (parts : List Part) (literal : Text) :
    (flush parts literal).reverse = parts.reverse ++ Part.literal? literal.reverse := by
  rw [flush, List.reverse_append, Part.literal?]
  split <;> rfl

theorem done_close {s : Scan} {body : Text} (hb : s.body? = some body) (hne : body ≠ []) :
    (s.step '}').done = s.done ++ (Part.literal? s.literal.reverse).map Part.piece ++
      [(Part.span body.reverse).piece] := by
  rw [step_close hb hne]
  simp only [done, List.reverse_cons, reverse_flush, List.map_append, List.map_cons, List.map_nil]

theorem finish_eq (s : Scan) : s.finish = s.parts.reverse ++ Part.literal? s.pending := by
  unfold finish
  cases hb : s.body? with
  | none => rw [pending_of_none hb, ← reverse_flush]
  | some body =>
    rw [pending_of_some hb,
      show s.literal.reverse ++ '{' :: body.reverse = (body ++ '{' :: s.literal).reverse by simp,
      ← reverse_flush]

/-! ### What characters without braces do -/

theorem run_literal {s : Scan} (hb : s.body? = none) {gap : Text} (hgap : '{' ∉ gap) :
    s.run gap = ⟨s.parts, gap.reverse ++ s.literal, none⟩ := by
  induction gap generalizing s with
  | nil =>
    obtain ⟨parts, literal, body?⟩ := s
    obtain rfl : body? = none := hb
    rfl
  | cons c gap ih =>
    obtain ⟨hc, hgap⟩ : '{' ≠ c ∧ '{' ∉ gap := by simpa using hgap
    show (s.step c).run gap = _
    rw [step_literal hb hc.symm, ih rfl hgap, List.reverse_cons, List.append_assoc]
    rfl

theorem run_body {s : Scan} {body u : Text} (hb : s.body? = some body) (hu : ∀ c ∈ u, isBrace c = false) :
    s.run u = ⟨s.parts, s.literal, some (u.reverse ++ body)⟩ := by
  induction u generalizing s body with
  | nil =>
    obtain ⟨parts, literal, body?⟩ := s
    obtain rfl : body? = some body := hb
    rfl
  | cons c u ih =>
    obtain ⟨hc, hu⟩ := List.forall_mem_cons.mp hu
    obtain ⟨ho, hcl⟩ := isBrace_eq_false_iff.mp hc
    show (s.step c).run u = _
    rw [step_body hb ho hcl, ih rfl hu, List.reverse_cons, List.append_assoc]
    rfl

/-! ### What the pass knows -/

/-- The state of a pass that has read `t`. -/
structure Reads (s : Scan) (t : Text) : Prop where
  text_eq : s.done.flatMap Piece.text ++ s.pending = t
  reading : IsReading (s.done.flatMap Piece.text) s.done
  ends_in_span : ∀ p ∈ s.done.getLast?, p.expression?.isSome
  spanFree : SpanFree s.pending
  settled : s.body? = none → Settled s.pending
  body_free : ∀ body, s.body? = some body → '{' ∉ body ∧ '}' ∉ body

theorem reads_start : start.Reads [] where
  text_eq := rfl
  reading := IsReading.nil
  ends_in_span := by simp [done, start]
  spanFree := spanFree_nil
  settled _ := settled_nil
  body_free := by simp [start]

namespace Reads

variable {s : Scan} {t : Text}

/-- Behind finished parts the pending text is one more literal piece, unless it is empty. -/
theorem reading_append (h : s.Reads t) {l : Text} (hl : SpanFree l) :
    IsReading (s.done.flatMap Piece.text ++ l) (s.done ++ (Part.literal? l).map Part.piece) := by
  cases l with
  | nil => simpa [Part.literal?] using h.reading
  | cons c l =>
    refine h.reading.append (IsReading.of_literal hl (by simp)) ?_
    intro x hx _ _
    exact Or.inl (h.ends_in_span x hx)

/-- A character that completes no span joins the pending text. -/
theorem extend (h : s.Reads t) {literal : Text} {body? : Option Text} {c : Char}
    (hpending : (⟨s.parts, literal, body?⟩ : Scan).pending = s.pending ++ [c])
    (hc : c = '}' → ∀ body, IsBody body → ¬ ('{' :: body) <:+ s.pending)
    (hsettled : body? = none → Settled (s.pending ++ [c]))
    (hbody : ∀ body, body? = some body → '{' ∉ body ∧ '}' ∉ body) :
    (⟨s.parts, literal, body?⟩ : Scan).Reads (t ++ [c]) where
  text_eq := by rw [hpending, ← List.append_assoc, ← h.text_eq]; rfl
  reading := h.reading
  ends_in_span := h.ends_in_span
  spanFree := by rw [hpending]; exact h.spanFree.concat hc
  settled hn := by rw [hpending]; exact hsettled hn
  body_free := hbody

theorem step_open (h : s.Reads t) : (s.step '{').Reads (t ++ ['{']) := by
  rw [Scan.step_open]
  exact h.extend (by simp [pending, opened]) (by simp) (by simp) (by simp)

theorem step_literal (h : s.Reads t) (hb : s.body? = none) {c : Char} (hc : c ≠ '{') :
    (s.step c).Reads (t ++ [c]) := by
  rw [Scan.step_literal hb hc]
  refine h.extend ?_ ?_ ?_ (by simp)
  · rw [pending_of_none hb, pending_of_none rfl, List.reverse_cons]
  · intro _ body hbody hs
    exact h.settled hb body hbody.no_open hbody.no_close hs
  · intro _
    exact (h.settled hb).concat hc

theorem step_body (h : s.Reads t) {body : Text} (hb : s.body? = some body) {c : Char} (ho : c ≠ '{')
    (hc : c ≠ '}') : (s.step c).Reads (t ++ [c]) := by
  obtain ⟨hbo, hbc⟩ := h.body_free body hb
  rw [Scan.step_body hb ho hc]
  refine h.extend ?_ (fun hcc => absurd hcc hc) (by simp) ?_
  · rw [pending_of_some hb, pending_of_some rfl, List.reverse_cons]
    simp
  · intro b hbb
    obtain rfl := by simpa using hbb.symm
    exact ⟨by simp [hbo, Ne.symm ho], by simp [hbc, Ne.symm hc]⟩

/-- Braces with nothing between them are literal. -/
theorem step_empty (h : s.Reads t) (hb : s.body? = some []) : (s.step '}').Reads (t ++ ['}']) := by
  have hpending : s.pending = s.literal.reverse ++ ['{'] := pending_of_some hb
  rw [Scan.step_empty hb]
  refine h.extend ?_ ?_ (fun _ => settled_concat_close _) (by simp)
  · rw [hpending, pending_of_none rfl]
    simp
  · intro _ body hbody hs
    rw [hpending] at hs
    rcases List.suffix_concat_iff.mp hs with hn | ⟨u, hu, -⟩
    · simp at hn
    · cases u with
      | nil => exact hbody.ne_nil (by simpa using hu)
      | cons d u =>
        obtain ⟨-, rfl⟩ : '{' = d ∧ body = u ++ ['{'] := by simpa using hu
        exact hbody.no_open (by simp)

/-- A closing brace behind a body ends a span. -/
theorem step_close (h : s.Reads t) {body : Text} (hb : s.body? = some body) (hne : body ≠ []) :
    (s.step '}').Reads (t ++ ['}']) := by
  obtain ⟨ho, hc⟩ := h.body_free body hb
  have hbody : IsBody body.reverse := ⟨by simpa using hne, by simpa using ho, by simpa using hc⟩
  have hlit : SpanFree s.literal.reverse :=
    h.spanFree.mono (by rw [pending]; exact (List.prefix_append _ _).isInfix)
  have hr := (h.reading_append hlit).append (IsReading.of_span hbody) (fun _ _ y hy => by
    obtain rfl := by simpa using hy
    exact Or.inr rfl)
  have hdone := done_close hb hne
  rw [Scan.step_close hb hne] at hdone ⊢
  refine ⟨?_, ?_, ?_, spanFree_nil, fun _ => settled_nil, by simp⟩
  · rw [hdone, Part.piece_span, hr.text_eq, pending_of_none rfl, ← h.text_eq, pending_of_some hb]
    simp [braced]
  · rw [hdone, Part.piece_span, hr.text_eq]
    exact hr
  · rw [hdone]
    simp

/-- **Every character keeps what the pass knows.** -/
theorem step (h : s.Reads t) (c : Char) : (s.step c).Reads (t ++ [c]) := by
  by_cases ho : c = '{'
  · rw [ho]
    exact h.step_open
  · cases hb : s.body? with
    | none => exact h.step_literal hb ho
    | some body =>
      by_cases hc : c = '}'
      · rw [hc]
        by_cases hne : body = []
        · exact h.step_empty (hne ▸ hb)
        · exact h.step_close hb hne
      · exact h.step_body hb ho hc

theorem run (h : s.Reads t) (u : Text) : (s.run u).Reads (t ++ u) := by
  induction u generalizing s t with
  | nil => simpa [Scan.run] using h
  | cons c u ih =>
    have := ih (h.step c)
    rwa [List.append_assoc, List.singleton_append] at this

theorem finish (h : s.Reads t) : IsReading t (s.finish.map Part.piece) := by
  rw [finish_eq, List.map_append, ← h.text_eq]
  exact h.reading_append h.spanFree

end Reads

/-- The finished pieces and what is pending behind them are what was read. -/
theorem flatMap_text_done_append (t : Text) :
    (start.run t).done.flatMap Piece.text ++ (start.run t).pending = t := (reads_start.run t).text_eq

end Scan

/-! ## The pieces of a template -/

theorem Template.isReading_pieces (t : Template) : IsReading t.text t.pieces := by
  have h := (Scan.reads_start.run t.text).finish
  rwa [List.nil_append] at h

theorem Template.flatMap_text_parts (t : Template) : t.parts.flatMap Part.text = t.text := by
  have h := t.isReading_pieces.text_eq
  rwa [pieces, List.flatMap_map] at h

theorem Template.isBody_of_mem_parts {t : Template} {body : Text} (h : .span body ∈ t.parts) : IsBody body := by
  obtain ⟨body', hb, htext, -⟩ := t.isReading_pieces.span _ (List.mem_map_of_mem h) _ rfl
  have hbraced : braced body = braced body' := htext
  have heq : body = body' := by simpa [braced] using hbraced
  exact heq ▸ hb

theorem Template.flatMap_expandPart_of_no_span {t : Template}
    (h : ∀ body, .span body ∉ t.parts) (b : Bindings) :
    t.parts.flatMap (expandPart b) = t.text := by
  rw [← t.flatMap_text_parts]
  refine List.flatMap_congr fun p hp => ?_
  cases p with
  | literal text => rfl
  | span body => exact absurd hp (h body)

/-- A template expands part by part, with expressions or without. -/
theorem Template.expand_eq_flatMap (t : Template) (b : Bindings) :
    t.expand b = t.parts.flatMap (expandPart b) := by
  unfold expand
  split
  · rename_i hnone
    refine (flatMap_expandPart_of_no_span (fun body hp => ?_) b).symm
    have hin : Expression.ofBody body ∈ t.expressions := List.mem_filterMap.mpr ⟨.span body, hp, rfl⟩
    rw [List.isEmpty_iff.mp hnone] at hin
    cases hin
  · rfl

/-- **The pieces of a template are the one reading of its text**, and a span that stands anywhere in the
text is one of them, once and in its place. -/
theorem pieces_eq_iff_isReading (t : Template) :
    (∀ pieces, t.pieces = pieces ↔ IsReading t.text pieces) ∧
      ∀ before body after, IsBody body → t.text = before ++ (braced body ++ after) →
        ∃! i, t.pieces[i]? = some ⟨braced body, some (Expression.ofBody body)⟩ ∧
          (t.pieces.take i).flatMap Piece.text = before := by
  have h := t.isReading_pieces
  refine ⟨fun pieces => ⟨fun heq => heq ▸ h, fun hp => h.unique hp⟩, ?_⟩
  intro before body after hb ht
  obtain ⟨i, hi, hti⟩ := h.exists_index hb ht
  refine ⟨i, ⟨hi, hti⟩, ?_⟩
  rintro j ⟨hj, htj⟩
  have hlen {k : Nat} {p : Piece} (hk : t.pieces[k]? = some p) : k < t.pieces.length :=
    (List.getElem?_eq_some_iff.mp hk).1
  exact h.index_unique (hlen hj) (hlen hi) (htj.trans hti.symm)

/-- Behind a stray and an empty pair of braces the span is found. -/
theorem pieces_eq_iff_isReading_stray :
    IsBody ['a'] ∧ ∃! i, (⟨['{', '{', '}', '{', 'a', '}', 'b']⟩ : Template).pieces[i]? =
        some ⟨braced ['a'], some (Expression.ofBody ['a'])⟩ ∧
      ((⟨['{', '{', '}', '{', 'a', '}', 'b']⟩ : Template).pieces.take i).flatMap Piece.text =
        ['{', '{', '}'] := by
  have hb : IsBody ['a'] := ⟨by decide, by decide, by decide⟩
  exact ⟨hb, (pieces_eq_iff_isReading _).2 ['{', '{', '}'] ['a'] ['b'] hb rfl⟩

end ApiLinks

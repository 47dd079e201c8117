import ApiLinks.Proofs.Expansion.Vanishing

/-!
# Expressions in two halves

The variables of an expression can be split over two expressions side by side, where the lead of the second
one is what separates its contributions from those of the first: the operator itself, or the continuation
behind a query. Each half shows or hides its lead by its own contributions, so that a half must not expand
to nothing when it contributes. Names see to that; without names it is a condition.

* `Varspec.Contributes b vs` : some variable is bound to something other than an empty composite;
* `Operator.Continues next op` : the lead of `next` is what separates contributions under `op`;
* `Operator.led_joined_append` : two lists of contributions behind two leads;
* `Expression.expand_append_of_continues`, `Expression.expand_append_self` : two halves of which
  neither hides its contributions;
* `Expression.expand_ne_nil_of_expand_append` : where one of two halves that
  contribute hides them, a lead is missing;
* `expand_split` : the operators for which the halves may be taken apart, and when.
-/

namespace ApiLinks

/-- Some variable is bound to something other than an empty composite. -/
def Varspec.Contributes (b : Bindings) (vs : List Varspec) : Prop := ∃ v ∈ vs, ¬ v.IsIdle b

namespace Operator

/-- The contributions under `next` go on where those under `op` stop: both write names or neither does, and
the lead and the separator of the one are the separator of the other. -/
structure Continues (next op : Operator) : Prop where
  isNamed : next.isNamed = op.isNamed
  separator : next.separator = op.separator
  lead : next.lead = op.separator

theorem continues_self {op : Operator} (h : op ∈ [label, pathSegment, pathParameter, queryContinuation]) :
    op.Continues op := by
  simp only [List.mem_cons, List.not_mem_nil, or_false] at h
  rcases h with rfl | rfl | rfl | rfl <;> exact ⟨rfl, rfl, rfl⟩

theorem continues_query : queryContinuation.Continues query := ⟨rfl, rfl, rfl⟩

theorem led_joined_append {next op : Operator} (h : next.Continues op) {xs ys : List Text}
    (hx : Text.joined op.separator xs ≠ []) (hy : ys ≠ [] → Text.joined op.separator ys ≠ []) :
    op.led (Text.joined op.separator (xs ++ ys)) =
      op.led (Text.joined op.separator xs) ++ next.led (Text.joined next.separator ys) := by
  have hxs : xs ≠ [] := by
    rintro rfl
    exact hx rfl
  rw [h.separator]
  by_cases hys : ys = []
  · subst hys
    rw [List.append_nil]
    exact (List.append_nil _).symm
  · have hboth : Text.joined op.separator (xs ++ ys) ≠ [] := by
      rw [Text.joined_append hxs hys]
      simp [hx]
    rw [op.led_of_ne_nil hboth, op.led_of_ne_nil hx, next.led_of_ne_nil (hy hys),
      Text.joined_append hxs hys, h.lead]
    simp only [List.append_assoc]

end Operator

/-! ## The halves -/

namespace Expression

variable {op next : Operator} {vs ws : List Varspec} {b : Bindings}

theorem contributions_append (op : Operator) (vs ws : List Varspec) (b : Bindings) :
    (⟨op, vs ++ ws⟩ : Expression).contributions b =
      (⟨op, vs⟩ : Expression).contributions b ++ (⟨op, ws⟩ : Expression).contributions b := List.flatMap_append

/-- A contribution depends on the operator by the word whether it writes names,
and on its separator not at all. -/
theorem contributions_congr (h : next.isNamed = op.isNamed) (ws : List Varspec) (b : Bindings) :
    (⟨next, ws⟩ : Expression).contributions b = (⟨op, ws⟩ : Expression).contributions b := by
  have hlabelled : Varspec.labelled next = Varspec.labelled op := by
    funext name t
    unfold Varspec.labelled
    rw [h]
  unfold contributions
  refine List.flatMap_congr fun v _ => ?_
  unfold Varspec.sharesIn
  cases b.get? v.name with
  | none => rfl
  | some value =>
    cases value <;> cases hm : v.modifier <;> simp only [Varspec.shares, Varspec.whole, hm, hlabelled]

theorem contributions_ne_nil_iff : (⟨op, vs⟩ : Expression).contributions b ≠ [] ↔ Varspec.Contributes b vs := by
  unfold Varspec.Contributes
  rw [Ne, contributions_eq_nil_iff]
  push Not
  rfl

theorem contributions_of_not_contributes (h : ¬ Varspec.Contributes b vs) :
    (⟨op, vs⟩ : Expression).contributions b = [] :=
  not_not.mp (mt contributions_ne_nil_iff.mp h)

theorem expand_ne_nil_of_isNamed (hop : op.isNamed = true) (h : Varspec.Contributes b vs) :
    (⟨op, vs⟩ : Expression).expand b ≠ [] := by
  obtain ⟨v, hv, hidle⟩ := h
  rw [Ne, expand_eq_nil_iff_of_isNamed hop]
  exact fun hall => hidle (hall v hv)

/-- A half that contributes nothing might as well not be there. -/
theorem expand_append_of_not_contributes (h : ¬ Varspec.Contributes b vs) :
    (⟨op, vs ++ ws⟩ : Expression).expand b = (⟨op, ws⟩ : Expression).expand b := by
  rw [expand_eq_led, expand_eq_led, contributions_append, contributions_of_not_contributes h, List.nil_append]

theorem expand_append_of_continues (h : next.Continues op) (hvs : (⟨op, vs⟩ : Expression).expand b ≠ [])
    (hws : Varspec.Contributes b ws → (⟨next, ws⟩ : Expression).expand b ≠ []) :
    (⟨op, vs ++ ws⟩ : Expression).expand b =
      (⟨op, vs⟩ : Expression).expand b ++ (⟨next, ws⟩ : Expression).expand b := by
  rw [expand_eq_led, Ne, Operator.led_eq_nil_iff] at hvs
  simp only [expand_eq_led, Ne, Operator.led_eq_nil_iff, contributions_congr h.isNamed, h.separator] at hws ⊢
  rw [contributions_append]
  have hsplit := Operator.led_joined_append h hvs fun hne => hws (contributions_ne_nil_iff.mp hne)
  rwa [h.separator] at hsplit

/-- The halves may be taken apart if neither hides its contributions. -/
theorem expand_append_self (h : op.Continues op)
    (hvs : Varspec.Contributes b vs → (⟨op, vs⟩ : Expression).expand b ≠ [])
    (hws : Varspec.Contributes b ws → (⟨op, ws⟩ : Expression).expand b ≠ []) :
    (⟨op, vs ++ ws⟩ : Expression).expand b =
      (⟨op, vs⟩ : Expression).expand b ++ (⟨op, ws⟩ : Expression).expand b := by
  by_cases hcontributes : Varspec.Contributes b vs
  · exact expand_append_of_continues h (hvs hcontributes) hws
  · have hnone : (⟨op, vs⟩ : Expression).expand b = [] :=
      expand_eq_nil_iff.mpr (Or.inl (contributions_of_not_contributes hcontributes))
    rw [expand_append_of_not_contributes hcontributes, hnone, List.nil_append]

/-- The expression as a whole has a separator that a half without a lead does not make up for. -/
theorem expand_ne_nil_of_expand_append (h : op.Continues op) (hvs : Varspec.Contributes b vs)
    (hws : Varspec.Contributes b ws)
    (heq : (⟨op, vs ++ ws⟩ : Expression).expand b =
      (⟨op, vs⟩ : Expression).expand b ++ (⟨op, ws⟩ : Expression).expand b) :
    (⟨op, vs⟩ : Expression).expand b ≠ [] ∧ (⟨op, ws⟩ : Expression).expand b ≠ [] := by
  have hvs' : (⟨op, vs⟩ : Expression).contributions b ≠ [] := contributions_ne_nil_iff.mpr hvs
  have hws' : (⟨op, ws⟩ : Expression).contributions b ≠ [] := contributions_ne_nil_iff.mpr hws
  simp only [expand_eq_led, contributions_append, Text.joined_append hvs' hws', Ne,
    Operator.led_eq_nil_iff] at heq ⊢
  generalize Text.joined op.separator ((⟨op, vs⟩ : Expression).contributions b) = x at heq ⊢
  generalize Text.joined op.separator ((⟨op, ws⟩ : Expression).contributions b) = y at heq ⊢
  -- counted, the two halves come to less than the whole unless both have their lead
  have hsep : 0 < op.separator.length := List.length_pos_iff.mpr op.separator_ne_nil
  have hlength : op.lead.length + (x.length + op.separator.length + y.length) =
      (op.led x).length + (op.led y).length := by
    rw [op.led_of_ne_nil (by simp [op.separator_ne_nil])] at heq
    simpa only [List.length_append] using congrArg List.length heq
  have hxle := op.length_led_le x
  have hyle := op.length_led_le y
  rw [← h.lead] at hsep hlength
  constructor
  · rintro rfl
    rw [Operator.led_nil, List.length_nil] at hlength
    omega
  · rintro rfl
    rw [Operator.led_nil, List.length_nil] at hlength
    omega

end Expression

/-- **Which expressions split in two, and where.** Under the operators of path parameters and of query
continuations every split does. A query goes on as a continuation once something stands in front, and else
starts with the second half. Segments of paths and labels split wherever no half that contributes expands to
nothing, and, if both contribute, nowhere else. -/
theorem expand_split (vs ws : List Varspec) (b : Bindings) :
    (∀ op, op = .pathParameter ∨ op = .queryContinuation →
      (⟨op, vs ++ ws⟩ : Expression).expand b =
        (⟨op, vs⟩ : Expression).expand b ++ (⟨op, ws⟩ : Expression).expand b) ∧
    (Varspec.Contributes b vs → (⟨.query, vs ++ ws⟩ : Expression).expand b =
      (⟨.query, vs⟩ : Expression).expand b ++ (⟨.queryContinuation, ws⟩ : Expression).expand b) ∧
    (¬ Varspec.Contributes b vs →
      (⟨.query, vs ++ ws⟩ : Expression).expand b = (⟨.query, ws⟩ : Expression).expand b) ∧
    ∀ op, op = .pathSegment ∨ op = .label →
      ((Varspec.Contributes b vs → (⟨op, vs⟩ : Expression).expand b ≠ []) →
        (Varspec.Contributes b ws → (⟨op, ws⟩ : Expression).expand b ≠ []) →
          (⟨op, vs ++ ws⟩ : Expression).expand b =
            (⟨op, vs⟩ : Expression).expand b ++ (⟨op, ws⟩ : Expression).expand b) ∧
      (Varspec.Contributes b vs → Varspec.Contributes b ws →
        (⟨op, vs ++ ws⟩ : Expression).expand b =
            (⟨op, vs⟩ : Expression).expand b ++ (⟨op, ws⟩ : Expression).expand b →
          (⟨op, vs⟩ : Expression).expand b ≠ [] ∧ (⟨op, ws⟩ : Expression).expand b ≠ []) := by
  refine ⟨fun op hop => ?_, fun hvs => ?_, Expression.expand_append_of_not_contributes, fun op hop => ?_⟩
  · have hnamed : op.isNamed = true := by rcases hop with rfl | rfl <;> rfl
    have hcontinues : op.Continues op := Operator.continues_self (by rcases hop with rfl | rfl <;> decide)
    exact Expression.expand_append_self hcontinues (Expression.expand_ne_nil_of_isNamed hnamed)
      (Expression.expand_ne_nil_of_isNamed hnamed)
  · exact Expression.expand_append_of_continues Operator.continues_query
      (Expression.expand_ne_nil_of_isNamed rfl hvs) (Expression.expand_ne_nil_of_isNamed rfl)
  · have hcontinues : op.Continues op := Operator.continues_self (by rcases hop with rfl | rfl <;> decide)
    exact ⟨Expression.expand_append_self hcontinues, Expression.expand_ne_nil_of_expand_append hcontinues⟩

/-- An empty value contributes; under a name it leaves a trace, and as a segment alone it loses its slash. -/
theorem expand_split_empty :
    let a : Varspec := ⟨['a'], .plain⟩
    let c : Varspec := ⟨['c'], .plain⟩
    let b := Bindings.ofPairs [(['a'], .scalar []), (['c'], .scalar ['x'])]
    Varspec.Contributes b [a] ∧ Varspec.Contributes b [c] ∧
      (⟨.query, [a] ++ [c]⟩ : Expression).expand b = ['?', 'a', '='] ++ ['&', 'c', '=', 'x'] ∧
      (⟨.pathSegment, [c] ++ [c, a]⟩ : Expression).expand b = ['/', 'x'] ++ ['/', 'x', '/'] ∧
      (⟨.pathSegment, [a] ++ [c]⟩ : Expression).expand b ≠
        (⟨.pathSegment, [a]⟩ : Expression).expand b ++ (⟨.pathSegment, [c]⟩ : Expression).expand b := by
  intro a c b
  have ha : Varspec.Contributes b [a] := ⟨a, List.mem_singleton_self a, by unfold Varspec.IsIdle; decide⟩
  have hc : Varspec.Contributes b [c] := ⟨c, List.mem_singleton_self c, by unfold Varspec.IsIdle; decide⟩
  have hempty : (⟨.pathSegment, [a]⟩ : Expression).expand b = [] := by decide
  refine ⟨ha, hc, ?_, ?_, fun heq => ?_⟩
  · exact (expand_split [a] [c] b).2.1 ha
  · exact ((expand_split [c] [c, a] b).2.2.2 .pathSegment (Or.inl rfl)).1 (fun _ => by decide)
      fun _ => by decide
  · exact (((expand_split [a] [c] b).2.2.2 .pathSegment (Or.inl rfl)).2 ha hc heq).1 hempty

end ApiLinks

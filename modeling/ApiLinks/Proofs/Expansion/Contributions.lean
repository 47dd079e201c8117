import ApiLinks.Template.Expansion
import ApiLinks.Proofs.Text.Joined
import Mathlib.Data.List.Forall2

/-!
# The contributions of an expression

An expression expands to one list of contributions over all its variables, joined
once, behind the operator's lead.

* `Varspec.shares op v value` : what a variable adds to the list, for each shape of its value and each modifier;
* `Expression.contributions e b` : the list, over all variables in order;
* `Expression.expand_eq` : the expansion joins the list once;
* `Operator.led op text`, `Expression.expand_eq_led` : a text behind the lead, and the expansion as such a text;
* `Varspec.IsIdle b v` : the variable is unbound or bound to an empty composite; then, and only then, it
  adds nothing (`Varspec.sharesIn_eq_nil_iff`);
* `expand_joins_contributions` : the same, and idle variables leave no trace wherever they stand.
-/

namespace ApiLinks

namespace Varspec

/-- A contribution under an operator: behind the name and an equals sign where the operator is named. -/
def labelled (op : Operator) (name text : Text) : Text := (if op.isNamed then name ++ ['='] else []) ++ text

/-- The encoded texts of a composite as one contribution, between commas; no text is no contribution. -/
def whole (op : Operator) (name : Text) (texts : List Text) : List Text :=
  if texts = [] then [] else [labelled op name (Text.joined [','] texts)]

/-- What a variable with a value adds to the contributions. -/
def shares (op : Operator) (v : Varspec) : Value → List Text
  | .scalar t =>
    match v.modifier with
    | .maxLength n => [labelled op v.name (Percent.encode (t.take n))]
    | _ => [labelled op v.name (Percent.encode t)]
  | .sequence items =>
    match v.modifier with
    | .explode => items.map fun item => labelled op v.name (Percent.encode item)
    | _ => whole op v.name (items.map Percent.encode)
  | .mapping entries =>
    match v.modifier with
    | .explode => entries.map fun e => Percent.encode e.1 ++ ['='] ++ Percent.encode e.2
    | _ => whole op v.name (entries.flatMap fun e => [Percent.encode e.1, Percent.encode e.2])

/-- What a variable adds to the contributions under bindings. -/
def sharesIn (op : Operator) (b : Bindings) (v : Varspec) : List Text :=
  match b.get? v.name with
  | none => []
  | some value => v.shares op value

/-- The variable is unbound or bound to a composite without elements. -/
def IsIdle (b : Bindings) (v : Varspec) : Prop :=
  b.get? v.name = none ∨ b.get? v.name = some (.sequence []) ∨ b.get? v.name = some (.mapping [])

theorem named_eq_labelled (op : Operator) (name text : Text) : named op name text = labelled op name text := by
  unfold named labelled
  split <;> simp

theorem shares_scalar_eq (op : Operator) (v : Varspec) (t : Text) :
    v.shares op (.scalar t) = [labelled op v.name (Percent.encode (truncate v.modifier t))] := by
  cases hm : v.modifier <;> simp only [shares, hm, truncate]

/-- Exactly the composites without elements add nothing. -/
theorem shares_eq_nil_iff (op : Operator) (v : Varspec) (value : Value) :
    v.shares op value = [] ↔ value.isEmptyComposite = true := by
  cases value with
  | scalar t => cases hm : v.modifier <;> simp [shares, hm, Value.isEmptyComposite]
  | sequence items => cases hm : v.modifier <;> simp [shares, hm, whole, Value.isEmptyComposite]
  | mapping entries =>
    cases entries with
    | nil => cases hm : v.modifier <;> simp [shares, hm, whole, Value.isEmptyComposite]
    | cons e rest => cases hm : v.modifier <;> simp [shares, hm, whole, Value.isEmptyComposite]

/-- The texts of the entries of a mapping, keys and values in turn. -/
theorem flatMap_encode_entries (entries : List (Text × Text)) :
    (entries.flatMap fun e => [Percent.encode e.1, Percent.encode e.2]) =
      (entries.flatMap fun e => [e.1, e.2]).map Percent.encode := by
  rw [List.map_flatMap]
  rfl

/-- A bound variable expands to its shares, joined by the operator's separator. -/
theorem expand_eq_joined {value : Value} (h : value.isEmptyComposite = false) (op : Operator) (v : Varspec) :
    v.expand op value = Text.joined op.separator (v.shares op value) := by
  cases value with
  | scalar t => cases hm : v.modifier <;> simp [expand, shares, hm, named_eq_labelled, truncate]
  | sequence items =>
    have hi : items ≠ [] := by simpa [Value.isEmptyComposite] using h
    cases hm : v.modifier <;> simp [expand, shares, hm, named_eq_labelled, whole, hi, compositeSeparator]
  | mapping entries =>
    have he : entries ≠ [] := by simpa [Value.isEmptyComposite] using h
    have hpair : pair = fun e : Text × Text => Percent.encode e.1 ++ ['='] ++ Percent.encode e.2 := by
      funext e
      simp [pair]
    obtain ⟨e, rest, rfl⟩ := List.exists_cons_of_ne_nil he
    cases hm : v.modifier <;> simp [expand, shares, hm, named_eq_labelled, whole, compositeSeparator, hpair]

theorem contribution?_eq (op : Operator) (b : Bindings) (v : Varspec) :
    contribution? op b v =
      if v.sharesIn op b = [] then none else some (Text.joined op.separator (v.sharesIn op b)) := by
  unfold contribution? sharesIn
  cases hv : b.get? v.name with
  | none => rfl
  | some value =>
    cases he : value.isEmptyComposite with
    | true => simp [he, (shares_eq_nil_iff op v value).mpr he]
    | false =>
      have hne : v.shares op value ≠ [] := fun hn => by simp [(shares_eq_nil_iff op v value).mp hn] at he
      simp [he, hne, expand_eq_joined he]

theorem sharesIn_of_isIdle {b : Bindings} {v : Varspec} (h : v.IsIdle b) (op : Operator) :
    v.sharesIn op b = [] := by
  unfold sharesIn
  rcases h with h | h | h
  · rw [h]
  · rw [h]
    exact (shares_eq_nil_iff op v _).mpr rfl
  · rw [h]
    exact (shares_eq_nil_iff op v _).mpr rfl

theorem sharesIn_eq_nil_iff {op : Operator} {b : Bindings} {v : Varspec} :
    v.sharesIn op b = [] ↔ v.IsIdle b := by
  refine ⟨fun h => ?_, fun h => sharesIn_of_isIdle h op⟩
  unfold sharesIn at h
  unfold IsIdle
  cases hv : b.get? v.name with
  | none => exact Or.inl rfl
  | some value =>
    rw [hv] at h
    have hempty : value.isEmptyComposite = true := (shares_eq_nil_iff op v value).mp h
    cases value with
    | scalar t => cases hempty
    | sequence items => exact Or.inr (Or.inl (by rw [List.isEmpty_iff.mp hempty]))
    | mapping entries => exact Or.inr (Or.inr (by rw [List.isEmpty_iff.mp hempty]))

end Varspec

namespace Operator

/-- A text behind the lead of an operator, unless there is none. -/
def led (op : Operator) (text : Text) : Text := if text = [] then [] else op.lead ++ text

@[simp] theorem led_nil (op : Operator) : op.led [] = [] := rfl

theorem led_of_ne_nil (op : Operator) {t : Text} (h : t ≠ []) : op.led t = op.lead ++ t := if_neg h

theorem led_eq_nil_iff (op : Operator) {t : Text} : op.led t = [] ↔ t = [] := by
  unfold led
  by_cases ht : t = [] <;> simp [ht]

theorem led_injective (op : Operator) : Function.Injective op.led := by
  intro t u h
  by_cases ht : t = []
  · subst ht
    exact (op.led_eq_nil_iff.mp h.symm).symm
  · have hu : u ≠ [] := fun hu => ht (op.led_eq_nil_iff.mp (h.trans (op.led_eq_nil_iff.mpr hu)))
    rw [op.led_of_ne_nil ht, op.led_of_ne_nil hu] at h
    exact List.append_cancel_left h

theorem length_led_le (op : Operator) (t : Text) : (op.led t).length ≤ op.lead.length + t.length := by
  by_cases ht : t = []
  · rw [ht, led_nil]
    exact Nat.zero_le _
  · exact Nat.le_of_eq (by rw [op.led_of_ne_nil ht, List.length_append])

theorem led_sublist (op : Operator) {t u : Text} (h : t.Sublist u) : (op.led t).Sublist (op.led u) := by
  by_cases ht : t = []
  · rw [ht, led_nil]
    exact List.nil_sublist _
  · have hu : u ≠ [] := fun hn => ht (List.sublist_nil.mp (hn ▸ h))
    rw [op.led_of_ne_nil ht, op.led_of_ne_nil hu]
    exact h.append_left _

theorem length_led_lt (op : Operator) {t u : Text} (h : t.length < u.length) :
    (op.led t).length < (op.led u).length := by
  have hu : u ≠ [] := List.length_pos_iff.mp (Nat.zero_lt_of_lt h)
  have ht := op.length_led_le t
  rw [op.led_of_ne_nil hu, List.length_append]
  omega

end Operator

/-- Lists that correspond for each element make up lists that correspond. -/
theorem forall₂_flatMap {α β γ : Type} {R : β → γ → Prop} {xs : List α} {f : α → List β} {g : α → List γ}
    (h : ∀ x ∈ xs, List.Forall₂ R (f x) (g x)) : List.Forall₂ R (xs.flatMap f) (xs.flatMap g) := by
  have hsame : List.Forall₂ (fun x y => x = y ∧ x ∈ xs) xs xs := List.forall₂_same.mpr fun x hx => ⟨rfl, hx⟩
  refine List.rel_flatMap hsame ?_
  rintro x _ ⟨rfl, hx⟩
  exact h x hx

namespace Expression

/-- The contributions of all variables in order. -/
def contributions (e : Expression) (b : Bindings) : List Text :=
  e.varspecs.flatMap (Varspec.sharesIn e.operator b)

/-- All contributions joined by the operator's separator, behind its lead unless that text is empty. -/
def joinedOnce (e : Expression) (b : Bindings) : Text :=
  let text := Text.joined e.operator.separator (e.contributions b)
  if text = [] then [] else e.operator.lead ++ text

/-- Joining the groups of shares that are not empty is joining all shares. -/
theorem joined_filterMap_contribution? (op : Operator) (b : Bindings) (vs : List Varspec) :
    Text.joined op.separator (vs.filterMap (Varspec.contribution? op b)) =
      Text.joined op.separator (vs.flatMap (Varspec.sharesIn op b)) := by
  have hgroups : vs.filterMap (Varspec.contribution? op b) =
      ((vs.map (Varspec.sharesIn op b)).filter fun g => !g.isEmpty).map (Text.joined op.separator) := by
    induction vs with
    | nil => rfl
    | cons v vs ih =>
      rw [List.filterMap_cons, Varspec.contribution?_eq, List.map_cons, List.filter_cons, ih]
      by_cases hv : v.sharesIn op b = [] <;> simp [hv]
  rw [hgroups, Text.joined_map_joined (by simp), List.flatten_filter_not_isEmpty, List.flatMap_def]

theorem expand_eq (e : Expression) (b : Bindings) : e.expand b = e.joinedOnce b := by
  unfold expand joinedOnce contributions
  rw [joined_filterMap_contribution?]
  simp

theorem expand_eq_led (e : Expression) (b : Bindings) :
    e.expand b = e.operator.led (Text.joined e.operator.separator (e.contributions b)) := e.expand_eq b

/-- The expansion of one variable with a text. -/
theorem expand_scalar {op : Operator} {v : Varspec} {b : Bindings} {text : Text}
    (h : b.get? v.name = some (.scalar text)) :
    (⟨op, [v]⟩ : Expression).expand b =
      op.led (Varspec.labelled op v.name (Percent.encode (Varspec.truncate v.modifier text))) := by
  have hcontributions : (⟨op, [v]⟩ : Expression).contributions b = v.shares op (.scalar text) := by
    rw [contributions, List.flatMap_singleton, Varspec.sharesIn, h]
  rw [expand_eq_led, hcontributions, Varspec.shares_scalar_eq, Text.joined_singleton]

theorem contributions_eq_nil_iff {e : Expression} {b : Bindings} :
    e.contributions b = [] ↔ ∀ v ∈ e.varspecs, v.IsIdle b := by
  unfold contributions
  rw [List.flatMap_eq_nil_iff]
  exact forall₂_congr fun v _ => Varspec.sharesIn_eq_nil_iff

theorem contributions_of_isIdle {e : Expression} {b : Bindings} {before after : List Varspec} {v : Varspec}
    (he : e.varspecs = before ++ v :: after) (hv : v.IsIdle b) :
    e.contributions b = (⟨e.operator, before ++ after⟩ : Expression).contributions b := by
  unfold contributions
  rw [he, List.flatMap_append, List.flatMap_cons, Varspec.sharesIn_of_isIdle hv, List.nil_append,
    List.flatMap_append]

end Expression

/-- **An expression expands to its contributions joined once**, and a variable without a value, or with an empty
composite, leaves nothing behind: neither in front, nor between, nor at the end. -/
theorem expand_joins_contributions (e : Expression) (b : Bindings) :
    e.expand b = e.joinedOnce b ∧
      ∀ before v after, e.varspecs = before ++ v :: after → v.IsIdle b →
        e.expand b = (⟨e.operator, before ++ after⟩ : Expression).expand b := by
  refine ⟨e.expand_eq b, ?_⟩
  intro before v after he hv
  rw [Expression.expand_eq, Expression.expand_eq, Expression.joinedOnce,
    Expression.contributions_of_isIdle he hv]
  rfl

/-- An empty list between two scalars of a query. -/
theorem expand_joins_contributions_query :
    (⟨['l'], .explode⟩ : Varspec).IsIdle (Bindings.ofPairs [(['a'], .scalar ['1']), (['l'], .sequence [])]) ∧
      (⟨.query, [⟨['a'], .plain⟩, ⟨['l'], .explode⟩, ⟨['a'], .plain⟩]⟩ : Expression).expand
          (Bindings.ofPairs [(['a'], .scalar ['1']), (['l'], .sequence [])]) =
        ['?', 'a', '=', '1', '&', 'a', '=', '1'] := by
  have hv : (⟨['l'], .explode⟩ : Varspec).IsIdle
      (Bindings.ofPairs [(['a'], .scalar ['1']), (['l'], .sequence [])]) :=
    Or.inr (Or.inl (by decide))
  refine ⟨hv, ?_⟩
  rw [(expand_joins_contributions _ _).2 [⟨['a'], .plain⟩] ⟨['l'], .explode⟩ [⟨['a'], .plain⟩] rfl hv]
  decide

end ApiLinks

import ApiLinks.Bindings
import ApiLinks.Proofs.NameMap

/-!
# What is bound

Pairs are bound from left to right; a pair without a value is passed over, and a bound name keeps its value.

* `Bindings.get?_bindSome` : what a name had before, or else its first value in the list;
* `Bindings.bindSome_null` : a pair without a value can be left out;
* `Bindings.firstValue?_eq_none_iff` : a name without a first value has no value at all.
-/

namespace ApiLinks.Bindings

/-- The first value that a list of pairs has for a name. -/
def firstValue? (pairs : List (Text × Option Value)) (name : Text) : Option Value :=
  pairs.findSome? fun p => if p.1 = name then p.2 else none

theorem bindSome_cons_null (b : Bindings) (name : Text) (rest : List (Text × Option Value)) :
    b.bindSome ((name, none) :: rest) = b.bindSome rest := rfl

theorem bindSome_cons_value (b : Bindings) (name : Text) (value : Value) (rest : List (Text × Option Value)) :
    b.bindSome ((name, some value) :: rest) = (b.bind name value).bindSome rest := rfl

theorem bindSome_append (b : Bindings) (pairs others : List (Text × Option Value)) :
    b.bindSome (pairs ++ others) = (b.bindSome pairs).bindSome others := List.foldl_append

theorem bindSome_null (b : Bindings) (before : List (Text × Option Value)) (name : Text)
    (after : List (Text × Option Value)) :
    b.bindSome (before ++ (name, none) :: after) = b.bindSome (before ++ after) := by
  rw [bindSome_append, bindSome_append, bindSome_cons_null]

theorem get?_bindSome (b : Bindings) (pairs : List (Text × Option Value)) (name : Text) :
    (b.bindSome pairs).get? name = (b.get? name).or (firstValue? pairs name) := by
  induction pairs generalizing b with
  | nil => rw [firstValue?, List.findSome?_nil, Option.or_none]; rfl
  | cons head rest ih =>
    obtain ⟨n, value?⟩ := head
    rw [firstValue?, List.findSome?_cons]
    cases value? with
    | none =>
      rw [bindSome_cons_null, ih, ite_self]
      rfl
    | some value =>
      rw [bindSome_cons_value, ih, get?_bind]
      by_cases hn : n = name
      · -- the name is bound from here on, to what it had if it had something
        subst hn
        rw [if_pos rfl, if_pos rfl]
        cases b.get? n <;> rfl
      · rw [if_neg hn, if_neg (Ne.symm hn)]
        rfl

theorem firstValue?_eq_none_iff {pairs : List (Text × Option Value)} {name : Text} :
    firstValue? pairs name = none ↔ ∀ p ∈ pairs, p.1 = name → p.2 = none := by
  unfold firstValue?
  rw [List.findSome?_eq_none_iff]
  exact forall₂_congr fun p _ => by rw [ite_eq_right_iff]

end ApiLinks.Bindings

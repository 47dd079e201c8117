import ApiLinks.NameMap
import ApiLinks.Value

/-!
# Bindings

The values of variables for one expansion. The first value bound to a name stays.

* `Bindings.get?_bind` : binding writes an unbound name and leaves everything else as it was;
* `Bindings.tryBind_eq` : the name takes the value when it has none.
-/

namespace ApiLinks

/-- Variables with their values. -/
abbrev Bindings := NameMap Value

namespace Bindings

/-- Binds a value to a name that has none; a bound name keeps its value. -/
def bind (b : Bindings) (name : Text) (value : Value) : Bindings :=
  if b.contains name then b else b.insert name value

/-- Binds a value to a name that has none, with the word whether the name took it. -/
def tryBind (b : Bindings) (name : Text) (value : Value) : Bindings × Bool :=
  if b.contains name then (b, false) else (b.insert name value, true)

/-- Binds pairs from left to right. -/
def bindAll (b : Bindings) (pairs : List (Text × Value)) : Bindings :=
  pairs.foldl (fun b (name, value) => b.bind name value) b

def ofPairs (pairs : List (Text × Value)) : Bindings := bindAll NameMap.empty pairs

/-- Binds the pairs that have a value, from left to right. -/
def bindSome (b : Bindings) (params : List (Text × Option Value)) : Bindings :=
  params.foldl (fun b (name, value?) => match value? with
    | some value => b.bind name value
    | none => b) b

theorem get?_bind (b : Bindings) (name other : Text) (value : Value) :
    (b.bind name value).get? other =
      if other = name then some ((b.get? name).getD value) else b.get? other := by
  unfold bind NameMap.contains
  cases h : b.get? name with
  | some v =>
    by_cases ho : other = name
    · simp [ho, h]
    · simp [ho]
  | none => simp [NameMap.get?_insert]

theorem bind_of_contains {b : Bindings} {name : Text} (h : b.contains name = true) (value : Value) :
    b.bind name value = b := if_pos h

theorem tryBind_eq (b : Bindings) (name : Text) (value : Value) :
    b.tryBind name value = (b.bind name value, !b.contains name) := by
  unfold tryBind bind
  cases b.contains name <;> rfl

end Bindings

end ApiLinks

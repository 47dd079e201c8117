import ApiLinks.Text.Basic

/-!
# Operators

The operator of an expression decides what leads its expansion, what separates the contributions and whether
they carry names. Its code is the first character of the expression's body; the simple operator has none.

`ofChar?_eq_some_iff` : the operators that a character selects are those whose code it is.
-/

namespace ApiLinks

/-- The operators of URI templates. -/
inductive Operator where
  | simple
  | reserved
  | fragment
  | label
  | pathSegment
  | pathParameter
  | query
  | queryContinuation
  deriving DecidableEq, Repr

namespace Operator

/-- The operators in the order of their levels. -/
def all : List Operator :=
  [simple, reserved, fragment, label, pathSegment, pathParameter, query, queryContinuation]

/-- The text that selects the operator. -/
def code : Operator → Text
  | simple => []
  | reserved => ['+']
  | fragment => ['#']
  | label => ['.']
  | pathSegment => ['/']
  | pathParameter => [';']
  | query => ['?']
  | queryContinuation => ['&']

/-- What stands in front of an expansion that is not empty. -/
def lead : Operator → Text
  | reserved => []
  | op => op.code

/-- What stands between two contributions. -/
def separator : Operator → Text
  | simple | reserved | fragment => [',']
  | label => ['.']
  | pathSegment => ['/']
  | pathParameter => [';']
  | query | queryContinuation => ['&']

/-- Whether a contribution carries the variable's name. -/
def isNamed : Operator → Bool
  | pathParameter | query | queryContinuation => true
  | _ => false

/-- The operator that a character selects. -/
def ofChar? : Char → Option Operator
  | '+' => some reserved
  | '#' => some fragment
  | '.' => some label
  | '/' => some pathSegment
  | ';' => some pathParameter
  | '?' => some query
  | '&' => some queryContinuation
  | _ => none

/-- The operator of a code; a text that is no code selects the simple operator. -/
def ofCode : Text → Operator
  | [c] => (ofChar? c).getD simple
  | _ => simple

theorem ofChar?_eq_some_iff {c : Char} {op : Operator} : ofChar? c = some op ↔ op.code = [c] := by
  constructor
  · intro h
    unfold ofChar? at h
    split at h <;> simp_all <;> subst h <;> rfl
  · intro h
    cases op <;> simp [code] at h <;> subst h <;> rfl

theorem ofChar?_eq_none {c : Char} (h : c ∉ ['+', '#', '.', '/', ';', '?', '&']) : ofChar? c = none := by
  cases hc : ofChar? c with
  | none => rfl
  | some op =>
    have hcode := ofChar?_eq_some_iff.mp hc
    cases op with
    | simple => cases hcode
    | _ =>
      obtain rfl := (List.cons.inj hcode).1
      exact absurd (by decide) h

theorem ofCode_code (op : Operator) : ofCode op.code = op := by
  cases op <;> rfl

end Operator

end ApiLinks

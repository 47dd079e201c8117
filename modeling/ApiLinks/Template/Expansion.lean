import ApiLinks.Bindings
import ApiLinks.Template.Expression
import ApiLinks.Text.Percent

/-!
# Expansion of an expression

Every variable with a value contributes a text; unbound variables and composites without elements
contribute nothing. The contributions stand between the operator's separators, and its lead stands
in front unless nothing is there.
-/

namespace ApiLinks

namespace Varspec

/-- What separates the elements of a composite that is not exploded. -/
def compositeSeparator : Text := [',']

/-- A contribution, with the variable's name in front where the operator asks for names. -/
def named (op : Operator) (name contribution : Text) : Text :=
  if op.isNamed then name ++ '=' :: contribution else contribution

/-- The first characters of a scalar that the modifier lets through. -/
def truncate : Modifier → Text → Text
  | .maxLength n, t => t.take n
  | _, t => t

/-- The key and the value of an entry, encoded, with an equals sign between them. -/
def pair (entry : Text × Text) : Text := Percent.encode entry.1 ++ '=' :: Percent.encode entry.2

/-- What a bound variable contributes under an operator. -/
def expand (op : Operator) (v : Varspec) : Value → Text
  | .scalar t => named op v.name (Percent.encode (truncate v.modifier t))
  | .sequence items =>
    if v.modifier = .explode then
      Text.joined op.separator (items.map fun item => named op v.name (Percent.encode item))
    else named op v.name (Text.joined compositeSeparator (items.map Percent.encode))
  | .mapping entries =>
    if v.modifier = .explode then Text.joined op.separator (entries.map pair)
    else
      named op v.name
        (Text.joined compositeSeparator (entries.flatMap fun (k, x) => [Percent.encode k, Percent.encode x]))

/-- What a variable contributes, if anything. -/
def contribution? (op : Operator) (b : Bindings) (v : Varspec) : Option Text :=
  match b.get? v.name with
  | none => none
  | some value => if value.isEmptyComposite then none else some (v.expand op value)

end Varspec

namespace Expression

/-- The expansion of an expression. -/
def expand (e : Expression) (b : Bindings) : Text :=
  let joined := Text.joined e.operator.separator (e.varspecs.filterMap (Varspec.contribution? e.operator b))
  if joined.isEmpty then [] else e.operator.lead ++ joined

/-- The variables without a value, in order and as often as they occur. -/
def unbound (e : Expression) (b : Bindings) : List Text :=
  (e.varspecs.map (·.name)).filter fun name => !b.contains name

end Expression

end ApiLinks

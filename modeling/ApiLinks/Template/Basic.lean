import ApiLinks.Template.Expansion
import ApiLinks.Template.Part

/-!
# URI templates

A template is a text; its parts are found anew whenever they are asked for. Expansion copies the literal
parts and puts the expansion of its expression in the place of each span.
-/

namespace ApiLinks

/-- A URI template. -/
structure Template where
  text : Text
  deriving DecidableEq, Repr

namespace Template

def parts (t : Template) : List Part := (Scan.start.run t.text).finish

def expressions (t : Template) : List Expression := t.parts.filterMap Part.expression?

/-- What reading the template remarks on. -/
def notices (t : Template) : List Notice := t.parts.flatMap Part.notices

/-- Adds the texts that are not there yet, each once, at the end. -/
def addNew (names : List Text) : List Text → List Text
  | [] => names
  | name :: rest => addNew (if name ∈ names then names else names ++ [name]) rest

/-- The names of the variables in the order of their first occurrence. -/
def variableNames (t : Template) : List Text :=
  addNew [] (t.expressions.flatMap fun e => e.varspecs.map (·.name))

/-- Whether some expression has a variable of this name. -/
def hasParameter (t : Template) (name : Text) : Bool := t.expressions.any (·.mentions name)

/-- The text of one part of an expansion. -/
def expandPart (b : Bindings) (p : Part) : Text :=
  match p.expression? with
  | none => p.text
  | some e => e.expand b

/-- The expansion of a template; one without expressions expands to itself. -/
def expand (t : Template) (b : Bindings) : Text :=
  if t.expressions.isEmpty then t.text else t.parts.flatMap (expandPart b)

end Template

end ApiLinks

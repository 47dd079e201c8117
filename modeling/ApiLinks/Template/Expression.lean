import ApiLinks.Template.Operator
import ApiLinks.Template.Varspec

/-!
# Expressions

The body of an expression is the code of its operator and, between commas, the entries that name its variables.
-/

namespace ApiLinks

/-- An operator with the variables that it is applied to. -/
structure Expression where
  operator : Operator
  varspecs : List Varspec
  deriving DecidableEq, Repr

namespace Expression

/-- The operator of a body and the text behind its code. -/
def splitOperator (body : Text) : Operator × Text :=
  match body with
  | [] => (.simple, [])
  | c :: rest =>
    match Operator.ofChar? c with
    | some op => (op, rest)
    | none => (.simple, body)

/-- How the entries of a body read, in order. -/
def readings (body : Text) : List EntryReading :=
  ((splitOperator body).2.splitOn ',').map Varspec.ofEntry

/-- The expression with this body. -/
def ofBody (body : Text) : Expression :=
  ⟨(splitOperator body).1, (readings body).filterMap (·.varspec)⟩

/-- What reading the body remarks on, in order. -/
def notices (body : Text) : List Notice := (readings body).flatMap (·.notices)

/-- Whether a variable of this name occurs. -/
def mentions (e : Expression) (name : Text) : Bool := e.varspecs.any (·.name == name)

end Expression

end ApiLinks

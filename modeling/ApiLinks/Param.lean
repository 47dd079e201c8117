import ApiLinks.Shape
import ApiLinks.Text.Blank
import ApiLinks.Yaml.Reader

/-!
# Parameters

A parameter has a name and, unless it is null, a value. The argument `name=value` is one: a value
in brackets or braces that reads as a YAML collection is a sequence or a mapping, and any other
value is taken as it is written.
-/

namespace ApiLinks

/-- A parameter; without a value it leaves its name unbound. -/
structure Param where
  name : Text
  value : Option Value
  deriving DecidableEq, Repr

/-- Why an argument or a document gives no parameter. -/
inductive ParamError where
  /-- The argument has no equals sign. -/
  | noAssignment (argument : Text)
  /-- Nothing but blanks stands before the equals sign. -/
  | noName (argument : Text)
  /-- The value has no shape. -/
  | shape (name : Text) (error : ShapeError)
  deriving DecidableEq, Repr

def ParamError.message : ParamError → Text
  | noAssignment argument => "Invalid parameter '".toList ++ argument ++ "': expected NAME=VALUE".toList
  | noName argument => "Invalid parameter '".toList ++ argument ++ "': name is empty".toList
  | shape name error => "Invalid value for parameter '".toList ++ name ++ "': ".toList ++ error.message

namespace Param

/-- A parameter with a document value. -/
def ofData (name : Text) (data : Data) : Except ParamError Param :=
  match data.value? with
  | .ok value => .ok ⟨name, value⟩
  | .error e => .error (.shape name e)

/-- Whether a text begins like a collection in brackets or braces. -/
def beginsCollection : Text → Bool
  | c :: _ => c == '[' || c == '\x7b'
  | [] => false

/-- The collection that a text reads as, if it is one. -/
def collection? (t : Text) : Option Data :=
  match Yaml.data? t with
  | some (.sequence items) => some (.sequence items)
  | some (.mapping entries) => some (.mapping entries)
  | _ => none

/-- The parameter of a name and the text behind the equals sign. -/
def ofAssignment (name raw : Text) : Except ParamError Param :=
  let trimmed := raw.trim
  if Yaml.isNullWord trimmed then .ok ⟨name, none⟩
  else if beginsCollection trimmed then
    match collection? raw with
    | some data => ofData name data
    | none => .ok ⟨name, some (.scalar raw)⟩
  else .ok ⟨name, some (.scalar raw)⟩

/-- The parameter of an argument. -/
def ofArgument (argument : Text) : Except ParamError Param :=
  match Text.cut? '=' argument with
  | none => .error (.noAssignment argument)
  | some (name, raw) =>
    let name := name.trim
    if name.isEmpty then .error (.noName argument) else ofAssignment name raw

/-- The parameters of arguments; the first argument that gives none decides the error. -/
def ofArguments : List Text → Except ParamError (List Param)
  | [] => .ok []
  | argument :: rest => do return (← ofArgument argument) :: (← ofArguments rest)

def toPair (p : Param) : Text × Option Value := (p.name, p.value)

end Param

end ApiLinks

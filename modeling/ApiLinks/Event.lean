import ApiLinks.Template.Basic

/-!
# Events

What the library reports beside its results, for a log: an event has a level and a message. Each operation
that reports has a function with its events, in the order in which they happen.
-/

namespace ApiLinks

/-- The importance of an event. -/
inductive Level where
  | trace
  | debug
  | warn
  deriving DecidableEq, Repr

/-- Something worth a line in the log. -/
inductive Event where
  /-- A remark on a template. -/
  | notice (notice : Notice)
  /-- A variable has no value. -/
  | unbound (name : Text)
  /-- A name keeps its value against a later one. -/
  | rebind (name : Text)
  /-- A parameter without a value leaves its name unbound. -/
  | leftUnbound (name : Text)
  /-- A template with expressions has been expanded. -/
  | expanded (template uri : Text)
  deriving DecidableEq, Repr

namespace Event

/-- Remarks on templates are warnings, and unbound and bound variables matter least. -/
def level : Event → Level
  | notice _ => .warn
  | unbound _ | rebind _ => .trace
  | leftUnbound _ | expanded _ _ => .debug

def quoted (t : Text) : Text := '\'' :: t ++ ['\'']

def message : Event → Text
  | notice (.badLength length name) =>
    "Ignoring invalid prefix length ".toList ++ quoted length ++ " for variable ".toList ++ quoted name
  | notice (.nameless entry) => "Skipping varspec without a name: ".toList ++ quoted entry
  | unbound name => "Variable ".toList ++ quoted name ++ " is unbound".toList
  | rebind name => "Ignoring rebind of variable ".toList ++ quoted name
  | leftUnbound name => "Leaving parameter ".toList ++ quoted name ++ " unbound".toList
  | expanded template uri =>
    "Expanded URI template ".toList ++ quoted template ++ " into ".toList ++ quoted uri

end Event

/-- The remarks on an expression body, as events. -/
def Expression.parseEvents (body : Text) : List Event := (notices body).map .notice

/-- The unbound variables of an expression, as events. -/
def Expression.expandEvents (e : Expression) (b : Bindings) : List Event := (e.unbound b).map .unbound

namespace Template

/-- The remarks on a template, as events. -/
def parseEvents (t : Template) : List Event := t.notices.map .notice

/-- The events of an expansion: the remarks, the unbound variables and, if there are expressions, the result. -/
def expandEvents (t : Template) (b : Bindings) : List Event :=
  t.parseEvents ++ t.expressions.flatMap (·.expandEvents b) ++
    if t.expressions.isEmpty then [] else [.expanded t.text (t.expand b)]

end Template

namespace Bindings

/-- The events of binding one value. -/
def bindEvents (b : Bindings) (name : Text) : List Event := if b.contains name then [.rebind name] else []

/-- The events of binding pairs from left to right. -/
def bindAllEvents (b : Bindings) : List (Text × Value) → List Event
  | [] => []
  | (name, value) :: rest => b.bindEvents name ++ bindAllEvents (b.bind name value) rest

/-- The events of binding the pairs that have a value. -/
def bindSomeEvents (b : Bindings) : List (Text × Option Value) → List Event
  | [] => []
  | (name, none) :: rest => .leftUnbound name :: bindSomeEvents b rest
  | (name, some value) :: rest => b.bindEvents name ++ bindSomeEvents (b.bind name value) rest

end Bindings

end ApiLinks

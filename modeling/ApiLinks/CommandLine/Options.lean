import ApiLinks.Text.Basic

/-!
# Options

What the arguments of the command ask for. An option's value stands in the same argument or is the next one,
which then may not begin with a dash unless it is a dash; flags can share an argument. An option is only
complete when the next one begins or the arguments end.
-/

namespace ApiLinks

/-- What a command line asks for. -/
structure Options where
  /-- The path of the links document. -/
  links : Text
  /-- The resource to expand; without one all are listed. -/
  resource : Option Text
  /-- The arguments that give parameters, in order. -/
  params : List Text
  base : Option Text
  verbose : Bool
  deriving DecidableEq, Repr

/-- Why a command line is not carried out. -/
inductive UsageError where
  /-- Help was asked for. -/
  | help
  | unknownArgument
  /-- An option that is taken once stands twice. -/
  | conflict
  /-- An option's value is missing. -/
  | missingValue
  /-- A flag has a value. -/
  | needlessValue
  /-- The links document is missing. -/
  | missingOption
  deriving DecidableEq, Repr

namespace Options

inductive Name where
  | links
  | resource
  | param
  | base
  | verbose
  | help
  deriving DecidableEq, Repr

def Name.takesValue : Name → Bool
  | .verbose | .help => false
  | _ => true

def Name.ofChar? : Char → Option Name
  | 'l' => some .links
  | 'r' => some .resource
  | 'p' => some .param
  | 'b' => some .base
  | 'v' => some .verbose
  | 'h' => some .help
  | _ => none

def Name.ofWord? (word : Text) : Option Name :=
  [("links", Name.links), ("resource", .resource), ("param", .param), ("base", .base), ("verbose", .verbose),
    ("help", .help)].findSome? fun (w, name) => if word = w.toList then some name else none

/-- What the arguments read so far ask for. -/
structure Reading where
  links : Option Text
  resource : Option Text
  params : List Text
  base : Option Text
  verbose : Bool
  /-- The option that is not complete yet, with its value if that has been read. -/
  pending : Option (Name × Option Text)
  /-- Whether nothing but a dash-free rest may follow. -/
  onlyRest : Bool

namespace Reading

def start : Reading := ⟨none, none, [], none, false, none, false⟩

/-- A value for an option that is taken once. -/
def once (old : Option Text) (value : Text) : Except UsageError (Option Text) :=
  if old.isSome then .error .conflict else .ok (some value)

/-- Takes in a complete option. -/
def take (r : Reading) (name : Name) (value : Text) : Except UsageError Reading :=
  match name with
  | .links => (once r.links value).map fun links => { r with links }
  | .resource => (once r.resource value).map fun resource => { r with resource }
  | .base => (once r.base value).map fun base => { r with base }
  | .param => .ok { r with params := r.params ++ [value] }
  | .verbose => if r.verbose then .error .conflict else .ok { r with verbose := true }
  | .help => .error .help

def settle (r : Reading) : Except UsageError Reading :=
  match r.pending with
  | none => .ok r
  | some (_, none) => .error .missingValue
  | some (name, some value) => { r with pending := none }.take name value

/-- Begins an option with a value, which may be given already. -/
def begin (r : Reading) (name : Name) (value : Option Text) : Except UsageError Reading := do
  let r ← r.settle
  match value with
  | some value => r.take name value
  | none => return { r with pending := some (name, none) }

def flag (r : Reading) (name : Name) : Except UsageError Reading := do
  (← r.settle).take name []

/-- An option by its word, behind two dashes. -/
def long (r : Reading) (t : Text) : Except UsageError Reading :=
  let (word, value) := match Text.cut? '=' t with
    | some (word, value) => (word, some value)
    | none => (t, none)
  match Name.ofWord? word with
  | none => .error .unknownArgument
  | some name =>
    if name.takesValue then r.begin name value
    else if value.isSome then .error .needlessValue
    else r.flag name

/-- Options by their letters, behind one dash. What follows the letter of an
option with a value is that value. -/
def short (r : Reading) : Text → Except UsageError Reading
  | [] => .ok r
  | c :: rest =>
    match Name.ofChar? c with
    | none => .error .unknownArgument
    | some name =>
      if name.takesValue then
        r.begin name (match rest with
          | [] => none
          | '=' :: value => some value
          | _ => some rest)
      else do short (← r.flag name) rest

/-- A value that stands for itself. -/
def plain (r : Reading) (t : Text) : Except UsageError Reading :=
  match r.pending with
  | some (name, none) => .ok { r with pending := some (name, some t) }
  | _ => .error .unknownArgument

def argument (r : Reading) (t : Text) : Except UsageError Reading :=
  if r.onlyRest then .error .unknownArgument
  else match t with
    | ['-', '-'] => .ok { r with onlyRest := true }
    | '-' :: '-' :: rest => r.long rest
    | ['-'] => r.plain t
    | '-' :: rest => r.short rest
    | _ => r.plain t

/-- What the arguments ask for, now that they are over. -/
def finish (r : Reading) : Except UsageError Options := do
  let r ← r.settle
  match r.links with
  | some links => return ⟨links, r.resource, r.params, r.base, r.verbose⟩
  | none => throw .missingOption

end Reading

def ofArguments (arguments : List Text) : Except UsageError Options := do
  (← arguments.foldlM Reading.argument Reading.start).finish

end Options

end ApiLinks

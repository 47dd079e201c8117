import ApiLinks.Link
import ApiLinks.Url.Reader

/-!
# Link sets

Links by the names of their resources, with a base for the relative ones. Resolving a resource asks
for the link, checks that a templated link knows every bound name, expands it and, if there is a
base, makes the outcome absolute.
-/

namespace ApiLinks

/-- Named links, relative to a base if there is one. -/
structure LinkSet where
  links : NameMap Link
  base : Option Url

/-- Why a resource does not resolve. -/
inductive LinkError where
  | unknownResource (resource : Text)
  /-- A bound name that the link does not know. -/
  | invalidParameter (resource parameter : Text)
  /-- The expanded link is no URL. -/
  | invalidUri (uri : Text) (reason : UrlError)
  deriving DecidableEq, Repr

def LinkError.message : LinkError → Text
  | unknownResource resource => "Unknown resource: ".toList ++ resource
  | invalidParameter resource parameter =>
    parameter ++ " is not a valid parameter for resource ".toList ++ resource
  | invalidUri uri reason => "Invalid URI '".toList ++ uri ++ "': ".toList ++ reason.message

namespace LinkSet

def empty : LinkSet := ⟨NameMap.empty, none⟩

/-- The links of a list, without a base; the last link of a name stays. -/
def ofList (links : List (Text × Link)) : LinkSet := ⟨NameMap.ofList links, none⟩

/-- The set with a link in the place of the one of that name. -/
def insert (s : LinkSet) (resource : Text) (l : Link) : LinkSet := { s with links := s.links.insert resource l }

def get? (s : LinkSet) (resource : Text) : Option Link := s.links.get? resource

def contains (s : LinkSet) (resource : Text) : Bool := s.links.contains resource

/-- Whether there is a templated link of that name with the parameter. -/
def hasParameter (s : LinkSet) (resource name : Text) : Bool :=
  (s.get? resource).any fun l => l.acceptsParameter name

/-- The events of asking a resource for a parameter. -/
def parameterEvents (s : LinkSet) (resource : Text) : List Event :=
  (s.get? resource).elim [] Link.acceptsEvents

/-- The first in ascending order of some names that a templated link does not know. -/
def offender? (l : Link) (names : List Text) : Option Text :=
  if l.templated then (names.mergeSort fun a b => decide (¬ b < a)).find? fun name => !l.href.hasParameter name
  else none

/-- A reference made absolute by a base; a URL of its own is left as it is written. -/
def joinRelative (base : Url) (uri : Text) : Except LinkError Text :=
  match Url.parse uri with
  | .ok _ => .ok uri
  | .error .relative =>
    match Url.join base uri with
    | .ok u => .ok u.toText
    | .error reason => .error (.invalidUri uri reason)
  | .error reason => .error (.invalidUri uri reason)

/-- The URI of a resource under bindings, whose names are checked as they are listed. -/
def resolveListed (s : LinkSet) (resource : Text) (b : Bindings) (names : List Text) : Except LinkError Text :=
  match s.get? resource with
  | none => .error (.unknownResource resource)
  | some l =>
    match offender? l names with
    | some parameter => .error (.invalidParameter resource parameter)
    | none =>
      match s.base with
      | some base => joinRelative base (l.expand b)
      | none => .ok (l.expand b)

/-- The URI of a resource under bindings. -/
def resolve (s : LinkSet) (resource : Text) (b : Bindings) : Except LinkError Text :=
  s.resolveListed resource b b.names

/-- The bound names that are looked for in the template, up to the first one that it does not know. -/
def checkedNames (l : Link) : List Text → List Text
  | [] => []
  | name :: rest => if l.href.hasParameter name then name :: checkedNames l rest else [name]

/-- The events of resolving: the template is read for every name that is checked, and then expanded. -/
def resolveEvents (s : LinkSet) (resource : Text) (b : Bindings) : List Event :=
  match s.get? resource with
  | none => []
  | some l =>
    let checks := if l.templated then (checkedNames l b.names).flatMap fun _ => l.href.parseEvents else []
    checks ++ if (offender? l b.names).isSome then [] else l.expandEvents b

end LinkSet

/-- A base that is no URL, with the reason. -/
structure BaseError where
  base : Text
  reason : UrlError
  deriving DecidableEq, Repr

def BaseError.message (e : BaseError) : Text :=
  "Invalid base URI '".toList ++ e.base ++ "': ".toList ++ e.reason.message

end ApiLinks

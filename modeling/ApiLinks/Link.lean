import ApiLinks.Event

/-!
# Links

A link is a template with the word whether it is one: a literal link stands for its text whatever is bound.
-/

namespace ApiLinks

/-- A link to a resource. -/
structure Link where
  href : Template
  templated : Bool
  deriving DecidableEq, Repr

namespace Link

/-- The text of a link under bindings. -/
def expand (l : Link) (b : Bindings) : Text := if l.templated then l.href.expand b else l.href.text

def expandEvents (l : Link) (b : Bindings) : List Event := if l.templated then l.href.expandEvents b else []

/-- Whether the link has a variable of this name. -/
def acceptsParameter (l : Link) (name : Text) : Bool := l.templated && l.href.hasParameter name

/-- The events of asking for a parameter: the template is read. -/
def acceptsEvents (l : Link) : List Event := if l.templated then l.href.parseEvents else []

end Link

end ApiLinks

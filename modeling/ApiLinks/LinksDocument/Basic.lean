import ApiLinks.Data
import ApiLinks.Link
import ApiLinks.Param

/-!
# Links documents

A document names links, may give a base for them, and holds parameters. As a document value it is a mapping
of which `base` and `params` are left out when they say nothing.
-/

namespace ApiLinks

/-- The links of an interface, with a base and parameters. -/
structure LinksDocument where
  base : Option Text
  links : NameMap Link
  params : NameMap Data
  deriving Inhabited

namespace LinksDocument

/-- The keys of a document and of a link. -/
def baseKey : Text := "base".toList

def linksKey : Text := "links".toList

def paramsKey : Text := "params".toList

def hrefKey : Text := "href".toList

def templatedKey : Text := "templated".toList

def linkData (l : Link) : Data :=
  .mapping [(.string hrefKey, .string l.href.text), (.string templatedKey, .bool l.templated)]

/-- Named values as a mapping. -/
def namedData (entries : List (Text × Data)) : Data := .mapping (entries.map fun (name, d) => (.string name, d))

def toData (doc : LinksDocument) : Data :=
  namedData (
    (doc.base.map fun base => (baseKey, .string base)).toList ++
    [(linksKey, namedData (doc.links.map linkData).entries)] ++
    if doc.params.isEmpty then [] else [(paramsKey, namedData doc.params.entries)])

/-- The parameters by name; the first name whose value has no shape decides the error. -/
def paramList (doc : LinksDocument) : Except ParamError (List Param) :=
  doc.params.entries.mapM fun (name, d) => Param.ofData name d

end LinksDocument

end ApiLinks

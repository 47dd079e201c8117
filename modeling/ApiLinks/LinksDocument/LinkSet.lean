import ApiLinks.LinkSet
import ApiLinks.LinksDocument.Basic

/-!
# The link set of a document

A base from elsewhere goes before the base of the document.
-/

namespace ApiLinks.LinksDocument

/-- The links of a document with the base in force. -/
def linkSet (doc : LinksDocument) (override : Option Text) : Except BaseError LinkSet :=
  match override.or doc.base with
  | none => .ok ⟨doc.links, none⟩
  | some base =>
    match Url.parse base with
    | .ok u => .ok ⟨doc.links, some u⟩
    | .error reason => .error ⟨base, reason⟩

end ApiLinks.LinksDocument

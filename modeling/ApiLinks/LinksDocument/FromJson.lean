import ApiLinks.Json.Printer
import ApiLinks.Json.Reader
import ApiLinks.LinksDocument.Basic

/-!
# Links documents in JSON

A document or a link is an object, or an array of its parts in their order. Other keys of an object are
passed over; a key may not stand twice.
-/

namespace ApiLinks

namespace Json

/-- The members of an object with the texts of their keys. -/
def named? : List (Option Text × Json) → Option (List (Text × Json))
  | [] => some []
  | (key, j) :: rest => do return (← key, j) :: (← named? rest)

/-- The members under the keys that are asked for; no such key may stand twice. -/
def fields? (keys : List Text) (members : List (Option Text × Json)) : Option (List (Text × Json)) := do
  let asked := (← named? members).filter fun (k, _) => keys.contains k
  if (asked.map (·.1)).Nodup then some asked else none

/-- Things by name; the last one of a name stays. -/
def byName? {α : Type} (read : Json → Option α) : Json → Option (NameMap α)
  | object members => do
    let items ← (← named? members).mapM fun (name, j) => return (name, ← read j)
    return NameMap.ofList items
  | _ => none

/-- A text, or nothing for null. -/
def optionalText? : Json → Option (Option Text)
  | null => some none
  | string t => t.map some
  | _ => none

/-- A link of its parts. -/
def linkOf? (href : Json) (templated : Option Json) : Option Link := do
  let href ← href.text?
  let templated ← match templated with
    | some j => j.bool?
    | none => some false
  return ⟨⟨href⟩, templated⟩

def link? : Json → Option Link
  | object members => do
    let fs ← fields? [LinksDocument.hrefKey, LinksDocument.templatedKey] members
    linkOf? (← fs.lookup LinksDocument.hrefKey) (fs.lookup LinksDocument.templatedKey)
  | array [href] => linkOf? href none
  | array [href, templated] => linkOf? href (some templated)
  | _ => none

/-- A links document of its parts. Its values lie two levels deep. -/
def linksDocumentOf? (base : Option Json) (links : Json) (params : Option Json) : Option LinksDocument := do
  let base ← match base with
    | some j => optionalText? j
    | none => some none
  let links ← byName? link? links
  let params ← match params with
    | some j => byName? (data? (depthLimit - 2)) j
    | none => some NameMap.empty
  return ⟨base, links, params⟩

def linksDocument? : Json → Option LinksDocument
  | object members => do
    let fs ← fields? [LinksDocument.baseKey, LinksDocument.linksKey, LinksDocument.paramsKey] members
    linksDocumentOf? (fs.lookup LinksDocument.baseKey) (← fs.lookup LinksDocument.linksKey)
      (fs.lookup LinksDocument.paramsKey)
  | array [base, links] => linksDocumentOf? (some base) links none
  | array [base, links, params] => linksDocumentOf? (some base) links (some params)
  | _ => none

end Json

def Link.ofJson? (t : Text) : Option Link := (Json.read? t).bind Json.link?

def Link.toJson (l : Link) : Text :=
  (Json.object [(some LinksDocument.hrefKey, Json.ofText l.href.text),
    (some LinksDocument.templatedKey, Json.bool l.templated)]).write

def LinksDocument.ofJson? (t : Text) : Option LinksDocument := (Json.read? t).bind Json.linksDocument?

/-- The JSON text of a document, if all keys of its values can be keys of objects. -/
def LinksDocument.toJson? (doc : LinksDocument) : Option Text := (Json.ofData? doc.toData).map Json.write

end ApiLinks

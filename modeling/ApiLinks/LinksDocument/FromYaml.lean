import ApiLinks.LinksDocument.Basic
import ApiLinks.Yaml.Printer

/-!
# Links documents in YAML

Names, bases and hrefs are taken as they are written, whatever they would mean as values. Other keys than
those of a document or a link are passed over; a key may not stand twice.
-/

namespace ApiLinks.Yaml.Document

/-- The text of a scalar as it is written. -/
def text (d : Document) (n : Node) : Read Text := do
  match ← d.follow n with
  | .scalar _ _ t => return t
  | _ => fail

/-- The truth value of a plain scalar, or of a literal block with the tag for truth values. -/
def truth (d : Document) (n : Node) : Read Bool := do
  match ← d.follow n with
  | .scalar p style t =>
    if style = .plain ∨ (style = .literal ∧ p.tag = some (coreTag "bool")) then
      match bool? t with
      | some b => return b
      | none => fail
    else fail
  | _ => fail

/-- The text of a scalar, or nothing for null. -/
def optionalText (d : Document) (n : Node) : Read (Option Text) := do
  match ← d.follow n with
  | .scalar p style t =>
    if style ≠ .plain then return some t
    else match p.tag with
      | none => return if t.isEmpty || isNullWord t then none else some t
      | some tag =>
        if tag ≠ coreTag "null" then return some t
        else if isNullWord t then return none
        else fail
  | _ => fail

/-- The entries of a mapping; an absent node has none. -/
def entriesOf (d : Document) (n : Node) : Read (List (Node × Node)) := do
  match ← d.follow n with
  | .mapping _ entries => return entries
  | .scalar _ .plain [] => return []
  | _ => fail

/-- The nodes under the keys that are asked for; no such key may stand twice. -/
def fields (d : Document) (keys : List Text) (n : Node) : Read (List (Text × Node)) := do
  let named ← (← d.entriesOf n).mapM fun (k, v) => return (← d.text k, v)
  let asked := named.filter fun (k, _) => keys.contains k
  if (asked.map (·.1)).Nodup then return asked else fail

def link (d : Document) (n : Node) : Read Link := do
  let fs ← d.fields [LinksDocument.hrefKey, LinksDocument.templatedKey] n
  let href ← match fs.lookup LinksDocument.hrefKey with
    | some n => d.text n
    | none => fail
  let templated ← match fs.lookup LinksDocument.templatedKey with
    | some n => d.truth n
    | none => pure false
  return ⟨⟨href⟩, templated⟩

/-- Things by name; the last one of a name stays. -/
def named {α : Type} (d : Document) (read : Node → Read α) (n : Node) : Read (NameMap α) := do
  let items ← (← d.entriesOf n).mapM fun (k, v) => return (← d.text k, ← read v)
  return NameMap.ofList items

/-- A links document. Its values lie two levels deep. -/
def linksDocument (d : Document) (n : Node) : Read LinksDocument := do
  let fs ← d.fields [LinksDocument.baseKey, LinksDocument.linksKey, LinksDocument.paramsKey] n
  let base ← match fs.lookup LinksDocument.baseKey with
    | some n => d.optionalText n
    | none => pure none
  let links ← match fs.lookup LinksDocument.linksKey with
    | some n => d.named d.link n
    | none => fail
  let params ← match fs.lookup LinksDocument.paramsKey with
    | some n => d.named (d.data (depthLimit - 2)) n
    | none => pure NameMap.empty
  return ⟨base, links, params⟩

/-- What a reader makes of a text with one document; a text without tokens is an absent node. -/
def readAll? {α : Type} (read : Document → Node → Read α) (t : Text) : Option α := do
  let n := (← Node.ofText? t).getD .empty
  let d := ofNode n
  let (a, _) ← read d d.root 0
  return a

end ApiLinks.Yaml.Document

namespace ApiLinks

def Link.ofYaml? (t : Text) : Option Link := Yaml.Document.readAll? Yaml.Document.link t

def LinksDocument.ofYaml? (t : Text) : Option LinksDocument :=
  Yaml.Document.readAll? Yaml.Document.linksDocument t

def LinksDocument.toYaml (doc : LinksDocument) : Text := Yaml.write doc.toData

end ApiLinks

import ApiLinks.Yaml.Node
import ApiLinks.Yaml.Plain

/-!
# Values of YAML documents

The value that a node means. Aliases are followed; a document whose aliases unfold to much more than
is written is refused, and so is one that is nested too deeply. A tag that begins with an
exclamation mark stays with its value.
-/

namespace ApiLinks.Yaml

/-- A document to read values from. -/
structure Document where
  root : Node
  /-- The nodes with anchors, in the order of the text. -/
  anchors : List (Nat × Node)
  /-- How many aliases may be followed. -/
  aliasLimit : Nat

namespace Document

def ofNode (n : Node) : Document := ⟨n, n.anchored, 100 * n.size⟩

/-- Collections are nested at most so deeply. -/
def depthLimit : Nat := 128

/-- Reading counts the aliases that it follows. -/
abbrev Read := StateT Nat Option

/-- Fails: the node does not have the form that is asked for. -/
def fail {α : Type} : Read α := StateT.lift none

/-- The node itself, or the node that an alias means. -/
def follow (d : Document) : Node → Read Node
  | .reference a => do
    let followed := (← get) + 1
    set followed
    if d.aliasLimit < followed then fail
    match d.anchors.reverse.find? (·.1 == a) with
    | some (_, n) => return n
    | none => fail
  | n => return n

/-- The tag of YAML's own types with a name. -/
def coreTag (name : String) : Text := "tag:yaml.org,2002:".toList ++ name.toList

/-- What a scalar means by its tag: the tags of YAML's own types are obeyed, other tags make a text of it,
and a plain scalar without a tag means what its text looks like. -/
def scalarData? (tag : Option Text) (style : Style) (t : Text) : Option Data :=
  let asWritten := if style = .plain then plainData? t else some (.string t)
  match tag with
  | none => asWritten
  | some tag =>
    if tag = coreTag "bool" then (bool? t).map .bool
    else if tag = coreTag "int" then (ofInteger? t).bind id
    else if tag = coreTag "float" then (real? t).map fun x => .number (.real x)
    else if tag = coreTag "null" then if isNullWord t then some .null else none
    else some (.string t)

/-- The name of a tag that stays with its value: what follows its exclamation mark. -/
def ownTag : Option Text → Option Text
  | some ('!' :: name) => some name
  | _ => none

/-- Puts the tag of a node on its value; a tag without a name is refused. -/
def withTag (tag : Option Text) (value : Data) : Read Data :=
  match ownTag tag with
  | none => return value
  | some [] => fail
  | some name => return .tagged name value

/-- Whether no two keys are the same value, where `before` lists entries that came before. -/
def distinct (before : List (Data × Data)) : List (Data × Data) → Bool
  | [] => true
  | (k, v) :: rest => !Data.hasKey before k && distinct ((k, v) :: before) rest

/-- The value of a node with collections nested at most `depth` deep. -/
def data (d : Document) : (depth : Nat) → Node → Read Data
  | depth, n => do
    match ← d.follow n with
    | .reference _ => fail
    | .scalar p style text =>
      let tag := if (ownTag p.tag).isSome then none else p.tag
      match scalarData? tag style text with
      | some value => withTag p.tag value
      | none => fail
    | .sequence p items =>
      match depth with
      | 0 => fail
      | depth + 1 => withTag p.tag (.sequence (← items.mapM (data d depth)))
    | .mapping p entries =>
      match depth with
      | 0 => fail
      | depth + 1 =>
        let read ← entries.mapM fun (k, v) => return (← data d depth k, ← data d depth v)
        if distinct [] read then withTag p.tag (.mapping read) else fail

end Document

/-- The value of a text with one document; a text without tokens means null. -/
def data? (t : Text) : Option Data := do
  match ← Node.ofText? t with
  | none => return .null
  | some n =>
    let d := Document.ofNode n
    let (value, _) ← d.data Document.depthLimit d.root 0
    return value

end ApiLinks.Yaml

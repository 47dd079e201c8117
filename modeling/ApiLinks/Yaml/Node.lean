import ApiLinks.Yaml.TokenStream

/-!
# Nodes of a YAML document

The tree that the tokens of a text make up. Scalars are texts that have not been given a type yet, and
aliases are numbers of anchors. An anchor's number is the count of the different anchor names before it, so
that a name given anew can share the number of another one; an alias means the last node with the number.
-/

namespace ApiLinks.Yaml

/-- The anchor and the tag of a node. -/
structure Properties where
  anchor : Option Nat
  tag : Option Text
  deriving DecidableEq, Repr

inductive Node where
  | reference (anchor : Nat)
  | scalar (properties : Properties) (style : Style) (text : Text)
  | sequence (properties : Properties) (items : List Node)
  | mapping (properties : Properties) (entries : List (Node × Node))
  deriving Repr, Inhabited

namespace Node

/-- An absent node reads as an empty plain scalar. -/
def empty : Node := scalar ⟨none, none⟩ .plain []

mutual

/-- The node and the nodes below it with their anchors, in the order of the text. -/
def anchored : Node → List (Nat × Node)
  | reference _ => []
  | scalar p style text => (p.anchor.map fun a => (a, scalar p style text)).toList
  | sequence p items => (p.anchor.map fun a => (a, sequence p items)).toList ++ anchoredItems items
  | mapping p entries => (p.anchor.map fun a => (a, mapping p entries)).toList ++ anchoredEntries entries

def anchoredItems : List Node → List (Nat × Node)
  | [] => []
  | item :: rest => anchored item ++ anchoredItems rest

def anchoredEntries : List (Node × Node) → List (Nat × Node)
  | [] => []
  | (key, value) :: rest => anchored key ++ anchored value ++ anchoredEntries rest

end

mutual

/-- The number of marks that write the node: one for a scalar or an alias, two around a collection. -/
def size : Node → Nat
  | reference _ | scalar _ _ _ => 1
  | sequence _ items => 2 + sizeItems items
  | mapping _ entries => 2 + sizeEntries entries

def sizeItems : List Node → Nat
  | [] => 0
  | item :: rest => size item + sizeItems rest

def sizeEntries : List (Node × Node) → Nat
  | [] => 0
  | (key, value) :: rest => size key + size value + sizeEntries rest

end

end Node

/-- What is left of the tokens, with the names that have been given. -/
structure NodeReader where
  tokens : List Token
  /-- The anchor names, each once, with their numbers. -/
  anchors : List (Text × Nat)
  /-- What the handles of tags stand for. -/
  handles : List (Text × Text)

namespace NodeReader

/-- A reader goes over the tokens, or finds them out of order. -/
abbrev Read := StateT NodeReader Option

def peek : Read (Option Token) := return (← get).tokens.head?

def skip : Read Unit := modify fun s => { s with tokens := s.tokens.drop 1 }

/-- Fails: the tokens are out of order. -/
def fail {α : Type} : Read α := StateT.lift none

/-- The handles that need no directive. -/
def standardHandles : List (Text × Text) :=
  [(['!'], ['!']), (['!', '!'], "tag:yaml.org,2002:".toList)]

/-- Gives an anchor name a number. -/
def giveAnchor (name : Text) : Read Nat := do
  let s ← get
  let number := s.anchors.length
  let anchors := if s.anchors.any (·.1 == name) then
      s.anchors.map fun (n, k) => if n = name then (n, number) else (n, k)
    else s.anchors ++ [(name, number)]
  set { s with anchors }
  return number

/-- The number of an anchor name that has been given. -/
def anchorNumber (name : Text) : Read Nat := do
  match (← get).anchors.find? (·.1 == name) with
  | some (_, n) => return n
  | none => fail

/-- The whole tag of a handle and a suffix. -/
def wholeTag (handle suffix : Text) : Read Text := do
  if handle.isEmpty then return suffix
  match (← get).handles.find? (·.1 == handle) with
  | some (_, lead) => return lead ++ suffix
  | none => fail

/-- An anchor and a tag, each at most once, in either order. -/
def properties : Read Properties := do
  match ← peek with
  | some (.anchor name) =>
    skip
    let anchor ← giveAnchor name
    match ← peek with
    | some (.tag handle suffix) =>
      skip
      return ⟨some anchor, some (← wholeTag handle suffix)⟩
    | _ => return ⟨some anchor, none⟩
  | some (.tag handle suffix) =>
    skip
    match ← peek with
    | some (.anchor name) =>
      skip
      let anchor ← giveAnchor name
      return ⟨some anchor, some (← wholeTag handle suffix)⟩
    | _ => return ⟨none, some (← wholeTag handle suffix)⟩
  | _ => return ⟨none, none⟩

/-- Where a node may stand. -/
inductive Place where
  /-- In a block. -/
  | block
  /-- In a block mapping, where the dashes of a sequence need no indentation of their own. -/
  | entry
  /-- Inside brackets or braces. -/
  | flow
  deriving DecidableEq, Repr

/-- Whether the token ends an entry of a block mapping. -/
def endsEntry : Option Token → Bool
  | some .key | some .value | some .blockEnd => true
  | _ => false

mutual

/-- Reads a node; `fuel` bounds the depth of the calls. -/
def node : Nat → Place → Read Node
  | 0, _ => fail
  | fuel + 1, place => do
    match ← peek with
    | some (.reference name) =>
      skip
      return .reference (← anchorNumber name)
    | _ =>
      let p ← properties
      match ← peek with
      | some (.scalar style text) =>
        skip
        return .scalar p style text
      | some .flowSequenceStart =>
        skip
        return .sequence p (← flowItems fuel true)
      | some .flowMappingStart =>
        skip
        return .mapping p (← flowEntries fuel true)
      | some .blockEntry =>
        if place = .entry then return .sequence p (← looseItems fuel)
        else if p.anchor.isSome || p.tag.isSome then return .scalar p .plain []
        else fail
      | some .blockSequenceStart =>
        if place ≠ .flow then
          skip
          return .sequence p (← blockItems fuel)
        else if p.anchor.isSome || p.tag.isSome then return .scalar p .plain []
        else fail
      | some .blockMappingStart =>
        if place ≠ .flow then
          skip
          return .mapping p (← blockEntries fuel)
        else if p.anchor.isSome || p.tag.isSome then return .scalar p .plain []
        else fail
      | _ => if p.anchor.isSome || p.tag.isSome then return .scalar p .plain [] else fail

/-- Reads the items of a block sequence and its end. -/
def blockItems : Nat → Read (List Node)
  | 0 => fail
  | fuel + 1 => do
    match ← peek with
    | some .blockEntry =>
      skip
      let item ← match ← peek with
        | some .blockEntry | some .blockEnd => pure .empty
        | _ => node fuel .block
      return item :: (← blockItems fuel)
    | some .blockEnd =>
      skip
      return []
    | _ => fail

/-- Reads the items of a sequence without indentation; what follows them ends it. -/
def looseItems : Nat → Read (List Node)
  | 0 => fail
  | fuel + 1 => do
    match ← peek with
    | some .blockEntry =>
      skip
      let next ← peek
      let item ← if next = some .blockEntry || endsEntry next then pure .empty else node fuel .block
      return item :: (← looseItems fuel)
    | _ => return []

/-- Reads the entries of a block mapping and its end. -/
def blockEntries : Nat → Read (List (Node × Node))
  | 0 => fail
  | fuel + 1 => do
    match ← peek with
    | some .key =>
      skip
      let key ← if endsEntry (← peek) then pure .empty else node fuel .entry
      let value ← match ← peek with
        | some .value =>
          skip
          if endsEntry (← peek) then pure .empty else node fuel .entry
        | _ => pure .empty
      return (key, value) :: (← blockEntries fuel)
    | some .blockEnd =>
      skip
      return []
    | _ => fail

/-- Reads the items of a flow sequence and its end. A key among them makes a mapping of one entry. -/
def flowItems : Nat → Bool → Read (List Node)
  | 0, _ => fail
  | fuel + 1, first => do
    if (← peek) = some .flowSequenceEnd then
      skip
      return []
    if !first then
      if (← peek) = some .flowEntry then skip else fail
    match ← peek with
    | some .flowSequenceEnd =>
      skip
      return []
    | some .key =>
      skip
      let entry ← flowPair fuel
      return .mapping ⟨none, none⟩ [entry] :: (← flowItems fuel false)
    | _ =>
      let item ← node fuel .flow
      return item :: (← flowItems fuel false)

/-- Reads a single entry of a flow sequence behind the sign of its key. Without a key
the sign that ends it is lost. -/
def flowPair : Nat → Read (Node × Node)
  | 0 => fail
  | fuel + 1 => do
    let key ← match ← peek with
      | some .value | some .flowEntry | some .flowSequenceEnd =>
        skip
        pure .empty
      | _ => node fuel .flow
    match ← peek with
    | some .value =>
      skip
      match ← peek with
      | some .flowEntry | some .flowSequenceEnd => return (key, .empty)
      | _ => return (key, ← node fuel .flow)
    | _ => return (key, .empty)

/-- Reads the entries of a flow mapping and its end. A key may stand without a value. -/
def flowEntries : Nat → Bool → Read (List (Node × Node))
  | 0, _ => fail
  | fuel + 1, first => do
    if (← peek) = some .flowMappingEnd then
      skip
      return []
    if !first then
      if (← peek) = some .flowEntry then skip else fail
    match ← peek with
    | some .flowMappingEnd =>
      skip
      return []
    | some .key =>
      skip
      let key ← match ← peek with
        | some .value | some .flowEntry | some .flowMappingEnd => pure .empty
        | _ => node fuel .flow
      let value ← match ← peek with
        | some .value =>
          skip
          match ← peek with
          | some .flowEntry | some .flowMappingEnd => pure .empty
          | _ => node fuel .flow
        | _ => pure .empty
      return (key, value) :: (← flowEntries fuel false)
    | _ =>
      let key ← node fuel .flow
      return (key, .empty) :: (← flowEntries fuel false)

end

/-- Reads the directives before a document: at most one version, which has to be 1.1 or 1.2, and handles for
tags, each at most once. The standard handles can be given another meaning. -/
def directives : Nat → Bool → List (Text × Text) → Read Unit
  | 0, _, _ => fail
  | fuel + 1, versioned, handles => do
    match ← peek with
    | some (.versionDirective major minor) =>
      if versioned || major ≠ 1 || (minor ≠ 1 && minor ≠ 2) then fail
      skip
      directives fuel true handles
    | some (.tagDirective handle lead) =>
      if handles.any (·.1 == handle) then fail
      skip
      directives fuel versioned (handles ++ [(handle, lead)])
    | _ => modify fun s => { s with handles := handles ++ standardHandles }

/-- Reads the node of the first document. -/
def document (fuel : Nat) : Read Node := do
  match ← peek with
  | some (.versionDirective _ _) | some (.tagDirective _ _) | some .documentStart =>
    directives fuel false []
    if (← peek) ≠ some .documentStart then fail
    skip
    match ← peek with
    | none | some .documentStart | some .documentEnd | some (.versionDirective _ _) | some (.tagDirective _ _) =>
      return .empty
    | _ => node fuel .block
  | _ => node fuel .block

end NodeReader

/-- The node of a text with one document; a text without tokens has none. -/
def Node.ofText? (t : Text) : Option (Option Node) := do
  let tokens ← Token.ofText? t
  if tokens.isEmpty then return none
  let (node, s) ← NodeReader.document (3 * tokens.length + 3) ⟨tokens, [], NodeReader.standardHandles⟩
  if s.tokens.all (· == .documentEnd) then return some node else none

end ApiLinks.Yaml

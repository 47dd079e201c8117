import ApiLinks.Data
import ApiLinks.Value

/-!
# Values by shape

A document value is classified by its shape: null says nothing, a scalar is its text, and a
collection of scalars is the collection of their texts. Tags do not count. Collections
inside of collections have no value.
-/

namespace ApiLinks

/-- Why a document value has no shape. -/
inductive ShapeError where
  /-- An item of a sequence is no scalar. -/
  | item
  /-- A key of a mapping is no scalar. -/
  | key
  /-- The value under a key is no scalar. -/
  | value (key : Text)
  deriving DecidableEq, Repr

def ShapeError.message : ShapeError → Text
  | item => "Sequence items must be scalars".toList
  | key => "Mapping keys must be scalars".toList
  | value k => "Value of mapping key '".toList ++ k ++ "' must be a scalar".toList

namespace Data

/-- The text of a scalar, with or without tags. -/
def scalarText? : Data → Option Text
  | bool b => some (if b then "true".toList else "false".toList)
  | number n => some n.toText
  | string t => some t
  | tagged _ value => scalarText? value
  | null | sequence _ | mapping _ => none

def itemTexts : List Data → Except ShapeError (List Text)
  | [] => .ok []
  | item :: rest =>
    match scalarText? item with
    | none => .error .item
    | some text => (itemTexts rest).map (text :: ·)

/-- The texts of entries; of an entry the key is looked at first. -/
def entryTexts : List (Data × Data) → Except ShapeError (List (Text × Text))
  | [] => .ok []
  | (key, value) :: rest =>
    match scalarText? key with
    | none => .error .key
    | some keyText =>
      match scalarText? value with
      | none => .error (.value keyText)
      | some valueText => (entryTexts rest).map ((keyText, valueText) :: ·)

/-- The value by the shape; null has none. -/
def value? : Data → Except ShapeError (Option Value)
  | null => .ok none
  | sequence items => (itemTexts items).map fun texts => some (.sequence texts)
  | mapping entries => (entryTexts entries).map fun texts => some (.mapping texts)
  | tagged _ value => value? value
  | d => .ok (d.scalarText?.map .scalar)

end Data

end ApiLinks

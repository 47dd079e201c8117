import ApiLinks.Data

/-!
# JSON

A JSON text is read in two steps: into a tree, and from the tree into what is wanted. The tree admits texts
and numbers that are well written and mean nothing, such as half of a surrogate pair or a number out of
range; whoever asks for their meaning fails, and whoever passes over them does not.

`ofData?` writes a document value as a tree, and `data?` reads it back.
-/

namespace ApiLinks

/-- A JSON value. -/
inductive Json where
  | null
  | bool (b : Bool)
  | number (n : Option Numeral)
  | string (t : Option Text)
  | array (items : List Json)
  | object (members : List (Option Text × Json))
  deriving Repr, Inhabited

namespace Json

/-- A text that means itself. -/
def ofText (t : Text) : Json := string (some t)

/-- The text of a JSON string. -/
def text? : Json → Option Text
  | string t => t
  | _ => none

/-- The truth value of a JSON literal. -/
def bool? : Json → Option Bool
  | bool b => some b
  | _ => none

/-! ### Document values -/

/-- Objects and arrays are nested less deeply than this. -/
def depthLimit : Nat := 128

/-- The entries of an object whose keys are all different. -/
def distinctKeys : List (Data × Data) → Bool
  | [] => true
  | (k, _) :: rest => !Data.hasKey rest k && distinctKeys rest

mutual

/-- The document value that a JSON value means, with arrays and objects nested less than `depth` deep. -/
def data? (depth : Nat) : Json → Option Data
  | null => some .null
  | bool b => some (.bool b)
  | number n => n.map .number
  | string t => t.map .string
  | array items =>
    match depth with
    | 0 | 1 => none
    | depth + 1 => (dataItems? depth items).map .sequence
  | object members =>
    match depth with
    | 0 | 1 => none
    | depth + 1 => do
      let entries ← dataEntries? depth members
      if distinctKeys entries then some (.mapping entries) else none

def dataItems? (depth : Nat) : List Json → Option (List Data)
  | [] => some []
  | item :: rest => do return (← data? depth item) :: (← dataItems? depth rest)

def dataEntries? (depth : Nat) : List (Option Text × Json) → Option (List (Data × Data))
  | [] => some []
  | (key, value) :: rest => do return (.string (← key), ← data? depth value) :: (← dataEntries? depth rest)

end

/-- Reals of JSON texts show a sign in front of every exponent. -/
def realLayout : Number.Layout := { Numeral.layout with exponentPlus := ['+'] }

/-- The text of a number in JSON, if it has one. -/
def numeralText? : Numeral → Option Text
  | .integer n => some (Number.ofInt n)
  | .real x => if x.isFinite then some (realLayout.write Number.double x) else none

/-- The text that a document value has as the key of an object, if it can be one. -/
def keyText? : Data → Option Text
  | .string t => some t
  | .bool b => some (if b then "true".toList else "false".toList)
  | .number n => numeralText? n
  | _ => none

mutual

/-- A document value as JSON: reals that are not finite become null, a tag becomes the key of its value, and
the keys of mappings have to be scalars. -/
def ofData? : Data → Option Json
  | .null => some null
  | .bool b => some (bool b)
  | .number n => some ((numeralText? n).elim null fun _ => number (some n))
  | .string t => some (ofText t)
  | .sequence items => (ofItems? items).map array
  | .mapping entries => (ofEntries? entries).map object
  | .tagged tag value => (ofData? value).map fun j => object [(some ('!' :: tag), j)]

def ofItems? : List Data → Option (List Json)
  | [] => some []
  | item :: rest => do return (← ofData? item) :: (← ofItems? rest)

def ofEntries? : List (Data × Data) → Option (List (Option Text × Json))
  | [] => some []
  | (key, value) :: rest => do return (some (← keyText? key), ← ofData? value) :: (← ofEntries? rest)

end

end Json

end ApiLinks

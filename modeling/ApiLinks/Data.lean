import ApiLinks.Number.Layout

/-!
# Document values

The values that a document in YAML or JSON can hold. A mapping keeps its entries in order; no two of its
keys are the same value. A tag marks a value without changing it.

`untagged_untagged` : taking all tags off leaves no tag.
-/

namespace ApiLinks

/-- A number of a document. -/
inductive Numeral where
  | integer (n : Int)
  | real (x : Number.FloatingPoint)
  deriving DecidableEq, Repr

namespace Numeral

/-- Integers are the same if equal, reals if they are written the same up to the sign of zero. -/
def same : Numeral → Numeral → Bool
  | integer m, integer n => m == n
  | real x, real y => x.same y
  | _, _ => false

/-- Reals of a document show that they are real, and have an exponent from ten to the sixteenth on and
below ten to the minus fifth. -/
def layout : Number.Layout where
  tie := .even
  positional := fun point => -5 < point && point ≤ 16
  wholeMark := ".0".toList
  exponentPlus := []
  nan := ".nan".toList
  infinity := ".inf".toList

def toText : Numeral → Text
  | integer n => Number.ofInt n
  | real x => layout.write Number.double x

end Numeral

/-- A value of a document. -/
inductive Data where
  | null
  | bool (b : Bool)
  | number (n : Numeral)
  | string (t : Text)
  | sequence (items : List Data)
  | mapping (entries : List (Data × Data))
  | tagged (tag : Text) (value : Data)
  deriving Repr, Inhabited

namespace Data

mutual

/-- Whether two values are the same; the order of a mapping's entries does not count. -/
def same : Data → Data → Bool
  | null, null => true
  | bool a, bool b => a == b
  | number a, number b => a.same b
  | string a, string b => a == b
  | sequence as, sequence bs => sameItems as bs
  | mapping as, mapping bs => as.length == bs.length && sameEntries as bs
  | tagged s a, tagged t b => s == t && same a b
  | _, _ => false

/-- Whether two lists have the same values in the same places. -/
def sameItems : List Data → List Data → Bool
  | [], [] => true
  | a :: as, b :: bs => same a b && sameItems as bs
  | _, _ => false

/-- Whether every entry of the first list has its like in the second. -/
def sameEntries : List (Data × Data) → List (Data × Data) → Bool
  | [], _ => true
  | (k, v) :: rest, bs => bs.any (fun (l, w) => same k l && same v w) && sameEntries rest bs

end

mutual

/-- The value with the tags taken off at every depth. -/
def untagged : Data → Data
  | sequence items => sequence (untaggedItems items)
  | mapping entries => mapping (untaggedEntries entries)
  | tagged _ value => untagged value
  | value => value

def untaggedItems : List Data → List Data
  | [] => []
  | item :: rest => untagged item :: untaggedItems rest

def untaggedEntries : List (Data × Data) → List (Data × Data)
  | [] => []
  | (key, value) :: rest => (untagged key, untagged value) :: untaggedEntries rest

end

mutual

theorem untagged_untagged : ∀ d : Data, d.untagged.untagged = d.untagged
  | null => rfl
  | bool _ => rfl
  | number _ => rfl
  | string _ => rfl
  | sequence items => by simp only [untagged, untaggedItems_untaggedItems items]
  | mapping entries => by simp only [untagged, untaggedEntries_untaggedEntries entries]
  | tagged _ value => by simp only [untagged, untagged_untagged value]

theorem untaggedItems_untaggedItems :
    ∀ items : List Data, untaggedItems (untaggedItems items) = untaggedItems items
  | [] => rfl
  | item :: rest => by simp only [untaggedItems, untagged_untagged item, untaggedItems_untaggedItems rest]

theorem untaggedEntries_untaggedEntries :
    ∀ entries : List (Data × Data), untaggedEntries (untaggedEntries entries) = untaggedEntries entries
  | [] => rfl
  | (key, value) :: rest => by
    simp only [untaggedEntries, untagged_untagged key, untagged_untagged value,
      untaggedEntries_untaggedEntries rest]

end

/-- Whether some entry has a key that is the same value. -/
def hasKey (entries : List (Data × Data)) (key : Data) : Bool := entries.any fun (k, _) => same k key

end Data

end ApiLinks

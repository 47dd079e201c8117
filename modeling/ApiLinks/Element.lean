import ApiLinks.Number.Layout
import ApiLinks.Number.Literal
import ApiLinks.NameMap
import ApiLinks.Value

/-!
# Elements

Typed scalars from which values are made: texts, characters, truth values, integers of a range and
floating-point numbers, with the texts that they are read from and written as.
-/

namespace ApiLinks

/-- The type of an element. -/
inductive ElementType where
  | text
  | char
  | bool
  /-- The integers from `low` to `high`; a minus sign is read only where
  negative numbers belong to the range. -/
  | integer (low high : Int)
  | real (format : Number.Format)
  deriving DecidableEq, Repr

namespace ElementType

/-- Signed integers of so many bits. -/
def signed (bits : Nat) : ElementType := integer (-(Nat.pow 2 (bits - 1) : Int)) (Nat.pow 2 (bits - 1) - 1)

/-- Unsigned integers of so many bits. -/
def unsigned (bits : Nat) : ElementType := integer 0 (Nat.pow 2 bits - 1)

end ElementType

/-- A typed scalar. -/
inductive Element where
  | text (t : Text)
  | char (c : Char)
  | bool (b : Bool)
  | integer (n : Int)
  | real (format : Number.Format) (x : Number.FloatingPoint)
  deriving DecidableEq, Repr

namespace Element

/-- Numbers without exponent and without a mark on whole numbers. -/
def layout : Number.Layout where
  tie := .up
  positional := fun _ => true
  wholeMark := []
  exponentPlus := []
  nan := "NaN".toList
  infinity := "inf".toList

def read? : ElementType → Text → Option Element
  | .text, t => some (text t)
  | .char, [c] => some (char c)
  | .char, _ => none
  | .bool, t =>
    if t = "true".toList then some (bool true)
    else if t = "false".toList then some (bool false)
    else none
  | .integer low high, t =>
    let n := if low < 0 then Number.signed? 10 t else (Number.unsigned? 10 t).map Int.ofNat
    match n with
    | some n => if low ≤ n ∧ n ≤ high then some (integer n) else none
    | none => none
  | .real f, t => (Number.real? f t).map (real f)

def toText : Element → Text
  | text t => t
  | char c => [c]
  | bool b => if b then "true".toList else "false".toList
  | integer n => Number.ofInt n
  | real f x => layout.write f x

/-- Texts in the order of their characters, integers in the order of their values. -/
def precedes : Element → Element → Bool
  | integer m, integer n => decide (m < n)
  | a, b => decide (a.toText < b.toText)

end Element

namespace Value

def ofElement (e : Element) : Value := scalar e.toText

def ofElements (es : List Element) : Value := sequence (es.map Element.toText)

/-- A mapping of entries in the given order, equal keys included. -/
def ofEntries (es : List (Element × Element)) : Value := mapping (es.map fun (k, v) => (k.toText, v.toText))

/-- Places an entry among entries in ascending order of the keys; an entry with an equal key gives way. -/
def placeEntry (entry : Element × Element) : List (Element × Element) → List (Element × Element)
  | [] => [entry]
  | head :: rest =>
    if entry.1.precedes head.1 then entry :: head :: rest
    else if head.1.precedes entry.1 then head :: placeEntry entry rest
    else entry :: rest

/-- A mapping of entries in ascending order of the keys; the last entry of a key stays. -/
def ofSortedEntries (es : List (Element × Element)) : Value :=
  ofEntries (es.foldl (fun placed e => placeEntry e placed) [])

end Value

end ApiLinks

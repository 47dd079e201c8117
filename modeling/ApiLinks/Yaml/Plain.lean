import ApiLinks.Data
import ApiLinks.Number.Literal

/-!
# The type of plain scalars

A plain scalar means null, a truth value, an integer, a real number or, failing these, its own text.
-/

namespace ApiLinks.Yaml

/-- Whether a text is one of the words for null. -/
def isNullWord (t : Text) : Bool :=
  t == ['~'] || t == "null".toList || t == "Null".toList || t == "NULL".toList

/-- The truth value that a text means. -/
def bool? (t : Text) : Option Bool :=
  if t = "true".toList ∨ t = "True".toList ∨ t = "TRUE".toList then some true
  else if t = "false".toList ∨ t = "False".toList ∨ t = "FALSE".toList then some false
  else none

/-- Digits behind a needless zero are no number. -/
def isPaddedDigits (t : Text) : Bool :=
  let digits := match t with
    | '-' :: rest | '+' :: rest => rest
    | _ => t
  match digits with
  | '0' :: d :: rest => (d :: rest).all Char.isDigit
  | _ => false

/-- The radix that a mark at the start of a number asks for, and the digits behind it. -/
def radixMark : Text → Option (Nat × Text)
  | '0' :: 'x' :: rest => some (16, rest)
  | '0' :: 'o' :: rest => some (8, rest)
  | '0' :: 'b' :: rest => some (2, rest)
  | _ => none

/-- The integer that a text means, of whatever size: digits with an optional sign and
an optional mark of the radix. -/
def integer? (t : Text) : Option Int :=
  let (negative, unsigned) := Number.Literal.splitSign t
  let marked := (radixMark unsigned).bind fun (radix, digits) => Number.nat? radix digits
  let n := match marked with
    | some n => some n
    | none => if isPaddedDigits t then none else Number.nat? 10 unsigned
  n.map fun n => if negative then -(n : Int) else n

/-- The real number that a text means. -/
def real? (t : Text) : Option Number.FloatingPoint :=
  let unsigned := match t with
    | '+' :: rest => rest
    | _ => t
  if t.head? = some '+' ∧ (unsigned.head? = some '+' ∨ unsigned.head? = some '-') then none
  else if unsigned = ".inf".toList ∨ unsigned = ".Inf".toList ∨ unsigned = ".INF".toList then
    some (.infinity false)
  else if t = "-.inf".toList ∨ t = "-.Inf".toList ∨ t = "-.INF".toList then some (.infinity true)
  else if t = ".nan".toList ∨ t = ".NaN".toList ∨ t = ".NAN".toList then some .nan
  else match Number.real? Number.double unsigned with
    | some x => if x.isFinite then some x else none
    | none => none

/-- Integers of documents have 64 bits, signed or unsigned. -/
def isDocumentInteger (n : Int) : Bool := decide (-(Nat.pow 2 63 : Int) ≤ n ∧ n < (Nat.pow 2 64 : Int))

/-- Integers of 128 bits, signed or unsigned, are recognized as such. -/
def isWideInteger (n : Int) : Bool := decide (-(Nat.pow 2 127 : Int) ≤ n ∧ n < (Nat.pow 2 128 : Int))

/-- What an integer means: itself; integers that are too wide are not taken at all, and none are still wider. -/
def ofInteger? (t : Text) : Option (Option Data) :=
  match integer? t with
  | some n =>
    if isDocumentInteger n then some (some (.number (.integer n)))
    else if isWideInteger n then some none
    else none
  | none => none

/-- What a plain scalar means, unless its number is too wide. -/
def plainData? (t : Text) : Option Data :=
  if t.isEmpty || isNullWord t then some .null
  else match bool? t with
    | some b => some (.bool b)
    | none =>
      match ofInteger? t with
      | some d => d
      | none =>
        if isPaddedDigits t then some (.string t)
        else match real? t with
          | some x => some (.number (.real x))
          | none => some (.string t)

end ApiLinks.Yaml

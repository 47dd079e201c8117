import ApiLinks.Number.Digits
import ApiLinks.Number.FloatingPoint

/-!
# Decimal literals

A literal is an optional sign, digits with at most one point among, before or behind them, and an optional
exponent. The words for infinity and the undefined number are read in any case.
-/

namespace ApiLinks.Number

/-- The digits of a literal: those before and behind the point, and the exponent. -/
structure Literal where
  negative : Bool
  whole : Text
  fraction : Text
  exponent : Int
  deriving DecidableEq, Repr

namespace Literal

/-- Takes the sign off a literal. -/
def splitSign : Text → Bool × Text
  | '-' :: rest => (true, rest)
  | '+' :: rest => (false, rest)
  | t => (false, t)

/-- Reads what follows the digits: nothing, or an exponent. -/
def exponent? : Text → Option Int
  | [] => some 0
  | c :: rest => if c = 'e' ∨ c = 'E' then signed? 10 rest else none

def ofText? (t : Text) : Option Literal :=
  let (negative, t) := splitSign t
  let (whole, rest) := t.span Char.isDigit
  let (fraction, rest) := match rest with
    | '.' :: rest => rest.span Char.isDigit
    | _ => ([], rest)
  if whole.isEmpty && fraction.isEmpty then none
  else (exponent? rest).map fun e => ⟨negative, whole, fraction, e⟩

/-- The number of a format nearest to a literal. -/
def toFloatingPoint (f : Format) (l : Literal) : FloatingPoint :=
  let digits := (l.whole ++ l.fraction).dropWhile (· == '0')
  f.ofDecimal l.negative ((nat? 10 digits).getD 0) digits.length (l.exponent - l.fraction.length)

end Literal

/-- The words that denote no finite number. -/
def word? (t : Text) : Option FloatingPoint :=
  let (negative, word) := Literal.splitSign t
  let word := word.map Char.toLower
  if word = "inf".toList ∨ word = "infinity".toList then some (.infinity negative)
  else if word = "nan".toList then some .nan
  else none

/-- Reads a number of a format. -/
def real? (f : Format) (t : Text) : Option FloatingPoint :=
  match word? t with
  | some x => some x
  | none => (Literal.ofText? t).map (Literal.toFloatingPoint f)

end ApiLinks.Number

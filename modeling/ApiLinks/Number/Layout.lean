import ApiLinks.Number.Digits
import ApiLinks.Number.Shortest

/-!
# Layouts of decimals

How a floating-point number is written is one record per place of use: where the point may stand
without an exponent, what follows a whole number, how an exponent is marked, and the texts of
the numbers that have no digits.
-/

namespace ApiLinks.Number

/-- The decisions of one written form. -/
structure Layout where
  /-- Which of two equally near shortest decimals is taken. -/
  tie : Tie
  /-- Whether a number is written without exponent, by the number of its digits before the point. -/
  positional : Int → Bool
  /-- What follows the digits of a whole number. -/
  wholeMark : Text
  /-- The sign of an exponent that is not negative. -/
  exponentPlus : Text
  nan : Text
  infinity : Text

namespace Layout

/-- A decimal without exponent. -/
def positionally (l : Layout) (digits : Text) (point : Int) : Text :=
  if point ≤ 0 then '0' :: '.' :: List.replicate (-point).toNat '0' ++ digits
  else if (digits.length : Int) ≤ point then
    digits ++ List.replicate (point.toNat - digits.length) '0' ++ l.wholeMark
  else digits.take point.toNat ++ '.' :: digits.drop point.toNat

/-- A decimal with one digit before the point and an exponent. -/
def scientifically (l : Layout) (digits : Text) (point : Int) : Text :=
  let e := point - 1
  let mantissa := match digits with
    | [] => []
    | [d] => [d]
    | d :: rest => d :: '.' :: rest
  mantissa ++ 'e' :: (if 0 ≤ e then l.exponentPlus ++ ofInt e else ofInt e)

def decimal (l : Layout) (d : Decimal) : Text :=
  let digits := ofNat d.digits
  let point := d.exponent + digits.length
  if l.positional point then l.positionally digits point else l.scientifically digits point

def write (l : Layout) (f : Format) : FloatingPoint → Text
  | .nan => l.nan
  | .infinity negative => if negative then '-' :: l.infinity else l.infinity
  | .finite negative mantissa q =>
    let text := if mantissa = 0 then '0' :: l.wholeMark else l.decimal (Decimal.shortest f l.tie mantissa q)
    if negative then '-' :: text else text

end Layout

end ApiLinks.Number

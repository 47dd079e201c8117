import ApiLinks.Data

/-!
# Numbers in JSON texts

An integer of 64 bits, signed or unsigned, is read exactly. Any other number is a real: its leading digits,
as many as make up a whole number of 64 bits, are rounded to a double, and the power of ten that is left
scales it with one more rounding. A real that overflows means nothing.
-/

namespace ApiLinks.Json

open Number (FloatingPoint double)

/-- Whole numbers below this have 64 bits. -/
def wordBound : Nat := Nat.pow 2 64

/-- The number of digits at the front that make up a number below the bound, with that number. -/
def significand : Text → Nat → Nat → Nat × Nat
  | [], n, count => (n, count)
  | c :: rest, n, count =>
    let next := 10 * n + (c.toNat - '0'.toNat)
    if next < wordBound then significand rest next (count + 1) else (n, count)

/-- The greatest power of ten that is a double. -/
def maxPower : Nat := 308

/-- A power of ten as a double. -/
def power (n : Nat) : FloatingPoint := double.round false (Nat.pow 10 n) 1

/-- Scales a positive double by a power of ten; `fuel` bounds the number of divisions. -/
def scale : Nat → FloatingPoint → Int → Option FloatingPoint
  | 0, _, _ => none
  | fuel + 1, x, e =>
    if e.natAbs ≤ maxPower then
      if 0 ≤ e then
        let y := double.mul x (power e.natAbs)
        if y.isFinite then some y else none
      else some (double.div x (power e.natAbs))
    else if x.same (double.round false 0 1) then some x
    else if 0 ≤ e then none
    else scale fuel (double.div x (power maxPower)) (e + maxPower)

/-- Four divisions by the greatest power of ten make zero of every double. -/
def scaleFuel : Nat := 6

/-- Exponents are read as far as they have 32 bits. -/
def exponentBound : Nat := Nat.pow 2 31

/-- The real of a significand and an exponent, the exponent given by its sign and its digits and added to
what the digits of the number ask for. -/
def realOf? (n : Nat) (shift : Int) (negativeExponent : Bool) (exponent : Nat) : Option FloatingPoint :=
  if exponent < exponentBound then
    let e := if negativeExponent then shift - exponent else shift + exponent
    scale scaleFuel (double.round false n 1) e
  else if n ≠ 0 ∧ !negativeExponent then none
  else some (double.round false 0 1)

/-- The number of a sign, the digits before the point, those behind it and an exponent. -/
def numeral? (negative : Bool) (whole : Text) (fraction : Option Text) (exponent : Option (Bool × Text)) :
    Option Numeral :=
  let (n, count) := significand whole 0 0
  let signed (x : FloatingPoint) : Numeral := .real (if negative then x.negate else x)
  match fraction, exponent with
  | none, none =>
    if count = whole.length then
      if !negative then some (.integer n)
      else if 0 < n ∧ n ≤ Nat.pow 2 63 then some (.integer (-(n : Int)))
      else some (signed (double.round false n 1))
    else (realOf? n (whole.length - count) false 0).map signed
  | _, _ =>
    let fraction := fraction.getD []
    let (negativeExponent, digits) := exponent.getD (false, [])
    let exponent := digits.foldl (fun e c => 10 * e + (c.toNat - '0'.toNat)) 0
    let cut : Int := whole.length - count
    let (n, behind) := significand fraction n 0
    (realOf? n (cut - behind) negativeExponent exponent).map signed

end ApiLinks.Json

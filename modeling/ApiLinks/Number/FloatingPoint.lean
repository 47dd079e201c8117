/-!
# Binary floating-point numbers

A finite number of a format is a signed mantissa times a power of two. `Format.round` gives the number
nearest to a quotient, the one with the even mantissa at a tie.
-/

namespace ApiLinks.Number

/-- A binary floating-point format: the bits of a mantissa and the bounds of the exponent of its last bit. -/
structure Format where
  precision : Nat
  minExponent : Int
  maxExponent : Int
  deriving DecidableEq, Repr

/-- The format of 64 bits. -/
def double : Format := ⟨53, -1074, 971⟩

/-- The format of 32 bits. -/
def single : Format := ⟨24, -149, 104⟩

inductive FloatingPoint where
  | nan
  | infinity (negative : Bool)
  /-- The number `mantissa · 2 ^ exponent` with a sign. -/
  | finite (negative : Bool) (mantissa : Nat) (exponent : Int)
  deriving DecidableEq, Repr

namespace FloatingPoint

/-- Whether the number is neither infinite nor undefined. -/
def isFinite : FloatingPoint → Bool
  | finite _ _ _ => true
  | _ => false

/-- Equality of what is written: the two zeros are equal, and so are two undefined numbers. -/
def same : FloatingPoint → FloatingPoint → Bool
  | finite s m q, finite t n r => (m == 0 && n == 0) || (s == t && m == n && q == r)
  | x, y => x == y

def negate : FloatingPoint → FloatingPoint
  | nan => nan
  | infinity s => infinity (!s)
  | finite s m q => finite (!s) m q

end FloatingPoint

/-- The integer nearest to a quotient, the even one at a tie. -/
def roundQuotient (num den : Nat) : Nat :=
  let q := num / den
  let twice := 2 * (num % den)
  if twice < den then q
  else if den < twice then q + 1
  else if q % 2 = 0 then q else q + 1

namespace Format

/-- The number of the format nearest to `num / den`, for a positive `den`. -/
def round (f : Format) (negative : Bool) (num den : Nat) : FloatingPoint :=
  if num = 0 then .finite negative 0 f.minExponent
  else
    -- with exponent `e` the quotient has one bit more than the precision, or just as many
    let e : Int := (num.log2 : Int) - (den.log2 : Int) - (f.precision : Int)
    let fits (e : Int) : Bool := num * Nat.pow 2 (-e).toNat < den * Nat.pow 2 e.toNat * Nat.pow 2 f.precision
    let e := if fits e then e else e + 1
    let e := max e f.minExponent
    let m := roundQuotient (num * Nat.pow 2 (-e).toNat) (den * Nat.pow 2 e.toNat)
    let (m, e) := if m = Nat.pow 2 f.precision then (m / 2, e + 1) else (m, e)
    if f.maxExponent < e then .infinity negative else .finite negative m e

/-- Decimal exponents from which on a number of few digits overflows, or below which it vanishes. -/
def decimalBound : Int := 400

/-- The number of the format nearest to `digits · 10 ^ exponent`, where `digits` has `count` decimal digits. -/
def ofDecimal (f : Format) (negative : Bool) (digits count : Nat) (exponent : Int) : FloatingPoint :=
  if digits = 0 then f.round negative 0 1
  else if decimalBound < exponent + count then .infinity negative
  else if exponent + count < -decimalBound then f.round negative 0 1
  else f.round negative (digits * Nat.pow 10 exponent.toNat) (Nat.pow 10 (-exponent).toNat)

/-- The product of two finite numbers, rounded; other numbers have none. -/
def mul (f : Format) : FloatingPoint → FloatingPoint → FloatingPoint
  | .finite s m q, .finite t n r =>
    f.round (s != t) (m * n * Nat.pow 2 (q + r).toNat) (Nat.pow 2 (-(q + r)).toNat)
  | _, _ => .nan

/-- The quotient of two finite numbers, rounded; the second one is not zero. -/
def div (f : Format) : FloatingPoint → FloatingPoint → FloatingPoint
  | .finite s m q, .finite t n r =>
    f.round (s != t) (m * Nat.pow 2 (q - r).toNat) (n * Nat.pow 2 (r - q).toNat)
  | _, _ => .nan

end Format

end ApiLinks.Number

import ApiLinks.Text.Basic

/-!
# Digits

Natural numbers and integers as texts of digits, in any radix up to thirty-six.
-/

namespace ApiLinks.Number

/-- The value of a character as a digit of either case, if it is one below the radix. -/
def digit? (radix : Nat) (c : Char) : Option Nat :=
  let n := c.toNat
  let value :=
    if 0x30 ≤ n && n ≤ 0x39 then n - 0x30
    else if 0x41 ≤ n && n ≤ 0x5A then n - 0x41 + 10
    else if 0x61 ≤ n && n ≤ 0x7A then n - 0x61 + 10
    else radix
  if value < radix then some value else none

/-- Reads digits behind a number read so far. -/
def natFrom? (radix : Nat) : Nat → Text → Option Nat
  | n, [] => some n
  | n, c :: rest =>
    match digit? radix c with
    | some d => natFrom? radix (n * radix + d) rest
    | none => none

/-- The number that a text of digits denotes; an empty text denotes none. -/
def nat? (radix : Nat) (t : Text) : Option Nat :=
  if t.isEmpty then none else natFrom? radix 0 t

/-- The number that digits after an optional plus sign denote. -/
def unsigned? (radix : Nat) : Text → Option Nat
  | '+' :: rest => nat? radix rest
  | t => nat? radix t

/-- The integer that digits after an optional sign denote. -/
def signed? (radix : Nat) : Text → Option Int
  | '-' :: rest => (nat? radix rest).map fun n => -(n : Int)
  | t => (unsigned? radix t).map Int.ofNat

/-- A natural number in decimal. -/
def ofNat (n : Nat) : Text := Nat.toDigits 10 n

/-- An integer in decimal. -/
def ofInt : Int → Text
  | .ofNat n => ofNat n
  | .negSucc n => '-' :: ofNat (n + 1)

end ApiLinks.Number

import ApiLinks.Url.Basic

/-!
# IPv4 addresses

One to four numbers between points, in decimal, octal or hexadecimal; the last one
fills all the bytes that are left.
-/

namespace ApiLinks.Host

/-- The number that a part denotes: by a mark hexadecimal, behind a zero octal, else decimal.
A mark without digits is zero. -/
def ipv4Part? (t : Text) : Option Nat :=
  match t with
  | [] => none
  | '0' :: 'x' :: digits | '0' :: 'X' :: digits => if digits.isEmpty then some 0 else Number.nat? 16 digits
  | '0' :: d :: digits => Number.nat? 8 (d :: digits)
  | _ => Number.nat? 10 t

/-- The parts between the points, without an empty last one. -/
def ipv4Parts (t : Text) : List Text :=
  let parts := t.splitOn '.'
  if 1 < parts.length && parts.getLast? == some [] then parts.dropLast else parts

/-- A domain whose last part is a number is taken for an address. -/
def endsInNumber (t : Text) : Bool :=
  match (ipv4Parts t).getLast? with
  | some last => (!last.isEmpty && last.all Char.isDigit) || (ipv4Part? last).isSome
  | none => false

/-- The address of the numbers before the last one and the last one. -/
def ipv4Address (bytes : List Nat) (last : Nat) : Option Nat :=
  if bytes.all (· < 256) && decide (last < Nat.pow 256 (4 - bytes.length)) then
    some (bytes.foldr (fun b (sum, weight) => (sum + b * weight, weight * 256))
      (last, Nat.pow 256 (4 - bytes.length)) |>.1)
  else none

def ofIpv4? (t : Text) : Option Host := do
  let parts := ipv4Parts t
  if 4 < parts.length then none
  let numbers ← parts.mapM ipv4Part?
  let last ← numbers.getLast?
  return .ipv4 (← ipv4Address numbers.dropLast last)

end ApiLinks.Host

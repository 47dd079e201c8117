import ApiLinks.Url.Basic

/-!
# IPv6 addresses

Eight pieces of at most four hexadecimal digits between colons. Two colons stand once for a run of zeros,
and an IPv4 address can be the last two pieces.
-/

namespace ApiLinks.Host

/-- A byte of an embedded IPv4 address: at most three digits, no needless zero. -/
def embeddedByte? (t : Text) : Option Nat :=
  match t with
  | '0' :: _ :: _ => none
  | _ =>
    if 3 < t.length then none
    else match Number.nat? 10 t with
      | some n => if n < 256 then some n else none
      | none => none

/-- The two pieces of an embedded IPv4 address. -/
def embeddedPieces? (t : Text) : Option (List Nat) :=
  match (t.splitOn '.').mapM embeddedByte? with
  | some [a, b, c, d] => some [256 * a + b, 256 * c + d]
  | _ => none

/-- A piece of at most four digits. -/
def piece? (t : Text) : Option Nat := if 4 < t.length then none else Number.nat? 16 t

/-- The pieces between colons; the last one may be an embedded address. -/
def pieces? : List Text → Option (List Nat)
  | [] => some []
  | [last] => if last.contains '.' then embeddedPieces? last else (piece? last).map fun n => [n]
  | first :: rest => do return (← piece? first) :: (← pieces? rest)

/-- The pieces of one side of two colons. -/
def sidePieces? (t : Text) : Option (List Nat) := if t.isEmpty then some [] else pieces? (t.splitOn ':')

/-- The two sides of the first two colons. -/
def cutAtColons : Text → Option (Text × Text)
  | ':' :: ':' :: rest => some ([], rest)
  | c :: rest => (cutAtColons rest).map fun (left, right) => (c :: left, right)
  | [] => none

/-- Reads an IPv6 address without its brackets. -/
def ofIpv6? (t : Text) : Option Host := do
  match cutAtColons t with
  | none =>
    let ps ← sidePieces? t
    if ps.length = 8 then return .ipv6 ps else none
  | some (left, right) =>
    if left.contains '.' then none
    let before ← sidePieces? left
    let after ← sidePieces? right
    let zeros := 8 - before.length - after.length
    if before.length + after.length < 8 then return .ipv6 (before ++ List.replicate zeros 0 ++ after) else none

end ApiLinks.Host

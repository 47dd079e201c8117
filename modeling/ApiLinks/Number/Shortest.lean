import ApiLinks.Number.FloatingPoint

/-!
# Shortest decimals

The decimal of fewest digits that reads back as a given floating-point number,
and among those the nearest to it.

The reals that round to `m · 2 ^ q` reach half a step to either side, on the lower side a quarter of a step
where the steps below are shorter; the ends belong to them iff `m` is even. Four times the number and the
ends are whole multiples of one power of ten, so that each decimal grid is tried in exact arithmetic: the
grid of one digit first, then two, and so on, each at the two neighbours of the number.
-/

namespace ApiLinks.Number

/-- Which of two equally near decimals is taken. -/
inductive Tie where
  | up
  | even
  deriving DecidableEq, Repr

/-- A decimal `digits · 10 ^ exponent`. -/
structure Decimal where
  digits : Nat
  exponent : Int
  deriving DecidableEq, Repr

namespace Decimal

/-- Three numbers over one power of ten: the lower end of an interval, the number, the upper end. -/
structure Interval where
  low : Nat
  mid : Nat
  high : Nat
  closed : Bool
  exponent : Int

/-- The interval of the reals that round to a positive number of a format. -/
def interval (f : Format) (mantissa : Nat) (q : Int) : Interval :=
  let narrow := mantissa = Nat.pow 2 (f.precision - 1) ∧ f.minExponent < q
  let e := q - 2
  let factor := if 0 ≤ e then Nat.pow 2 e.toNat else Nat.pow 5 (-e).toNat
  ⟨(4 * mantissa - if narrow then 1 else 2) * factor, 4 * mantissa * factor, (4 * mantissa + 2) * factor,
    mantissa % 2 = 0, min e 0⟩

/-- Whether a multiple of the power of ten lies in the interval. -/
def Interval.holds (i : Interval) (x : Nat) : Bool :=
  if i.closed then decide (i.low ≤ x ∧ x ≤ i.high) else decide (i.low < x ∧ x < i.high)

/-- The neighbour of the number on the grid of `n` digits that lies in the interval, the nearer one of two. -/
def Interval.onGrid (i : Interval) (tie : Tie) (size n : Nat) : Option Decimal :=
  let shift := size - n
  let grid := Nat.pow 10 shift
  let below := i.mid / grid
  let lo := below * grid
  let hi := lo + grid
  let pick (digits : Nat) : Option Decimal := some ⟨digits, i.exponent + shift⟩
  match i.holds lo, i.holds hi with
  | true, false => pick below
  | false, true => pick (below + 1)
  | false, false => none
  | true, true =>
    if i.mid - lo < hi - i.mid then pick below
    else if hi - i.mid < i.mid - lo then pick (below + 1)
    else if tie = .even && below % 2 = 0 then pick below else pick (below + 1)

/-- The decimal without zeros at the end of its digits; `fuel` bounds their number. -/
def stripZeros : Nat → Decimal → Decimal
  | 0, d => d
  | fuel + 1, d =>
    if d.digits ≠ 0 ∧ d.digits % 10 = 0 then stripZeros fuel ⟨d.digits / 10, d.exponent + 1⟩ else d

/-- The shortest decimal of a positive number of a format. -/
def shortest (f : Format) (tie : Tie) (mantissa : Nat) (q : Int) : Decimal :=
  let i := interval f mantissa q
  let size := (Nat.toDigits 10 i.mid).length
  let d := ((List.range size).findSome? fun n => i.onGrid tie size (n + 1)).getD ⟨i.mid, i.exponent⟩
  stripZeros size d

end Decimal

end ApiLinks.Number

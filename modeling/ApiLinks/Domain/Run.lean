import ApiLinks.Number.Digits

/-!
# Runs of characters

A property of characters that a standard lists is held as runs: consecutive code points with a common value.
A list is written as numbers in hexadecimal. Every run begins with the number of code points passed over
since the end of the one before, so the runs are in ascending order and a search halves the list.
-/

namespace ApiLinks.Domain

/-- Consecutive code points with a common value. -/
structure Run (α : Type) where
  first : Nat
  count : Nat
  value : α
  deriving Repr

namespace Run

variable {α : Type}

/-- The run of a code point among disjoint runs in ascending order. -/
def find? (runs : Array (Run α)) (n : Nat) : Option (Run α) := search 0 runs.size (Nat.le_refl _)
where
  /-- The run of the code point among those from `low` on and before `high`. -/
  search (low high : Nat) (h : high ≤ runs.size) : Option (Run α) :=
    if hlow : low < high then
      let middle := (low + high) / 2
      let run := runs[middle]
      if n < run.first then search low middle (by omega)
      else if run.first + run.count ≤ n then search (middle + 1) high h
      else some run
    else none
  termination_by high - low

/-- The numbers of a written list. -/
def numbers (lines : List String) : List Nat :=
  lines.flatMap fun line => (line.toList.splitOn ' ').map fun word => (Number.nat? 16 word).getD 0

/-- The runs of numbers in pairs: how many code points are passed over and how many belong to the run. -/
def ofPairs (start : Nat) : List Nat → List (Run Unit)
  | skip :: count :: rest => ⟨start + skip, count, ()⟩ :: ofPairs (start + skip + count) rest
  | _ => []

/-- The runs of numbers by threes, the third of which is the value. -/
def ofTriples (start : Nat) : List Nat → List (Run Nat)
  | skip :: count :: value :: rest => ⟨start + skip, count, value⟩ :: ofTriples (start + skip + count) rest
  | _ => []

/-- Whether a character belongs to a run. -/
def holds (runs : Array (Run Unit)) (c : Char) : Bool := (find? runs c.toNat).isSome

/-- The value of a character, which is zero outside of the runs. -/
def valueOf (runs : Array (Run Nat)) (c : Char) : Nat := ((find? runs c.toNat).map Run.value).getD 0

end Run

end ApiLinks.Domain

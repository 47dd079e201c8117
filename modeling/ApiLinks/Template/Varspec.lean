import ApiLinks.Number.Digits
import ApiLinks.Text.Blank

/-!
# Variable specifications

The body of an expression holds entries between commas. An entry reads as a variable specification: a name
with a star behind it (explode), with a colon and a length behind it (at most so many characters), or alone.
Reading never fails; an entry that is not in order leaves a notice.

`Varspec.name_ne_nil` : no entry reads as a specification without a name.
-/

namespace ApiLinks

/-- How the value of a variable enters the expansion. -/
inductive Modifier where
  /-- The value as a whole. -/
  | plain
  /-- Every item or entry of the value for itself. -/
  | explode
  /-- At most so many characters of a scalar. -/
  | maxLength (length : Nat)
  deriving DecidableEq, Repr

/-- A variable with its modifier. -/
structure Varspec where
  name : Text
  modifier : Modifier
  deriving DecidableEq, Repr

/-- What reading an entry remarks on. -/
inductive Notice where
  /-- The text after the colon is no length; the entry reads as a plain variable. -/
  | badLength (length name : Text)
  /-- The entry names no variable and is left out. -/
  | nameless (entry : Text)
  deriving DecidableEq, Repr

/-- The outcome of reading one entry. -/
structure EntryReading where
  varspec : Option Varspec
  notices : List Notice
  deriving DecidableEq, Repr

namespace Varspec

/-- Lengths are less than two to the sixty-fourth. -/
def lengthBound : Nat := Nat.pow 2 64

/-- The length that a text denotes: decimal digits after an optional plus sign,
above zero and below the bound. -/
def length? (t : Text) : Option Nat :=
  match Number.unsigned? 10 t with
  | some n => if 0 < n ∧ n < lengthBound then some n else none
  | none => none

/-- Splits a trimmed entry into the name and the modifier. -/
def parts (entry : Text) : Text × Modifier × List Notice :=
  match Text.dropLast? '*' entry with
  | some name => (name.trimEnd, .explode, [])
  | none =>
    match Text.cut? ':' entry with
    | some (name, length) =>
      match length? length.trim with
      | some n => (name.trimEnd, .maxLength n, [])
      | none => (name.trimEnd, .plain, [.badLength length name])
    | none => (entry, .plain, [])

/-- Reads one entry of an expression body. Blank entries say nothing, entries without a name leave a notice. -/
def ofEntry (entry : Text) : EntryReading :=
  let entry := entry.trim
  if entry.isEmpty then ⟨none, []⟩
  else
    let (name, modifier, notices) := parts entry
    if name.isEmpty then ⟨none, notices ++ [.nameless entry]⟩ else ⟨some ⟨name, modifier⟩, notices⟩

theorem name_ne_nil {entry : Text} {v : Varspec} (h : (ofEntry entry).varspec = some v) : v.name ≠ [] := by
  unfold ofEntry at h
  simp only at h
  split at h
  · simp at h
  · split at h
    · simp at h
    · rename_i hn
      simp only [Option.some.injEq] at h
      subst h
      simpa using hn

end Varspec

end ApiLinks

import ApiLinks.Text.Basic

/-!
# Labels in ASCII

A label is written in ASCII as its own ASCII characters and, behind a dash, numbers that tell which other
characters go where. The numbers have digits of base 36, the least significant first, and end at the first
digit below a threshold; the thresholds adapt to the size of the numbers.

`decodeNumber_length` : a number that is read leaves less text, so that decoding ends.
-/

namespace ApiLinks.Domain.Punycode

/-- The number of digits. -/
def base : Nat := 36

def minThreshold : Nat := 1

def maxThreshold : Nat := 26

/-- The bias that the thresholds of the first number are reckoned with. -/
def firstBias : Nat := 72

/-- The first code point that is not ASCII. -/
def firstCode : Nat := 0x80

/-- The character of a digit: letters, then numerals. -/
def digitChar (d : Nat) : Char := if d < 26 then Char.ofNat (0x61 + d) else Char.ofNat (0x30 + (d - 26))

def digit? (c : Char) : Option Nat :=
  if 'a' ≤ c ∧ c ≤ 'z' then some (c.toNat - 0x61)
  else if 'A' ≤ c ∧ c ≤ 'Z' then some (c.toNat - 0x41)
  else if '0' ≤ c ∧ c ≤ '9' then some (c.toNat - 0x30 + 26)
  else none

/-- The threshold of the digit at a place, which is counted in steps of the base. -/
def threshold (bias place : Nat) : Nat := max minThreshold (min maxThreshold (place - bias))

theorem threshold_pos (bias place : Nat) : 1 ≤ threshold bias place := Nat.le_max_left _ _

/-- Scales a number down until the thresholds fit it, and counts the places that this takes. -/
def settle (n places : Nat) : Nat :=
  if h : (base - minThreshold) * maxThreshold / 2 < n then settle (n / (base - minThreshold)) (places + base)
  else places + base * n / (n + 38)
termination_by n
decreasing_by
  simp only [base, minThreshold, maxThreshold] at h ⊢
  omega

/-- The bias behind a number, the first of its label or not, at which so many characters are placed. -/
def adapted (n count : Nat) (first : Bool) : Nat :=
  let n := if first then n / 700 else n / 2
  settle (n + n / count) 0

/-! ### Decoding -/

/-- Adds a number at the start of a text to `n`, where the digit at `place` has the weight `weight`. -/
def decodeNumber (bias place weight n : Nat) : Text → Option (Nat × Text)
  | [] => none
  | c :: rest =>
    match digit? c with
    | none => none
    | some d =>
      let t := threshold bias place
      if d < t then some (n + d * weight, rest)
      else decodeNumber bias (place + base) (weight * (base - t)) (n + d * weight) rest

theorem decodeNumber_length {bias place weight n m : Nat} {t rest : Text}
    (h : decodeNumber bias place weight n t = some (m, rest)) : rest.length < t.length := by
  induction t generalizing place weight n with
  | nil => simp [decodeNumber] at h
  | cons c t ih =>
    rw [decodeNumber] at h
    split at h
    · simp at h
    · simp only at h
      split at h
      · simp only [Option.some.injEq, Prod.mk.injEq] at h
        simp [← h.2]
      · have := ih h
        simp only [List.length_cons]
        omega

def char? (n : Nat) : Option Char := if h : n.isValidChar then some (Char.ofNatAux n h) else none

/-- Places the characters that the numbers of a text tell into `label`, on from a code point and a place. -/
def decodeFrom (label : Text) (code place bias : Nat) (first : Bool) (t : Text) : Option Text :=
  if t.isEmpty then some label
  else
    match h : decodeNumber bias base 1 place t with
    | none => none
    | some (n, rest) =>
      have : rest.length < t.length := decodeNumber_length h
      let count := label.length + 1
      let code := code + n / count
      match char? code with
      | none => none
      | some c =>
        decodeFrom (label.insertIdx (n % count) c) code (n % count + 1)
          (adapted (n - place) count first) false rest
termination_by t.length

/-- The label that a text in ASCII stands for. A dash at the very start divides nothing. -/
def decode? (t : Text) : Option Text :=
  match Text.cut? '-' t.reverse with
  | some (numbers, c :: label) => decodeFrom (c :: label).reverse firstCode 0 firstBias true numbers.reverse
  | _ => decodeFrom [] firstCode 0 firstBias true t

/-! ### Encoding -/

def encodeNumber (bias place n : Nat) : Text :=
  let t := threshold bias place
  if n < t then [digitChar n]
  else digitChar (t + (n - t) % (base - t)) :: encodeNumber bias (place + base) ((n - t) / (base - t))
termination_by n
decreasing_by
  have := threshold_pos bias place
  exact Nat.lt_of_le_of_lt (Nat.div_le_self _ _) (by omega)

/-- Encoding, on the way: the text so far, the number that has not been written, the bias, and how
many characters have been placed. -/
structure Progress where
  text : Text
  pending : Nat
  bias : Nat
  placed : Nat

/-- Passes one character of the label while those of a code point are placed. -/
def Progress.pass (code : Nat) (p : Progress) (c : Char) : Progress :=
  if c.toNat < code then { p with pending := p.pending + 1 }
  else if c.toNat = code then
    { text := p.text ++ encodeNumber p.bias base p.pending
      pending := 0
      bias := adapted p.pending (p.placed + 1) p.text.isEmpty
      placed := p.placed + 1 }
  else p

/-- Places the characters of a label by ascending code points, where the next one to come is at least `code`. -/
def encodeFrom (label : Text) (p : Progress) (code : Nat) : List Nat → Progress
  | [] => p
  | next :: rest =>
    let p := { p with pending := p.pending + (next - code) * (p.placed + 1) }
    let p := label.foldl (Progress.pass next) p
    encodeFrom label { p with pending := p.pending + 1 } (next + 1) rest

def isAscii (c : Char) : Bool := decide (c.toNat < firstCode)

/-- The text in ASCII that stands for a label. -/
def encode (label : Text) : Text :=
  let ascii := label.filter isAscii
  let codes := ((label.filter (!isAscii ·)).map Char.toNat).mergeSort.eraseReps
  let p := encodeFrom label ⟨[], 0, firstBias, ascii.length⟩ firstCode codes
  ascii ++ (if ascii.isEmpty then [] else ['-']) ++ p.text

end ApiLinks.Domain.Punycode

import ApiLinks.Json.Basic
import ApiLinks.Json.Number
import ApiLinks.Number.Digits

/-!
# Reading JSON texts

The tree of a text that holds one JSON value and blanks around it.
-/

namespace ApiLinks.Json

/-- The characters between the signs of a JSON text. -/
def isGap (c : Char) : Bool := c == ' ' || c == '\n' || c == '\t' || c == '\r'

/-- The text behind the blanks at its front. -/
def skipGaps (t : Text) : Text := t.dropWhile isGap

/-! ### Strings -/

/-- A piece of a string: a character, or a 16-bit unit written by its number. -/
inductive Piece where
  | char (c : Char)
  | unit (n : Nat)
  deriving DecidableEq, Repr

/-- The character that a letter behind a backslash stands for. -/
def escape? : Char → Option Char
  | '"' => some '"'
  | '\\' => some '\\'
  | '/' => some '/'
  | 'b' => some '\u0008'
  | 'f' => some '\u000c'
  | 'n' => some '\n'
  | 'r' => some '\r'
  | 't' => some '\t'
  | _ => none

/-- Four hexadecimal digits. -/
def unit? (a b c d : Char) : Option Nat := Number.nat? 16 [a, b, c, d]

/-- Reads the pieces of a string behind its first quote. -/
def pieces : Text → Option (List Piece × Text)
  | [] => none
  | '"' :: rest => some ([], rest)
  | '\\' :: 'u' :: a :: b :: c :: d :: rest => do
    let n ← unit? a b c d
    let (ps, rest) ← pieces rest
    return (.unit n :: ps, rest)
  | '\\' :: e :: rest => do
    let c ← escape? e
    let (ps, rest) ← pieces rest
    return (.char c :: ps, rest)
  | c :: rest =>
    if c.toNat < 0x20 || c == '\\' then none
    else do
      let (ps, rest) ← pieces rest
      return (.char c :: ps, rest)

/-- The character of a number that is no half of a pair. -/
def charOfUnit? (n : Nat) : Option Char := if h : n.isValidChar then some (Char.ofNatAux n h) else none

/-- The text that pieces mean: two halves of a surrogate pair make a character, and a single half makes none. -/
def textOf? : List Piece → Option Text
  | [] => some []
  | .char c :: rest => (textOf? rest).map (c :: ·)
  | [.unit n] => (charOfUnit? n).map fun c => [c]
  | .unit n :: .unit m :: rest =>
    if 0xD800 ≤ n ∧ n < 0xDC00 ∧ 0xDC00 ≤ m ∧ m < 0xE000 then do
      let c ← charOfUnit? (0x10000 + (n - 0xD800) * 0x400 + (m - 0xDC00))
      return c :: (← textOf? rest)
    else do
      let c ← charOfUnit? n
      return c :: (← textOf? (.unit m :: rest))
  | .unit n :: rest => do
    let c ← charOfUnit? n
    return c :: (← textOf? rest)

/-! ### Numbers -/

/-- Reads digits, at least one. -/
def digits? (t : Text) : Option (Text × Text) :=
  let ds := t.takeWhile Char.isDigit
  if ds.isEmpty then none else some (ds, t.dropWhile Char.isDigit)

def exponent? (t : Text) : Option (Option (Bool × Text) × Text) :=
  match t with
  | c :: rest =>
    if c = 'e' ∨ c = 'E' then
      let (negative, rest) := match rest with
        | '-' :: rest => (true, rest)
        | '+' :: rest => (false, rest)
        | _ => (false, rest)
      (digits? rest).map fun (ds, rest) => (some (negative, ds), rest)
    else some (none, t)
  | [] => some (none, [])

def fraction? (t : Text) : Option (Option Text × Text) :=
  match t with
  | '.' :: rest => (digits? rest).map fun (ds, rest) => (some ds, rest)
  | _ => some (none, t)

/-- Reads a number. Only a zero that stands alone begins with a zero. -/
def number? (t : Text) : Option (Json × Text) := do
  let (negative, t) := match t with
    | '-' :: rest => (true, rest)
    | _ => (false, t)
  let (whole, t) ← digits? t
  if whole.head? = some '0' ∧ whole ≠ ['0'] then none
  let (fraction, t) ← fraction? t
  let (exponent, t) ← exponent? t
  return (number (numeral? negative whole fraction exponent), t)

/-! ### Values -/

mutual

/-- Reads a value; `fuel` bounds the depth of the calls. -/
def value : Nat → Text → Option (Json × Text)
  | 0, _ => none
  | fuel + 1, t =>
    match skipGaps t with
    | '[' :: rest =>
      match skipGaps rest with
      | ']' :: rest => some (array [], rest)
      | _ => (items fuel rest).map fun (js, rest) => (array js, rest)
    | '\x7b' :: rest =>
      match skipGaps rest with
      | '\x7d' :: rest => some (object [], rest)
      | _ => (members fuel rest).map fun (ms, rest) => (object ms, rest)
    | '"' :: rest => (pieces rest).map fun (ps, rest) => (string (textOf? ps), rest)
    | 'n' :: 'u' :: 'l' :: 'l' :: rest => some (null, rest)
    | 't' :: 'r' :: 'u' :: 'e' :: rest => some (bool true, rest)
    | 'f' :: 'a' :: 'l' :: 's' :: 'e' :: rest => some (bool false, rest)
    | rest => number? rest

/-- Reads the items of an array and its end, at least one item. -/
def items : Nat → Text → Option (List Json × Text)
  | 0, _ => none
  | fuel + 1, t => do
    let (j, t) ← value fuel t
    match skipGaps t with
    | ',' :: rest => do
      let (js, rest) ← items fuel rest
      return (j :: js, rest)
    | ']' :: rest => return ([j], rest)
    | _ => none

/-- Reads the members of an object and its end, at least one member. -/
def members : Nat → Text → Option (List (Option Text × Json) × Text)
  | 0, _ => none
  | fuel + 1, t =>
    match skipGaps t with
    | '"' :: rest => do
      let (ps, rest) ← pieces rest
      match skipGaps rest with
      | ':' :: rest => do
        let (j, rest) ← value fuel rest
        let member := (textOf? ps, j)
        match skipGaps rest with
        | ',' :: rest => do
          let (ms, rest) ← members fuel rest
          return (member :: ms, rest)
        | '\x7d' :: rest => return ([member], rest)
        | _ => none
      | _ => none
    | _ => none

end

def read? (t : Text) : Option Json := do
  let (j, rest) ← value (t.length + 1) t
  if (skipGaps rest).isEmpty then return j else none

end ApiLinks.Json

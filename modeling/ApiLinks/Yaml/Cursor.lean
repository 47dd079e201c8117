import ApiLinks.Text.Basic

/-!
# Cursors

The characters that structure a YAML text, and a place in one: the text that follows, with the
line and the column. Only a few characters may stand in a YAML text at all. Line breaks are
read alike however they are written.
-/

namespace ApiLinks.Yaml

/-- The characters that may stand in a YAML text. -/
def isAllowed (c : Char) : Bool :=
  let n := c.toNat
  n == 0x09 || n == 0x0A || n == 0x0D || (0x20 ≤ n && n ≤ 0x7E) || n == 0x85 || (0xA0 ≤ n && n ≤ 0xD7FF) ||
    (0xE000 ≤ n && n ≤ 0xFFFD) || 0x10000 ≤ n

/-- Line breaks in a text whose breaks have been unified. -/
def isBreak (c : Char) : Bool := c == '\n' || c == '\u2028' || c == '\u2029'

def isGap (c : Char) : Bool := c == ' ' || c == '\t'

/-- The characters of anchor names and tag handles. -/
def isWordChar (c : Char) : Bool := c.isAlphanum || c == '_' || c == '-'

/-- Carriage returns, with or without a line feed behind them, and next-line characters become line feeds. -/
def unifyBreaks : Text → Text
  | [] => []
  | '\r' :: '\n' :: rest => '\n' :: unifyBreaks rest
  | c :: rest => (if c = '\r' ∨ c = '\u0085' then '\n' else c) :: unifyBreaks rest

/-- Whether a text ends here, or goes on with a space, a tab or a line break. -/
def atGap : Text → Bool
  | [] => true
  | c :: _ => isGap c || isBreak c

/-- Whether a text ends here or goes on with a line break. -/
def atBreak : Text → Bool
  | [] => true
  | c :: _ => isBreak c

/-- Whether a text goes on with three dashes or three points that stand alone; in the first column they bound a
document. -/
def atDocumentMark : Text → Bool
  | '-' :: '-' :: '-' :: rest => atGap rest
  | '.' :: '.' :: '.' :: rest => atGap rest
  | _ => false

/-- A place in a text. -/
structure Position where
  index : Nat
  line : Nat
  column : Nat
  deriving DecidableEq, Repr

namespace Position

/-- So many characters further on the same line. -/
def right (p : Position) (n : Nat) : Position := { p with index := p.index + n, column := p.column + n }

/-- At the start of the next line, behind a line break. -/
def down (p : Position) : Position := ⟨p.index + 1, p.line + 1, 0⟩

end Position

/-- A place in a text with what follows. -/
structure Cursor where
  rest : Text
  position : Position
  deriving DecidableEq, Repr

namespace Cursor

def ofText (t : Text) : Cursor := ⟨t, ⟨0, 0, 0⟩⟩

/-- So many characters further, none of them a line break. -/
def right (c : Cursor) (n : Nat) : Cursor := ⟨c.rest.drop n, c.position.right n⟩

/-- Behind the characters at the front that satisfy a predicate; none of them is a line break. -/
def skip (p : Char → Bool) (c : Cursor) : Cursor :=
  let skipped := c.rest.takeWhile p
  ⟨c.rest.dropWhile p, c.position.right skipped.length⟩

/-- Behind the line break at the front, if there is one. -/
def skipBreak (c : Cursor) : Cursor :=
  match c.rest with
  | [] => c
  | d :: rest => if isBreak d then ⟨rest, c.position.down⟩ else c

/-- Behind a comment at the front, if there is one. -/
def skipComment (c : Cursor) : Cursor :=
  match c.rest with
  | '#' :: _ => c.skip fun d => !isBreak d
  | _ => c

end Cursor

end ApiLinks.Yaml

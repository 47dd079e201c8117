import ApiLinks.Number.Digits
import ApiLinks.Yaml.Fold

/-!
# Scalars in YAML text

Plain, quoted and block scalars, read from a cursor behind their first sign up to the place
where they end. Each reader gives the text that is meant and the cursor behind it, or
nothing where the text is not in order.
-/

namespace ApiLinks.Yaml

/-- How a scalar is written. -/
inductive Style where
  | plain
  | singleQuoted
  | doubleQuoted
  | literal
  | folded
  deriving DecidableEq, Repr

namespace Scalar

/-! ### Plain scalars -/

/-- Whether the character ends a plain scalar, by what follows: a colon before a gap does, and inside
brackets or braces the signs of flow collections do. -/
def endsPlain (inFlow : Bool) (c : Char) (rest : Text) : Bool :=
  (c == ':' && atGap rest) || (inFlow && (c == ',' || c == '[' || c == ']' || c == '{' || c == '}'))

/-- A colon that inside brackets or braces can neither end a plain scalar nor go on in it. -/
def strandedColon (inFlow : Bool) (c : Char) (rest : Text) : Bool :=
  inFlow && c == ':' && match rest with
    | d :: _ => d == ',' || d == '?' || d == '[' || d == ']' || d == '{' || d == '}'
    | [] => false

/-- Whether a word at this place, behind a gap, belongs to what comes after the scalar. -/
def leavesPlain (inFlow : Bool) (indent : Int) (p : Position) (t : Text) : Bool :=
  (!inFlow && (p.column : Int) < indent) || (p.column == 0 && atDocumentMark t) || t.head? == some '#'

/-- Reads a plain scalar of a block whose content is indented by `indent` at least; the flag tells whether
the scalar ends behind a line break. -/
def plain (inFlow : Bool) (indent : Int) : Text → Position → Between → Text → Option (Text × Bool × Cursor)
  | [], p, gap, out => some (out.reverse, gap.hasBreak, ⟨[], p⟩)
  | c :: rest, p, gap, out =>
    if isGap c then
      if gap.hasBreak && c == '\t' && (p.column : Int) < indent then none
      else plain inFlow indent rest (p.right 1) (gap.blank c) out
    else if isBreak c then plain inFlow indent rest p.down (gap.newline c) out
    else if (gap != .nothing && leavesPlain inFlow indent p (c :: rest)) then
      some (out.reverse, gap.hasBreak, ⟨c :: rest, p⟩)
    else if strandedColon inFlow c rest then none
    else if endsPlain inFlow c rest then some (out.reverse, gap.hasBreak, ⟨c :: rest, p⟩)
    else plain inFlow indent rest (p.right 1) .nothing (c :: (gap.folded ++ out))

/-! ### Quoted scalars -/

/-- Reads a single-quoted scalar behind its first quote. -/
def singleQuoted : Text → Position → Between → Text → Option (Text × Cursor)
  | [], _, _, _ => none
  | '\'' :: '\'' :: rest, p, gap, out => singleQuoted rest (p.right 2) .nothing ('\'' :: (gap.folded ++ out))
  | c :: rest, p, gap, out =>
    if isGap c then singleQuoted rest (p.right 1) (gap.blank c) out
    else if isBreak c then singleQuoted rest p.down (gap.newline c) out
    else if p.column == 0 && atDocumentMark (c :: rest) then none
    else if c = '\'' then some ((gap.folded ++ out).reverse, ⟨rest, p.right 1⟩)
    else singleQuoted rest (p.right 1) .nothing (c :: (gap.folded ++ out))

/-- What an escape stands for: a character, or the character whose number follows
in so many hexadecimal digits. -/
inductive Escape where
  | char (c : Char)
  | code (digits : Nat)

/-- The escape that a character behind a backslash begins. -/
def escape? : Char → Option Escape
  | '0' => some (.char '\u0000')
  | 'a' => some (.char '\u0007')
  | 'b' => some (.char '\u0008')
  | 't' | '\t' => some (.char '\t')
  | 'n' => some (.char '\n')
  | 'v' => some (.char '\u000b')
  | 'f' => some (.char '\u000c')
  | 'r' => some (.char '\r')
  | 'e' => some (.char '\u001b')
  | ' ' => some (.char ' ')
  | '"' => some (.char '"')
  | '/' => some (.char '/')
  | '\\' => some (.char '\\')
  | 'N' => some (.char '\u0085')
  | '_' => some (.char '\u00a0')
  | 'L' => some (.char '\u2028')
  | 'P' => some (.char '\u2029')
  | 'x' => some (.code 2)
  | 'u' => some (.code 4)
  | 'U' => some (.code 8)
  | _ => none

/-- What a double-quoted scalar expects next. -/
inductive Expecting where
  | text
  /-- What follows a backslash. -/
  | escape
  /-- So many more hexadecimal digits of a character number, behind those that make up `value`. -/
  | digits (left value : Nat)
  deriving DecidableEq, Repr

def charOfCode? (n : Nat) : Option Char := if h : n.isValidChar then some (Char.ofNatAux n h) else none

/-- Reads a double-quoted scalar behind its first quote. -/
def doubleQuoted : Text → Position → Expecting → Between → Text → Option (Text × Cursor)
  | [], _, _, _, _ => none
  | c :: rest, p, .digits left value, gap, out =>
    match Number.digit? 16 c with
    | none => none
    | some d =>
      let value := 16 * value + d
      if 1 < left then doubleQuoted rest (p.right 1) (.digits (left - 1) value) gap out
      else match charOfCode? value with
        | some x => doubleQuoted rest (p.right 1) .text gap (x :: out)
        | none => none
  | c :: rest, p, .escape, gap, out =>
    if isBreak c then doubleQuoted rest p.down .text (.breaks none []) out
    else match escape? c with
      | some (.char x) => doubleQuoted rest (p.right 1) .text gap (x :: out)
      | some (.code n) => doubleQuoted rest (p.right 1) (.digits n 0) gap out
      | none => none
  | c :: rest, p, .text, gap, out =>
    if isGap c then doubleQuoted rest (p.right 1) .text (gap.blank c) out
    else if isBreak c then doubleQuoted rest p.down .text (gap.newline c) out
    else if p.column == 0 && atDocumentMark (c :: rest) then none
    else
      let out := gap.folded ++ out
      if c = '"' then some (out.reverse, ⟨rest, p.right 1⟩)
      else if c = '\\' then doubleQuoted rest (p.right 1) .escape .nothing out
      else doubleQuoted rest (p.right 1) .text .nothing (c :: out)

/-! ### Block scalars -/

/-- What happens to the line breaks at the end of a block scalar. -/
inductive Chomping where
  | strip
  | clip
  | keep
  deriving DecidableEq, Repr

/-- The chomping that a sign asks for. -/
def chomping? : Char → Option Chomping
  | '-' => some .strip
  | '+' => some .keep
  | _ => none

/-- An indentation that a digit asks for. -/
def increment? (c : Char) : Option Nat := if '1' ≤ c ∧ c ≤ '9' then some (c.toNat - '0'.toNat) else none

/-- The signs behind the first one of a block scalar: chomping and indentation, each
at most once, in either order. -/
def header (t : Text) : Option (Chomping × Option Nat × Text) :=
  match t with
  | [] => some (.clip, none, [])
  | c :: rest =>
    match chomping? c with
    | some chomp =>
      match rest with
      | '0' :: _ => none
      | d :: rest2 => match increment? d with
        | some n => some (chomp, some n, rest2)
        | none => some (chomp, none, rest)
      | [] => some (chomp, none, [])
    | none =>
      if c = '0' then none
      else match increment? c with
        | some n => match rest with
          | d :: rest2 => match chomping? d with
            | some chomp => some (chomp, some n, rest2)
            | none => some (.clip, some n, rest)
          | [] => some (.clip, some n, [])
        | none => some (.clip, none, t)

/-- The empty lines before a line of content. Without a known indentation the longest of them counts in its
place. Gives the breaks, the last one first, the greatest column seen, and the cursor. -/
def blockBreaks (indent : Option Nat) : Text → Position → Text → Nat → Option (Text × Nat × Cursor)
  | [], p, breaks, widest => some (breaks, max widest p.column, ⟨[], p⟩)
  | c :: rest, p, breaks, widest =>
    let inIndent := match indent with
      | some n => p.column < n
      | none => true
    if inIndent && c == ' ' then blockBreaks indent rest (p.right 1) breaks widest
    else if inIndent && c == '\t' then none
    else if isBreak c then blockBreaks indent rest p.down (c :: breaks) (max widest p.column)
    else some (breaks, max widest p.column, ⟨c :: rest, p⟩)

/-- What has been read of a block scalar; texts grow at the front. -/
structure BlockState where
  cursor : Cursor
  out : Text
  /-- The line break behind the last line of content, if there is one. -/
  last : Text
  /-- The line breaks of the empty lines behind it. -/
  trailing : Text
  /-- Whether the last line of content began with a blank. -/
  indented : Bool

/-- Reads lines of content for as long as they are indented by `indent`; `fuel` bounds their number. -/
def blockLines (isLiteral : Bool) (indent : Nat) : Nat → BlockState → Option BlockState
  | 0, s => some s
  | fuel + 1, s =>
    match s.cursor.rest with
    | [] => some s
    | c :: _ =>
      if s.cursor.position.column ≠ indent then some s
      else
        let folds := !isLiteral && s.last == ['\n'] && !s.indented && !isGap c
        let gap := if folds then (if s.trailing.isEmpty then [' '] else s.trailing) else s.trailing ++ s.last
        let line := s.cursor.rest.takeWhile fun d => !isBreak d
        let behind := s.cursor.skip fun d => !isBreak d
        let last := behind.rest.take 1
        let next := behind.skipBreak
        match blockBreaks (some indent) next.rest next.position [] 0 with
        | none => none
        | some (breaks, _, cursor) =>
          blockLines isLiteral indent fuel ⟨cursor, line.reverse ++ gap ++ s.out, last, breaks, isGap c⟩

/-- Reads a block scalar behind its first sign, inside a block indented by `parent`. -/
def block (isLiteral : Bool) (parent : Int) (c : Cursor) : Option (Text × Cursor) := do
  let (chomp, increment, rest) ← header c.rest
  let c : Cursor := ⟨rest, c.position.right (c.rest.length - rest.length)⟩
  let c := (c.skip isGap).skipComment
  if !atBreak c.rest then none
  let c := c.skipBreak
  let known := increment.map fun n => if 0 ≤ parent then parent.toNat + n else n
  let (breaks, widest, c) ← blockBreaks known c.rest c.position [] 0
  let indent := known.getD (max widest (max (parent + 1) 1).toNat)
  let s ← blockLines isLiteral indent (c.rest.length + 1) ⟨c, [], [], breaks, false⟩
  let out := match chomp with
    | .strip => s.out
    | .clip => s.last ++ s.out
    | .keep => s.trailing ++ s.last ++ s.out
  return (out.reverse, s.cursor)

end Scalar

end ApiLinks.Yaml

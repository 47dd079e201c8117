import ApiLinks.Template.Expression

/-!
# The parts of a template

A span is an opening brace, a body that is not empty and holds no brace, and a closing brace. Everything
else is literal: stray, nested, empty and unclosed braces alike. One pass over the characters finds the
parts; it keeps the literal text since the last span and, after an opening brace, the body read so far.

`Scan.run_append` : scanning a text in two pieces is scanning the second from where the first ended.
-/

namespace ApiLinks

/-- A piece of a template. -/
inductive Part where
  /-- Text that stands for itself. -/
  | literal (text : Text)
  /-- An expression, by the body between its braces. -/
  | span (body : Text)
  deriving DecidableEq, Repr

namespace Part

/-- The text of a part as it stands in the template. -/
def text : Part → Text
  | literal text => text
  | span body => '{' :: body ++ ['}']

/-- The expression of a span. -/
def expression? : Part → Option Expression
  | literal _ => none
  | span body => some (Expression.ofBody body)

/-- What reading the part remarks on. -/
def notices : Part → List Notice
  | literal _ => []
  | span body => Expression.notices body

/-- A literal part, unless the text is empty. -/
def literal? (text : Text) : List Part := if text.isEmpty then [] else [literal text]

end Part

/-- How far a pass over a template has come; all three texts grow at the front. -/
structure Scan where
  /-- The finished parts, the last one first. -/
  parts : List Part
  /-- The literal text since the last span, the last character first. -/
  literal : Text
  /-- The text since an opening brace that may start a span, the last character first. -/
  body? : Option Text
  deriving DecidableEq, Repr

namespace Scan

/-- Before the first character. -/
def start : Scan := ⟨[], [], none⟩

/-- The parts with the pending literal text as one more. -/
def flush (parts : List Part) (literal : Text) : List Part := Part.literal? literal.reverse ++ parts

def step (s : Scan) (c : Char) : Scan :=
  match s.body? with
  | none => if c = '{' then { s with body? := some [] } else { s with literal := c :: s.literal }
  | some body =>
    if c = '{' then { s with literal := body ++ '{' :: s.literal, body? := some [] }
    else if c = '}' then
      if body.isEmpty then { s with literal := '}' :: '{' :: s.literal, body? := none }
      else ⟨.span body.reverse :: flush s.parts s.literal, [], none⟩
    else { s with body? := some (c :: body) }

def run (s : Scan) (t : Text) : Scan := t.foldl step s

/-- The parts when the text is over: an unclosed brace and what follows it are literal. -/
def finish (s : Scan) : List Part :=
  match s.body? with
  | none => (flush s.parts s.literal).reverse
  | some body => (flush s.parts (body ++ '{' :: s.literal)).reverse

theorem run_append (s : Scan) (t u : Text) : s.run (t ++ u) = (s.run t).run u := List.foldl_append

end Scan

end ApiLinks

import ApiLinks.Text.Percent
import ApiLinks.Text.Utf8
import ApiLinks.Yaml.Scalar

/-!
# Tokens of YAML text

The signs, names and scalars that a YAML text consists of, and the readers of names, tags and directives.
Where blocks begin and end is told by their own tokens, which stand for indentation.
-/

namespace ApiLinks.Yaml

inductive Token where
  | documentStart
  | documentEnd
  | versionDirective (major minor : Nat)
  /-- Names a handle and what it stands for at the start of tags. -/
  | tagDirective (handle lead : Text)
  | blockSequenceStart
  | blockMappingStart
  | blockEnd
  | flowSequenceStart
  | flowSequenceEnd
  | flowMappingStart
  | flowMappingEnd
  | blockEntry
  | flowEntry
  | key
  | value
  | reference (name : Text)
  | anchor (name : Text)
  | tag (handle suffix : Text)
  | scalar (style : Style) (text : Text)
  deriving DecidableEq, Repr

namespace Token

/-- Reads the name of an anchor or an alias behind its sign. -/
def anchorName (c : Cursor) : Option (Text × Cursor) :=
  let name := c.rest.takeWhile isWordChar
  let c := c.skip isWordChar
  let ends := atGap c.rest || match c.rest with
    | d :: _ => d == '?' || d == ':' || d == ',' || d == ']' || d == '}' || d == '%' || d == '@' || d == '\u0060'
    | [] => false
  if name.isEmpty || !ends then none else some (name, c)

/-- The characters of tags; the signs of flow sequences and the comma only where they can mean nothing else. -/
def isTagChar (verbatim : Bool) (c : Char) : Bool :=
  isWordChar c || c == ';' || c == '/' || c == '?' || c == ':' || c == '@' || c == '&' || c == '=' || c == '+' ||
    c == '$' || c == '.' || c == '%' || c == '!' || c == '~' || c == '*' || c == '\'' || c == '(' || c == ')' ||
    (verbatim && (c == ',' || c == '[' || c == ']'))

/-- Whether every percent sign has two hexadecimal digits behind it. -/
def escapesComplete : Text → Bool
  | [] => true
  | '%' :: h :: l :: rest =>
    (Number.digit? 16 h).isSome && (Number.digit? 16 l).isSome && escapesComplete rest
  | '%' :: _ => false
  | _ :: rest => escapesComplete rest

/-- Reads the characters of a tag, percent-encoded where need be. -/
def tagText (verbatim : Bool) (c : Cursor) : Option (Text × Cursor) :=
  let raw := c.rest.takeWhile (isTagChar verbatim)
  if escapesComplete raw then
    (Utf8.decode? (Percent.bytes raw)).map fun text => (text, c.skip (isTagChar verbatim))
  else none

/-- Reads the handle of a tag: an exclamation mark, or a word between two. In a directive a word needs both. -/
def tagHandle (inDirective : Bool) (c : Cursor) : Option (Text × Cursor) :=
  match c.rest with
  | '!' :: rest =>
    let word := rest.takeWhile isWordChar
    let behind := (c.right 1).skip isWordChar
    match behind.rest with
    | '!' :: _ => some ('!' :: word ++ ['!'], behind.right 1)
    | _ => if inDirective && !word.isEmpty then none else some ('!' :: word, behind)
  | _ => none

/-- Reads a tag in angle brackets. -/
def verbatimTag (c : Cursor) : Option (Token × Cursor) := do
  let (suffix, c) ← tagText true c
  if suffix.isEmpty then none
  match c.rest with
  | '>' :: _ => return (.tag [] suffix, c.right 1)
  | _ => none

/-- Reads a tag by handle and suffix. A single exclamation mark is a tag of its own. -/
def shorthandTag (c : Cursor) : Option (Token × Cursor) := do
  let (handle, c) ← tagHandle false c
  let (suffix, c) ← tagText false c
  if 1 < handle.length && handle.getLast? == some '!' then
    if suffix.isEmpty then none else return (.tag handle suffix, c)
  else
    let suffix := handle.drop 1 ++ suffix
    return (if suffix.isEmpty then .tag [] ['!'] else .tag ['!'] suffix, c)

/-- Reads a tag from its exclamation mark on. -/
def readTag (inFlow : Bool) (c : Cursor) : Option (Token × Cursor) := do
  let (found, c) ← match c.rest with
    | '!' :: '<' :: _ => verbatimTag (c.right 2)
    | _ => shorthandTag c
  if atGap c.rest || (inFlow && c.rest.head? == some ',') then return (found, c) else none

/-- Reads a number of at most nine digits. -/
def versionNumber (c : Cursor) : Option (Nat × Cursor) :=
  let digits := c.rest.takeWhile Char.isDigit
  if 9 < digits.length then none else (Number.nat? 10 digits).map fun n => (n, c.skip Char.isDigit)

/-- Reads a version behind the name of its directive. -/
def version (c : Cursor) : Option (Token × Cursor) := do
  let (major, c) ← versionNumber (c.skip isGap)
  if c.rest.head? ≠ some '.' then none
  let (minor, c) ← versionNumber (c.right 1)
  return (.versionDirective major minor, c)

/-- Reads a handle and what it stands for behind the name of their directive. -/
def handleMeaning (c : Cursor) : Option (Token × Cursor) := do
  let (handle, c) ← tagHandle true (c.skip isGap)
  if !(c.rest.head?.any isGap) then none
  let (lead, c) ← tagText true (c.skip isGap)
  if lead.isEmpty || !atGap c.rest then none
  return (.tagDirective handle lead, c)

/-- Reads a directive behind its percent sign, to the end of the line. -/
def directive (c : Cursor) : Option (Token × Cursor) := do
  let name := c.rest.takeWhile isWordChar
  let c := c.skip isWordChar
  if name.isEmpty || !atGap c.rest then none
  let (token, c) ←
    if name = "YAML".toList then version c else if name = "TAG".toList then handleMeaning c else none
  let c := (c.skip isGap).skipComment
  if atBreak c.rest then return (token, c.skipBreak) else none

end Token

end ApiLinks.Yaml

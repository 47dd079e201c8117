import ApiLinks.Text.Utf8
import ApiLinks.Yaml.Plain
import ApiLinks.Yaml.Reader

/-!
# Writing YAML texts

The text of a document value in block style. A nested mapping is indented by two columns, a sequence under a
key by none; collections without elements are written in brackets or braces. A text is written plain where
it reads back as itself, else between single quotes, else between double quotes; a text of several lines is
a literal block where it can be one.
-/

namespace ApiLinks.Yaml.Printer

/-! ### What a text allows -/

/-- Line breaks of any kind. -/
def isAnyBreak (c : Char) : Bool := c == '\r' || c == '\u0085' || isBreak c

/-- Whether a text is over or goes on with a gap. -/
def gapNext : Text → Bool
  | [] => true
  | c :: _ => isGap c || isAnyBreak c

/-- Characters that stand for themselves outside of double quotes. -/
def isPrintable (c : Char) : Bool :=
  let n := c.toNat
  n == 0x0A || (0x20 ≤ n && n ≤ 0x7E) || (0xA0 ≤ n && n != 0xFEFF && n != 0xFFFE && n != 0xFFFF)

/-- Signs that no plain scalar begins with. -/
def isLeadingSign (c : Char) : Bool :=
  c == '#' || c == ',' || c == '[' || c == ']' || c == '\x7b' || c == '\x7d' || c == '&' || c == '*' || c == '!' ||
    c == '|' || c == '>' || c == '\'' || c == '"' || c == '%' || c == '@' || c == '\u0060'

/-- Whether a sign behind the first character would be taken for structure. -/
def hasSign : Char → Text → Bool
  | _, [] => false
  | before, c :: rest =>
    (c == ':' && gapNext rest) || (c == '#' && gapNext [before]) || hasSign c rest

/-- Whether the text has a sign of structure in a block. -/
def looksStructural : Text → Bool
  | [] => false
  | c :: rest =>
    atDocumentStart (c :: rest) || isLeadingSign c || ((c == '?' || c == ':' || c == '-') && gapNext rest) ||
      hasSign c rest
where
  /-- Whether the text begins with three dashes or points. -/
  atDocumentStart : Text → Bool
    | '-' :: '-' :: '-' :: _ => true
    | '.' :: '.' :: '.' :: _ => true
    | _ => false

/-- Whether two neighbours of the text satisfy the predicates. -/
def hasPair (p q : Char → Bool) : Text → Bool
  | c :: d :: rest => (p c && q d) || hasPair p q (d :: rest)
  | _ => false

/-- Whether the first or the last character satisfies a predicate. -/
def hasEnd (p : Char → Bool) (t : Text) : Bool := t.head?.any p || t.getLast?.any p

/-- Whether the text may stand without quotes. -/
def allowsPlain (t : Text) : Bool :=
  !hasEnd (fun c => c == ' ' || isAnyBreak c) t && t.all isPrintable && !t.any isAnyBreak && !looksStructural t

/-- Whether the text may stand between single quotes. -/
def allowsSingle (t : Text) : Bool :=
  t.all isPrintable && !hasPair isAnyBreak (· == ' ') t && !hasPair (· == ' ') isAnyBreak t

/-- Whether the text may be a literal block. -/
def allowsBlock (t : Text) : Bool :=
  t.all isPrintable && !hasPair (· == ' ') isAnyBreak t && t.getLast? != some ' '

/-- Whether a plain text would read as something else than itself, or has zeros in front of its digits. -/
def isAmbiguous (t : Text) : Bool :=
  match plainData? t with
  | some (.string _) => isPaddedDigits t
  | _ => true

/-! ### Scalars -/

/-- Hexadecimal digits in upper case, so many. -/
def hex : Nat → Nat → Text
  | 0, _ => []
  | count + 1, n => hex count (n / 16) ++ [Percent.hexDigit (n % 16)]

/-- A character between double quotes. -/
def escaped (c : Char) : Text :=
  if isPrintable c && !isAnyBreak c && c != '"' && c != '\\' then [c]
  else
    match c.toNat with
    | 0x00 => ['\\', '0']
    | 0x07 => ['\\', 'a']
    | 0x08 => ['\\', 'b']
    | 0x09 => ['\\', 't']
    | 0x0A => ['\\', 'n']
    | 0x0B => ['\\', 'v']
    | 0x0C => ['\\', 'f']
    | 0x0D => ['\\', 'r']
    | 0x1B => ['\\', 'e']
    | 0x22 => ['\\', '"']
    | 0x5C => ['\\', '\\']
    | 0x85 => ['\\', 'N']
    | 0x2028 => ['\\', 'L']
    | 0x2029 => ['\\', 'P']
    | n =>
      if n ≤ 0xFF then '\\' :: 'x' :: hex 2 n
      else if n ≤ 0xFFFF then '\\' :: 'u' :: hex 4 n
      else '\\' :: 'U' :: hex 8 n

def doubleQuoted (t : Text) : Text := '"' :: t.flatMap escaped ++ ['"']

def singleQuoted (t : Text) : Text :=
  '\'' :: t.flatMap (fun c => if c = '\'' then ['\'', '\''] else [c]) ++ ['\'']

/-- A text without a line feed. -/
def onOneLine (t : Text) : Text :=
  if allowsPlain t && !isAmbiguous t then t else if allowsSingle t then singleQuoted t else doubleQuoted t

/-- The head of a literal block: an indentation where the text begins with a gap, and what
becomes of its last line break. -/
def literalHead (t : Text) : Text :=
  let indentation := if t.head?.any fun c => c == ' ' || isAnyBreak c then ['2'] else []
  let chomping := match t.reverse with
    | [] => ['-']
    | [c] => if isAnyBreak c then ['+'] else ['-']
    | c :: d :: _ => if !isAnyBreak c then ['-'] else if isAnyBreak d then ['+'] else []
  '|' :: indentation ++ chomping

/-- The lines of a text. A line feed is not held with its line, a line or paragraph separator is. -/
def linesOf : Text → List Text
  | [] => [[]]
  | c :: rest =>
    if c = '\n' then [] :: linesOf rest
    else if isBreak c then [c] :: linesOf rest
    else match linesOf rest with
      | [] => [[c]]
      | line :: more => (c :: line) :: more

/-- The lines of a literal block, without indentation. -/
def literalLines (t : Text) : List Text :=
  let lines := linesOf t
  if lines.getLast? = some [] then lines.dropLast else lines

/-- The lines of a text; all but the first belong to the level below. -/
def textLines (t : Text) : List Text :=
  if t.contains '\n' then
    if allowsBlock t then literalHead t :: literalLines t else [doubleQuoted t]
  else linesOf (onOneLine t)

/-- A tag as it is written. -/
def tagText (tag : Text) : Text := '!' :: Percent.encodeExcept (Token.isTagChar true) tag

/-! ### Values -/

/-- Indents a line that is not empty. -/
def indented (line : Text) : Text := if line.head?.all isBreak then line else ' ' :: ' ' :: line

/-- Lines with the first one behind a sign and the others indented. -/
def behind (sign : Text) : List Text → List Text
  | [] => [sign]
  | first :: rest => (sign ++ ' ' :: first) :: rest.map indented

/-- How the lines of a value follow its key or dash. -/
inductive Form where
  /-- The first line stands behind the key or dash, the others belong to the level below. -/
  | inline
  /-- The lines of a sequence. -/
  | sequence
  /-- The lines of a mapping. -/
  | mapping
  deriving DecidableEq, Repr

/-- A value ready to be placed: its tag, its form and its lines. -/
structure Block where
  tag : Option Text
  form : Form
  lines : List Text
  /-- The number of bytes before anything is quoted or escaped, unless the value has several lines. -/
  size : Option Nat

namespace Block

/-- The lines behind a key and a colon. -/
def underKey (key : Text) (b : Block) : List Text :=
  let head := key ++ ':' :: (b.tag.elim [] fun tag => ' ' :: tag)
  match b.form with
  | .inline => behind head b.lines
  | .sequence => head :: b.lines
  | .mapping => head :: b.lines.map indented

/-- The lines behind a dash. -/
def item (b : Block) : List Text :=
  match b.tag, b.form with
  | none, _ => behind ['-'] b.lines
  | some tag, .inline => behind ('-' :: ' ' :: tag) b.lines
  | some tag, _ => ('-' :: ' ' :: tag) :: b.lines.map indented

/-- The lines of a key or a value behind a sign that sets it apart. -/
def apart (sign : Char) (b : Block) : List Text :=
  match b.tag, b.form with
  | none, _ => behind [sign] b.lines
  | some tag, .inline => behind (sign :: ' ' :: tag) b.lines
  | some tag, .sequence => (sign :: ' ' :: tag) :: b.lines
  | some tag, .mapping => (sign :: ' ' :: tag) :: b.lines.map indented

/-- Keys longer than this do not stand on the line of their values. -/
def keyLimit : Nat := 128

/-- Whether a key may stand on the line of its value. -/
def isShort (b : Block) : Bool := b.size.any (· ≤ keyLimit)

def entry (key value : Block) : List Text :=
  if key.isShort then
    value.underKey ((key.tag.elim [] fun tag => tag ++ [' ']) ++ key.lines.flatten)
  else key.apart '?' ++ value.apart ':'

end Block

/-- A text of ASCII on one line. -/
def word (t : Text) : Block := ⟨none, .inline, [t], some t.length⟩

mutual

/-- A value ready to be placed. -/
def block : Data → Block
  | .null => word "null".toList
  | .bool b => word (if b then "true".toList else "false".toList)
  | .number n => word n.toText
  | .string t => ⟨none, .inline, textLines t, if t.any isAnyBreak then none else some (Utf8.encode t).length⟩
  | .sequence items =>
    if items.isEmpty then ⟨none, .inline, [['[', ']']], some 0⟩ else ⟨none, .sequence, itemLines items, none⟩
  | .mapping entries =>
    if entries.isEmpty then ⟨none, .inline, [['\x7b', '\x7d']], some 0⟩
    else ⟨none, .mapping, entryLines entries, none⟩
  | .tagged tag value =>
    let b := block value
    { b with tag := some (tagText tag), size := b.size.map (· + (Utf8.encode tag).length + 1) }

def itemLines : List Data → List Text
  | [] => []
  | item :: rest => (block item).item ++ itemLines rest

def entryLines : List (Data × Data) → List Text
  | [] => []
  | (key, value) :: rest => Block.entry (block key) (block value) ++ entryLines rest

end

end ApiLinks.Yaml.Printer

namespace ApiLinks.Yaml

/-- A line with what ends it: a line feed, unless it ends in another line break. -/
def Printer.ended (line : Text) : Text := if line.getLast?.any isBreak then line else line ++ ['\n']

def write (d : Data) : Text := (Printer.block d).lines.flatMap Printer.ended

end ApiLinks.Yaml

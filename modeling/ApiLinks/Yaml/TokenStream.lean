import ApiLinks.Yaml.Token

/-!
# From text to tokens

One pass over the text finds the tokens. It keeps the indentation of the open blocks and, for the
block and each open bracket or brace, the place of a token that may turn out to be a mapping key:
when a colon follows on the same line, the key's sign, and the start of a block mapping where one
begins, take their places before it.
-/

namespace ApiLinks.Yaml

/-- A token that may turn out to be a key. -/
structure KeyCandidate where
  /-- Whether the block demands a key here. -/
  required : Bool
  /-- The number of tokens before it. -/
  place : Nat
  position : Position
  deriving DecidableEq, Repr

/-- How far the pass has come. -/
structure TokenStream where
  cursor : Cursor
  /-- The column of the innermost block, or `-1` outside of all blocks. -/
  indent : Int
  /-- The columns of the blocks around it, from the inside out. -/
  indents : List Int
  /-- Whether a key may begin at the cursor. -/
  keyAllowed : Bool
  /-- The candidate of the innermost bracket or brace, or of the block. -/
  candidate : Option KeyCandidate
  /-- The candidates around it, one for every open bracket or brace. -/
  outer : List (Option KeyCandidate)
  /-- The tokens found, the last one first. -/
  tokens : List Token
  /-- The number of tokens found. -/
  count : Nat

namespace TokenStream

def ofText (t : Text) : TokenStream := ⟨Cursor.ofText t, -1, [], true, none, [], [], 0⟩

/-- Whether some bracket or brace is open. -/
def inFlow (s : TokenStream) : Bool := !s.outer.isEmpty

def push (s : TokenStream) (t : Token) : TokenStream := { s with tokens := t :: s.tokens, count := s.count + 1 }

/-- Adds a token with `place` tokens before it. -/
def insert (s : TokenStream) (place : Nat) (t : Token) : TokenStream :=
  let later := s.count - place
  { s with tokens := s.tokens.take later ++ t :: s.tokens.drop later, count := s.count + 1 }

/-- Keys stand on one line and are short. -/
def keyLimit : Nat := 1024

/-- A candidate while its key can still end here; a required one may not be lost. -/
def refresh (p : Position) : Option KeyCandidate → Option (Option KeyCandidate)
  | none => some none
  | some k =>
    if k.position.line < p.line || k.position.index + keyLimit < p.index then
      if k.required then none else some none
    else some (some k)

/-- Drops the candidates whose keys can no longer end. -/
def dropStale (s : TokenStream) : Option TokenStream := do
  let candidate ← refresh s.cursor.position s.candidate
  let outer ← s.outer.mapM (refresh s.cursor.position)
  return { s with candidate, outer }

/-- Drops the candidate, which may not be a required one. -/
def dropCandidate (s : TokenStream) : Option TokenStream :=
  match s.candidate with
  | some k => if k.required then none else some { s with candidate := none }
  | none => some s

/-- Makes the next token a candidate, if a key may begin here. -/
def saveCandidate (s : TokenStream) : Option TokenStream :=
  if s.keyAllowed then do
    let required := !s.inFlow && s.indent == s.cursor.position.column
    let s ← s.dropCandidate
    return { s with candidate := some ⟨required, s.count, s.cursor.position⟩ }
  else some s

/-- Opens a block at a column, unless a block of that indentation is open; its token
has `place` tokens before it. -/
def openBlock (s : TokenStream) (column place : Nat) (t : Token) : TokenStream :=
  if s.inFlow || (column : Int) ≤ s.indent then s
  else ({ s with indent := column, indents := s.indent :: s.indents }).insert place t

/-- Closes blocks from the inside out for as long as they are indented further than a column. -/
def closeTo (column : Int) : List Int → TokenStream → TokenStream
  | [], s => s
  | outer :: rest, s =>
    if column < s.indent then closeTo column rest ({ s with indent := outer, indents := rest }.push .blockEnd)
    else s

/-- Closes the blocks that are indented further than a column. -/
def closeBlocks (s : TokenStream) (column : Int) : TokenStream :=
  if s.inFlow then s else closeTo column s.indents s

/-- What stands before the next token: blanks, comments and line breaks. Tabs are blanks only
where no key may begin, and a byte order mark is one at the start of a line. Behind a line
break in a block a key may begin. -/
def gap (inFlow : Bool) : Text → Position → Bool → Bool → Cursor × Bool
  | [], p, _, allowed => (⟨[], p⟩, allowed)
  | c :: rest, p, inComment, allowed =>
    if isBreak c then gap inFlow rest p.down false (allowed || !inFlow)
    else if inComment || c == ' ' || (c == '\t' && (inFlow || !allowed)) || (c == '\uFEFF' && p.column == 0) then
      gap inFlow rest (p.right 1) inComment allowed
    else if c = '#' then gap inFlow rest (p.right 1) true allowed
    else (⟨c :: rest, p⟩, allowed)

/-- Moves to the next token, closing the blocks that it does not belong to. -/
def toToken (s : TokenStream) : Option TokenStream := do
  let (cursor, keyAllowed) := gap s.inFlow s.cursor.rest s.cursor.position false s.keyAllowed
  let s ← { s with cursor, keyAllowed }.dropStale
  return s.closeBlocks s.cursor.position.column

/-- Goes on behind so many characters. -/
def forward (s : TokenStream) (n : Nat) : TokenStream := { s with cursor := s.cursor.right n }

/-! ### The kinds of tokens -/

/-- A directive or a document mark; either ends all blocks. -/
def atMargin (s : TokenStream) (t : Token) (cursor : Cursor) : Option TokenStream := do
  let s ← (s.closeBlocks (-1)).dropCandidate
  return { s with keyAllowed := false, cursor }.push t

/-- An opening bracket or brace. -/
def openFlow (s : TokenStream) (t : Token) : Option TokenStream := do
  let s ← s.saveCandidate
  return ({ s with outer := s.candidate :: s.outer, candidate := none, keyAllowed := true }.forward 1).push t

/-- A closing bracket or brace. -/
def closeFlow (s : TokenStream) (t : Token) : Option TokenStream := do
  let s ← s.dropCandidate
  let s := match s.outer with
    | [] => s
    | candidate :: outer => { s with candidate, outer }
  return ({ s with keyAllowed := false }.forward 1).push t

/-- A comma between the entries of a flow collection. -/
def flowEntry (s : TokenStream) : Option TokenStream := do
  let s ← s.dropCandidate
  return ({ s with keyAllowed := true }.forward 1).push .flowEntry

/-- A dash before an item of a block sequence. -/
def blockEntry (s : TokenStream) : Option TokenStream := do
  if !s.inFlow && !s.keyAllowed then none
  let s ← (s.openBlock s.cursor.position.column s.count .blockSequenceStart).dropCandidate
  return ({ s with keyAllowed := true }.forward 1).push .blockEntry

/-- A question mark before a key. -/
def keySign (s : TokenStream) : Option TokenStream := do
  if !s.inFlow && !s.keyAllowed then none
  let s ← (s.openBlock s.cursor.position.column s.count .blockMappingStart).dropCandidate
  return ({ s with keyAllowed := !s.inFlow }.forward 1).push .key

/-- A colon before a value. If a token before it can be its key, the key's sign
is put in front of that token. -/
def valueSign (s : TokenStream) : Option TokenStream := do
  match s.candidate with
  | some k =>
    let s := (s.insert k.place .key).openBlock k.position.column k.place .blockMappingStart
    return ({ s with candidate := none, keyAllowed := false }.forward 1).push .value
  | none =>
    if !s.inFlow && !s.keyAllowed then none
    let s := s.openBlock s.cursor.position.column s.count .blockMappingStart
    return ({ s with keyAllowed := !s.inFlow }.forward 1).push .value

/-- A token that can be a key, read by a function. -/
def keyLike (s : TokenStream) (read : Cursor → Option (Token × Cursor)) : Option TokenStream := do
  let s ← s.saveCandidate
  let (t, cursor) ← read s.cursor
  return { s with keyAllowed := false, cursor }.push t

def blockScalar (s : TokenStream) (style : Style) : Option TokenStream := do
  let s ← s.dropCandidate
  let (text, cursor) ← Scalar.block (style == .literal) s.indent (s.cursor.right 1)
  return { s with keyAllowed := true, cursor }.push (.scalar style text)

/-- A plain scalar; behind a line break in it a key may begin. -/
def plainScalar (s : TokenStream) : Option TokenStream := do
  let s ← s.saveCandidate
  let (text, brokeLine, cursor) ←
    Scalar.plain s.inFlow (s.indent + 1) s.cursor.rest s.cursor.position .nothing []
  return { s with keyAllowed := brokeLine, cursor }.push (.scalar .plain text)

/-- The characters that cannot begin a plain scalar by themselves. -/
def isIndicator (c : Char) : Bool :=
  c == '-' || c == '?' || c == ':' || c == ',' || c == '[' || c == ']' || c == '{' || c == '}' || c == '#' ||
    c == '&' || c == '*' || c == '!' || c == '|' || c == '>' || c == '\'' || c == '"' || c == '%' || c == '@' ||
    c == '\u0060'

/-- Whether a plain scalar can begin with a character, by what follows it. -/
def beginsPlain (inFlow : Bool) (c : Char) (rest : Text) : Bool :=
  if isIndicator c then !atGap rest && (c == '-' || (!inFlow && (c == '?' || c == ':'))) else !atGap [c]

/-- Reads the token that begins with a character. -/
def readToken (s : TokenStream) (c : Char) (rest : Text) : Option TokenStream :=
  let first := s.cursor.position.column == 0
  if first && c == '%' then (Token.directive (s.cursor.right 1)).bind fun (t, cursor) => s.atMargin t cursor
  else if first && atDocumentMark (c :: rest) then
    s.atMargin (if c = '-' then .documentStart else .documentEnd) (s.cursor.right 3)
  else if c = '[' then s.openFlow .flowSequenceStart
  else if c = '{' then s.openFlow .flowMappingStart
  else if c = ']' then s.closeFlow .flowSequenceEnd
  else if c = '}' then s.closeFlow .flowMappingEnd
  else if c = ',' then s.flowEntry
  else if c == '-' && atGap rest then s.blockEntry
  else if c == '?' && (s.inFlow || atGap rest) then s.keySign
  else if c == ':' && (s.inFlow || atGap rest) then s.valueSign
  else if c = '*' then s.keyLike fun k => (Token.anchorName (k.right 1)).map fun (n, k) => (.reference n, k)
  else if c = '&' then s.keyLike fun k => (Token.anchorName (k.right 1)).map fun (n, k) => (.anchor n, k)
  else if c = '!' then s.keyLike (Token.readTag s.inFlow)
  else if c == '|' && !s.inFlow then s.blockScalar .literal
  else if c == '>' && !s.inFlow then s.blockScalar .folded
  else if c = '\'' then
    s.keyLike fun k =>
      (Scalar.singleQuoted (k.right 1).rest (k.right 1).position .nothing []).map fun (t, k) =>
        (.scalar .singleQuoted t, k)
  else if c = '"' then
    s.keyLike fun k =>
      (Scalar.doubleQuoted (k.right 1).rest (k.right 1).position .text .nothing []).map fun (t, k) =>
        (.scalar .doubleQuoted t, k)
  else if beginsPlain s.inFlow c rest then s.plainScalar
  else none

/-- At the end of the text all blocks end. -/
def finish (s : TokenStream) : Option (List Token) := do
  let s ← (s.closeBlocks (-1)).dropCandidate
  return s.tokens.reverse

/-- Reads tokens to the end of the text; `fuel` bounds their number. -/
def run : Nat → TokenStream → Option (List Token)
  | 0, _ => none
  | fuel + 1, s => do
    let s ← s.toToken
    match s.cursor.rest with
    | [] => s.finish
    | c :: rest => run fuel (← s.readToken c rest)

end TokenStream

/-- The tokens of a text, if it is in order; every token takes a character at least. -/
def Token.ofText? (t : Text) : Option (List Token) :=
  if t.all isAllowed then
    let t := unifyBreaks t
    TokenStream.run (t.length + 1) (TokenStream.ofText t)
  else none

end ApiLinks.Yaml

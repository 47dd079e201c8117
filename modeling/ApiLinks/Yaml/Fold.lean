import ApiLinks.Yaml.Cursor

/-!
# Folding of lines

Between two words of a scalar stand either blanks on one line or line breaks. Blanks are kept; the first of
several breaks is dropped, a single one becomes a space, and blanks around breaks vanish.
-/

namespace ApiLinks.Yaml

/-- What has been read since the last word; texts grow at the front. -/
inductive Between where
  /-- Blanks on the line of the word. -/
  | blanks (blanks : Text)
  /-- Line breaks: the first one, unless it is escaped, and those that follow. -/
  | breaks (first : Option Char) (more : Text)
  deriving DecidableEq, Repr

namespace Between

/-- Right behind a word. -/
def nothing : Between := blanks []

/-- Whether a line has ended since the last word. -/
def hasBreak : Between → Bool
  | blanks _ => false
  | breaks _ _ => true

def blank (c : Char) : Between → Between
  | blanks bs => blanks (c :: bs)
  | b => b

def newline (c : Char) : Between → Between
  | blanks _ => breaks (some c) []
  | breaks first more => breaks first (c :: more)

/-- What stands for the gap before the next word; the last character first. -/
def folded : Between → Text
  | blanks bs => bs
  | breaks (some '\n') [] => [' ']
  | breaks (some '\n') more => more
  | breaks first more => more ++ first.toList

end Between

end ApiLinks.Yaml

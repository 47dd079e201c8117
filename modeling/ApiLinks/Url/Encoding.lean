import ApiLinks.Text.Percent

/-!
# Encoding of the parts of a URL

Which characters may stand in each part; all others are percent-encoded. A percent sign may stand everywhere.
-/

namespace ApiLinks.Url

/-- The visible characters of ASCII and the space. -/
def isPrintableAscii (c : Char) : Bool := 0x20 ≤ c.toNat && c.toNat ≤ 0x7E

/-- A rootless path holds every printable character of ASCII, and so does an opaque host. -/
def mayStandRootless (c : Char) : Bool := isPrintableAscii c

def mayStandInFragment (c : Char) : Bool :=
  isPrintableAscii c && c != ' ' && c != '"' && c != '<' && c != '>' && c != '\u0060'

def mayStandInPath (c : Char) : Bool :=
  mayStandInFragment c && c != '#' && c != '?' && c != '\x7b' && c != '\x7d'

def mayStandInCredentials (c : Char) : Bool :=
  mayStandInPath c && c != '/' && c != ':' && c != ';' && c != '=' && c != '@' && c != '[' && c != '\\' &&
    c != ']' && c != '^' && c != '|'

/-- What may stand in a query; an apostrophe may not where the scheme is special. -/
def mayStandInQuery (special : Bool) (c : Char) : Bool :=
  isPrintableAscii c && c != ' ' && c != '"' && c != '#' && c != '<' && c != '>' && !(special && c == '\'')

end ApiLinks.Url

import ApiLinks.Json.Basic

/-!
# Writing JSON texts

The text of a JSON value without blanks.
-/

namespace ApiLinks.Json

/-- A hexadecimal digit in lower case. -/
def lowerHex (n : Nat) : Char := if n < 10 then Char.ofNat (0x30 + n) else Char.ofNat (0x61 + (n - 10))

/-- A character as it stands in a string. -/
def escaped (c : Char) : Text :=
  if c = '"' then ['\\', '"']
  else if c = '\\' then ['\\', '\\']
  else if c = '\n' then ['\\', 'n']
  else if c = '\r' then ['\\', 'r']
  else if c = '\t' then ['\\', 't']
  else if c = '\u0008' then ['\\', 'b']
  else if c = '\u000c' then ['\\', 'f']
  else if c.toNat < 0x20 then ['\\', 'u', '0', '0', lowerHex (c.toNat / 16), lowerHex (c.toNat % 16)]
  else [c]

def quoted (t : Text) : Text := '"' :: t.flatMap escaped ++ ['"']

mutual

/-- The text of a value; a text or number that means nothing is written as null. -/
def write : Json → Text
  | null => "null".toList
  | bool b => if b then "true".toList else "false".toList
  | number n => (n.bind numeralText?).getD "null".toList
  | string t => (t.map quoted).getD "null".toList
  | array items => '[' :: Text.joined [','] (writeItems items) ++ [']']
  | object members => '\x7b' :: Text.joined [','] (writeMembers members) ++ ['\x7d']

def writeItems : List Json → List Text
  | [] => []
  | item :: rest => write item :: writeItems rest

def writeMembers : List (Option Text × Json) → List Text
  | [] => []
  | (key, value) :: rest => (quoted (key.getD []) ++ ':' :: write value) :: writeMembers rest

end

end ApiLinks.Json

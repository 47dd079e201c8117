import ApiLinks.Domain.Direction
import ApiLinks.Domain.Joining
import ApiLinks.Domain.Mapping
import ApiLinks.Domain.Punycode
import ApiLinks.Domain.Validity
import ApiLinks.Text.Percent
import ApiLinks.Text.Utf8

/-!
# Domains

A domain may be written in any script and in any case; what counts is its form in ASCII. For that
it is mapped and composed, and each of its labels is checked. A label that is in ASCII form
already is checked by what it stands for.
-/

namespace ApiLinks.Domain

/-- Characters that no domain holds. -/
def isForbidden (c : Char) : Bool :=
  c.toNat ≤ 0x20 || c == '#' || c == '/' || c == ':' || c == '<' || c == '>' || c == '?' || c == '@' || c == '[' ||
    c == '\\' || c == ']' || c == '^' || c == '|' || c == '%' || c.toNat == 0x7F

/-- The start of a label in ASCII form. -/
def asciiMark : Text := "xn--".toList

/-- Labels with more characters than this are not written in ASCII. -/
def encodingLimit : Nat := 1000

/-- Labels in ASCII form with more characters than this behind the mark are not read. -/
def decodingLimit : Nat := 2000

/-- Whether a label holds characters of labels only, begins with no mark, and has
joiners only where they count. -/
def isLabel (t : Text) : Bool := t.all isValid && !t.head?.any isMark && joinersCount [] t

/-- The label that an ASCII form stands for; one that is ASCII itself, or not composed, has no such form. -/
def decodeLabel? (t : Text) : Option Text := do
  if decodingLimit < t.length then none
  let label ← Punycode.decode? t
  if label.all Punycode.isAscii || !isLabel label || composed label != label then none else return label

/-- The label that a mapped and composed text stands for. -/
def label? (t : Text) : Option Text :=
  match Text.after? asciiMark t with
  | some rest => decodeLabel? rest
  | none => if isLabel t then some t else none

def asciiLabel? (label : Text) : Option Text :=
  if label.all Punycode.isAscii then some label
  else if encodingLimit < label.length then none
  else some (asciiMark ++ Punycode.encode label)

/-- Whether a domain is ASCII without a label in ASCII form, so that only its case can change. -/
def isPlain (t : Text) : Bool :=
  t.all Punycode.isAscii && (t.splitOn '.').all fun label =>
    (Text.after? asciiMark (label.map Char.toLower)).isNone

/-- The ASCII form of a domain by the mapping and the labels. -/
def encoded? (t : Text) : Option Text := do
  let t := composed (t.flatMap mapped)
  let labels ← (t.splitOn '.').mapM label?
  if t.any isForbidden || (labels.any (·.any isRightToLeft) && !labels.all keepsDirection) then none
  else return Text.joined ['.'] (← labels.mapM asciiLabel?)

/-- The ASCII form of a domain, which may be encoded by percents as well. -/
def toAscii? (t : Text) : Option Text := do
  let t ← Utf8.decode? (Percent.bytes t)
  if isPlain t then (if t.any isForbidden then none else return t.map Char.toLower)
  else encoded? t

end ApiLinks.Domain

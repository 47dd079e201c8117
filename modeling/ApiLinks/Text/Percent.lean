import ApiLinks.Number.Digits

/-!
# Percent-encoding

A text is written byte by byte of its UTF-8 form: a character that may stand is written as it is,
every byte of another one as a percent sign and two upper-case hexadecimal digits. `Percent.bytes`
reads such a text back to bytes.
-/

namespace ApiLinks.Percent

/-- The hexadecimal digit of a value below sixteen, in upper case. -/
def hexDigit (n : Nat) : Char :=
  if n < 10 then Char.ofNat (0x30 + n) else Char.ofNat (0x41 + (n - 10))

/-- A byte as a percent sign and two digits. -/
def encodeByte (b : UInt8) : Text := ['%', hexDigit (b.toNat / 16), hexDigit (b.toNat % 16)]

/-- Every byte of a character, each as a percent sign and two digits. -/
def encodeChar (c : Char) : Text := (String.utf8EncodeChar c).flatMap encodeByte

/-- The text with the characters that may not stand percent-encoded. -/
def encodeExcept (mayStand : Char → Bool) (t : Text) : Text :=
  t.flatMap fun c => if mayStand c then [c] else encodeChar c

/-- The unreserved characters of URIs: ASCII letters and digits and the four marks. -/
def isUnreserved (c : Char) : Bool :=
  c.isAlphanum || c == '-' || c == '.' || c == '_' || c == '~'

/-- The percent-encoding that leaves only unreserved characters standing. -/
def encode (t : Text) : Text := encodeExcept isUnreserved t

/-- The bytes that a text stands for: a percent sign with two digits is one byte, any
other character its UTF-8 form. -/
def bytes : Text → List UInt8
  | [] => []
  | '%' :: h :: l :: rest =>
    match Number.digit? 16 h, Number.digit? 16 l with
    | some x, some y => UInt8.ofNat (16 * x + y) :: bytes rest
    | _, _ => String.utf8EncodeChar '%' ++ bytes (h :: l :: rest)
  | c :: rest => String.utf8EncodeChar c ++ bytes rest

end ApiLinks.Percent

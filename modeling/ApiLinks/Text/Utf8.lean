import ApiLinks.Text.Basic

/-!
# UTF-8

The bytes of a text and the text of well-formed bytes. Overlong forms, surrogates, numbers beyond the last
character and broken sequences are no text.
-/

namespace ApiLinks.Utf8

def encode (t : Text) : List UInt8 := t.flatMap String.utf8EncodeChar

/-- The numbers of the characters end below the seventeenth plane. -/
theorem toNat_lt (c : Char) : c.val.toNat < 0x110000 := by
  have hvalid := c.valid
  simp only [UInt32.isValidChar, Nat.isValidChar] at hvalid
  omega

/-- The six bits of a byte that continues a character. -/
def tail? (b : UInt8) : Option Nat := if 0x80 ≤ b.toNat ∧ b.toNat < 0xC0 then some (b.toNat - 0x80) else none

/-- The character with a number from `least` on. -/
def char? (least n : Nat) : Option Char :=
  if h : n.isValidChar then (if least ≤ n then some (Char.ofNatAux n h) else none) else none

/-- The text that bytes encode. -/
def decode? : List UInt8 → Option Text
  | [] => some []
  | a :: rest =>
    let n := a.toNat
    if n < 0x80 then do
      let c ← char? 0 n
      return c :: (← decode? rest)
    else match rest with
      | [] => none
      | b :: rest =>
        if 0xC0 ≤ n ∧ n < 0xE0 then do
          let c ← char? 0x80 ((n - 0xC0) * 64 + (← tail? b))
          return c :: (← decode? rest)
        else match rest with
          | [] => none
          | b2 :: rest =>
            if 0xE0 ≤ n ∧ n < 0xF0 then do
              let c ← char? 0x800 (((n - 0xE0) * 64 + (← tail? b)) * 64 + (← tail? b2))
              return c :: (← decode? rest)
            else match rest with
              | [] => none
              | b3 :: rest =>
                if 0xF0 ≤ n ∧ n < 0xF8 then do
                  let c ← char? 0x10000 ((((n - 0xF0) * 64 + (← tail? b)) * 64 + (← tail? b2)) * 64 + (← tail? b3))
                  return c :: (← decode? rest)
                else none

end ApiLinks.Utf8

import ApiLinks.Text.Basic

/-!
# Blanks

The characters of the Unicode property White_Space, and texts without the blanks at their ends.

`trimStart_append`, `trimEnd_append` : only blanks are taken away; `trim_infix` :
what is left stands in the text.
-/

namespace ApiLinks

/-- The characters with the Unicode property White_Space. -/
def isBlank (c : Char) : Bool :=
  let n := c.toNat
  (0x09 ≤ n && n ≤ 0x0D) || n == 0x20 || n == 0x85 || n == 0xA0 || n == 0x1680 || (0x2000 ≤ n && n ≤ 0x200A) ||
    n == 0x2028 || n == 0x2029 || n == 0x202F || n == 0x205F || n == 0x3000

namespace Text

/-- The text without the blanks at its start. -/
def trimStart (t : Text) : Text := t.dropWhile isBlank

/-- The text without the blanks at its end. -/
def trimEnd (t : Text) : Text := (t.reverse.dropWhile isBlank).reverse

/-- The text without the blanks at its two ends. -/
def trim (t : Text) : Text := trimEnd (trimStart t)

theorem trimStart_append (t : Text) : t = t.takeWhile isBlank ++ trimStart t :=
  List.takeWhile_append_dropWhile.symm

theorem trimEnd_append (t : Text) : t = trimEnd t ++ (t.reverse.takeWhile isBlank).reverse := by
  rw [trimEnd, ← List.reverse_append, List.takeWhile_append_dropWhile, List.reverse_reverse]

theorem trimEnd_prefix_self (t : Text) : trimEnd t <+: t := ⟨_, (trimEnd_append t).symm⟩

theorem trim_infix (t : Text) : trim t <:+: t := by
  have hstart : trimStart t <:+ t := ⟨_, (trimStart_append t).symm⟩
  exact (trimEnd_prefix_self (trimStart t)).isInfix.trans hstart.isInfix

end Text

end ApiLinks

import ApiLinks.Text.Basic

/-!
# Values

What a variable can be bound to: one text, a list of texts, or a list of pairs of texts.
-/

namespace ApiLinks

/-- A value, by its shape. The entries of a mapping keep their order and may repeat a key. -/
inductive Value where
  | scalar (text : Text)
  | sequence (items : List Text)
  | mapping (entries : List (Text × Text))
  deriving DecidableEq, Repr

/-- A composite without items or entries; such a value contributes nothing. -/
def Value.isEmptyComposite : Value → Bool
  | scalar _ => false
  | sequence items => items.isEmpty
  | mapping entries => entries.isEmpty

end ApiLinks

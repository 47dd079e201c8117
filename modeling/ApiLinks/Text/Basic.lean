/-!
# Texts

Every text of the library is the list of its characters, so that reading one is recursion on
a list and a length is a number of characters. Texts are ordered by code point, which is
also the order of their UTF-8 bytes.

`cut?_eq_some` : cutting a text at a character loses nothing but that character,
and cuts at its first occurrence.
-/

namespace ApiLinks

/-- A text is the list of its characters. -/
abbrev Text := List Char

namespace Text

/-- The two sides of the first `sep`, if there is one. -/
def cut? (sep : Char) : Text → Option (Text × Text)
  | [] => none
  | c :: rest => if c = sep then some ([], rest) else (cut? sep rest).map fun (left, right) => (c :: left, right)

/-- The text without a final `c`, if it ends in one. -/
def dropLast? (c : Char) (t : Text) : Option Text :=
  match t.reverse with
  | [] => none
  | d :: rest => if d = c then some rest.reverse else none

/-- The text after `lead`, if it begins with it. -/
def after? : Text → Text → Option Text
  | [], t => some t
  | _ :: _, [] => none
  | l :: lead, c :: t => if l = c then after? lead t else none

/-- The texts with `sep` between each two of them. -/
def joined (sep : Text) (texts : List Text) : Text := List.intercalate sep texts

theorem cut?_eq_some {sep : Char} {t left right : Text} (h : cut? sep t = some (left, right)) :
    t = left ++ sep :: right ∧ sep ∉ left := by
  induction t generalizing left with
  | nil => simp [cut?] at h
  | cons c rest ih =>
    by_cases hc : c = sep
    · simp only [cut?, hc, if_true, Option.some.injEq, Prod.mk.injEq] at h
      simp [← h.1, ← h.2, hc]
    · simp only [cut?, hc, if_false, Option.map_eq_some_iff] at h
      obtain ⟨⟨l, r⟩, hl, he⟩ := h
      simp only [Prod.mk.injEq] at he
      obtain ⟨rfl, rfl⟩ := he
      have := ih hl
      simp [this.1.symm, this.2, Ne.symm hc]

theorem cut?_eq_none_iff {sep : Char} {t : Text} : cut? sep t = none ↔ sep ∉ t := by
  induction t with
  | nil => simp [cut?]
  | cons c rest ih =>
    by_cases hc : c = sep
    · simp [cut?, hc]
    · simp [cut?, hc, ih, Ne.symm hc]

theorem cut?_append {sep : Char} {left : Text} (h : sep ∉ left) (right : Text) :
    cut? sep (left ++ sep :: right) = some (left, right) := by
  induction left with
  | nil => simp [cut?]
  | cons c left ih =>
    obtain ⟨hc, hleft⟩ : sep ≠ c ∧ sep ∉ left := by simpa using h
    simp [cut?, Ne.symm hc, ih hleft]

theorem dropLast?_eq_some_iff {c : Char} {t start : Text} : dropLast? c t = some start ↔ t = start ++ [c] := by
  unfold dropLast?
  rw [← List.reverse_inj, List.reverse_append, List.reverse_singleton, List.singleton_append]
  split
  · rename_i hnil
    rw [hnil]
    exact ⟨nofun, nofun⟩
  · rename_i d rest hrest
    rw [hrest, List.cons.injEq, ← List.reverse_eq_iff, Option.ite_none_right_eq_some, Option.some.injEq]

theorem dropLast?_eq_none_iff {c : Char} {t : Text} : dropLast? c t = none ↔ t.getLast? ≠ some c := by
  rw [Option.eq_none_iff_forall_ne_some, ne_eq, List.getLast?_eq_some_iff, not_exists]
  simp only [ne_eq, dropLast?_eq_some_iff]

theorem dropLast?_append (c : Char) (t : Text) : dropLast? c (t ++ [c]) = some t :=
  dropLast?_eq_some_iff.mpr rfl

theorem dropLast?_eq_none {c : Char} {t : Text} (h : t.getLast? ≠ some c) : dropLast? c t = none :=
  dropLast?_eq_none_iff.mpr h

theorem prefix_of_dropLast?_eq_some {c : Char} {t start : Text} (h : dropLast? c t = some start) :
    start <+: t :=
  ⟨[c], (dropLast?_eq_some_iff.mp h).symm⟩

end Text

end ApiLinks

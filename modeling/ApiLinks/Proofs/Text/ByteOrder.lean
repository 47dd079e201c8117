import ApiLinks.Text.Utf8
import Mathlib.Data.List.Flatten
import Mathlib.Tactic.SplitIfs

/-!
# The order of bytes

Texts are ordered by code point, and their UTF-8 forms by byte; the two orders are one.

* `Utf8.Before xs ys` : two byte strings differ at some byte, where that of `xs` is the smaller one;
* `Utf8.before_encodeChar` : the forms of two characters do so in the order of the characters;
* `Utf8.encode_lt_encode_iff` : the order of two texts is that of their forms;
* `Utf8.length_encode_lt` : a text with further characters in it has a longer form.
-/

namespace ApiLinks.Utf8

/-- At the first byte where they differ `xs` has the smaller one, and neither ends before it. -/
def Before : List UInt8 → List UInt8 → Prop
  | a :: xs, b :: ys => a < b ∨ a = b ∧ Before xs ys
  | _, _ => False

theorem Before.lt {xs ys : List UInt8} (h : Before xs ys) : xs < ys := by
  induction xs generalizing ys with
  | nil => cases h
  | cons a xs ih =>
    cases ys with
    | nil => cases h
    | cons b ys =>
      rw [List.cons_lt_cons_iff]
      rcases h with hlt | ⟨heq, hrest⟩
      · exact Or.inl hlt
      · exact Or.inr ⟨heq, ih hrest⟩

theorem Before.append {xs ys : List UInt8} (h : Before xs ys) (us vs : List UInt8) :
    Before (xs ++ us) (ys ++ vs) := by
  induction xs generalizing ys with
  | nil => cases h
  | cons a xs ih =>
    cases ys with
    | nil => cases h
    | cons b ys =>
      rcases h with hlt | ⟨heq, hrest⟩
      · exact Or.inl hlt
      · exact Or.inr ⟨heq, ih hrest⟩

theorem before_append_left (xs : List UInt8) {us vs : List UInt8} (h : Before us vs) :
    Before (xs ++ us) (xs ++ vs) := by
  induction xs with
  | nil => exact h
  | cons x xs ih => exact Or.inr ⟨rfl, ih⟩

theorem before_head {a b : Nat} (h : a < b) (hb : b < 256) (xs ys : List UInt8) :
    Before (UInt8.ofNat a :: xs) (UInt8.ofNat b :: ys) := by
  left
  rw [UInt8.lt_iff_toNat_lt, UInt8.toNat_ofNat', UInt8.toNat_ofNat']
  omega

/-- Digits in base sixty-four are compared behind those in front of them. -/
theorem before_concat {xs ys : List UInt8} {m n : Nat} (hlt : m / 64 < n / 64 → Before xs ys)
    (heq : m / 64 = n / 64 → xs = ys) (h : m < n) :
    Before (xs ++ [UInt8.ofNat (m % 64 + 128)]) (ys ++ [UInt8.ofNat (n % 64 + 128)]) := by
  by_cases hd : m / 64 < n / 64
  · exact (hlt hd).append _ _
  · rw [heq (by omega)]
    exact before_append_left ys (before_head (by omega) (by omega) [] [])

/-- Longer forms begin with greater bytes, and forms of one length compare digit by digit. -/
theorem before_encodeChar {c d : Char} (h : c < d) :
    Before (String.utf8EncodeChar c) (String.utf8EncodeChar d) := by
  have hcd : c.val.toNat < d.val.toNat := h
  have hd : d.val.toNat < 0x110000 := toNat_lt d
  unfold String.utf8EncodeChar
  generalize c.val.toNat = m at hcd ⊢
  generalize d.val.toNat = n at hcd hd ⊢
  have h2 (k : Nat) : k / 4096 = k / 64 / 64 := by omega
  have h3 (k : Nat) : k / 262144 = k / 64 / 64 / 64 := by omega
  simp only [h2, h3]
  split_ifs <;> first | (exfalso; omega) | exact before_head (by omega) (by omega) _ _ | skip
  · exact before_concat (fun _ => before_head (by omega) (by omega) [] []) (fun h1 => by rw [h1]) hcd
  · exact before_concat (before_concat (fun _ => before_head (by omega) (by omega) [] []) fun h1 => by rw [h1])
      (fun h1 => by rw [h1]) hcd
  · exact before_concat (before_concat (before_concat (fun _ => before_head (by omega) (by omega) [] [])
      fun h1 => by rw [h1]) fun h1 => by rw [h1]) (fun h1 => by rw [h1]) hcd

theorem encode_lt_encode {t u : Text} (h : t < u) : encode t < encode u := by
  induction t generalizing u with
  | nil =>
    cases u with
    | nil => exact absurd h (List.lt_irrefl [])
    | cons d u =>
      obtain ⟨b, rest, hb⟩ := List.exists_cons_of_ne_nil (String.utf8EncodeChar_ne_nil (c := d))
      rw [encode, encode, List.flatMap_cons, hb, List.flatMap_nil]
      exact List.nil_lt_cons _ _
  | cons c t ih =>
    cases u with
    | nil => exact absurd h (List.not_lt_nil _)
    | cons d u =>
      unfold encode
      rw [List.flatMap_cons, List.flatMap_cons]
      rcases List.cons_lt_cons_iff.mp h with hlt | ⟨rfl, hrest⟩
      · exact ((before_encodeChar hlt).append _ _).lt
      · exact List.append_left_lt (ih hrest)

theorem encode_lt_encode_iff {t u : Text} : encode t < encode u ↔ t < u := by
  refine ⟨fun h => ?_, encode_lt_encode⟩
  by_cases htu : t < u
  · exact htu
  · rcases List.le_iff_lt_or_eq.mp (List.not_lt.mp htu) with hut | rfl
    · exact absurd (encode_lt_encode hut) (List.lt_asymm h)
    · exact absurd h (List.lt_irrefl _)

theorem length_encode_lt {t u : Text} (h : t.Sublist u) (hlt : t.length < u.length) :
    (encode t).length < (encode u).length := by
  induction h with
  | slnil => exact absurd hlt (Nat.lt_irrefl 0)
  | @cons t u c h _ =>
    have hle : (encode t).length ≤ (encode u).length := (h.flatMap String.utf8EncodeChar).length_le
    have hpos : 0 < (String.utf8EncodeChar c).length := List.length_pos_iff.mpr String.utf8EncodeChar_ne_nil
    rw [encode, encode, List.flatMap_cons, List.length_append]
    unfold encode at hle
    omega
  | cons_cons c _ ih =>
    have := ih (Nat.lt_of_succ_lt_succ hlt)
    unfold encode at this ⊢
    rw [List.flatMap_cons, List.flatMap_cons, List.length_append, List.length_append]
    omega

end ApiLinks.Utf8

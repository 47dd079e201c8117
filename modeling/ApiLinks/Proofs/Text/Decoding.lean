import ApiLinks.Proofs.Text.Joined
import ApiLinks.Text.Percent
import ApiLinks.Text.Utf8
import Mathlib.Data.List.Forall2
import Mathlib.Tactic.SplitIfs

/-!
# Decoding

Reading an encoded text gives back the text, for UTF-8 and for percent-encoding, whatever characters it holds.

* `Utf8.decode?_encode` : the bytes of a text are read back (`Utf8.decode?_encodeChar_append` is the step);
* `Percent.StandsFor w t` : the written text `w` has the bytes of `t`, whatever follows it;
* `Percent.standsFor_encode`, `Percent.standsFor_self` : an encoded text does, and so does a text without
  percent signs; `StandsFor.append` and `StandsFor.joined` put such texts together;
* `Percent.decode?` : the percent-decoding of a text; `Percent.encode_injective` follows.
-/

namespace ApiLinks

namespace Utf8

theorem tail?_ofNat (n : Nat) : tail? (UInt8.ofNat (n % 64 + 128)) = some (n % 64) := by
  have hn : (UInt8.ofNat (n % 64 + 128)).toNat = n % 64 + 128 :=
    UInt8.toNat_ofNat_of_lt' (by unfold UInt8.size; omega)
  unfold tail?
  rw [hn, if_pos (by omega), Nat.add_sub_cancel]

theorem char?_eq_some {least n : Nat} {c : Char} (hn : n = c.toNat) (h : least ≤ n) :
    char? least n = some c := by
  subst hn
  have hvalid : c.toNat.isValidChar := c.valid
  unfold char?
  rw [dif_pos hvalid, if_pos h]
  rfl

/-! ### The four forms of a character -/

section Forms

variable {a b₁ b₂ b₃ : UInt8} {x y z : Nat} {c : Char} (rest : List UInt8)

theorem decode?_one (ha : a.toNat < 0x80) (hc : char? 0 a.toNat = some c) :
    decode? (a :: rest) = (decode? rest).map (c :: ·) := by
  rw [decode?.eq_def]
  simp only [if_pos ha, hc, Option.bind_eq_bind, Option.bind_some]
  cases decode? rest <;> rfl

theorem decode?_two (ha : 0xC0 ≤ a.toNat ∧ a.toNat < 0xE0) (hx : tail? b₁ = some x)
    (hc : char? 0x80 ((a.toNat - 0xC0) * 64 + x) = some c) :
    decode? (a :: b₁ :: rest) = (decode? rest).map (c :: ·) := by
  have h1 : ¬ a.toNat < 0x80 := by omega
  rw [decode?.eq_def]
  simp only [if_neg h1, if_pos ha, hx, hc, Option.bind_eq_bind, Option.bind_some]
  cases decode? rest <;> rfl

theorem decode?_three (ha : 0xE0 ≤ a.toNat ∧ a.toNat < 0xF0) (hx : tail? b₁ = some x) (hy : tail? b₂ = some y)
    (hc : char? 0x800 (((a.toNat - 0xE0) * 64 + x) * 64 + y) = some c) :
    decode? (a :: b₁ :: b₂ :: rest) = (decode? rest).map (c :: ·) := by
  have h1 : ¬ a.toNat < 0x80 := by omega
  have h2 : ¬ (0xC0 ≤ a.toNat ∧ a.toNat < 0xE0) := by omega
  rw [decode?.eq_def]
  simp only [if_neg h1, if_neg h2, if_pos ha, hx, hy, hc, Option.bind_eq_bind, Option.bind_some]
  cases decode? rest <;> rfl

theorem decode?_four (ha : 0xF0 ≤ a.toNat ∧ a.toNat < 0xF8) (hx : tail? b₁ = some x) (hy : tail? b₂ = some y)
    (hz : tail? b₃ = some z) (hc : char? 0x10000 ((((a.toNat - 0xF0) * 64 + x) * 64 + y) * 64 + z) = some c) :
    decode? (a :: b₁ :: b₂ :: b₃ :: rest) = (decode? rest).map (c :: ·) := by
  have h1 : ¬ a.toNat < 0x80 := by omega
  have h2 : ¬ (0xC0 ≤ a.toNat ∧ a.toNat < 0xE0) := by omega
  have h3 : ¬ (0xE0 ≤ a.toNat ∧ a.toNat < 0xF0) := by omega
  rw [decode?.eq_def]
  simp only [if_neg h1, if_neg h2, if_neg h3, if_pos ha, hx, hy, hz, hc, Option.bind_eq_bind, Option.bind_some]
  cases decode? rest <;> rfl

end Forms

theorem decode?_encodeChar_append (c : Char) (rest : List UInt8) :
    decode? (String.utf8EncodeChar c ++ rest) = (decode? rest).map (c :: ·) := by
  have hbound : c.toNat < 0x110000 := toNat_lt c
  have hlead {n : Nat} (hn : n < 256) : (UInt8.ofNat n).toNat = n := UInt8.toNat_ofNat_of_lt' hn
  have hval : c.val.toNat = c.toNat := rfl
  unfold String.utf8EncodeChar
  dsimp only
  rw [hval]
  -- one case for each number of bytes; in each the digits in base sixty-four make
  -- up the number of the character
  split_ifs with h1 h2 h3
  · have ha : (UInt8.ofNat c.toNat).toNat = c.toNat := hlead (by omega)
    exact decode?_one rest (by omega) (char?_eq_some ha (Nat.zero_le _))
  · have ha : (UInt8.ofNat (c.toNat / 64 % 32 + 192)).toNat = c.toNat / 64 % 32 + 192 := hlead (by omega)
    exact decode?_two rest (by omega) (tail?_ofNat _) (char?_eq_some (by omega) (by omega))
  · have ha : (UInt8.ofNat (c.toNat / 4096 % 16 + 224)).toNat = c.toNat / 4096 % 16 + 224 := hlead (by omega)
    exact decode?_three rest (by omega) (tail?_ofNat _) (tail?_ofNat _) (char?_eq_some (by omega) (by omega))
  · have ha : (UInt8.ofNat (c.toNat / 262144 % 8 + 240)).toNat = c.toNat / 262144 % 8 + 240 := hlead (by omega)
    exact decode?_four rest (by omega) (tail?_ofNat _) (tail?_ofNat _) (tail?_ofNat _)
      (char?_eq_some (by omega) (by omega))

theorem encode_append (t u : Text) : encode (t ++ u) = encode t ++ encode u := List.flatMap_append

theorem encode_cons (c : Char) (t : Text) : encode (c :: t) = String.utf8EncodeChar c ++ encode t :=
  List.flatMap_cons

theorem decode?_encode (t : Text) : decode? (encode t) = some t := by
  induction t with
  | nil => rfl
  | cons c t ih =>
    rw [encode_cons, decode?_encodeChar_append, ih]
    rfl

end Utf8

namespace Percent

theorem digit?_hexDigit : ∀ n < 16, Number.digit? 16 (hexDigit n) = some n := by decide

theorem bytes_encodeByte_append (b : UInt8) (rest : Text) : bytes (encodeByte b ++ rest) = b :: bytes rest := by
  have hb : b.toNat < 256 := b.toNat_lt_size
  have hvalue : 16 * (b.toNat / 16) + b.toNat % 16 = b.toNat := Nat.div_add_mod _ _
  have hbytes : encodeByte b ++ rest = '%' :: hexDigit (b.toNat / 16) :: hexDigit (b.toNat % 16) :: rest := rfl
  rw [hbytes, bytes.eq_2, digit?_hexDigit _ (by omega), digit?_hexDigit _ (by omega)]
  simp only [hvalue, UInt8.ofNat_toNat]

theorem bytes_flatMap_encodeByte_append (bs : List UInt8) (rest : Text) :
    bytes (bs.flatMap encodeByte ++ rest) = bs ++ bytes rest := by
  induction bs with
  | nil => rfl
  | cons b bs ih => rw [List.flatMap_cons, List.append_assoc, bytes_encodeByte_append, ih, List.cons_append]

theorem bytes_cons {c : Char} (h : c ≠ '%') (rest : Text) :
    bytes (c :: rest) = String.utf8EncodeChar c ++ bytes rest :=
  bytes.eq_3 c rest fun _ _ _ hc _ => h hc

/-! ### What written texts stand for -/

/-- The bytes of the written text are those of `t`, whatever is written behind it. -/
def StandsFor (w t : Text) : Prop := ∀ rest, bytes (w ++ rest) = Utf8.encode t ++ bytes rest

theorem standsFor_self {t : Text} (h : '%' ∉ t) : StandsFor t t := by
  intro rest
  induction t with
  | nil => rfl
  | cons c t ih =>
    obtain ⟨hc, ht⟩ : '%' ≠ c ∧ '%' ∉ t := by simpa using h
    rw [List.cons_append, bytes_cons hc.symm, ih ht, ← List.append_assoc]
    rfl

theorem standsFor_encode (t : Text) : StandsFor (encode t) t := by
  intro rest
  unfold encode encodeExcept Utf8.encode
  induction t with
  | nil => rfl
  | cons c t ih =>
    rw [List.flatMap_cons, List.flatMap_cons, List.append_assoc, List.append_assoc, ← ih]
    split
    · rename_i hc
      have hne : c ≠ '%' := by
        rintro rfl
        exact absurd hc (by decide)
      exact bytes_cons hne _
    · exact bytes_flatMap_encodeByte_append _ _

theorem StandsFor.append {w t v u : Text} (h : StandsFor w t) (k : StandsFor v u) :
    StandsFor (w ++ v) (t ++ u) := by
  intro rest
  rw [List.append_assoc, h, k, Utf8.encode_append, List.append_assoc]

theorem StandsFor.joined {sep : Text} (hsep : '%' ∉ sep) {ws ts : List Text}
    (h : List.Forall₂ StandsFor ws ts) :
    StandsFor (Text.joined sep ws) (Text.joined sep ts) := by
  induction h with
  | nil => exact fun _ => rfl
  | @cons w t ws ts hw hrest ih =>
    by_cases hn : ws = []
    · subst hn
      obtain rfl := List.forall₂_nil_left_iff.mp hrest
      rw [Text.joined_singleton, Text.joined_singleton]
      exact hw
    · have hts : ts ≠ [] := fun ht => hn (List.forall₂_nil_right_iff.mp (ht ▸ hrest))
      rw [Text.joined_cons w hn, Text.joined_cons t hts]
      exact (hw.append (standsFor_self hsep)).append ih

/-- The text that percent-encoding stands for, if its bytes are those of one. -/
def decode? (w : Text) : Option Text := Utf8.decode? (bytes w)

theorem StandsFor.decode?_eq {w t : Text} (h : StandsFor w t) : decode? w = some t := by
  have hbytes := h []
  rw [List.append_nil, show bytes [] = [] from rfl, List.append_nil] at hbytes
  rw [decode?, hbytes, Utf8.decode?_encode]

theorem encode_injective : Function.Injective encode := by
  intro t u h
  have ht := (standsFor_encode t).decode?_eq
  rw [h, (standsFor_encode u).decode?_eq] at ht
  exact (Option.some.inj ht).symm

end Percent

end ApiLinks

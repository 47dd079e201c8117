import ApiLinks.Text.Percent

/-!
# The alphabet of percent-encoding

* `Percent.isUnreserved_or_eq_percent` : an encoded text holds unreserved characters and percent signs only;
* `Percent.encode_eq_nil_iff` : only the empty text is encoded by nothing.
-/

namespace ApiLinks.Percent

theorem isUnreserved_hexDigit : ∀ n < 16, isUnreserved (hexDigit n) = true := by decide

theorem mem_encodeByte {b : UInt8} {c : Char} (h : c ∈ encodeByte b) : isUnreserved c = true ∨ c = '%' := by
  have hb : b.toNat < 256 := b.toNat_lt_size
  unfold encodeByte at h
  rcases List.mem_cons.mp h with rfl | h
  · exact Or.inr rfl
  rcases List.mem_cons.mp h with rfl | h
  · exact Or.inl (isUnreserved_hexDigit _ (by omega))
  · obtain rfl := List.mem_singleton.mp h
    exact Or.inl (isUnreserved_hexDigit _ (by omega))

theorem isUnreserved_or_eq_percent {t : Text} {c : Char} (h : c ∈ encode t) :
    isUnreserved c = true ∨ c = '%' := by
  unfold encode encodeExcept at h
  obtain ⟨d, -, hd⟩ := List.mem_flatMap.mp h
  split at hd
  · rename_i hu
    obtain rfl := List.mem_singleton.mp hd
    exact Or.inl hu
  · obtain ⟨b, -, hb⟩ := List.mem_flatMap.mp hd
    exact mem_encodeByte hb

theorem encodeChar_ne_nil (c : Char) : encodeChar c ≠ [] := by
  obtain ⟨b, rest, hb⟩ := List.exists_cons_of_ne_nil (String.utf8EncodeChar_ne_nil (c := c))
  rw [encodeChar, hb]
  simp [encodeByte]

theorem encode_eq_nil_iff {t : Text} : encode t = [] ↔ t = [] := by
  cases t with
  | nil => simp [encode, encodeExcept]
  | cons c t =>
    unfold encode encodeExcept
    rw [List.flatMap_cons, List.append_eq_nil_iff]
    constructor
    · rintro ⟨h, -⟩
      split at h
      · simp at h
      · exact absurd h (encodeChar_ne_nil c)
    · simp

end ApiLinks.Percent

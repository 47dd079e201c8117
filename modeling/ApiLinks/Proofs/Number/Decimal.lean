import ApiLinks.Number.Digits

/-!
# Decimal numbers

* `natFrom?_eq_ofDigitChars` : digits are read one behind another;
* `Denotes t n` : the text is decimal digits, at least one, with or without a
  plus sign, and their number is `n`;
* `unsigned?_eq_some_iff` : these texts, and no others, are read as numbers;
* `unsigned?_zeros_ofNat` : a number that is written out reads back, whatever zeros stand in front of it;
* `eq_zero_of_head?_ofNat` : only zero is written with a zero in front;
* `ofNat_ofDigitChars` : digits that are read are written out again, unless
  needless zeros stand in front of them.
-/

namespace ApiLinks.Number

theorem toNat_of_isDigit {c : Char} (h : c.isDigit = true) : 48 ≤ c.toNat ∧ c.toNat ≤ 57 := by
  simpa [Char.isDigit, UInt32.le_iff_toNat_le] using h

theorem digit?_of_isDigit {c : Char} (h : c.isDigit = true) : digit? 10 c = some (c.toNat - '0'.toNat) := by
  have hc := toNat_of_isDigit h
  have h0 : '0'.toNat = 48 := rfl
  unfold digit?
  simp only [hc.1, hc.2, decide_true, Bool.and_self, if_true, h0]
  rw [if_pos (by omega)]

theorem natFrom?_eq_ofDigitChars {digits : Text} (h : ∀ c ∈ digits, c.isDigit = true) (n : Nat) :
    natFrom? 10 n digits = some (Nat.ofDigitChars 10 digits n) := by
  induction digits generalizing n with
  | nil => rfl
  | cons c digits ih =>
    simp only [natFrom?, digit?_of_isDigit (h c List.mem_cons_self)]
    rw [ih (fun d hd => h d (List.mem_cons_of_mem c hd)), Nat.ofDigitChars_cons, Nat.mul_comm]

theorem isDigit_of_mem_zeros_ofNat {zeros n : Nat} {c : Char} (h : c ∈ List.replicate zeros '0' ++ ofNat n) :
    c.isDigit = true := by
  rcases List.mem_append.mp h with h | h
  · rw [List.eq_of_mem_replicate h]
    rfl
  · exact Nat.isDigit_of_mem_toDigits (by decide) (by decide) h

theorem zeros_ofNat_ne_nil (zeros n : Nat) : List.replicate zeros '0' ++ ofNat n ≠ [] := by
  intro h
  exact Nat.toDigits_ne_nil (List.append_eq_nil_iff.mp h).2

theorem digit?_eq_none {c : Char} (h : c.isDigit = false) : digit? 10 c = none := by
  have hc : ¬ (0x30 ≤ c.toNat ∧ c.toNat ≤ 0x39) := by
    intro hc
    rw [Char.isDigit_iff_toNat.mpr hc] at h
    cases h
  unfold digit?
  simp only [Bool.and_eq_true, decide_eq_true_eq, if_neg hc]
  -- the digits that are letters count from ten on
  refine if_neg ?_
  split
  · omega
  · split <;> omega

theorem isDigit_of_natFrom? {t : Text} {m n : Nat} (h : natFrom? 10 m t = some n) :
    ∀ c ∈ t, c.isDigit = true := by
  induction t generalizing m with
  | nil => intro c hc; cases hc
  | cons c t ih =>
    cases hc : c.isDigit with
    | false =>
      simp only [natFrom?, digit?_eq_none hc] at h
      cases h
    | true =>
      simp only [natFrom?, digit?_of_isDigit hc] at h
      intro d hd
      rcases List.mem_cons.mp hd with rfl | hd
      · exact hc
      · exact ih h d hd

theorem nat?_eq_some_iff {t : Text} {n : Nat} :
    nat? 10 t = some n ↔ t ≠ [] ∧ (∀ c ∈ t, c.isDigit = true) ∧ Nat.ofDigitChars 10 t 0 = n := by
  unfold nat?
  by_cases ht : t = []
  · simp [ht]
  · rw [if_neg (by simpa using ht), and_iff_right ht]
    constructor
    · intro h
      have hdigits := isDigit_of_natFrom? h
      rw [natFrom?_eq_ofDigitChars hdigits] at h
      exact ⟨hdigits, Option.some.inj h⟩
    · rintro ⟨hdigits, rfl⟩
      exact natFrom?_eq_ofDigitChars hdigits 0

/-- Decimal digits, at least one, behind a plus sign or alone, with the number that they write. -/
def Denotes (t : Text) (n : Nat) : Prop :=
  ∃ digits : Text, (t = digits ∨ t = '+' :: digits) ∧ digits ≠ [] ∧ (∀ c ∈ digits, c.isDigit = true) ∧
    Nat.ofDigitChars 10 digits 0 = n

theorem unsigned?_eq_some_iff {t : Text} {n : Nat} : unsigned? 10 t = some n ↔ Denotes t n := by
  unfold unsigned? Denotes
  simp only [← nat?_eq_some_iff]
  split
  · rename_i rest
    constructor
    · exact fun h => ⟨rest, Or.inr rfl, h⟩
    · rintro ⟨digits, heq | heq, h⟩
      · -- a plus sign is no digit
        subst heq
        have hplus : '+'.isDigit = true := (nat?_eq_some_iff.mp h).2.1 '+' List.mem_cons_self
        cases hplus
      · rwa [(List.cons.inj heq).2]
  · rename_i hplus
    constructor
    · exact fun h => ⟨t, Or.inl rfl, h⟩
    · rintro ⟨digits, rfl | rfl, h⟩
      · exact h
      · exact absurd rfl (hplus digits)

theorem unsigned?_zeros_ofNat (zeros n : Nat) :
    unsigned? 10 (List.replicate zeros '0' ++ ofNat n) = some n := by
  rw [unsigned?_eq_some_iff]
  refine ⟨_, Or.inl rfl, zeros_ofNat_ne_nil zeros n, fun c hc => isDigit_of_mem_zeros_ofNat hc, ?_⟩
  rw [Nat.ofDigitChars_append, Nat.ofDigitChars_replicate_zero, Nat.mul_zero, ofNat,
    Nat.ofDigitChars_ten_toDigits]

theorem isDigit_of_mem_ofNat {n : Nat} {c : Char} (h : c ∈ ofNat n) : c.isDigit = true :=
  isDigit_of_mem_zeros_ofNat (List.mem_append_right (List.replicate 0 '0') h)

theorem ofNat_eq_cons (n : Nat) : ∃ c digits, ofNat n = c :: digits ∧ c.isDigit = true := by
  obtain ⟨c, digits, h⟩ := List.exists_cons_of_ne_nil (zeros_ofNat_ne_nil 0 n : ofNat n ≠ [])
  exact ⟨c, digits, h, isDigit_of_mem_ofNat (h ▸ List.mem_cons_self)⟩

theorem le_ofDigitChars (digits : Text) (n : Nat) : n ≤ Nat.ofDigitChars 10 digits n := by
  rw [Nat.ofDigitChars_eq_ofDigitChars_zero]
  have hscaled : n ≤ 10 ^ digits.length * n := Nat.le_mul_of_pos_left n (Nat.pow_pos (by decide))
  exact Nat.le_trans hscaled (Nat.le_add_right _ _)

theorem eq_zero_of_head?_ofNat {n : Nat} (h : (ofNat n).head? = some '0') : n = 0 := by
  induction n using Nat.strongRecOn with
  | ind n ih =>
    by_cases hn : n < 10
    · rw [ofNat, Nat.toDigits_of_lt_base hn, List.head?_cons, Option.some.injEq] at h
      have hall : ∀ n < 10, n.digitChar = '0' → n = 0 := by decide
      exact hall n hn h
    · have hhead : (ofNat n).head? = (ofNat (n / 10)).head? := by
        rw [ofNat, ofNat, Nat.toDigits_eq_if (by decide), if_neg hn, List.head?_append]
        exact Option.or_of_isSome (List.isSome_head?.mpr Nat.toDigits_ne_nil)
      have htenth : n / 10 = 0 := ih (n / 10) (by omega) (hhead ▸ h)
      omega

/-- A digit is the sign of its own value. -/
theorem digitChar_of_isDigit {c : Char} (h : c.isDigit = true) : (c.toNat - '0'.toNat).digitChar = c := by
  have hall : ∀ n < 58, 48 ≤ n → ((Char.ofNat n).toNat - '0'.toNat).digitChar = Char.ofNat n := by decide
  obtain ⟨hlow, hhigh⟩ := toNat_of_isDigit h
  have hc := hall c.toNat (by omega) hlow
  rwa [Char.ofNat_toNat] at hc

theorem ofNat_of_isDigit {c : Char} (h : c.isDigit = true) : ofNat (c.toNat - '0'.toNat) = [c] := by
  obtain ⟨hlow, hhigh⟩ := toNat_of_isDigit h
  have h0 : '0'.toNat = 48 := rfl
  rw [ofNat, Nat.toDigits_of_lt_base (by omega), digitChar_of_isDigit h]

/-- Digits behind a number that is not zero. -/
theorem ofNat_ofDigitChars_of_pos {digits : Text} (h : ∀ c ∈ digits, c.isDigit = true) {n : Nat} (hn : 0 < n) :
    ofNat (Nat.ofDigitChars 10 digits n) = ofNat n ++ digits := by
  induction digits generalizing n with
  | nil => rw [Nat.ofDigitChars_nil, List.append_nil]
  | cons c digits ih =>
    have hc := h c List.mem_cons_self
    obtain ⟨hlow, hhigh⟩ := toNat_of_isDigit hc
    have h0 : '0'.toNat = 48 := rfl
    have hnext : ofNat (10 * n + (c.toNat - '0'.toNat)) = ofNat n ++ [c] := by
      rw [← ofNat_of_isDigit hc, ofNat, ofNat, ofNat, Nat.toDigits_append_toDigits (by decide) hn (by omega)]
    rw [Nat.ofDigitChars_cons, ih (fun d hd => h d (List.mem_cons_of_mem c hd)) (by omega), hnext,
      List.append_assoc]
    rfl

theorem ofNat_ofDigitChars {c : Char} {digits : Text} (h : ∀ d ∈ c :: digits, d.isDigit = true)
    (hzero : c ≠ '0' ∨ digits = []) : ofNat (Nat.ofDigitChars 10 (c :: digits) 0) = c :: digits := by
  have hc := h c List.mem_cons_self
  rw [Nat.ofDigitChars_cons, Nat.mul_zero, Nat.zero_add]
  by_cases hnil : digits = []
  · rw [hnil, Nat.ofDigitChars_nil, ofNat_of_isDigit hc]
  · have hpos : 0 < c.toNat - '0'.toNat := by
      have hne : c.toNat ≠ '0'.toNat := fun heq => (hzero.resolve_right hnil) (Char.toNat_inj.mp heq)
      have hlow := (toNat_of_isDigit hc).1
      have h0 : '0'.toNat = 48 := rfl
      omega
    rw [ofNat_ofDigitChars_of_pos (fun d hd => h d (List.mem_cons_of_mem c hd)) hpos, ofNat_of_isDigit hc]
    rfl

end ApiLinks.Number

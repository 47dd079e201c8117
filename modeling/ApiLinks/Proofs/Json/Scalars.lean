import ApiLinks.Json.Printer
import ApiLinks.Json.Reader
import ApiLinks.Proofs.Number.Decimal
import Mathlib.Data.List.Forall2
import Mathlib.Data.List.TakeWhile

/-!
# Strings and numbers of JSON texts

What is written for a text or for an integer is read back, whatever stands behind it.

* `escaped_cases` : a character stands in a string behind a backslash, by its number or as itself;
* `Piece.Means p c` : the piece stands for the character, and is no half of a pair;
* `pieces_flatMap_escaped` : the pieces of a string that is written out mean its text;
* `Closes rest` : what stands behind a value inside another one;
* `number?_ofInt` : an integer of 64 bits is read back exactly.
-/

namespace ApiLinks.Json

/-! ## Strings -/

/-- A piece that stands for a character by itself. -/
inductive Piece.Means : Piece → Char → Prop where
  | char (c : Char) : Means (.char c) c
  | unit {c : Char} (h : c.toNat < 0xD800) : Means (.unit c.toNat) c

theorem charOfUnit?_toNat (c : Char) : charOfUnit? c.toNat = some c := by
  have hvalid : c.toNat.isValidChar := c.valid
  rw [charOfUnit?, dif_pos hvalid]
  rfl

/-- The units of written strings lie below the surrogates, so that no two of them make a pair. -/
theorem textOf?_of_means {ps : List Piece} {t : Text} (h : List.Forall₂ Piece.Means ps t) :
    textOf? ps = some t := by
  induction h with
  | nil => rfl
  | @cons p c ps t hp h ih =>
    cases hp with
    | char => rw [textOf?, ih, Option.map_some]
    | unit hlow =>
      cases h with
      | nil => rw [textOf?, charOfUnit?_toNat, Option.map_some]
      | @cons q d ps t hq h =>
        cases hq with
        | char => rw [textOf?, charOfUnit?_toNat, ih] <;> simp
        | unit hlow' => rw [textOf?, if_neg (by omega), charOfUnit?_toNat, ih]; simp

theorem digit?_lowerHex {n : Nat} (h : n < 16) : Number.digit? 16 (lowerHex n) = some n := by
  have hall : ∀ n < 16, Number.digit? 16 (lowerHex n) = some n := by decide
  exact hall n h

theorem unit?_lowerHex {n : Nat} (h : n < 256) :
    unit? '0' '0' (lowerHex (n / 16)) (lowerHex (n % 16)) = some n := by
  have hzero : Number.digit? 16 '0' = some 0 := rfl
  simp only [unit?, Number.nat?, Number.natFrom?, List.isEmpty_cons, Bool.false_eq_true, if_false, hzero,
    digit?_lowerHex (n := n / 16) (by omega), digit?_lowerHex (n := n % 16) (by omega), Option.some.injEq]
  omega

/-- A character stands in a string behind a backslash, by its number, or as itself. -/
theorem escaped_cases (c : Char) :
    (∃ e, escape? e = some c ∧ escaped c = ['\\', e]) ∨
      (c.toNat < 0x20 ∧ escaped c = ['\\', 'u', '0', '0', lowerHex (c.toNat / 16), lowerHex (c.toNat % 16)]) ∨
      ((c ≠ '"' ∧ c ≠ '\\' ∧ ¬ c.toNat < 0x20) ∧ escaped c = [c]) := by
  by_cases hletter : ∃ e ∈ ['"', '\\', 'n', 'r', 't', 'b', 'f'], escape? e = some c
  · obtain ⟨e, he, hc⟩ := hletter
    refine Or.inl ⟨e, hc, ?_⟩
    simp only [List.mem_cons, List.not_mem_nil, or_false] at he
    rcases he with rfl | rfl | rfl | rfl | rfl | rfl | rfl <;> obtain rfl := Option.some.inj hc <;> rfl
  · right
    obtain ⟨hquote, hslash, hn, hr, ht, hb, hf⟩ :
        c ≠ '"' ∧ c ≠ '\\' ∧ c ≠ '\n' ∧ c ≠ '\r' ∧ c ≠ '\t' ∧ c ≠ '\u0008' ∧ c ≠ '\u000c' := by
      simpa [escape?, eq_comm] using hletter
    rw [escaped, if_neg hquote, if_neg hslash, if_neg hn, if_neg hr, if_neg ht, if_neg hb, if_neg hf]
    by_cases hlow : c.toNat < 0x20
    · exact Or.inl ⟨hlow, if_pos hlow⟩
    · exact Or.inr ⟨⟨hquote, hslash, hlow⟩, if_neg hlow⟩

/-- A piece in front of those that are read behind it. -/
def withPiece (p : Piece) (read : Option (List Piece × Text)) : Option (List Piece × Text) :=
  read.map fun (ps, rest) => (p :: ps, rest)

theorem pieces_escape {e c : Char} (h : escape? e = some c) (rest : Text) :
    pieces ('\\' :: e :: rest) = withPiece (.char c) (pieces rest) := by
  rw [pieces]
  · rw [h]
    cases pieces rest <;> rfl
  · rintro _ _ _ _ _ rfl
    cases h

theorem pieces_unit {a b c d : Char} {n : Nat} (h : unit? a b c d = some n) (rest : Text) :
    pieces ('\\' :: 'u' :: a :: b :: c :: d :: rest) = withPiece (.unit n) (pieces rest) := by
  rw [pieces, h]
  cases pieces rest <;> rfl

theorem pieces_plain {c : Char} (hquote : c ≠ '"') (hslash : c ≠ '\\') (hlow : ¬ c.toNat < 0x20) (rest : Text) :
    pieces (c :: rest) = withPiece (.char c) (pieces rest) := by
  rw [pieces]
  · rw [if_neg (by simp [hslash, hlow])]
    cases pieces rest <;> rfl
  · exact hquote
  · exact fun _ _ _ _ _ h => absurd h hslash
  · exact fun _ _ h => absurd h hslash

theorem pieces_escaped (c : Char) :
    ∃ p : Piece, p.Means c ∧ ∀ rest, pieces (escaped c ++ rest) = withPiece p (pieces rest) := by
  obtain ⟨e, he, h⟩ | ⟨hlow, h⟩ | ⟨⟨hquote, hslash, hlow⟩, h⟩ := escaped_cases c
  · exact ⟨.char c, .char c, fun rest => h ▸ pieces_escape he rest⟩
  · exact ⟨.unit c.toNat, .unit (by omega), fun rest => h ▸ pieces_unit (unit?_lowerHex (by omega)) rest⟩
  · exact ⟨.char c, .char c, fun rest => h ▸ pieces_plain hquote hslash hlow rest⟩

theorem exists_pieces_means (t rest : Text) :
    ∃ ps, pieces (t.flatMap escaped ++ '"' :: rest) = some (ps, rest) ∧ List.Forall₂ Piece.Means ps t := by
  induction t with
  | nil => exact ⟨[], by rw [List.flatMap_nil, List.nil_append, pieces], .nil⟩
  | cons c t ih =>
    obtain ⟨ps, hps, hmeans⟩ := ih
    obtain ⟨p, hp, hpieces⟩ := pieces_escaped c
    refine ⟨p :: ps, ?_, .cons hp hmeans⟩
    rw [List.flatMap_cons, List.append_assoc, hpieces, hps]
    rfl

theorem pieces_flatMap_escaped (t rest : Text) :
    ∃ ps, pieces (t.flatMap escaped ++ '"' :: rest) = some (ps, rest) ∧ textOf? ps = some t := by
  obtain ⟨ps, hps, hmeans⟩ := exists_pieces_means t rest
  exact ⟨ps, hps, textOf?_of_means hmeans⟩

/-! ## Numbers -/

open Number (ofNat ofInt)

/-- The integers of 64 bits, signed or unsigned. -/
def IsWord (n : Int) : Prop := -(Nat.pow 2 63 : Int) ≤ n ∧ n < wordBound

/-- What stands behind a value inside another, or nothing. -/
def Closes (rest : Text) : Prop := ∀ c ∈ rest.head?, c = ',' ∨ c = ']' ∨ c = '\x7d'

theorem significand_of_lt {digits : Text} {n : Nat} (count : Nat)
    (h : Nat.ofDigitChars 10 digits n < wordBound) :
    significand digits n count = (Nat.ofDigitChars 10 digits n, count + digits.length) := by
  induction digits generalizing n count with
  | nil => rfl
  | cons c digits ih =>
    rw [Nat.ofDigitChars_cons] at h ⊢
    have hnext : 10 * n + (c.toNat - '0'.toNat) < wordBound := Nat.lt_of_le_of_lt (Number.le_ofDigitChars _ _) h
    rw [significand]
    simp only [hnext, if_true]
    rw [ih _ h, List.length_cons, Nat.add_assoc, Nat.add_comm 1]

theorem significand_ofNat {n : Nat} (h : n < wordBound) :
    significand (ofNat n) 0 0 = (n, (ofNat n).length) := by
  have hn : Nat.ofDigitChars 10 (ofNat n) 0 = n := Nat.ofDigitChars_toDigits (by decide) (by decide)
  rw [significand_of_lt 0 (by rwa [hn]), hn, Nat.zero_add]

theorem digits?_ofNat (n : Nat) {rest : Text} (hrest : Closes rest) :
    digits? (ofNat n ++ rest) = some (ofNat n, rest) := by
  have hdigits : ∀ c ∈ ofNat n, c.isDigit = true := fun _ => Number.isDigit_of_mem_ofNat
  have hend : rest.takeWhile Char.isDigit = [] ∧ rest.dropWhile Char.isDigit = rest := by
    cases rest with
    | nil => exact ⟨rfl, rfl⟩
    | cons c rest => rcases hrest c rfl with rfl | rfl | rfl <;> exact ⟨rfl, rfl⟩
  unfold digits?
  rw [List.takeWhile_append_of_pos hdigits, List.dropWhile_append_of_pos hdigits, hend.1,
    hend.2, List.append_nil]
  exact if_neg (by rw [List.isEmpty_iff]; exact Nat.toDigits_ne_nil)

theorem fraction?_of_closes {rest : Text} (h : Closes rest) : fraction? rest = some (none, rest) := by
  cases rest with
  | nil => rfl
  | cons c rest => rcases h c rfl with rfl | rfl | rfl <;> rfl

theorem exponent?_of_closes {rest : Text} (h : Closes rest) : exponent? rest = some (none, rest) := by
  cases rest with
  | nil => rfl
  | cons c rest => rcases h c rfl with rfl | rfl | rfl <;> rfl

/-- Reads a number behind its sign. -/
def afterSign? (negative : Bool) (t : Text) : Option (Json × Text) := do
  let (whole, t) ← digits? t
  if whole.head? = some '0' ∧ whole ≠ ['0'] then none
  let (fraction, t) ← fraction? t
  let (exponent, t) ← exponent? t
  return (number (numeral? negative whole fraction exponent), t)

theorem number?_minus (t : Text) : number? ('-' :: t) = afterSign? true t := rfl

theorem number?_of_no_minus {t : Text} (h : t.head? ≠ some '-') : number? t = afterSign? false t := by
  unfold number?
  split
  rename_i negative rest heq
  split at heq
  · exact absurd rfl h
  · obtain ⟨rfl, rfl⟩ := Prod.mk.inj heq
    rfl

theorem afterSign?_ofNat (negative : Bool) (n : Nat) {rest : Text} (hrest : Closes rest) :
    afterSign? negative (ofNat n ++ rest) = some (number (numeral? negative (ofNat n) none none), rest) := by
  have hzero : ¬ ((ofNat n).head? = some '0' ∧ ofNat n ≠ ['0']) := by
    rintro ⟨hhead, hne⟩
    exact hne (Number.eq_zero_of_head?_ofNat hhead ▸ rfl)
  simp only [afterSign?, digits?_ofNat n hrest, Option.bind_eq_bind, Option.bind_some, if_neg hzero,
    fraction?_of_closes hrest, exponent?_of_closes hrest]
  rfl

theorem numeral?_nonneg {n : Nat} (h : n < wordBound) :
    numeral? false (ofNat n) none none = some (.integer n) := by
  simp only [numeral?, significand_ofNat h, if_true, Bool.not_false]

theorem numeral?_neg {n : Nat} (hn : 0 < n) (h : n ≤ Nat.pow 2 63) :
    numeral? true (ofNat n) none none = some (.integer (-(n : Int))) := by
  have hbound : n < wordBound := Nat.lt_of_le_of_lt h (by decide)
  simp only [numeral?, significand_ofNat hbound, if_true, Bool.not_true, Bool.false_eq_true, if_false]
  exact if_pos ⟨hn, h⟩

theorem number?_ofInt {n : Int} (h : IsWord n) {rest : Text} (hrest : Closes rest) :
    number? (ofInt n ++ rest) = some (number (some (.integer n)), rest) := by
  obtain ⟨hlow, hhigh⟩ := h
  cases n with
  | ofNat n =>
    have hhead : (ofNat n ++ rest).head? ≠ some '-' := by
      obtain ⟨c, digits, hsplit, hc⟩ := Number.ofNat_eq_cons n
      rw [hsplit, List.cons_append, List.head?_cons, ne_eq, Option.some.injEq]
      rintro rfl
      cases hc
    rw [ofInt, number?_of_no_minus hhead, afterSign?_ofNat false n hrest,
      numeral?_nonneg (Int.ofNat_lt.mp hhigh)]
    rfl
  | negSucc n =>
    have hword : n + 1 ≤ Nat.pow 2 63 := by omega
    rw [ofInt, List.cons_append, number?_minus, afterSign?_ofNat true (n + 1) hrest,
      numeral?_neg (Nat.succ_pos n) hword]
    rfl

end ApiLinks.Json

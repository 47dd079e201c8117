import ApiLinks.Proofs.Number.Decimal
import ApiLinks.Text.Blank
import Mathlib.Data.List.Basic
import Mathlib.Data.List.TakeWhile

/-!
# Trimmed texts

* `Blanks t` : the text `t` holds nothing but blanks;
* `IsTrimmed t` : no blank stands at an end of `t`;
* `trim_padded` : blanks around a trimmed text are taken away, and nothing else;
* `isTrimmed_trim`, `exists_padded` : every text is a trimmed one with blanks around it.
-/

namespace ApiLinks.Text

/-- Nothing but blanks. -/
def Blanks (t : Text) : Prop := ∀ c ∈ t, isBlank c = true

/-- No blank stands at the start or at the end. -/
structure IsTrimmed (t : Text) : Prop where
  head : ∀ c, t.head? = some c → isBlank c = false
  last : ∀ c, t.getLast? = some c → isBlank c = false

/-- Between the space and the next-line character no blank has its number. -/
theorem isBlank_of_toNat {c : Char} (hlow : 0x20 < c.toNat) (hhigh : c.toNat < 0x85) : isBlank c = false := by
  have hne (n : Nat) (hn : n ≤ 0x20 ∨ 0x85 ≤ n) : (c.toNat == n) = false := beq_false_of_ne (by omega)
  have hlow' : decide (c.toNat ≤ 0x0D) = false := decide_eq_false (by omega)
  have hhigh' : decide (0x2000 ≤ c.toNat) = false := decide_eq_false (by omega)
  simp only [isBlank, hlow', hhigh', hne 0x20 (by decide), hne 0x85 (by decide), hne 0xA0 (by decide),
    hne 0x1680 (by decide), hne 0x2028 (by decide), hne 0x2029 (by decide), hne 0x202F (by decide),
    hne 0x205F (by decide), hne 0x3000 (by decide), Bool.and_false, Bool.false_and, Bool.or_false]

theorem isBlank_of_isDigit {c : Char} (h : c.isDigit = true) : isBlank c = false := by
  obtain ⟨hlow, hhigh⟩ := Number.toNat_of_isDigit h
  exact isBlank_of_toNat (by omega) (by omega)

theorem IsTrimmed.append {t u : Text} (ht : IsTrimmed t) (hne : t ≠ []) (hu : u ≠ [])
    (hlast : ∀ c, u.getLast? = some c → isBlank c = false) : IsTrimmed (t ++ u) where
  head c hc := ht.head c (by rwa [List.head?_append_of_ne_nil t hne] at hc)
  last c hc := hlast c (by rwa [List.getLast?_append_of_ne_nil t hu] at hc)

theorem Blanks.nil : Blanks [] := fun _ hc => nomatch hc

theorem Blanks.singleton {c : Char} (h : isBlank c = true) : Blanks [c] := by
  intro d hd
  rwa [List.mem_singleton.mp hd]

theorem Blanks.not_mem {t : Text} (h : Blanks t) {c : Char} (hc : isBlank c = false) : c ∉ t := by
  intro hm
  rw [h c hm] at hc
  cases hc

theorem Blanks.append {t u : Text} (ht : Blanks t) (hu : Blanks u) : Blanks (t ++ u) := by
  intro c hc
  rcases List.mem_append.mp hc with hc | hc
  · exact ht c hc
  · exact hu c hc

theorem Blanks.reverse {t : Text} (h : Blanks t) : Blanks t.reverse := fun c hc => h c (List.mem_reverse.mp hc)

theorem trimStart_append_of_blanks {before t : Text} (hb : Blanks before)
    (ht : ∀ c, t.head? = some c → isBlank c = false) : trimStart (before ++ t) = t := by
  unfold trimStart
  rw [List.dropWhile_append_of_pos hb]
  cases t with
  | nil => rfl
  | cons c t => rw [List.dropWhile_cons_of_neg (by rw [ht c rfl]; exact Bool.false_ne_true)]

theorem trimEnd_append_of_blanks {t after : Text} (ha : Blanks after)
    (ht : ∀ c, t.getLast? = some c → isBlank c = false) : trimEnd (t ++ after) = t := by
  have hstart : trimStart (after.reverse ++ t.reverse) = t.reverse := by
    apply trimStart_append_of_blanks ha.reverse
    intro c hc
    exact ht c (by rw [List.getLast?_eq_head?_reverse, hc])
  unfold trimStart at hstart
  rw [trimEnd, List.reverse_append, hstart, List.reverse_reverse]

theorem IsTrimmed.trimEnd_eq {t : Text} (h : IsTrimmed t) : t.trimEnd = t := by
  have hend := trimEnd_append_of_blanks .nil h.last
  rwa [List.append_nil] at hend

theorem trimEnd_eq_nil_iff {t : Text} : t.trimEnd = [] ↔ Blanks t := by
  rw [trimEnd, List.reverse_eq_nil_iff, List.dropWhile_eq_nil_iff]
  simp only [List.mem_reverse, Blanks]

theorem trim_of_blanks {t : Text} (h : Blanks t) : t.trim = [] := by
  have hstart : trimStart (t ++ []) = [] := trimStart_append_of_blanks h fun c hc => by cases hc
  rw [List.append_nil] at hstart
  rw [trim, hstart]
  rfl

theorem trim_padded {before t after : Text} (hb : Blanks before) (ht : IsTrimmed t) (ha : Blanks after) :
    (before ++ t ++ after).trim = t := by
  unfold trim
  cases t with
  | nil =>
    have htrim := trim_of_blanks (hb.append ha)
    rw [List.append_nil]
    exact htrim
  | cons c t =>
    have hstart : trimStart (before ++ (c :: t ++ after)) = c :: t ++ after :=
      trimStart_append_of_blanks hb fun d hd => ht.head d hd
    rw [List.append_assoc, hstart]
    exact trimEnd_append_of_blanks ha ht.last

theorem isBlank_of_head?_dropWhile {t : Text} {c : Char} (h : (t.dropWhile isBlank).head? = some c) :
    isBlank c = false := by
  have hnot := List.head?_dropWhile_not isBlank t
  rw [h] at hnot
  simpa using hnot

theorem isBlank_of_getLast?_trimEnd {t : Text} {c : Char} (h : t.trimEnd.getLast? = some c) :
    isBlank c = false := by
  rw [trimEnd, List.getLast?_reverse] at h
  exact isBlank_of_head?_dropWhile h

theorem isTrimmed_trim (t : Text) : IsTrimmed t.trim where
  head c hc := by
    have hhead : (trimStart t).head? = some c := by
      obtain ⟨rest, hrest⟩ := List.head?_eq_some_iff.mp hc
      rw [trim] at hrest
      rw [trimEnd_append (trimStart t), hrest]
      rfl
    exact isBlank_of_head?_dropWhile hhead
  last _ hc := isBlank_of_getLast?_trimEnd hc

/-- What a trimmed text begins with has blanks at its end only. -/
theorem IsTrimmed.trimEnd_of_prefix {t u : Text} (ht : IsTrimmed t) (hu : u <+: t) : IsTrimmed u.trimEnd where
  head c hc := by
    obtain ⟨rest, hrest⟩ := (trimEnd_prefix_self u).trans hu
    apply ht.head c
    rw [← hrest, List.head?_append, hc, Option.some_or]
  last _ hc := isBlank_of_getLast?_trimEnd hc

/-- Only blanks are taken away. -/
theorem exists_padded (t : Text) :
    ∃ before after, Blanks before ∧ Blanks after ∧ t = before ++ t.trim ++ after := by
  have hblanks (u : Text) : Blanks (u.takeWhile isBlank) :=
    fun c hc => List.all_eq_true.mp List.all_takeWhile c hc
  refine ⟨t.takeWhile isBlank, ((trimStart t).reverse.takeWhile isBlank).reverse, hblanks t,
    (hblanks _).reverse, ?_⟩
  rw [List.append_assoc, trim, ← trimEnd_append, ← trimStart_append]

theorem trim_eq_self {t : Text} (ht : IsTrimmed t) : t.trim = t := by
  have htrim := trim_padded .nil ht .nil
  rwa [List.nil_append, List.append_nil] at htrim

end ApiLinks.Text

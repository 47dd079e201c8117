import ApiLinks.Proofs.Param.Literal
import ApiLinks.Proofs.Yaml.FlowSequence

/-!
# Items of a list argument

An argument whose value is a list of words in brackets binds the texts of what the words mean, where the
word itself as a value would be taken as it is written. The two agree on a word exactly if the text of
what it means is the word again.

* `Yaml.plainText? t` : the text of what a plain scalar means;
* `Param.ofArgument_flowList` : what a list argument binds, and when it binds its items as they are written;
* `Param.ofArgument_flowList_rewrites` : a decimal that loses the zero at its end, and other words that change;
* `Yaml.plainText?_digits` : digits keep their text while their number has 64 bits.
-/

namespace ApiLinks

variable {items : List Text} {name t : Text} {c : Char}

namespace Yaml

/-- The text of what a plain scalar means, where it is a scalar of a document. -/
def plainText? (t : Text) : Option Text := (plainData? t).bind Data.scalarText?

/-! ## Words as plain scalars -/

theorem isBlank_of_isWordPart (hc : isWordPart c = true) : isBlank c = false := by
  obtain ⟨hlow, hhigh⟩ := toNat_of_isWordPart hc
  exact Text.isBlank_of_toNat (by omega) (by omega)

/-! ### Digits -/

section Digits

variable (hd : ∀ d ∈ c :: t, d.isDigit = true)
include hd

theorem splitSign_digits : Number.Literal.splitSign (c :: t) = (false, c :: t) := by
  have hc := hd c List.mem_cons_self
  unfold Number.Literal.splitSign
  split
  · rename_i heq
    rw [(List.cons.inj heq).1] at hc
    exact absurd hc (by decide)
  · rename_i heq
    rw [(List.cons.inj heq).1] at hc
    exact absurd hc (by decide)
  · rfl

theorem radixMark_digits : radixMark (c :: t) = none := by
  have hmark (m : Char) (hm : m.isDigit = false) (u : Text) : c :: t ≠ '0' :: m :: u := by
    rintro h
    have hin : m ∈ c :: t := by simp [h]
    rw [hd m hin] at hm
    cases hm
  unfold radixMark
  split
  · rename_i heq
    exact absurd heq (hmark _ (by decide) _)
  · rename_i heq
    exact absurd heq (hmark _ (by decide) _)
  · rename_i heq
    exact absurd heq (hmark _ (by decide) _)
  · rfl

theorem isPaddedDigits_digits : isPaddedDigits (c :: t) = (c == '0' && !t.isEmpty) := by
  by_cases hzero : c = '0'
  · subst hzero
    cases t with
    | nil => rfl
    | cons d rest => exact List.all_eq_true.mpr fun x hx => hd x (List.mem_cons_of_mem _ hx)
  · have hc := hd c List.mem_cons_self
    rw [beq_false_of_ne hzero, Bool.false_and]
    unfold isPaddedDigits
    split
    · rename_i hsign
      rw [(List.cons.inj hsign).1] at hc
      exact absurd hc (by decide)
    · rename_i hsign
      rw [(List.cons.inj hsign).1] at hc
      exact absurd hc (by decide)
    · dsimp only
      split
      · rename_i hpadded
        exact absurd (List.cons.inj hpadded).1 hzero
      · rfl

/-- Digits are the integer that they denote, unless a needless zero makes a text of them. -/
theorem integer?_digits :
    integer? (c :: t) = if c == '0' && !t.isEmpty then none
      else some (Nat.ofDigitChars 10 (c :: t) 0 : Int) := by
  have hread : Number.nat? 10 (c :: t) = some (Nat.ofDigitChars 10 (c :: t) 0) :=
    Number.natFrom?_eq_ofDigitChars hd 0
  simp only [integer?, splitSign_digits hd, radixMark_digits hd, Option.bind_none,
    isPaddedDigits_digits hd, hread]
  cases c == '0' && !t.isEmpty with
  | true => rfl
  | false => rfl

omit hd in
theorem isDocumentInteger_natCast {n : Nat} (h : n < Nat.pow 2 64) : isDocumentInteger (n : Int) = true := by
  rw [Nat.pow_eq] at h
  rw [isDocumentInteger, decide_eq_true_eq, Nat.pow_eq, Nat.pow_eq]
  omega

/-- **Digits keep their text** while the number that they denote has 64 bits. -/
theorem plainText?_digits (hsmall : Nat.ofDigitChars 10 (c :: t) 0 < Nat.pow 2 64) :
    plainText? (c :: t) = some (c :: t) := by
  have hne (u : Text) (hu : u.all Char.isDigit = false) : c :: t ≠ u := by
    rintro rfl
    rw [List.all_eq_true.mpr hd] at hu
    cases hu
  have hnull : isNullWord (c :: t) = false := by
    unfold isNullWord
    simp only [Bool.or_eq_false_iff, beq_eq_false_iff_ne]
    exact ⟨⟨⟨hne _ (by decide), hne _ (by decide)⟩, hne _ (by decide)⟩, hne _ (by decide)⟩
  have hbool : bool? (c :: t) = none := by
    unfold bool?
    rw [if_neg, if_neg]
    · exact not_or.mpr ⟨hne _ (by decide), not_or.mpr ⟨hne _ (by decide), hne _ (by decide)⟩⟩
    · exact not_or.mpr ⟨hne _ (by decide), not_or.mpr ⟨hne _ (by decide), hne _ (by decide)⟩⟩
  have hread : integer? (c :: t) = none ∧ isPaddedDigits (c :: t) = true ∨
      integer? (c :: t) = some (Nat.ofDigitChars 10 (c :: t) 0 : Int) ∧
        Number.ofNat (Nat.ofDigitChars 10 (c :: t) 0) = c :: t := by
    rw [integer?_digits hd, isPaddedDigits_digits hd]
    cases hzero : c == '0' && !t.isEmpty with
    | true => exact Or.inl ⟨rfl, rfl⟩
    | false =>
      refine Or.inr ⟨rfl, Number.ofNat_ofDigitChars hd ?_⟩
      rcases Bool.and_eq_false_iff.mp hzero with hzero | hzero
      · exact Or.inl (beq_eq_false_iff_ne.mp hzero)
      · exact Or.inr (List.isEmpty_iff.mp (by simpa using hzero))
  generalize Nat.ofDigitChars 10 (c :: t) 0 = n at hsmall hread
  rcases hread with ⟨hinteger, hpadded⟩ | ⟨hinteger, hwritten⟩
  · rw [plainText?, plainData?, hnull, hbool, ofInteger?, hinteger, hpadded]
    rfl
  · have hdocument : ofInteger? (c :: t) = some (some (.number (.integer n))) := by
      rw [ofInteger?, hinteger]
      exact if_pos (isDocumentInteger_natCast hsmall)
    rw [plainText?, plainData?, hnull, hbool, hdocument]
    exact congrArg some hwritten

end Digits

/-! ### Lists of words -/

/-- The words all mean something, and their texts are those of what they mean, or some word means nothing. -/
theorem mapM_plainData?_cases (h : ∀ t ∈ items, t ≠ [] ∧ isNullWord t = false) :
    (∃ ds texts, items.mapM plainData? = some ds ∧ Data.itemTexts ds = .ok texts ∧
      items.mapM plainText? = some texts) ∨ (items.mapM plainData? = none ∧ items.mapM plainText? = none) := by
  induction items with
  | nil => exact Or.inl ⟨[], [], rfl, rfl, rfl⟩
  | cons t items ih =>
    obtain ⟨hne, hnull⟩ := h t List.mem_cons_self
    rw [List.mapM_cons, List.mapM_cons]
    cases ht : plainData? t with
    | none => exact Or.inr ⟨rfl, by rw [plainText?, ht]; rfl⟩
    | some d =>
      obtain ⟨u, hu⟩ : ∃ u, d.scalarText? = some u := by
        refine (plainData?_cases ht).resolve_left ?_
        rintro ⟨-, rfl | hword⟩
        · exact hne rfl
        · rw [hnull] at hword
          cases hword
      have htext : plainText? t = some u := by rw [plainText?, ht, Option.bind_some, hu]
      rw [htext]
      rcases ih fun x hx => h x (List.mem_cons_of_mem t hx) with ⟨ds, texts, hds, htexts, hmap⟩ | ⟨hds, hmap⟩
      · refine Or.inl ⟨d :: ds, u :: texts, by rw [hds]; rfl, ?_, by rw [hmap]; rfl⟩
        rw [Data.itemTexts, hu, htexts]
        rfl
      · exact Or.inr ⟨by rw [hds]; rfl, by rw [hmap]; rfl⟩

theorem mapM_plainText?_eq_self_iff :
    items.mapM plainText? = some items ↔ ∀ t ∈ items, plainText? t = some t := by
  induction items with
  | nil => simp
  | cons t items ih =>
    rw [List.mapM_cons, List.forall_mem_cons, ← ih]
    cases plainText? t with
    | none => simp
    | some u =>
      cases items.mapM plainText? with
      | none => simp
      | some texts => simp

end Yaml

namespace Param

theorem isTrimmed_word (ht : Yaml.IsWord t) : Text.IsTrimmed t where
  head c hc := Yaml.isBlank_of_isWordPart (ht.parts c (List.mem_of_head? hc))
  last c hc := Yaml.isBlank_of_isWordPart (ht.parts c (List.mem_of_getLast? hc))

theorem isTrimmed_flowList (items : List Text) : Text.IsTrimmed (Yaml.flowList items) where
  head c hc := by
    obtain rfl := Option.some.inj hc
    rfl
  last c hc := by
    rw [Yaml.flowList, List.getLast?_append_of_ne_nil _ (List.cons_ne_nil _ _)] at hc
    obtain rfl := Option.some.inj hc
    rfl

/-- A word alone is taken as it is written. -/
theorem ofAssignment_word (ht : Yaml.IsWord t) (hnull : Yaml.isNullWord t = false) (name : Text) :
    ofAssignment name t = .ok ⟨name, some (.scalar t)⟩ := by
  have htrim : t.trim = t := Text.trim_eq_self (isTrimmed_word ht)
  have hbegins : beginsCollection t = false := by
    obtain ⟨c, w, rfl⟩ := List.exists_cons_of_ne_nil ht.ne_nil
    have hc := ht.parts c List.mem_cons_self
    rw [beginsCollection, Yaml.beq_of_isWordPart hc (by decide), Yaml.beq_of_isWordPart hc (by decide)]
    rfl
  exact ofAssignment_of_not_beginsCollection (by rw [htrim, hnull]) (by rw [htrim, hbegins]) name

theorem ofAssignment_flowList (hne : items ≠ []) (hwords : ∀ t ∈ items, Yaml.IsWord t)
    (hnull : ∀ t ∈ items, Yaml.isNullWord t = false) (name : Text) :
    ofAssignment name (Yaml.flowList items) =
      .ok ⟨name, some (match items.mapM Yaml.plainText? with
        | some texts => .sequence texts
        | none => .scalar (Yaml.flowList items))⟩ := by
  have htrim : (Yaml.flowList items).trim = Yaml.flowList items := Text.trim_eq_self (isTrimmed_flowList items)
  have hword : Yaml.isNullWord (Yaml.flowList items).trim = false := by
    rw [htrim]
    rfl
  have hbegins : beginsCollection (Yaml.flowList items).trim = true := by
    rw [htrim]
    rfl
  have hdata := Yaml.data?_flowList hne hwords
  rcases Yaml.mapM_plainData?_cases fun t ht => ⟨(hwords t ht).ne_nil, hnull t ht⟩ with
    ⟨ds, texts, hds, htexts, hmap⟩ | ⟨hds, hmap⟩
  · rw [hds] at hdata
    have hcollection := collection?_eq_some_iff.mpr ⟨hdata, .sequence ds⟩
    rw [ofAssignment_of_collection? hword hbegins hcollection, hmap, ofData, Data.value?, htexts]
    rfl
  · rw [hds] at hdata
    have hnone : collection? (Yaml.flowList items) = none := by
      rw [collection?, hdata]
      rfl
    rw [ofAssignment_of_collection?_eq_none hword hnone, hmap]

/-- **A list argument binds the texts of what its words mean, as a sequence, or else all of its text as
a scalar**; the words are bound as they are written exactly if each is the text of what it means,
whereas a word alone always is. -/
theorem ofArgument_flowList (name : Text) (items : List Text) (hname : '=' ∉ name) (hblank : name.trim ≠ [])
    (hne : items ≠ []) (hwords : ∀ t ∈ items, Yaml.IsWord t) (hnull : ∀ t ∈ items, Yaml.isNullWord t = false) :
    ofArgument (name ++ '=' :: Yaml.flowList items) =
        .ok ⟨name.trim, some (match items.mapM Yaml.plainText? with
          | some texts => .sequence texts
          | none => .scalar (Yaml.flowList items))⟩ ∧
      (ofArgument (name ++ '=' :: Yaml.flowList items) = .ok ⟨name.trim, some (.sequence items)⟩ ↔
        ∀ t ∈ items, Yaml.plainText? t = some t) ∧
      ∀ t ∈ items, ofArgument (name ++ '=' :: t) = .ok ⟨name.trim, some (.scalar t)⟩ := by
  have hlist :=
    (ofArgument_eq_ofAssignment hname hblank _).trans (ofAssignment_flowList hne hwords hnull name.trim)
  refine ⟨hlist, ?_, fun t ht => ?_⟩
  · rw [hlist, ← Yaml.mapM_plainText?_eq_self_iff]
    cases items.mapM Yaml.plainText? with
    | none => simp
    | some texts => simp
  · rw [ofArgument_eq_ofAssignment hname hblank, ofAssignment_word (hwords t ht) (hnull t ht)]

/-- A word, a number that is written as it is read, and digits behind needless zeros are
all bound as they are written. -/
theorem ofArgument_flowList_kept :
    let items := ["v".toList, "1.5".toList, "007".toList]
    '=' ∉ "x".toList ∧ Text.trim "x".toList ≠ [] ∧ (∀ t ∈ items, Yaml.IsWord t) ∧
      (∀ t ∈ items, Yaml.isNullWord t = false) ∧
      ofArgument "x=[v, 1.5, 007]".toList = .ok ⟨['x'], some (.sequence items)⟩ := by
  intro items
  have hname : '=' ∉ "x".toList := by decide
  have hblank : Text.trim "x".toList ≠ [] := by decide
  have hwords : ∀ t ∈ items, Yaml.IsWord t := by
    intro t ht
    have hall : ∀ t ∈ items, t ≠ [] ∧ t.all Yaml.isWordPart = true := by decide
    exact ⟨(hall t ht).1, List.all_eq_true.mp (hall t ht).2⟩
  have hnull : ∀ t ∈ items, Yaml.isNullWord t = false := by decide
  have hkept : ∀ t ∈ items, Yaml.plainText? t = some t := by decide +kernel
  exact ⟨hname, hblank, hwords, hnull,
    (ofArgument_flowList "x".toList items hname hblank (by decide) hwords hnull).2.1.mpr hkept⟩

/-- **In a list a decimal loses the zero at its end**, and a word for truth its capital
letter, although both are bound as they are written where they stand alone; an integer of more
than 64 bits undoes the list. -/
theorem ofArgument_flowList_rewrites :
    ofArgument "x=[1.50, True]".toList = .ok ⟨['x'], some (.sequence ["1.5".toList, "true".toList])⟩ ∧
      ofArgument "x=1.50".toList = .ok ⟨['x'], some (.scalar "1.50".toList)⟩ ∧
      ofArgument "x=True".toList = .ok ⟨['x'], some (.scalar "True".toList)⟩ ∧
      ofArgument "x=[v, 18446744073709551616]".toList =
        .ok ⟨['x'], some (.scalar "[v, 18446744073709551616]".toList)⟩ := by
  decide +kernel

end Param

end ApiLinks

import ApiLinks.Template.Basic
import ApiLinks.Proofs.Text.Joined

/-!
# The variables of a template

Every specification in a template was read from an entry of an expression body, and
keeps what its reader has checked.

* `Template.hasParameter_iff` : the parameters are the names in the specifications of the expressions;
* `Varspec.length?_eq_some_iff` : the numbers that are lengths;
* `Varspec.eq_parts_of_ofEntry` : a specification is made of the parts of its entry;
* `Varspec.name_infix_of_ofEntry`, `Expression.name_infix_of_ofBody` : a name stands
  in its entry, and so in the body;
* `Expression.exists_ofEntry` : a specification of an expression is the reading of an entry of its body;
* `Expression.length_of_mem_ofBody`, `Template.length_of_mem` : its length is above zero and below the bound;
* `Expression.name_ne_nil`, `Expression.no_comma_of_ofBody` : its name is not empty and holds no comma;
* `Template.mem_variableNames_iff` : the variables of a template are its parameters;
* `Template.variableNames_pairwise` : they stand in the order of their first occurrences, each of them once.
-/

namespace ApiLinks

namespace Varspec

theorem length?_eq_some_iff {t : Text} {n : Nat} :
    length? t = some n ↔ Number.unsigned? 10 t = some n ∧ 0 < n ∧ n < lengthBound := by
  unfold length?
  cases h : Number.unsigned? 10 t with
  | none => simp
  | some m =>
    simp only [Option.ite_none_right_eq_some, Option.some.injEq]
    constructor
    · rintro ⟨hm, rfl⟩
      exact ⟨rfl, hm⟩
    · rintro ⟨rfl, hm⟩
      exact ⟨hm, rfl⟩

theorem length_of_parts {entry : Text} {n : Nat} (h : (parts entry).2.1 = .maxLength n) :
    0 < n ∧ n < lengthBound := by
  unfold parts at h
  split at h
  · cases h
  · split at h
    · split at h
      · rename_i hn
        obtain rfl := Modifier.maxLength.inj h
        exact (length?_eq_some_iff.mp hn).2
      · cases h
    · cases h

/-- A specification is made of the parts of its entry, without the blanks around it. -/
theorem eq_parts_of_ofEntry {entry : Text} {v : Varspec} (h : (ofEntry entry).varspec = some v) :
    v = ⟨(parts entry.trim).1, (parts entry.trim).2.1⟩ := by
  unfold ofEntry at h
  simp only at h
  split at h
  · cases h
  · split at h
    · cases h
    · exact (Option.some.inj h).symm

theorem length_of_ofEntry {entry : Text} {v : Varspec} {n : Nat} (h : (ofEntry entry).varspec = some v)
    (hn : v.modifier = .maxLength n) : 0 < n ∧ n < lengthBound := by
  obtain rfl := eq_parts_of_ofEntry h
  exact length_of_parts hn

theorem name_prefix_of_parts (entry : Text) : (parts entry).1 <+: entry := by
  unfold parts
  split
  · rename_i name hname
    exact (Text.trimEnd_prefix_self name).trans (Text.prefix_of_dropLast?_eq_some hname)
  · split
    · rename_i name length hcut
      have hname : name <+: entry := ⟨':' :: length, (Text.cut?_eq_some hcut).1.symm⟩
      split
      · exact (Text.trimEnd_prefix_self name).trans hname
      · exact (Text.trimEnd_prefix_self name).trans hname
    · exact List.prefix_rfl

theorem name_infix_of_ofEntry {entry : Text} {v : Varspec} (h : (ofEntry entry).varspec = some v) :
    v.name <:+: entry := by
  obtain rfl := eq_parts_of_ofEntry h
  exact (name_prefix_of_parts entry.trim).isInfix.trans (Text.trim_infix entry)

end Varspec

namespace Expression

theorem splitOperator_suffix (body : Text) : (splitOperator body).2 <:+ body := by
  unfold splitOperator
  split
  · exact List.suffix_rfl
  · split
    · exact List.suffix_cons _ _
    · exact List.suffix_rfl

/-- A specification of an expression is the reading of an entry of its body. -/
theorem exists_ofEntry {body : Text} {v : Varspec} (hv : v ∈ (ofBody body).varspecs) :
    ∃ entry ∈ (splitOperator body).2.splitOn ',', (Varspec.ofEntry entry).varspec = some v := by
  obtain ⟨r, hr, hrv⟩ := List.mem_filterMap.mp hv
  obtain ⟨entry, hentry, rfl⟩ := List.mem_map.mp hr
  exact ⟨entry, hentry, hrv⟩

theorem name_ne_nil {body : Text} {v : Varspec} (h : v ∈ (ofBody body).varspecs) : v.name ≠ [] := by
  obtain ⟨entry, -, hread⟩ := exists_ofEntry h
  exact Varspec.name_ne_nil hread

/-- The commas of a body stand between its entries. -/
theorem no_comma_of_ofBody {body : Text} {v : Varspec} (h : v ∈ (ofBody body).varspecs) : ',' ∉ v.name := by
  obtain ⟨entry, hentry, hread⟩ := exists_ofEntry h
  exact fun hin => Text.not_mem_of_mem_splitOn hentry ((Varspec.name_infix_of_ofEntry hread).subset hin)

theorem length_of_mem_ofBody {body : Text} {v : Varspec} (hv : v ∈ (ofBody body).varspecs) {n : Nat}
    (hn : v.modifier = .maxLength n) : 0 < n ∧ n < Varspec.lengthBound := by
  obtain ⟨entry, -, hentry⟩ := exists_ofEntry hv
  exact Varspec.length_of_ofEntry hentry hn

/-- The names of an expression stand in its body. -/
theorem name_infix_of_ofBody {body : Text} {v : Varspec} (h : v ∈ (ofBody body).varspecs) :
    v.name <:+: body := by
  obtain ⟨entry, hentry, hread⟩ := exists_ofEntry h
  have hjoined : Text.joined [','] ((splitOperator body).2.splitOn ',') = (splitOperator body).2 :=
    List.intercalate_splitOn ','
  have hin : entry <:+: (splitOperator body).2 := by
    rw [← hjoined]
    exact Text.infix_joined hentry
  exact (Varspec.name_infix_of_ofEntry hread).trans (hin.trans (splitOperator_suffix body).isInfix)

end Expression

namespace Template

variable {t : Template} {e : Expression} {v : Varspec}

theorem hasParameter_iff {name : Text} :
    t.hasParameter name = true ↔ ∃ e ∈ t.expressions, ∃ v ∈ e.varspecs, v.name = name := by
  unfold hasParameter Expression.mentions
  simp

/-- An expression is that of a span. -/
theorem exists_span (he : e ∈ t.expressions) : ∃ body, .span body ∈ t.parts ∧ e = Expression.ofBody body := by
  obtain ⟨p, hp, hpe⟩ := List.mem_filterMap.mp he
  cases p with
  | literal text => cases hpe
  | span body => exact ⟨body, hp, (Option.some.inj hpe).symm⟩

theorem length_of_mem (he : e ∈ t.expressions) (hv : v ∈ e.varspecs) {n : Nat}
    (hn : v.modifier = .maxLength n) :
    0 < n ∧ n < Varspec.lengthBound := by
  obtain ⟨body, -, rfl⟩ := exists_span he
  exact Expression.length_of_mem_ofBody hv hn

/-! ## The list of the variables -/

/-- The names in the order of the template, as often as they occur. -/
def occurrences (t : Template) : List Text := t.expressions.flatMap fun e => e.varspecs.map (·.name)

theorem mem_occurrences_iff {name : Text} : name ∈ t.occurrences ↔ t.hasParameter name = true := by
  rw [hasParameter_iff]
  simp only [occurrences, List.mem_flatMap, List.mem_map]

theorem mem_addNew_iff {name : Text} {names rest : List Text} :
    name ∈ addNew names rest ↔ name ∈ names ∨ name ∈ rest := by
  induction rest generalizing names with
  | nil => simp [addNew]
  | cons first rest ih =>
    rw [addNew, ih, List.mem_cons]
    split
    · rename_i hfirst
      constructor
      · exact Or.imp_right Or.inr
      · rintro (h | rfl | h)
        · exact Or.inl h
        · exact Or.inl hfirst
        · exact Or.inr h
    · rw [List.mem_append, List.mem_singleton, or_assoc]

/-- Names that are in the order of their first places among those seen so far stay so: a new one comes in
behind them, where it is seen for the first time. -/
theorem addNew_pairwise {names seen rest : List Text} (hseen : ∀ name, name ∈ names ↔ name ∈ seen)
    (h : names.Pairwise fun p q => (seen ++ rest).idxOf p < (seen ++ rest).idxOf q) :
    (addNew names rest).Pairwise fun p q => (seen ++ rest).idxOf p < (seen ++ rest).idxOf q := by
  induction rest generalizing names seen with
  | nil => exact h
  | cons first rest ih =>
    rw [addNew]
    rw [← List.singleton_append, ← List.append_assoc] at h ⊢
    refine ih (fun name => ?_) ?_
    · rw [List.mem_append, List.mem_singleton, ← hseen]
      split
      · rename_i hfirst
        exact ⟨Or.inl, fun hname => hname.elim id fun heq => heq ▸ hfirst⟩
      · rw [List.mem_append, List.mem_singleton]
    · split
      · exact h
      · rename_i hfirst
        refine List.pairwise_append.mpr ⟨h, List.pairwise_singleton _ _, ?_⟩
        intro p hp q hq
        obtain rfl := List.mem_singleton.mp hq
        have hlt : seen.idxOf p < seen.length := List.idxOf_lt_length_iff.mpr ((hseen p).mp hp)
        rw [List.append_assoc, List.idxOf_append, if_pos ((hseen p).mp hp), List.idxOf_append,
          if_neg fun hin => hfirst ((hseen q).mpr hin)]
        omega

theorem mem_variableNames_iff {name : Text} : name ∈ t.variableNames ↔ t.hasParameter name = true := by
  rw [← mem_occurrences_iff, variableNames, mem_addNew_iff, or_iff_right List.not_mem_nil]
  rfl

theorem variableNames_pairwise (t : Template) :
    t.variableNames.Pairwise fun p q => t.occurrences.idxOf p < t.occurrences.idxOf q := by
  have hseen : ∀ name : Text, name ∈ ([] : List Text) ↔ name ∈ ([] : List Text) := fun _ => Iff.rfl
  exact addNew_pairwise hseen List.Pairwise.nil

end Template

end ApiLinks

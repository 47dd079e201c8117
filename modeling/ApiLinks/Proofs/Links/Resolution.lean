import ApiLinks.LinkSet
import ApiLinks.Proofs.NameMap
import ApiLinks.Proofs.Text.ByteOrder

/-!
# Resolution without a base

A resource resolves to an unknown resource, to a parameter that it refuses or to a text, and which one it is
depends on what is bound alone, in whatever order the names are listed.

* `LinkSet.Refused s resource b name` : a bound name that is no parameter of the resource;
* `LinkSet.FirstRefused s resource b name` : the least such name by the bytes of its UTF-8 form;
* `LinkSet.offender?_eq_some_iff` : that is the name that the check of a templated link finds;
* `LinkSet.resolveListed_outcome` : the three outcomes, each with its exact condition.
-/

namespace ApiLinks

namespace LinkSet

variable {s : LinkSet} {resource : Text} {b : Bindings} {names : List Text} {l : Link}

/-- The name is bound, whatever its value, and is no parameter of the resource. -/
def Refused (s : LinkSet) (resource : Text) (b : Bindings) (name : Text) : Prop :=
  b.contains name = true ∧ s.hasParameter resource name = false

/-- A refused name, none of which has a smaller form in bytes. -/
def FirstRefused (s : LinkSet) (resource : Text) (b : Bindings) (name : Text) : Prop :=
  s.Refused resource b name ∧ ∀ other, s.Refused resource b other → ¬ Utf8.encode other < Utf8.encode name

/-! ## The check of the names -/

theorem hasParameter_eq (hl : s.get? resource = some l) (ht : l.templated = true) (name : Text) :
    s.hasParameter resource name = l.href.hasParameter name := by
  unfold hasParameter Link.acceptsParameter
  rw [hl, Option.any_some, ht, Bool.true_and]

/-- The names are sorted before they are checked, so that their order is forgotten. -/
theorem offender?_eq (l : Link) (h : names.Perm b.names) :
    offender? l names = if l.templated then b.names.find? fun name => !l.href.hasParameter name else none := by
  unfold offender?
  rw [NameMap.mergeSort_eq_names h]

theorem offender?_eq_some_iff (hl : s.get? resource = some l) (h : names.Perm b.names) {name : Text} :
    offender? l names = some name ↔ l.templated = true ∧ s.FirstRefused resource b name := by
  rw [offender?_eq l h]
  cases ht : l.templated with
  | false => simp
  | true =>
    have hrefused (other : Text) :
        s.Refused resource b other ↔ b.contains other = true ∧ (!l.href.hasParameter other) = true := by
      rw [Refused, hasParameter_eq hl ht, Bool.not_eq_true']
    rw [if_pos rfl, NameMap.find?_names_eq_some_iff, ← hrefused, FirstRefused, eq_self_iff_true, true_and]
    refine and_congr_right fun _ => forall_congr' fun other => ?_
    rw [← and_imp, ← hrefused, Utf8.encode_lt_encode_iff]

theorem offender?_eq_none_iff (hl : s.get? resource = some l) (h : names.Perm b.names) :
    offender? l names = none ↔ (l.templated = true → ∀ name, ¬ s.Refused resource b name) := by
  rw [offender?_eq l h]
  cases ht : l.templated with
  | false => simp
  | true =>
    rw [if_pos rfl, List.find?_eq_none]
    constructor
    · rintro hnone - name ⟨hbound, hparam⟩
      rw [hasParameter_eq hl ht] at hparam
      exact hnone name (NameMap.mem_names_iff.mpr hbound) (by rw [hparam]; rfl)
    · intro hnone name hname hparam
      refine hnone rfl name ⟨NameMap.mem_names_iff.mp hname, ?_⟩
      rw [hasParameter_eq hl ht]
      exact (Bool.not_eq_true' _).mp hparam

/-! ## The three outcomes -/

theorem resolveListed_eq_resolve (h : names.Perm b.names) :
    s.resolveListed resource b names = s.resolve resource b := by
  unfold resolve resolveListed
  cases hl : s.get? resource with
  | none => rfl
  | some l => simp only [offender?_eq l h, offender?_eq l (List.Perm.refl b.names)]

theorem resolve_of_none (hl : s.get? resource = none) :
    s.resolve resource b = .error (.unknownResource resource) := by
  unfold resolve resolveListed
  rw [hl]

theorem resolve_of_offender {name : Text} (hl : s.get? resource = some l)
    (ho : offender? l b.names = some name) :
    s.resolve resource b = .error (.invalidParameter resource name) := by
  unfold resolve resolveListed
  simp only [hl, ho]

theorem resolve_of_base_none (hl : s.get? resource = some l) (ho : offender? l b.names = none)
    (hs : s.base = none) :
    s.resolve resource b = .ok (l.expand b) := by
  unfold resolve resolveListed
  simp only [hl, ho, hs]

theorem resolve_eq_unknownResource_iff (hs : s.base = none) :
    s.resolve resource b = .error (.unknownResource resource) ↔ s.contains resource = false := by
  have hcontains : s.contains resource = (s.get? resource).isSome := rfl
  rw [hcontains]
  cases hl : s.get? resource with
  | none => simp [resolve_of_none hl]
  | some l =>
    cases ho : offender? l b.names with
    | none => simp [resolve_of_base_none hl ho hs]
    | some name => simp [resolve_of_offender hl ho]

theorem resolve_eq_invalidParameter_iff (hl : s.get? resource = some l) (hs : s.base = none) {name : Text} :
    s.resolve resource b = .error (.invalidParameter resource name) ↔
      l.templated = true ∧ s.FirstRefused resource b name := by
  rw [← offender?_eq_some_iff hl (List.Perm.refl b.names)]
  cases ho : offender? l b.names with
  | none => simp [resolve_of_base_none hl ho hs]
  | some other => simp [resolve_of_offender hl ho]

/-- **What a resource without a base resolves to**: nothing is known of it, or the link is templated and the
first refused name is reported, or else the outcome is the expansion of the link, for a literal one its
text. The order in which the bound names are listed does not matter. -/
theorem resolveListed_outcome (s : LinkSet) (resource : Text) (b : Bindings) (names : List Text)
    (hs : s.base = none) (hnames : names.Perm b.names) :
    s.resolveListed resource b names = s.resolve resource b ∧
      (s.resolve resource b = .error (.unknownResource resource) ↔ s.contains resource = false) ∧
      ∀ l, s.get? resource = some l →
        ((∃ name, s.resolve resource b = .error (.invalidParameter resource name)) ↔
          l.templated = true ∧ ∃ name, s.Refused resource b name) ∧
        (∀ name, s.resolve resource b = .error (.invalidParameter resource name) →
          s.FirstRefused resource b name) ∧
        (¬ (l.templated = true ∧ ∃ name, s.Refused resource b name) →
          s.resolve resource b = .ok (if l.templated then l.href.expand b else l.href.text)) := by
  refine ⟨resolveListed_eq_resolve hnames, resolve_eq_unknownResource_iff hs, fun l hl => ⟨⟨?_, ?_⟩, ?_, ?_⟩⟩
  · rintro ⟨name, herror⟩
    obtain ⟨ht, hfirst⟩ := (resolve_eq_invalidParameter_iff hl hs).mp herror
    exact ⟨ht, name, hfirst.1⟩
  · rintro ⟨ht, name, hrefused⟩
    cases ho : offender? l b.names with
    | none => exact absurd hrefused ((offender?_eq_none_iff hl (List.Perm.refl b.names)).mp ho ht name)
    | some first => exact ⟨first, resolve_of_offender hl ho⟩
  · intro name herror
    exact ((resolve_eq_invalidParameter_iff hl hs).mp herror).2
  · intro hnone
    refine resolve_of_base_none hl ((offender?_eq_none_iff hl (List.Perm.refl b.names)).mpr ?_) hs
    exact fun ht name hrefused => hnone ⟨ht, name, hrefused⟩

/-- Three names, of which the template has one; the first of the others in bytes is bound to an empty list. -/
theorem resolveListed_outcome_emptyList :
    let s := LinkSet.ofList [(['r'], ⟨⟨['/', '{', 'a', '}']⟩, true⟩)]
    let b := Bindings.ofPairs [(['z'], .scalar ['2']), (['a'], .scalar ['1']), (['l'], .sequence [])]
    s.base = none ∧ [['z'], ['l'], ['a']].Perm b.names ∧
      s.resolveListed ['r'] b [['z'], ['l'], ['a']] = .error (.invalidParameter ['r'] ['l']) := by
  intro s b
  have hs : s.base = none := rfl
  have hnames : [['z'], ['l'], ['a']].Perm b.names := by decide
  have hl : s.get? ['r'] = some ⟨⟨['/', '{', 'a', '}']⟩, true⟩ := by decide
  have hrefused : s.Refused ['r'] b ['l'] := by unfold Refused; decide
  obtain ⟨heq, -, houtcome⟩ := resolveListed_outcome s ['r'] b [['z'], ['l'], ['a']] hs hnames
  obtain ⟨hinvalid, hfirst, -⟩ := houtcome _ hl
  obtain ⟨name, herror⟩ := hinvalid.mpr ⟨rfl, ['l'], hrefused⟩
  obtain ⟨⟨hbound, hparam⟩, hleast⟩ := hfirst name herror
  have hname : name = ['l'] := by
    have hin : name ∈ [['z'], ['l'], ['a']] := hnames.mem_iff.mpr (NameMap.mem_names_iff.mpr hbound)
    simp only [List.mem_cons, List.not_mem_nil, or_false] at hin
    rcases hin with rfl | rfl | rfl
    · exact absurd (by decide) (hleast ['l'] hrefused)
    · rfl
    · exact absurd hparam (by decide)
  exact ⟨hs, hnames, by rw [heq, herror, hname]⟩

end LinkSet

end ApiLinks

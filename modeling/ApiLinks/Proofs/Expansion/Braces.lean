import ApiLinks.Proofs.Expansion.Delimiters
import ApiLinks.Proofs.Template.Reading
import ApiLinks.Proofs.Template.Varspecs

/-!
# The braces of an expansion

The braces of an expanded template are those of its literal parts. Values and keys are encoded, and
the names that an operator writes as they are stand in the body of a span, which has no braces. So
nothing that is substituted is ever read as a span, and a template whose literal parts have no braces
expands to a text that expands to itself.

* `braces t` : the braces of a text in order;
* `Expression.braces_expand` : an expression without braces in its names expands to none;
* `Template.expand_of_braces_eq_nil` : a text without braces expands to itself;
* `braces_expand_eq` : the braces of an expansion, and what follows for expanding twice.
-/

namespace ApiLinks

/-- The braces of a text in order. -/
def braces (t : Text) : Text := t.filter isBrace

theorem braces_eq_nil_iff {t : Text} : braces t = [] ↔ ∀ c ∈ t, isBrace c = false := by
  unfold braces
  rw [List.filter_eq_nil_iff]
  exact forall₂_congr fun c _ => Bool.eq_false_iff.symm

theorem isDelimiter_of_isBrace {c : Char} (h : isBrace c = true) : isDelimiter c = true := by
  rcases isBrace_iff.mp h with rfl | rfl
  · decide
  · decide

theorem braces_append (t u : Text) : braces (t ++ u) = braces t ++ braces u := List.filter_append _ _

theorem braces_append_eq_nil {t u : Text} (ht : braces t = []) (hu : braces u = []) : braces (t ++ u) = [] := by
  rw [braces_append, ht, hu]
  rfl

theorem braces_encode (t : Text) : braces (Percent.encode t) = [] := by
  rw [braces_eq_nil_iff]
  intro c hc
  rw [Bool.eq_false_iff]
  exact fun hb => not_mem_encode (isDelimiter_of_isBrace hb) t hc

theorem braces_joined_eq_nil {sep : Text} (hsep : braces sep = []) {ts : List Text}
    (h : ∀ t ∈ ts, braces t = []) :
    braces (Text.joined sep ts) = [] := by
  rw [braces_eq_nil_iff]
  intro c hc
  rcases Text.mem_joined hc with hc | ⟨t, ht, hc⟩
  · exact braces_eq_nil_iff.mp hsep c hc
  · exact braces_eq_nil_iff.mp (h t ht) c hc

/-! ## Expressions -/

namespace Varspec

variable {op : Operator} {v : Varspec}

theorem braces_labelled (hv : braces v.name = []) {t : Text} (ht : braces t = []) :
    braces (labelled op v.name t) = [] := by
  unfold labelled
  split
  · exact braces_append_eq_nil (braces_append_eq_nil hv rfl) ht
  · exact ht

theorem braces_whole (hv : braces v.name = []) {ts : List Text} (hts : ∀ t ∈ ts, braces t = []) :
    ∀ share ∈ whole op v.name ts, braces share = [] := by
  intro share hshare
  unfold whole at hshare
  split at hshare
  · cases hshare
  · obtain rfl := List.mem_singleton.mp hshare
    exact braces_labelled hv (braces_joined_eq_nil rfl hts)

theorem braces_shares (hv : braces v.name = []) (value : Value) :
    ∀ share ∈ v.shares op value, braces share = [] := by
  have hencoded (t : Text) : braces (labelled op v.name (Percent.encode t)) = [] :=
    braces_labelled hv (braces_encode t)
  intro share hshare
  cases value with
  | scalar t =>
    cases hm : v.modifier with
    | plain | explode | maxLength n =>
      simp only [shares, hm] at hshare
      obtain rfl := List.mem_singleton.mp hshare
      exact hencoded _
  | sequence items =>
    cases hm : v.modifier with
    | explode =>
      simp only [shares, hm] at hshare
      obtain ⟨item, -, rfl⟩ := List.mem_map.mp hshare
      exact hencoded item
    | plain | maxLength n =>
      simp only [shares, hm] at hshare
      refine braces_whole hv ?_ share hshare
      intro t ht
      obtain ⟨item, -, rfl⟩ := List.mem_map.mp ht
      exact braces_encode item
  | mapping entries =>
    cases hm : v.modifier with
    | explode =>
      simp only [shares, hm] at hshare
      obtain ⟨e, -, rfl⟩ := List.mem_map.mp hshare
      exact braces_append_eq_nil (braces_append_eq_nil (braces_encode e.1) rfl) (braces_encode e.2)
    | plain | maxLength n =>
      simp only [shares, hm, flatMap_encode_entries] at hshare
      refine braces_whole hv ?_ share hshare
      intro t ht
      obtain ⟨u, -, rfl⟩ := List.mem_map.mp ht
      exact braces_encode u

end Varspec

theorem Expression.braces_expand {e : Expression} (h : ∀ v ∈ e.varspecs, braces v.name = []) (b : Bindings) :
    braces (e.expand b) = [] := by
  have hshares : ∀ share ∈ e.contributions b, braces share = [] := by
    intro share hshare
    obtain ⟨v, hv, hshare⟩ := List.mem_flatMap.mp hshare
    unfold Varspec.sharesIn at hshare
    split at hshare
    · cases hshare
    · exact Varspec.braces_shares (h v hv) _ share hshare
  have hsep : braces e.operator.separator = [] := by cases e.operator <;> rfl
  have hlead : braces e.operator.lead = [] := by cases e.operator <;> rfl
  rw [expand_eq, joinedOnce]
  split
  · rfl
  · exact braces_append_eq_nil hlead (braces_joined_eq_nil hsep hshares)

/-! ## Templates -/

namespace Template

/-- The braces of a literal part; a span is left out. -/
def literalBraces : Part → Text
  | .literal text => braces text
  | .span _ => []

theorem braces_expandPart {t : Template} {p : Part} (hp : p ∈ t.parts) (b : Bindings) :
    braces (expandPart b p) = literalBraces p := by
  cases p with
  | literal text => rfl
  | span body =>
    have hbody : IsBody body := isBody_of_mem_parts hp
    refine Expression.braces_expand (e := Expression.ofBody body) ?_ b
    intro v hv
    have hname : v.name <:+: body := Expression.name_infix_of_ofBody hv
    rw [braces_eq_nil_iff]
    intro c hc
    exact hbody.isBrace_eq_false c (hname.subset hc)

/-- Where there is no brace there is no span. -/
theorem expand_of_braces_eq_nil {t : Template} (h : braces t.text = []) (b : Bindings) :
    t.expand b = t.text := by
  rw [expand_eq_flatMap]
  refine flatMap_expandPart_of_no_span (fun body hp => ?_) b
  have hbrace : '{' ∈ t.text := by
    rw [← t.flatMap_text_parts]
    exact List.mem_flatMap.mpr ⟨.span body, hp, List.mem_cons_self⟩
  exact absurd (braces_eq_nil_iff.mp h _ hbrace) (by decide)

end Template

/-- **The braces of an expansion are those of the literal parts** of its template, in order. If these have
none, whatever is bound, then the expansion is a template that stands for itself. -/
theorem braces_expand_eq (t : Template) (b : Bindings) :
    braces (t.expand b) = t.parts.flatMap Template.literalBraces ∧
      ((∀ text, .literal text ∈ t.parts → braces text = []) →
        ∀ c : Bindings, (⟨t.expand b⟩ : Template).expand c = t.expand b) := by
  have hbraces : braces (t.expand b) = t.parts.flatMap Template.literalBraces := by
    rw [Template.expand_eq_flatMap, braces, List.filter_flatMap]
    exact List.flatMap_congr fun p hp => Template.braces_expandPart hp b
  refine ⟨hbraces, fun hnone c => ?_⟩
  have hnil : braces (t.expand b) = [] := by
    rw [hbraces, List.flatMap_eq_nil_iff]
    intro p hp
    cases p with
    | literal text => exact hnone text hp
    | span body => rfl
  exact Template.expand_of_braces_eq_nil hnil c

/-- A value and a key that look like spans. -/
theorem braces_expand_eq_query :
    let t : Template := ⟨['/', '{', 'a', '}', '{', '?', 'm', '*', '}']⟩
    let b := Bindings.ofPairs [(['a'], .scalar ['{', 'm', '}']), (['m'], .mapping [(['{', 'a', '}'], ['x'])])]
    (∀ text, .literal text ∈ t.parts → braces text = []) ∧
      ∀ c : Bindings, (⟨t.expand b⟩ : Template).expand c = t.expand b := by
  intro t b
  have hparts : t.parts = [.literal ['/'], .span ['a'], .span ['?', 'm', '*']] := by decide
  have hnone : ∀ text, .literal text ∈ t.parts → braces text = [] := by
    intro text htext
    rw [hparts] at htext
    obtain rfl : text = ['/'] := by simpa using htext
    decide
  exact ⟨hnone, (braces_expand_eq t b).2 hnone⟩

end ApiLinks

import ApiLinks.Proofs.Expansion.Contributions
import ApiLinks.Proofs.Template.Varspecs
import ApiLinks.Proofs.Text.Percent

/-!
# When an expression vanishes

An expansion is empty if its contributions, joined, are: if there are none, or if there is one and
it is the empty text. A name never leaves a contribution empty, so that the second case needs an
operator without names, and one variable alone whose value holds no character. A second
contribution, however empty, brings a separator.

* `Varspec.shares_eq_singleton_nil_iff` : the values that make the empty contribution and no other one;
* `Expression.IsLoneEmpty e b` : one occurrence of a variable contributes, and its value is such a one;
* `Expression.expand_eq_nil_iff` : no contribution, or the empty one alone;
* `Expression.expand_eq_nil_iff_of_isNamed` : under an operator with names, no contribution;
* `expand_ofBody_vanishes_iff` : the same for what an expression body reads as, and what there is otherwise.
-/

namespace ApiLinks

theorem Operator.separator_ne_nil (op : Operator) : op.separator ≠ [] := by
  cases op <;> exact List.cons_ne_nil _ _

theorem Operator.isNamed_eq_false_iff (op : Operator) :
    op.isNamed = false ↔ op ∉ [pathParameter, query, queryContinuation] := by cases op <;> decide

/-! ## Empty contributions -/

namespace Varspec

variable {op : Operator} {v : Varspec}

theorem labelled_eq_nil_iff {name t : Text} : labelled op name t = [] ↔ op.isNamed = false ∧ t = [] := by
  unfold labelled
  cases op.isNamed <;> simp

/-- Two texts of a composite have a comma between them. -/
theorem whole_eq_singleton_nil_iff {name : Text} {ts : List Text} :
    whole op name ts = [[]] ↔ op.isNamed = false ∧ ts = [[]] := by
  unfold whole
  by_cases hts : ts = []
  · subst hts
    simp
  · rw [if_neg hts, List.singleton_inj, labelled_eq_nil_iff, Text.joined_eq_nil_iff (List.cons_ne_nil _ _)]
    simp [hts]

theorem map_encode_eq_singleton_nil_iff {ts : List Text} : ts.map Percent.encode = [[]] ↔ ts = [[]] := by
  rw [List.map_eq_singleton_iff]
  simp [Percent.encode_eq_nil_iff]

/-- The empty contribution alone comes of the empty text, or of the list of it, if no name stands in front. -/
theorem shares_eq_singleton_nil_iff (hv : ∀ n, v.modifier = .maxLength n → 0 < n) (value : Value) :
    v.shares op value = [[]] ↔ op.isNamed = false ∧ (value = .scalar [] ∨ value = .sequence [[]]) := by
  have hscalar (t : Text) : [labelled op v.name (Percent.encode t)] = [[]] ↔ op.isNamed = false ∧ t = [] := by
    rw [List.singleton_inj, labelled_eq_nil_iff, Percent.encode_eq_nil_iff]
  cases value with
  | scalar t =>
    cases hm : v.modifier with
    | maxLength n =>
      have hn : n ≠ 0 := Nat.ne_of_gt (hv n hm)
      simp [shares, hm, hscalar, hn]
    | plain | explode => simp [shares, hm, hscalar]
  | sequence items =>
    cases hm : v.modifier with
    | explode =>
      simp only [shares, hm, List.map_eq_singleton_iff, labelled_eq_nil_iff,
        Percent.encode_eq_nil_iff, reduceCtorEq, Value.sequence.injEq, false_or]
      constructor
      · rintro ⟨item, rfl, hnamed, rfl⟩
        exact ⟨hnamed, rfl⟩
      · rintro ⟨hnamed, rfl⟩
        exact ⟨[], rfl, hnamed, rfl⟩
    | plain | maxLength n =>
      simp only [shares, hm, whole_eq_singleton_nil_iff, map_encode_eq_singleton_nil_iff, reduceCtorEq,
        Value.sequence.injEq, false_or]
  | mapping entries =>
    cases hm : v.modifier with
    | explode => simp [shares, hm, List.map_eq_singleton_iff]
    | plain | maxLength n =>
      -- the texts of a mapping are even in number
      simp only [shares, hm, whole_eq_singleton_nil_iff, flatMap_encode_entries,
        map_encode_eq_singleton_nil_iff]
      cases entries <;> simp

theorem ne_nil_of_mem_shares (hop : op.isNamed = true) {value : Value} {share : Text}
    (h : share ∈ v.shares op value) :
    share ≠ [] := by
  have hlabelled (t : Text) : labelled op v.name t ≠ [] := by
    rw [Ne, labelled_eq_nil_iff, hop]
    simp
  have hwhole {ts : List Text} (hin : share ∈ whole op v.name ts) : share ≠ [] := by
    unfold whole at hin
    split at hin
    · cases hin
    · rw [List.mem_singleton.mp hin]
      exact hlabelled _
  cases value with
  | scalar t =>
    cases hm : v.modifier with
    | plain | explode | maxLength n =>
      simp only [shares, hm] at h
      rw [List.mem_singleton.mp h]
      exact hlabelled _
  | sequence items =>
    cases hm : v.modifier with
    | explode =>
      simp only [shares, hm] at h
      obtain ⟨item, -, rfl⟩ := List.mem_map.mp h
      exact hlabelled _
    | plain | maxLength n =>
      simp only [shares, hm] at h
      exact hwhole h
  | mapping entries =>
    cases hm : v.modifier with
    | explode =>
      simp only [shares, hm] at h
      obtain ⟨e, -, rfl⟩ := List.mem_map.mp h
      simp
    | plain | maxLength n =>
      simp only [shares, hm] at h
      exact hwhole h

theorem sharesIn_eq_singleton_nil_iff {b : Bindings} (hv : ∀ n, v.modifier = .maxLength n → 0 < n) :
    v.sharesIn op b = [[]] ↔
      op.isNamed = false ∧ (b.get? v.name = some (.scalar []) ∨ b.get? v.name = some (.sequence [[]])) := by
  unfold sharesIn
  cases b.get? v.name with
  | none => simp
  | some value => simp only [shares_eq_singleton_nil_iff hv, Option.some.injEq]

end Varspec

/-! ## Empty expansions -/

namespace Expression

variable {e : Expression} {b : Bindings}

/-- One occurrence of a variable contributes, and its value is the empty text or the list of it. -/
def IsLoneEmpty (e : Expression) (b : Bindings) : Prop :=
  ∃ before v after, e.varspecs = before ++ v :: after ∧ (∀ w ∈ before ++ after, w.IsIdle b) ∧
    (b.get? v.name = some (.scalar []) ∨ b.get? v.name = some (.sequence [[]]))

theorem expand_eq_nil_iff : e.expand b = [] ↔ e.contributions b = [] ∨ e.contributions b = [[]] := by
  rw [expand_eq_led, Operator.led_eq_nil_iff, Text.joined_eq_nil_iff e.operator.separator_ne_nil]

theorem expand_eq_nil_iff_of_isNamed (hop : e.operator.isNamed = true) :
    e.expand b = [] ↔ ∀ v ∈ e.varspecs, v.IsIdle b := by
  rw [expand_eq_nil_iff, ← contributions_eq_nil_iff, or_iff_left]
  intro hlone
  have hin : [] ∈ e.contributions b := by
    rw [hlone]
    exact List.mem_singleton_self _
  obtain ⟨v, -, hv⟩ := List.mem_flatMap.mp hin
  unfold Varspec.sharesIn at hv
  split at hv
  · cases hv
  · exact Varspec.ne_nil_of_mem_shares hop hv rfl

theorem contributions_eq_singleton_nil_iff (hvs : ∀ v ∈ e.varspecs, ∀ n, v.modifier = .maxLength n → 0 < n) :
    e.contributions b = [[]] ↔ e.operator.isNamed = false ∧ e.IsLoneEmpty b := by
  unfold contributions IsLoneEmpty
  rw [List.flatMap_def, List.flatten_eq_singleton_iff]
  constructor
  · rintro ⟨groups, groups', hsplit, hbefore, hafter⟩
    obtain ⟨before, rest, hvs', rfl, hrest⟩ := List.map_eq_append_iff.mp hsplit
    obtain ⟨v, after, rfl, hv, rfl⟩ := List.map_eq_cons_iff.mp hrest
    have hpos := hvs v (by rw [hvs']; simp)
    obtain ⟨hnamed, hvalue⟩ := (Varspec.sharesIn_eq_singleton_nil_iff hpos).mp hv
    refine ⟨hnamed, before, v, after, hvs', fun w hw => ?_, hvalue⟩
    have hshares : w.sharesIn e.operator b = [] := by
      rcases List.mem_append.mp hw with hw | hw
      · exact hbefore _ (List.mem_map_of_mem hw)
      · exact hafter _ (List.mem_map_of_mem hw)
    exact Varspec.sharesIn_eq_nil_iff.mp hshares
  · rintro ⟨hnamed, before, v, after, hvs', hidle, hvalue⟩
    have hpos := hvs v (by rw [hvs']; simp)
    have hv : v.sharesIn e.operator b = [[]] :=
      (Varspec.sharesIn_eq_singleton_nil_iff hpos).mpr ⟨hnamed, hvalue⟩
    have hnone (w : Varspec) (hw : w ∈ before ++ after) : w.sharesIn e.operator b = [] :=
      Varspec.sharesIn_of_isIdle (hidle w hw) e.operator
    refine ⟨before.map (Varspec.sharesIn e.operator b), after.map (Varspec.sharesIn e.operator b), ?_, ?_, ?_⟩
    · rw [hvs', List.map_append, List.map_cons, hv]
    · intro share hshare
      obtain ⟨w, hw, rfl⟩ := List.mem_map.mp hshare
      exact hnone w (List.mem_append_left _ hw)
    · intro share hshare
      obtain ⟨w, hw, rfl⟩ := List.mem_map.mp hshare
      exact hnone w (List.mem_append_right _ hw)

end Expression

/-- **An expression expands to nothing** exactly if no variable of it contributes, or if its operator is
none of the three that write names, one occurrence of a variable contributes, and its value is the empty
text or the list of it alone. Otherwise something stands behind the operator's lead. -/
theorem expand_ofBody_vanishes_iff (body : Text) (b : Bindings) :
    let e := Expression.ofBody body
    (e.expand b = [] ↔ (∀ v ∈ e.varspecs, v.IsIdle b) ∨
        (e.operator ∉ [.pathParameter, .query, .queryContinuation] ∧ e.IsLoneEmpty b)) ∧
      (e.expand b ≠ [] → e.operator.lead <+: e.expand b ∧ e.operator.lead.length < (e.expand b).length) := by
  intro e
  have hlengths : ∀ v ∈ e.varspecs, ∀ n, v.modifier = .maxLength n → 0 < n := fun v hv n hn =>
    (Expression.length_of_mem_ofBody hv hn).1
  constructor
  · rw [Expression.expand_eq_nil_iff, Expression.contributions_eq_nil_iff,
      Expression.contributions_eq_singleton_nil_iff hlengths, e.operator.isNamed_eq_false_iff]
  · intro hne
    rw [Expression.expand_eq_led, Ne, Operator.led_eq_nil_iff] at hne
    rw [Expression.expand_eq_led, Operator.led_of_ne_nil _ hne, List.length_append]
    exact ⟨List.prefix_append _ _, Nat.lt_add_of_pos_right (List.length_pos_iff.mpr hne)⟩

/-- A list of the empty text between an unbound variable and an empty list; a
second empty text brings the slash. -/
theorem expand_ofBody_vanishes_iff_path :
    let e := Expression.ofBody ['/', 'u', ',', 'l', '*', ',', 'm']
    let b := Bindings.ofPairs [(['l'], .sequence [[]]), (['m'], .sequence [])]
    let c := Bindings.ofPairs [(['l'], .sequence [[], []]), (['m'], .sequence [])]
    e.expand b = [] ∧ e.expand c ≠ [] ∧ e.operator.lead <+: e.expand c := by
  intro e b c
  have hsplit : e.varspecs = [⟨['u'], .plain⟩] ++ ⟨['l'], .explode⟩ :: [⟨['m'], .plain⟩] := by decide
  have hempty : e.expand b = [] := by
    refine (expand_ofBody_vanishes_iff _ b).1.mpr (Or.inr ⟨by decide, _, _, _, hsplit, ?_, Or.inr (by decide)⟩)
    intro w hw
    rcases List.mem_cons.mp hw with rfl | hw
    · exact Or.inl (by decide)
    · obtain rfl := List.mem_singleton.mp hw
      exact Or.inr (Or.inl (by decide))
  have hne : e.expand c ≠ [] := by decide
  exact ⟨hempty, hne, ((expand_ofBody_vanishes_iff _ c).2 hne).1⟩

end ApiLinks

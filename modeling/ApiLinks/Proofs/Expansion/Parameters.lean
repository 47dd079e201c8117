import ApiLinks.Proofs.Expansion.Contributions
import ApiLinks.Proofs.Template.Varspecs
import ApiLinks.Proofs.Text.ByteOrder
import ApiLinks.Proofs.Text.Percent
import Mathlib.Data.List.Flatten

/-!
# What an expansion depends on

A template expands by the values of its parameters and by nothing else, and no parameter is without effect.

* `Template.Interchangeable t name x y` : values of a variable that the template does not tell apart;
* `Template.expand_congr` : bindings with such values for every parameter expand alike;
* `Varspec.grows_flatMap_sharesIn` : a text bound to a further name comes in among the contributions;
* `Template.expand_bind_sublist`, `Template.length_expand_lt_bind` : the expansion
  keeps what it held and is longer;
* `expand_depends_on_parameters` : both together.
-/

namespace ApiLinks

/-! ## Values that a template does not tell apart -/

/-- No value, or a composite without elements. -/
def IsIdleValue (value? : Option Value) : Prop :=
  value? = none ∨ value? = some (.sequence []) ∨ value? = some (.mapping [])

namespace Template

/-- Some specification of the variable lets only so many characters through. -/
def Shortens (t : Template) (name : Text) : Prop :=
  ∃ e ∈ t.expressions, ∃ v ∈ e.varspecs, v.name = name ∧ ∃ n, v.modifier = .maxLength n

/-- What may stand for one another under a name: nothing and an empty composite, and, unless the template
shortens the variable, a text and the list of that text alone. -/
inductive Interchangeable (t : Template) (name : Text) : Option Value → Option Value → Prop
  | same (value? : Option Value) : Interchangeable t name value? value?
  | idle {x y : Option Value} : IsIdleValue x → IsIdleValue y → Interchangeable t name x y
  | listed (text : Text) :
      ¬ t.Shortens name → Interchangeable t name (some (.scalar text)) (some (.sequence [text]))
  | unlisted (text : Text) :
      ¬ t.Shortens name → Interchangeable t name (some (.sequence [text])) (some (.scalar text))

end Template

/-- A text and the list of it alone make the same contribution, unless the text is shortened. -/
theorem Varspec.shares_singleton (op : Operator) (v : Varspec) (text : Text)
    (h : ∀ n, v.modifier ≠ .maxLength n) :
    v.shares op (.sequence [text]) = v.shares op (.scalar text) := by
  cases hm : v.modifier with
  | plain => simp [shares, hm, whole]
  | explode => simp [shares, hm]
  | maxLength n => exact absurd hm (h n)

section Congruence

variable {t : Template} {b c : Bindings} {e : Expression}

theorem Template.sharesIn_congr (he : e ∈ t.expressions) {v : Varspec} (hv : v ∈ e.varspecs)
    (h : t.Interchangeable v.name (b.get? v.name) (c.get? v.name)) :
    v.sharesIn e.operator b = v.sharesIn e.operator c := by
  have hlength (hs : ¬ t.Shortens v.name) (n : Nat) : v.modifier ≠ .maxLength n :=
    fun hn => hs ⟨e, he, v, hv, rfl, n, hn⟩
  generalize hx : b.get? v.name = x at h
  generalize hy : c.get? v.name = y at h
  cases h with
  | same =>
    unfold Varspec.sharesIn
    rw [hx, hy]
  | idle hbi hci =>
    subst hx hy
    rw [Varspec.sharesIn_of_isIdle hbi, Varspec.sharesIn_of_isIdle hci]
  | listed text hs =>
    unfold Varspec.sharesIn
    rw [hx, hy]
    exact (v.shares_singleton e.operator text (hlength hs)).symm
  | unlisted text hs =>
    unfold Varspec.sharesIn
    rw [hx, hy]
    exact v.shares_singleton e.operator text (hlength hs)

/-- **Only the values of the parameters count**, and of these only what the template tells apart. -/
theorem Template.expand_congr
    (h : ∀ name, t.hasParameter name = true → t.Interchangeable name (b.get? name) (c.get? name)) :
    t.expand b = t.expand c := by
  have hexpression : ∀ e ∈ t.expressions, e.expand b = e.expand c := by
    intro e he
    have hcontributions : e.contributions b = e.contributions c := by
      unfold Expression.contributions
      refine List.flatMap_congr fun v hv => ?_
      exact sharesIn_congr he hv (h v.name (hasParameter_iff.mpr ⟨e, he, v, hv, rfl⟩))
    rw [e.expand_eq b, e.expand_eq c, Expression.joinedOnce, Expression.joinedOnce, hcontributions]
  unfold Template.expand
  split
  · rfl
  · refine List.flatMap_congr fun p hp => ?_
    unfold expandPart
    cases hpe : p.expression? with
    | none => rfl
    | some e => exact hexpression e (List.mem_filterMap.mpr ⟨p, hp, hpe⟩)

end Congruence

/-! ## A further value -/

section Growth

variable {t : Template} {b : Bindings} {name text : Text}

/-- A text that is not empty makes a contribution that is not. -/
theorem Varspec.shares_scalar {v : Varspec} (hn : ∀ n, v.modifier = .maxLength n → 0 < n) (htext : text ≠ [])
    (op : Operator) : ∃ share, v.shares op (.scalar text) = [share] ∧ share ≠ [] := by
  refine ⟨_, shares_scalar_eq op v text, ?_⟩
  have htruncate : truncate v.modifier text ≠ [] := by
    cases hm : v.modifier with
    | maxLength n =>
      have hpos := hn n hm
      intro h
      rcases List.take_eq_nil_iff.mp h with h | h
      · omega
      · exact htext h
    | plain | explode => exact htext
  unfold labelled
  exact fun h => htruncate (Percent.encode_eq_nil_iff.mp (List.append_eq_nil_iff.mp h).2)

theorem Bindings.get?_bind_of_none (hb : b.get? name = none) (value : Value) (other : Text) :
    (b.bind name value).get? other = if other = name then some value else b.get? other := by
  rw [Bindings.get?_bind, hb, Option.getD_none]

theorem Varspec.sharesIn_bind_of_ne {v : Varspec} (hv : v.name ≠ name) (op : Operator)
    (b : Bindings) (value : Value) :
    v.sharesIn op (b.bind name value) = v.sharesIn op b := by
  unfold sharesIn
  rw [Bindings.get?_bind, if_neg hv]

/-- A specification of the new name adds one text, and any other one adds what it added. -/
theorem Varspec.grows_sharesIn {v : Varspec} (hb : b.get? name = none) (htext : text ≠ [])
    (hn : ∀ n, v.modifier = .maxLength n → 0 < n) (op : Operator) :
    Text.Grows (v.sharesIn op b) (v.sharesIn op (b.bind name (.scalar text))) ∧
      (v.name = name → (v.sharesIn op b).length < (v.sharesIn op (b.bind name (.scalar text))).length) := by
  by_cases hv : v.name = name
  · obtain ⟨share, hshare, hne⟩ := shares_scalar hn htext op
    have hbefore : v.sharesIn op b = [] := sharesIn_of_isIdle (Or.inl (hv ▸ hb)) op
    have hafter : v.sharesIn op (b.bind name (.scalar text)) = [share] := by
      unfold sharesIn
      rw [Bindings.get?_bind_of_none hb, if_pos hv]
      exact hshare
    rw [hbefore, hafter]
    exact ⟨.add hne .nil, fun _ => Nat.one_pos⟩
  · rw [sharesIn_bind_of_ne hv]
    exact ⟨.refl _, fun h => absurd h hv⟩

theorem Varspec.grows_flatMap_sharesIn {vs : List Varspec} (hb : b.get? name = none) (htext : text ≠ [])
    (hn : ∀ v ∈ vs, ∀ n, v.modifier = .maxLength n → 0 < n) (op : Operator) :
    Text.Grows (vs.flatMap (sharesIn op b)) (vs.flatMap (sharesIn op (b.bind name (.scalar text)))) ∧
      ((∃ v ∈ vs, v.name = name) → (vs.flatMap (sharesIn op b)).length <
        (vs.flatMap (sharesIn op (b.bind name (.scalar text)))).length) := by
  induction vs with
  | nil => exact ⟨.nil, by simp⟩
  | cons v vs ih =>
    obtain ⟨hv, hvlt⟩ := grows_sharesIn hb htext (hn v List.mem_cons_self) op
    obtain ⟨hvs, hvslt⟩ := ih fun w hw => hn w (List.mem_cons_of_mem v hw)
    rw [List.flatMap_cons, List.flatMap_cons]
    refine ⟨hv.append hvs, ?_⟩
    rintro ⟨w, hw, hname⟩
    have hvle := hv.length_le
    have hvsle := hvs.length_le
    rw [List.length_append, List.length_append]
    rcases List.mem_cons.mp hw with rfl | hw
    · have := hvlt hname
      omega
    · have := hvslt ⟨w, hw, hname⟩
      omega

theorem Expression.expand_bind {e : Expression} (hb : b.get? name = none) (htext : text ≠ [])
    (hn : ∀ v ∈ e.varspecs, ∀ n, v.modifier = .maxLength n → 0 < n) :
    (e.expand b).Sublist (e.expand (b.bind name (.scalar text))) ∧
      ((∃ v ∈ e.varspecs, v.name = name) →
        (e.expand b).length < (e.expand (b.bind name (.scalar text))).length) := by
  obtain ⟨hgrows, hmore⟩ := Varspec.grows_flatMap_sharesIn hb htext hn e.operator
  rw [e.expand_eq_led b, e.expand_eq_led (b.bind name (.scalar text))]
  refine ⟨e.operator.led_sublist hgrows.joined_sublist, fun hname => ?_⟩
  apply e.operator.length_led_lt
  apply hgrows.length_joined_lt
  intro heq
  have hlt := hmore hname
  rw [heq] at hlt
  exact Nat.lt_irrefl _ hlt

theorem Template.expandPart_sublist (hb : b.get? name = none) (htext : text ≠ []) {p : Part}
    (hp : p ∈ t.parts) :
    (expandPart b p).Sublist (expandPart (b.bind name (.scalar text)) p) := by
  unfold expandPart
  cases hpe : p.expression? with
  | none => exact List.Sublist.refl _
  | some e =>
    have he : e ∈ t.expressions := List.mem_filterMap.mpr ⟨p, hp, hpe⟩
    exact (Expression.expand_bind hb htext fun v hv n hn => (length_of_mem he hv hn).1).1

theorem Template.expand_bind_sublist (hb : b.get? name = none) (htext : text ≠ []) :
    (t.expand b).Sublist (t.expand (b.bind name (.scalar text))) := by
  unfold expand
  split
  · exact List.Sublist.refl _
  · exact List.Sublist.flatMap_right _ fun p hp => expandPart_sublist hb htext hp

/-- The span that names the parameter grows, and no other part shrinks. -/
theorem Template.length_expand_lt_bind (hname : t.hasParameter name = true) (hb : b.get? name = none)
    (htext : text ≠ []) : (t.expand b).length < (t.expand (b.bind name (.scalar text))).length := by
  obtain ⟨e, he, v, hv, hvn⟩ := hasParameter_iff.mp hname
  obtain ⟨p, hp, hpe⟩ := List.mem_filterMap.mp he
  have hlonger : (expandPart b p).length < (expandPart (b.bind name (.scalar text)) p).length := by
    unfold expandPart
    rw [hpe]
    exact (Expression.expand_bind hb htext fun w hw n hn => (length_of_mem he hw hn).1).2 ⟨v, hv, hvn⟩
  have hspan : t.expressions.isEmpty = false := by
    rw [List.isEmpty_eq_false_iff]
    exact List.ne_nil_of_mem he
  obtain ⟨before, after, hparts⟩ := List.append_of_mem hp
  have hsub (ps : List Part) (hps : ∀ q ∈ ps, q ∈ t.parts) :
      (ps.flatMap (expandPart b)).length ≤ (ps.flatMap (expandPart (b.bind name (.scalar text)))).length :=
    (List.Sublist.flatMap_right ps fun q hq => expandPart_sublist hb htext (hps q hq)).length_le
  have hbefore := hsub before fun q hq => by simp [hparts, hq]
  have hafter := hsub after fun q hq => by simp [hparts, hq]
  unfold expand
  rw [hspan, hparts]
  simp only [Bool.false_eq_true, if_false, List.flatMap_append, List.flatMap_cons, List.length_append]
  omega

end Growth

/-- **An expansion depends on the parameters of its template and on each of them**: bindings that differ in
nothing that the template tells apart expand alike, and a text bound to a parameter without a value comes
in, so that the expansion has more characters and more bytes, and otherwise what it had. -/
theorem expand_depends_on_parameters (t : Template) :
    (∀ b c : Bindings,
      (∀ name, t.hasParameter name = true → t.Interchangeable name (b.get? name) (c.get? name)) →
        t.expand b = t.expand c) ∧
      ∀ (b : Bindings) (name text : Text), t.hasParameter name = true → b.get? name = none → text ≠ [] →
        (t.expand b).Sublist (t.expand (b.bind name (.scalar text))) ∧
          (t.expand b).length < (t.expand (b.bind name (.scalar text))).length ∧
          (Utf8.encode (t.expand b)).length < (Utf8.encode (t.expand (b.bind name (.scalar text)))).length := by
  refine ⟨fun b c h => Template.expand_congr h, ?_⟩
  intro b name text hname hb htext
  have hsub : (t.expand b).Sublist (t.expand (b.bind name (.scalar text))) :=
    Template.expand_bind_sublist hb htext
  have hlt := Template.length_expand_lt_bind hname hb htext
  exact ⟨hsub, hlt, Utf8.length_encode_lt hsub hlt⟩

/-- A list of one text, an empty list and a name that the template has not, against the text alone. -/
theorem expand_depends_on_parameters_query :
    let t : Template := ⟨['{', '?', 'a', ',', 'l', '*', '}']⟩
    let b := Bindings.ofPairs [(['a'], .sequence [['x']]), (['l'], .sequence []), (['z'], .scalar ['1'])]
    let c := Bindings.ofPairs [(['a'], .scalar ['x'])]
    (∀ name, t.hasParameter name = true → t.Interchangeable name (b.get? name) (c.get? name)) ∧
      t.expand b = t.expand c ∧ t.hasParameter ['l'] = true ∧ c.get? ['l'] = none ∧
      (t.expand c).Sublist (t.expand (c.bind ['l'] (.scalar ['y']))) := by
  intro t b c
  have hspecs : ∀ e ∈ t.expressions, ∀ v ∈ e.varspecs, v = ⟨['a'], .plain⟩ ∨ v = ⟨['l'], .explode⟩ := by decide
  have hshort : ¬ t.Shortens ['a'] := by
    rintro ⟨e, he, v, hv, -, n, hn⟩
    rcases hspecs e he v hv with rfl | rfl
    · cases hn
    · cases hn
  have h : ∀ name, t.hasParameter name = true → t.Interchangeable name (b.get? name) (c.get? name) := by
    intro name hname
    obtain ⟨e, he, v, hv, rfl⟩ := Template.hasParameter_iff.mp hname
    rcases hspecs e he v hv with rfl | rfl
    · exact .unlisted ['x'] hshort
    · exact .idle (Or.inr (Or.inl rfl)) (Or.inl rfl)
  have hparam : t.hasParameter ['l'] = true := by decide
  have hnone : c.get? ['l'] = none := by decide
  obtain ⟨hcongr, hgrows⟩ := expand_depends_on_parameters t
  exact ⟨h, hcongr b c h, hparam, hnone, (hgrows c ['l'] ['y'] hparam hnone (List.cons_ne_nil _ _)).1⟩

end ApiLinks

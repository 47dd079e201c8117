import ApiLinks.Proofs.Expansion.Delimiters
import ApiLinks.Proofs.Text.Decoding

/-!
# What a receiver reads

Under an operator that writes names an expansion is a list of pairs in a written form. A receiver that
takes the lead away, splits the rest at the separators and each piece at its first equals sign, and
decodes both halves, has the pairs again.

* `Operator.received? op text` : what the receiver reads, if the text is such a form;
* `Varspec.pairs v value` : the pairs that a variable with a value is to give, for each shape and modifier;
* `Carries mark share pair` : a contribution that reads as a pair and holds no separator;
* `Varspec.forall₂_carries_shares` : the contributions of a variable carry its pairs;
* `received?_expand` : the receiver reads the pairs of all variables in order.
-/

namespace ApiLinks

open Percent (StandsFor standsFor_encode standsFor_self)

/-! ## Reading -/

/-- A piece cut at its first equals sign, both halves decoded. -/
def pair? (piece : Text) : Option (Text × Text) := do
  let (name, value) ← Text.cut? '=' piece
  return (← Percent.decode? name, ← Percent.decode? value)

/-- The pairs between the separators, behind the operator's lead. -/
def Operator.received? (op : Operator) (text : Text) : Option (List (Text × Text)) := do
  let rest ← Text.after? op.lead text
  (rest.splitOn op.mark).mapM pair?

namespace Varspec

/-- The texts of a composite as the value of one pair, between commas; no text is no pair. -/
def wholePair (name : Text) (texts : List Text) : List (Text × Text) :=
  if texts = [] then [] else [(name, Text.joined [','] texts)]

/-- What a receiver is to read of a variable with a value. -/
def pairs (v : Varspec) : Value → List (Text × Text)
  | .scalar t =>
    match v.modifier with
    | .maxLength n => [(v.name, t.take n)]
    | _ => [(v.name, t)]
  | .sequence items =>
    match v.modifier with
    | .explode => items.map fun item => (v.name, item)
    | _ => wholePair v.name items
  | .mapping entries =>
    match v.modifier with
    | .explode => entries
    | _ => wholePair v.name (entries.flatMap fun e => [e.1, e.2])

/-- What a receiver is to read of a variable under bindings. -/
def pairsIn (b : Bindings) (v : Varspec) : List (Text × Text) :=
  match b.get? v.name with
  | none => []
  | some value => v.pairs value

end Varspec

/-! ## Contributions and pairs -/

/-- The contribution holds no separator and reads as the pair. -/
structure Carries (mark : Char) (share : Text) (pair : Text × Text) : Prop where
  no_mark : mark ∉ share
  pair?_eq : pair? share = some pair

theorem carries_cut {mark : Char} {n w name text : Text} (hmark : mark ≠ '=') (hn : mark ∉ n) (hw : mark ∉ w)
    (hequals : '=' ∉ n) (hname : StandsFor n name) (htext : StandsFor w text) :
    Carries mark (n ++ ['='] ++ w) (name, text) where
  no_mark := by simp [hn, hw, hmark]
  pair?_eq := by
    have hcut : Text.cut? '=' (n ++ ['='] ++ w) = some (n, w) := by
      rw [List.append_assoc, List.singleton_append, Text.cut?_append hequals]
    unfold pair?
    rw [hcut]
    simp only [Option.bind_eq_bind, Option.bind_some, hname.decode?_eq, htext.decode?_eq, Option.pure_def]

theorem mapM_pair?_eq {mark : Char} {shares : List Text} {pairs : List (Text × Text)}
    (h : List.Forall₂ (Carries mark) shares pairs) : shares.mapM pair? = some pairs := by
  induction h with
  | nil => rfl
  | cons hpair _ ih =>
    simp only [List.mapM_cons, hpair.pair?_eq, ih, Option.bind_eq_bind, Option.bind_some, Option.pure_def]

theorem Text.after?_append (lead t : Text) : Text.after? lead (lead ++ t) = some t := by
  induction lead with
  | nil => rfl
  | cons c lead ih => rw [List.cons_append, Text.after?, if_pos rfl, ih]

/-- The receiver finds the separators again, since no contribution holds one. -/
theorem Operator.received?_joined (op : Operator) {shares : List Text} {pairs : List (Text × Text)}
    (h : List.Forall₂ (Carries op.mark) shares pairs) (hne : shares ≠ []) :
    op.received? (op.lead ++ Text.joined op.separator shares) = some pairs := by
  have hmark : ∀ share ∈ shares, op.mark ∉ share := by
    intro share hshare
    obtain ⟨i, hi, rfl⟩ := List.mem_iff_getElem.mp hshare
    exact (h.get hi (h.length_eq ▸ hi)).no_mark
  have hsplit : (Text.joined op.separator shares).splitOn op.mark = shares := by
    rw [op.separator_eq]
    exact List.splitOn_intercalate op.mark hmark hne
  unfold received?
  rw [Text.after?_append, Option.bind_eq_bind, Option.bind_some, hsplit, mapM_pair?_eq h]

namespace Varspec

variable {op : Operator} {v : Varspec}

theorem mark_of_isNamed (hop : op.isNamed = true) : op ≠ .label ∧ op.mark ≠ '=' ∧ op.mark ≠ ',' := by
  cases op with
  | pathParameter | query | queryContinuation => decide
  | _ => cases hop

section Named

variable (hop : op.isNamed = true) (hmark : op.mark ∉ v.name) (hequals : '=' ∉ v.name) (hpercent : '%' ∉ v.name)

include hop hmark hequals hpercent

theorem carries_labelled {w t : Text} (hw : op.mark ∉ w) (ht : StandsFor w t) :
    Carries op.mark (labelled op v.name w) (v.name, t) := by
  have hlabelled : labelled op v.name w = v.name ++ ['='] ++ w := by
    unfold labelled
    rw [if_pos hop]
  rw [hlabelled]
  exact carries_cut (mark_of_isNamed hop).2.1 hmark hw hequals (standsFor_self hpercent) ht

theorem carries_encode (t : Text) : Carries op.mark (labelled op v.name (Percent.encode t)) (v.name, t) :=
  carries_labelled hop hmark hequals hpercent
    (not_mem_encode (Operator.isDelimiter_mark (mark_of_isNamed hop).1) t) (standsFor_encode t)

/-- The commas of a composite are read as they are written. -/
theorem forall₂_carries_whole (texts : List Text) :
    List.Forall₂ (Carries op.mark) (whole op v.name (texts.map Percent.encode)) (wholePair v.name texts) := by
  unfold whole wholePair
  by_cases hn : texts = []
  · subst hn
    exact .nil
  · rw [if_neg (by simpa using hn), if_neg hn]
    refine .cons (carries_labelled hop hmark hequals hpercent ?_ ?_) .nil
    · intro hm
      rcases Text.mem_joined hm with hm | ⟨w, hw, hm⟩
      · exact (mark_of_isNamed hop).2.2 (List.mem_singleton.mp hm)
      · obtain ⟨t, -, rfl⟩ := List.mem_map.mp hw
        exact not_mem_encode (Operator.isDelimiter_mark (mark_of_isNamed hop).1) t hm
    · refine StandsFor.joined (by decide) ?_
      rw [List.forall₂_map_left_iff]
      exact List.forall₂_same.mpr fun t _ => standsFor_encode t

theorem forall₂_carries_shares (value : Value) :
    List.Forall₂ (Carries op.mark) (v.shares op value) (v.pairs value) := by
  have hscalar := carries_encode hop hmark hequals hpercent
  have hwhole := forall₂_carries_whole hop hmark hequals hpercent
  cases value with
  | scalar t =>
    cases hm : v.modifier with
    | maxLength n =>
      simp only [shares, pairs, hm]
      exact .cons (hscalar (t.take n)) .nil
    | plain | explode =>
      simp only [shares, pairs, hm]
      exact .cons (hscalar t) .nil
  | sequence items =>
    cases hm : v.modifier with
    | explode =>
      simp only [shares, pairs, hm, List.forall₂_map_left_iff, List.forall₂_map_right_iff]
      exact List.forall₂_same.mpr fun item _ => hscalar item
    | plain | maxLength n =>
      simp only [shares, pairs, hm]
      exact hwhole items
  | mapping entries =>
    cases hm : v.modifier with
    | explode =>
      have hlabel := (mark_of_isNamed hop).1
      simp only [shares, pairs, hm, List.forall₂_map_left_iff]
      refine List.forall₂_same.mpr fun e _ => ?_
      exact carries_cut (mark_of_isNamed hop).2.1 (not_mem_encode (Operator.isDelimiter_mark hlabel) _)
        (not_mem_encode (Operator.isDelimiter_mark hlabel) _) (not_mem_encode (by decide) _)
        (standsFor_encode e.1)
        (standsFor_encode e.2)
    | plain | maxLength n =>
      simp only [shares, pairs, hm, flatMap_encode_entries]
      exact hwhole _

end Named

theorem forall₂_carries_sharesIn (hop : op.isNamed = true) (hv : op.mark ∉ v.name ∧ '=' ∉ v.name ∧ '%' ∉ v.name)
    (b : Bindings) : List.Forall₂ (Carries op.mark) (v.sharesIn op b) (v.pairsIn b) := by
  unfold sharesIn pairsIn
  cases b.get? v.name with
  | none => exact .nil
  | some value => exact forall₂_carries_shares hop hv.1 hv.2.1 hv.2.2 value

end Varspec

theorem Carries.ne_nil {mark : Char} {share : Text} {pair : Text × Text} (h : Carries mark share pair) :
    share ≠ [] := by
  rintro rfl
  cases h.pair?_eq

/-! ## Expansions -/

namespace Expression

variable {e : Expression}

theorem forall₂_carries_contributions (hop : e.operator.isNamed = true)
    (hvs : ∀ v ∈ e.varspecs, e.operator.mark ∉ v.name ∧ '=' ∉ v.name ∧ '%' ∉ v.name) (b : Bindings) :
    List.Forall₂ (Carries e.operator.mark) (e.contributions b) (e.varspecs.flatMap (Varspec.pairsIn b)) := by
  unfold contributions
  exact forall₂_flatMap fun v hv => Varspec.forall₂_carries_sharesIn hop (hvs v hv) b

/-- The expansion of contributions that are not all empty. -/
theorem expand_of_mem_contributions {b : Bindings} {share : Text} (h : share ∈ e.contributions b)
    (hne : share ≠ []) :
    e.expand b = e.operator.lead ++ Text.joined e.operator.separator (e.contributions b) ∧ e.expand b ≠ [] := by
  have hjoined : Text.joined e.operator.separator (e.contributions b) ≠ [] := Text.joined_ne_nil h hne
  rw [expand_eq_led, Ne, Operator.led_eq_nil_iff]
  exact ⟨e.operator.led_of_ne_nil hjoined, hjoined⟩

theorem expand_of_contributions_eq_nil {b : Bindings} (h : e.contributions b = []) : e.expand b = [] := by
  rw [expand_eq_led, h]
  rfl

end Expression

/-- **A receiver reads what is bound.** The expansion is empty if and only if no variable has
something to give. Otherwise its pairs are those of the variables in order, whatever characters
the values hold, and no others. -/
theorem received?_expand (e : Expression) (b : Bindings) (hop : e.operator.isNamed = true)
    (hvs : ∀ v ∈ e.varspecs, e.operator.mark ∉ v.name ∧ '=' ∉ v.name ∧ '%' ∉ v.name) :
    (e.expand b = [] ↔ ∀ v ∈ e.varspecs, v.IsIdle b) ∧
      (e.expand b ≠ [] →
        e.operator.received? (e.expand b) = some (e.varspecs.flatMap (Varspec.pairsIn b))) := by
  have hpairs := Expression.forall₂_carries_contributions hop hvs b
  cases hshares : e.contributions b with
  | nil =>
    have hnil := Expression.expand_of_contributions_eq_nil hshares
    exact ⟨⟨fun _ => Expression.contributions_eq_nil_iff.mp hshares, fun _ => hnil⟩, fun hne => absurd hnil hne⟩
  | cons share shares =>
    have hmem : share ∈ e.contributions b := by
      rw [hshares]
      exact List.mem_cons_self
    have hcons : e.contributions b ≠ [] := List.ne_nil_of_mem hmem
    have hshare : share ≠ [] := by
      rw [hshares] at hpairs
      obtain ⟨pair, pairs, hcarries, -, -⟩ := List.forall₂_cons_left_iff.mp hpairs
      exact hcarries.ne_nil
    obtain ⟨hexpand, hne⟩ := Expression.expand_of_mem_contributions hmem hshare
    refine ⟨⟨fun h => absurd h hne, fun h => absurd (Expression.contributions_eq_nil_iff.mpr h) hcons⟩,
      fun _ => ?_⟩
    rw [hexpand]
    exact e.operator.received?_joined hpairs hcons

/-- Values made of separators, and an empty key; an unbound variable between them gives nothing. -/
theorem received?_expand_query :
    let e : Expression := ⟨.query, [⟨['q'], .maxLength 2⟩, ⟨['u'], .plain⟩, ⟨['m'], .explode⟩, ⟨['l'], .plain⟩]⟩
    let b := Bindings.ofPairs [(['q'], .scalar ['&', '=', 'x']), (['m'], .mapping [([], ['%', '4', '1'])]),
      (['l'], .sequence [['é'], []])]
    e.operator.isNamed = true ∧ (∀ v ∈ e.varspecs, e.operator.mark ∉ v.name ∧ '=' ∉ v.name ∧ '%' ∉ v.name) ∧
      e.expand b ≠ [] ∧
      e.operator.received? (e.expand b) =
        some [(['q'], ['&', '=']), ([], ['%', '4', '1']), (['l'], ['é', ','])] := by
  intro e b
  have hvs : ∀ v ∈ e.varspecs, e.operator.mark ∉ v.name ∧ '=' ∉ v.name ∧ '%' ∉ v.name := by decide
  obtain ⟨hempty, hreceived⟩ := received?_expand e b rfl hvs
  have hne : e.expand b ≠ [] := by
    intro hnil
    have hidle := hempty.mp hnil ⟨['q'], .maxLength 2⟩ List.mem_cons_self
    unfold Varspec.IsIdle at hidle
    exact absurd hidle (by decide)
  refine ⟨rfl, hvs, hne, ?_⟩
  rw [hreceived hne]
  decide

end ApiLinks

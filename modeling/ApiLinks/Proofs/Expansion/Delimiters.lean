import ApiLinks.Proofs.Expansion.Contributions
import ApiLinks.Proofs.Text.Percent
import ApiLinks.Template.Basic
import Mathlib.Data.List.Forall2

/-!
# The delimiters of an expansion

Values are encoded wherever they enter an expansion, so its delimiters come from the
template alone. Two runs show it: bindings of one shape give texts that are `Alike`, with
the same delimiters, and empty together.

* `delimiters t` : the characters of `t` that are neither unreserved nor a percent sign;
* `Value.SameShape`, `Bindings.SameShape` : the same kinds of values, with as many
  texts, empty in the same places;
* `Operator.mark` : the separator of an operator as a character; that of every
  operator but the label is a delimiter;
* `Alike` : kept by `++` (`Alike.append`) and by joining (`alike_joined`), reached by encoding (`alike_encode`);
* `Varspec.forall₂_shares`, `Expression.alike_expand` : the shares of a
  variable, the expansion of an expression;
* `delimiters_expand_of_sameShape` : the delimiters of an expanded template.
-/

namespace ApiLinks

/-! ## Delimiters and shapes -/

/-- Neither a letter or digit of ASCII, nor one of the four marks, nor a percent sign. -/
def isDelimiter (c : Char) : Bool :=
  !(('A' ≤ c && c ≤ 'Z') || ('a' ≤ c && c ≤ 'z') || ('0' ≤ c && c ≤ '9') || c == '-' || c == '.' || c == '_' ||
    c == '~' || c == '%')

/-- The delimiters of a text in order. -/
def delimiters (t : Text) : Text := t.filter isDelimiter

/-- Both texts are empty, or neither is. -/
def EmptyTogether (t u : Text) : Prop := t = [] ↔ u = []

/-- Values of one kind, with as many texts, of which corresponding ones are empty together. -/
inductive Value.SameShape : Value → Value → Prop
  | scalar {t u : Text} : EmptyTogether t u → SameShape (.scalar t) (.scalar u)
  | sequence {ts us : List Text} : List.Forall₂ EmptyTogether ts us → SameShape (.sequence ts) (.sequence us)
  | mapping {es fs : List (Text × Text)} :
    List.Forall₂ (fun e f => EmptyTogether e.1 f.1 ∧ EmptyTogether e.2 f.2) es fs →
      SameShape (.mapping es) (.mapping fs)

/-- Every name is unbound in both, or has values of one shape. -/
def Bindings.SameShape (b c : Bindings) : Prop := ∀ name, Option.Rel Value.SameShape (b.get? name) (c.get? name)

namespace Bindings.SameShape

theorem empty : Bindings.SameShape NameMap.empty NameMap.empty := fun _ => .none

/-- Values of one shape may be bound. -/
theorem bind {b c : Bindings} (h : Bindings.SameShape b c) (name : Text) {x y : Value} (hxy : x.SameShape y) :
    Bindings.SameShape (b.bind name x) (c.bind name y) := by
  intro other
  rw [Bindings.get?_bind, Bindings.get?_bind]
  split
  · have hn := h name
    generalize b.get? name = v at hn ⊢
    generalize c.get? name = w at hn ⊢
    cases hn with
    | none => exact .some hxy
    | some hvw => exact .some hvw
  · exact h other

end Bindings.SameShape

/-! ## Texts that are alike -/

/-- The same delimiters, and empty together. -/
structure Alike (t u : Text) : Prop where
  delimiters_eq : delimiters t = delimiters u
  empty : EmptyTogether t u

theorem Alike.refl (t : Text) : Alike t t := ⟨rfl, Iff.rfl⟩

theorem Alike.append {t u v w : Text} (h : Alike t u) (k : Alike v w) : Alike (t ++ v) (u ++ w) where
  delimiters_eq := by
    unfold delimiters
    rw [List.filter_append, List.filter_append]
    exact congrArg₂ _ h.delimiters_eq k.delimiters_eq
  empty := by
    unfold EmptyTogether
    rw [List.append_eq_nil_iff, List.append_eq_nil_iff]
    exact and_congr h.empty k.empty

theorem alike_joined (sep : Text) {ts us : List Text} (h : List.Forall₂ Alike ts us) :
    Alike (Text.joined sep ts) (Text.joined sep us) := by
  induction h with
  | nil => exact Alike.refl []
  | @cons t u ts us htu hrest ih =>
    by_cases hts : ts = []
    · subst hts
      obtain rfl := List.forall₂_nil_left_iff.mp hrest
      simpa using htu
    · have hus : us ≠ [] := fun hn => hts (List.forall₂_nil_right_iff.mp (hn ▸ hrest))
      rw [Text.joined_cons t hts, Text.joined_cons u hus]
      exact (htu.append (Alike.refl sep)).append ih

/-- The encoder leaves alone what is no delimiter, except for the percent sign. -/
theorem isDelimiter_eq (c : Char) : isDelimiter c = !(Percent.isUnreserved c || c == '%') := by
  have hupper : c.isUpper = ('A' ≤ c && c ≤ 'Z') := Bool.decide_and _ _
  unfold isDelimiter
  rw [← hupper]
  rfl

/-- No delimiter comes out of the encoder. -/
theorem delimiters_encode (t : Text) : delimiters (Percent.encode t) = [] := by
  unfold delimiters
  rw [List.filter_eq_nil_iff]
  intro c hc
  rw [isDelimiter_eq]
  rcases Percent.isUnreserved_or_eq_percent hc with hu | rfl
  · simp [hu]
  · decide

theorem not_mem_encode {c : Char} (hc : isDelimiter c = true) (t : Text) : c ∉ Percent.encode t := by
  intro hm
  have hin : c ∈ delimiters (Percent.encode t) := List.mem_filter.mpr ⟨hm, hc⟩
  rw [delimiters_encode] at hin
  cases hin

theorem alike_encode {t u : Text} (h : EmptyTogether t u) : Alike (Percent.encode t) (Percent.encode u) where
  delimiters_eq := by rw [delimiters_encode, delimiters_encode]
  empty := by
    unfold EmptyTogether
    rw [Percent.encode_eq_nil_iff, Percent.encode_eq_nil_iff]
    exact h

theorem EmptyTogether.take {t u : Text} (h : EmptyTogether t u) (n : Nat) :
    EmptyTogether (t.take n) (u.take n) := by
  unfold EmptyTogether
  rw [List.take_eq_nil_iff, List.take_eq_nil_iff]
  exact or_congr Iff.rfl h

/-! ### Separators -/

/-- The character that separates the contributions. -/
def Operator.mark (op : Operator) : Char := op.separator.headD ','

theorem Operator.separator_eq (op : Operator) : op.separator = [op.mark] := by cases op <;> rfl

theorem Operator.isDelimiter_mark {op : Operator} (h : op ≠ .label) : isDelimiter op.mark = true := by
  cases op with
  | label => exact absurd rfl h
  | _ => decide

/-! ## Two expansions -/

namespace Varspec

variable {op : Operator} {v : Varspec}

theorem alike_labelled (name : Text) {t u : Text} (h : Alike t u) :
    Alike (labelled op name t) (labelled op name u) :=
  (Alike.refl _).append h

theorem forall₂_whole (name : Text) {ts us : List Text} (h : List.Forall₂ Alike ts us) :
    List.Forall₂ Alike (whole op name ts) (whole op name us) := by
  cases h with
  | nil => exact .nil
  | cons h hs => exact .cons (alike_labelled name (alike_joined [','] (.cons h hs))) .nil

/-- The shares of values of one shape correspond, one by one. -/
theorem forall₂_shares {x y : Value} (h : x.SameShape y) :
    List.Forall₂ Alike (v.shares op x) (v.shares op y) := by
  cases h with
  | scalar h =>
    cases hm : v.modifier with
    | maxLength n =>
      simp only [shares, hm]
      exact .cons (alike_labelled _ (alike_encode (h.take n))) .nil
    | plain | explode =>
      simp only [shares, hm]
      exact .cons (alike_labelled _ (alike_encode h)) .nil
  | sequence h =>
    cases hm : v.modifier with
    | explode =>
      simp only [shares, hm]
      exact List.rel_map (fun _ _ hi => alike_labelled _ (alike_encode hi)) h
    | plain | maxLength n =>
      simp only [shares, hm]
      exact forall₂_whole _ (List.rel_map (fun _ _ hi => alike_encode hi) h)
  | mapping h =>
    cases hm : v.modifier with
    | explode =>
      simp only [shares, hm]
      exact List.rel_map
        (fun _ _ he => ((alike_encode he.1).append (Alike.refl ['='])).append (alike_encode he.2)) h
    | plain | maxLength n =>
      simp only [shares, hm]
      exact forall₂_whole _
        (List.rel_flatMap h fun _ _ he => .cons (alike_encode he.1) (.cons (alike_encode he.2) .nil))

theorem forall₂_sharesIn {b c : Bindings} (h : Bindings.SameShape b c) :
    List.Forall₂ Alike (v.sharesIn op b) (v.sharesIn op c) := by
  have hv := h v.name
  unfold sharesIn
  generalize b.get? v.name = x at hv ⊢
  generalize c.get? v.name = y at hv ⊢
  cases hv with
  | none => exact .nil
  | some hxy => exact forall₂_shares hxy

end Varspec

/-- The lead of an operator stands in both expansions or in neither. -/
theorem Expression.alike_expand (e : Expression) {b c : Bindings} (h : Bindings.SameShape b c) :
    Alike (e.expand b) (e.expand c) := by
  have hshares : List.Forall₂ Alike (e.contributions b) (e.contributions c) := by
    unfold contributions
    exact forall₂_flatMap fun v _ => Varspec.forall₂_sharesIn h
  have hjoined := alike_joined e.operator.separator hshares
  rw [expand_eq, expand_eq, joinedOnce, joinedOnce]
  by_cases hn : Text.joined e.operator.separator (e.contributions b) = []
  · simp only [if_pos hn, if_pos (hjoined.empty.mp hn)]
    exact Alike.refl []
  · simp only [if_neg hn, if_neg (fun hc => hn (hjoined.empty.mpr hc))]
    exact (Alike.refl _).append hjoined

theorem delimiters_flatMap {α : Type} (f : α → Text) (xs : List α) :
    delimiters (xs.flatMap f) = xs.flatMap fun x => delimiters (f x) :=
  List.filter_flatMap

/-- **Values cannot add delimiters**: two expansions of a template against bindings of
one shape have the same ones. -/
theorem delimiters_expand_of_sameShape (t : Template) {b c : Bindings} (h : Bindings.SameShape b c) :
    delimiters (t.expand b) = delimiters (t.expand c) := by
  unfold Template.expand
  split
  · rfl
  · rw [delimiters_flatMap, delimiters_flatMap, List.flatMap_def, List.flatMap_def]
    refine congrArg List.flatten (List.map_congr_left fun p _ => ?_)
    unfold Template.expandPart
    cases hpe : p.expression? with
    | none => rfl
    | some e => exact (e.alike_expand h).delimiters_eq

/-- A slash in a path and an equals sign in a key are encoded. -/
theorem delimiters_expand_of_sameShape_path :
    Bindings.SameShape (Bindings.ofPairs [(['a'], .scalar ['x']), (['m'], .mapping [(['k'], [])])])
        (Bindings.ofPairs [(['a'], .scalar ['/', '?']), (['m'], .mapping [(['=', '&'], [])])]) ∧
      delimiters ((⟨['/', '{', 'a', '}', '{', '?', 'm', '*', '}']⟩ : Template).expand
          (Bindings.ofPairs [(['a'], .scalar ['/', '?']), (['m'], .mapping [(['=', '&'], [])])])) =
            ['/', '?', '='] := by
  have h : Bindings.SameShape (Bindings.ofPairs [(['a'], .scalar ['x']), (['m'], .mapping [(['k'], [])])])
      (Bindings.ofPairs [(['a'], .scalar ['/', '?']), (['m'], .mapping [(['=', '&'], [])])]) :=
    (Bindings.SameShape.empty.bind ['a'] (.scalar (by simp [EmptyTogether]))).bind ['m']
      (.mapping (.cons ⟨by simp [EmptyTogether], Iff.rfl⟩ .nil))
  refine ⟨h, ?_⟩
  rw [← delimiters_expand_of_sameShape _ h]
  decide

end ApiLinks

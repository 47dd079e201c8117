import ApiLinks.Proofs.Expansion.Delimiters
import ApiLinks.Proofs.Text.Decoding

/-!
# What an expansion tells of the values

Bindings of the same kinds of values that expand alike have the same values, as far as the modifiers let
them through. The names and separators are the same in both expansions, and no encoded text goes on over a
delimiter, so that two texts can be compared from the left. The label operator separates by a point, which
is no delimiter, and is left out.

* `Value.SameKind` : both texts, lists of one length or mappings of one size;
* `Halts t` : the text is over or goes on with a delimiter;
* `Matched t u` : texts that are equal as soon as they make one text with what halts behind
  them; kept by a common start (`Matched.append_left`), around a delimiter (`Matched.delimited`)
  and by joining (`joined_append_inj`);
* `Varspec.seen_eq_of_shares_eq` : equal contributions come from equal values;
* `Expression.seen_eq_of_expand_eq`, `expand_label_dot` : the expansion of an
  expression, and what is lost with points;
* `expand_tells_values` : both together.
-/

namespace ApiLinks

/-- Both texts, lists of one length or mappings of one size. -/
inductive Value.SameKind : Value → Value → Prop
  | scalar (t u : Text) : SameKind (.scalar t) (.scalar u)
  | sequence {ts us : List Text} : ts.length = us.length → SameKind (.sequence ts) (.sequence us)
  | mapping {es fs : List (Text × Text)} : es.length = fs.length → SameKind (.mapping es) (.mapping fs)

/-- The value as far as the modifier lets it through. -/
def Varspec.seen (v : Varspec) : Value → Value
  | .scalar t =>
    match v.modifier with
    | .maxLength n => .scalar (t.take n)
    | _ => .scalar t
  | value => value

/-! ## Texts compared from the left -/

/-- The text is over or goes on with a delimiter. -/
def Halts (t : Text) : Prop := ∀ c, t.head? = some c → isDelimiter c = true

/-- Equal as soon as they make one text with what halts behind them. -/
def Matched (t u : Text) : Prop := ∀ r s, Halts r → Halts s → t ++ r = u ++ s → t = u

theorem halts_nil : Halts [] := fun _ h => by cases h

theorem halts_cons {d : Char} (hd : isDelimiter d = true) (t : Text) : Halts (d :: t) := by
  rintro c ⟨⟩
  exact hd

theorem Matched.append_left (w : Text) {t u : Text} (h : Matched t u) : Matched (w ++ t) (w ++ u) := by
  intro r s hr hs heq
  rw [List.append_assoc, List.append_assoc, List.append_cancel_left_eq] at heq
  rw [h r s hr hs heq]

/-- What precedes the first delimiter is equal, and so is what follows it. -/
theorem append_delimited_inj {d : Char} (hd : isDelimiter d = true) {t u v w : Text} (h : Matched t u)
    (heq : t ++ [d] ++ v = u ++ [d] ++ w) : t = u ∧ v = w := by
  rw [List.append_assoc, List.append_assoc] at heq
  have ht : t = u := h _ _ (halts_cons hd v) (halts_cons hd w) heq
  subst ht
  exact ⟨rfl, List.append_cancel_left (List.append_cancel_left heq)⟩

theorem Matched.delimited {d : Char} (hd : isDelimiter d = true) {t u v w : Text} (h : Matched t u)
    (k : Matched v w) : Matched (t ++ [d] ++ v) (u ++ [d] ++ w) := by
  intro r s hr hs heq
  have hsplit : t ++ [d] ++ (v ++ r) = u ++ [d] ++ (w ++ s) := by rwa [← List.append_assoc, ← List.append_assoc]
  obtain ⟨ht, hrest⟩ := append_delimited_inj hd h hsplit
  rw [ht, k r s hr hs hrest]

theorem eq_nil_of_halts {t m r : Text} (ht : delimiters (t ++ m) = []) (h : Halts (m ++ r)) : m = [] := by
  cases m with
  | nil => rfl
  | cons c m =>
    have hc : c ∈ delimiters (t ++ c :: m) := List.mem_filter.mpr ⟨by simp, h c rfl⟩
    rw [ht] at hc
    cases hc

theorem matched_encode (t u : Text) : Matched (Percent.encode t) (Percent.encode u) := by
  intro r s hr hs heq
  -- of two texts at the front of one text the longer one would go on with a delimiter
  rcases List.append_eq_append_iff.mp heq with ⟨m, hu, rfl⟩ | ⟨m, ht, rfl⟩
  · obtain rfl := eq_nil_of_halts (hu ▸ delimiters_encode u) hr
    rw [hu, List.append_nil]
  · obtain rfl := eq_nil_of_halts (ht ▸ delimiters_encode t) hs
    rw [ht, List.append_nil]

theorem joined_append_inj {d : Char} (hd : isDelimiter d = true) {ts us : List Text}
    (h : List.Forall₂ Matched ts us) {r s : Text} (hr : Halts r) (hs : Halts s)
    (heq : Text.joined [d] ts ++ r = Text.joined [d] us ++ s) : ts = us := by
  induction h with
  | nil => rfl
  | @cons t u ts us htu hrest ih =>
    by_cases hts : ts = []
    · subst hts
      obtain rfl := List.forall₂_nil_left_iff.mp hrest
      rw [Text.joined_singleton, Text.joined_singleton] at heq
      rw [htu r s hr hs heq]
    · have hus : us ≠ [] := fun hn => hts (List.forall₂_nil_right_iff.mp (hn ▸ hrest))
      rw [Text.joined_cons t hts, Text.joined_cons u hus, List.append_assoc, List.append_assoc _ _ s] at heq
      obtain ⟨rfl, hjoined⟩ := append_delimited_inj hd htu heq
      rw [ih hjoined]

theorem joined_inj {d : Char} (hd : isDelimiter d = true) {ts us : List Text} (h : List.Forall₂ Matched ts us)
    (heq : Text.joined [d] ts = Text.joined [d] us) : ts = us :=
  joined_append_inj hd h halts_nil halts_nil (congrArg (· ++ []) heq)

theorem Matched.joined {d : Char} (hd : isDelimiter d = true) {ts us : List Text}
    (h : List.Forall₂ Matched ts us) :
    Matched (Text.joined [d] ts) (Text.joined [d] us) :=
  fun _ _ hr hs heq => congrArg _ (joined_append_inj hd h hr hs heq)

/-! ## Contributions -/

theorem forall₂_true {α : Type} {xs ys : List α} (h : xs.length = ys.length) :
    List.Forall₂ (fun _ _ => True) xs ys :=
  List.forall₂_iff_zip.mpr ⟨h, fun _ => trivial⟩

namespace Varspec

variable {op : Operator} {v : Varspec}

theorem labelled_inj {name t u : Text} (h : labelled op name t = labelled op name u) : t = u :=
  List.append_cancel_left h

theorem matched_labelled (name : Text) {t u : Text} (h : Matched t u) :
    Matched (labelled op name t) (labelled op name u) := h.append_left _

theorem forall₂_matched_encode {ts us : List Text} (h : ts.length = us.length) :
    List.Forall₂ Matched (ts.map Percent.encode) (us.map Percent.encode) :=
  List.rel_map (fun t u _ => matched_encode t u) (forall₂_true h)

theorem forall₂_matched_whole (name : Text) {ts us : List Text} (h : List.Forall₂ Matched ts us) :
    List.Forall₂ Matched (whole op name ts) (whole op name us) := by
  cases h with
  | nil => exact .nil
  | cons h hs => exact .cons (matched_labelled name (Matched.joined rfl (.cons h hs))) .nil

theorem whole_inj {name : Text} {ts us : List Text} (h : List.Forall₂ Matched ts us)
    (heq : whole op name ts = whole op name us) : ts = us := by
  cases h with
  | nil => rfl
  | cons h hs =>
    have hjoined := labelled_inj (List.cons.inj heq).1
    exact joined_inj rfl (.cons h hs) hjoined

theorem flatMap_entry_inj {es fs : List (Text × Text)}
    (h : (es.flatMap fun e => [e.1, e.2]) = fs.flatMap fun e => [e.1, e.2]) : es = fs := by
  induction es generalizing fs with
  | nil =>
    cases fs with
    | nil => rfl
    | cons f fs => cases h
  | cons e es ih =>
    cases fs with
    | nil => cases h
    | cons f fs =>
      obtain ⟨hkey, hrest⟩ := List.cons.inj h
      obtain ⟨hvalue, hrest⟩ := List.cons.inj hrest
      rw [Prod.ext hkey hvalue, ih hrest]

theorem forall₂_matched_entries {es fs : List (Text × Text)} (h : es.length = fs.length) :
    List.Forall₂ Matched (es.flatMap fun e => [Percent.encode e.1, Percent.encode e.2])
      (fs.flatMap fun e => [Percent.encode e.1, Percent.encode e.2]) :=
  List.rel_flatMap (forall₂_true h) fun _ _ _ => .cons (matched_encode _ _) (.cons (matched_encode _ _) .nil)

theorem matched_entry (e f : Text × Text) :
    Matched (Percent.encode e.1 ++ ['='] ++ Percent.encode e.2)
      (Percent.encode f.1 ++ ['='] ++ Percent.encode f.2) :=
  (matched_encode _ _).delimited rfl (matched_encode _ _)

theorem entry_inj {e f : Text × Text}
    (h : Percent.encode e.1 ++ ['='] ++ Percent.encode e.2 =
      Percent.encode f.1 ++ ['='] ++ Percent.encode f.2) :
    e = f := by
  obtain ⟨hkey, hvalue⟩ := append_delimited_inj rfl (matched_encode _ _) h
  exact Prod.ext (Percent.encode_injective hkey) (Percent.encode_injective hvalue)

theorem forall₂_matched_shares {x y : Value} (h : x.SameKind y) :
    List.Forall₂ Matched (v.shares op x) (v.shares op y) := by
  cases h with
  | scalar t u =>
    cases hm : v.modifier <;> simp only [shares, hm] <;>
      exact .cons (matched_labelled _ (matched_encode _ _)) .nil
  | sequence h =>
    cases hm : v.modifier with
    | explode =>
      simp only [shares, hm]
      exact List.rel_map (fun _ _ _ => matched_labelled _ (matched_encode _ _)) (forall₂_true h)
    | plain | maxLength n =>
      simp only [shares, hm]
      exact forall₂_matched_whole _ (forall₂_matched_encode h)
  | mapping h =>
    cases hm : v.modifier with
    | explode =>
      simp only [shares, hm]
      exact List.rel_map (fun e f _ => matched_entry e f) (forall₂_true h)
    | plain | maxLength n =>
      simp only [shares, hm]
      exact forall₂_matched_whole _ (forall₂_matched_entries h)

/-- Equal contributions come from values that are equal as far as they are seen. -/
theorem seen_eq_of_shares_eq {x y : Value} (h : x.SameKind y) (heq : v.shares op x = v.shares op y) :
    v.seen x = v.seen y := by
  have hscalar {t u : Text}
      (h : [labelled op v.name (Percent.encode t)] = [labelled op v.name (Percent.encode u)]) :
      t = u := Percent.encode_injective (labelled_inj (List.cons.inj h).1)
  cases h with
  | scalar t u =>
    cases hm : v.modifier with
    | maxLength n =>
      simp only [shares, hm] at heq
      simp only [seen, hm, hscalar heq]
    | plain | explode =>
      simp only [shares, hm] at heq
      simp only [seen, hm, hscalar heq]
  | @sequence ts us h =>
    have hitems : ts = us := by
      cases hm : v.modifier with
      | explode =>
        simp only [shares, hm] at heq
        exact List.map_injective_iff.mpr (fun _ _ hi => Percent.encode_injective (labelled_inj hi)) heq
      | plain | maxLength n =>
        simp only [shares, hm] at heq
        have htexts := whole_inj (forall₂_matched_encode h) heq
        exact List.map_injective_iff.mpr Percent.encode_injective htexts
    rw [hitems]
  | @mapping es fs h =>
    have hentries : es = fs := by
      cases hm : v.modifier with
      | explode =>
        simp only [shares, hm] at heq
        exact List.map_injective_iff.mpr (fun _ _ he => entry_inj he) heq
      | plain | maxLength n =>
        simp only [shares, hm] at heq
        have htexts := whole_inj (forall₂_matched_entries h) heq
        rw [flatMap_encode_entries, flatMap_encode_entries] at htexts
        exact flatMap_entry_inj (List.map_injective_iff.mpr Percent.encode_injective htexts)
    rw [hentries]

theorem forall₂_matched_sharesIn {b c : Bindings}
    (h : Option.Rel Value.SameKind (b.get? v.name) (c.get? v.name)) :
    List.Forall₂ Matched (v.sharesIn op b) (v.sharesIn op c) := by
  unfold sharesIn
  generalize b.get? v.name = x at h ⊢
  generalize c.get? v.name = y at h ⊢
  cases h with
  | none => exact .nil
  | some hxy => exact forall₂_matched_shares hxy

theorem seen_eq_of_sharesIn_eq {b c : Bindings} (h : Option.Rel Value.SameKind (b.get? v.name) (c.get? v.name))
    (heq : v.sharesIn op b = v.sharesIn op c) : (b.get? v.name).map v.seen = (c.get? v.name).map v.seen := by
  unfold sharesIn at heq
  generalize b.get? v.name = x at h heq ⊢
  generalize c.get? v.name = y at h heq ⊢
  cases h with
  | none => rfl
  | some hxy => exact congrArg some (seen_eq_of_shares_eq hxy heq)

end Varspec

/-! ## Expansions -/

theorem flatMap_inj_of_length {α β : Type} {xs : List α} {f g : α → List β}
    (hlength : ∀ x ∈ xs, (f x).length = (g x).length) (h : xs.flatMap f = xs.flatMap g) :
    ∀ x ∈ xs, f x = g x := by
  induction xs with
  | nil => exact fun x hx => by cases hx
  | cons y xs ih =>
    rw [List.flatMap_cons, List.flatMap_cons] at h
    obtain ⟨hy, hxs⟩ := List.append_inj h (hlength y List.mem_cons_self)
    intro x hx
    rcases List.mem_cons.mp hx with rfl | hx
    · exact hy
    · exact ih (fun z hz => hlength z (List.mem_cons_of_mem y hz)) hxs x hx

theorem Expression.seen_eq_of_expand_eq {e : Expression} {b c : Bindings} (hop : e.operator ≠ .label)
    (hkind : ∀ v ∈ e.varspecs, Option.Rel Value.SameKind (b.get? v.name) (c.get? v.name))
    (heq : e.expand b = e.expand c) :
    ∀ v ∈ e.varspecs, (b.get? v.name).map v.seen = (c.get? v.name).map v.seen := by
  have hshares : ∀ v ∈ e.varspecs, List.Forall₂ Matched (v.sharesIn e.operator b) (v.sharesIn e.operator c) :=
    fun v hv => Varspec.forall₂_matched_sharesIn (hkind v hv)
  have hmatched : List.Forall₂ Matched (e.contributions b) (e.contributions c) := by
    unfold contributions
    exact forall₂_flatMap hshares
  have hjoined : Text.joined [e.operator.mark] (e.contributions b) =
      Text.joined [e.operator.mark] (e.contributions c) := by
    rw [e.expand_eq_led b, e.expand_eq_led c] at heq
    rw [← e.operator.separator_eq]
    exact e.operator.led_injective heq
  have hcontributions : e.contributions b = e.contributions c :=
    joined_inj (Operator.isDelimiter_mark hop) hmatched hjoined
  intro v hv
  have hv' : v.sharesIn e.operator b = v.sharesIn e.operator c :=
    flatMap_inj_of_length (fun w hw => (hshares w hw).length_eq) hcontributions v hv
  exact Varspec.seen_eq_of_sharesIn_eq (hkind v hv) hv'

/-- A point of a value cannot be told from one that separates values. -/
theorem expand_label_dot {x y : Text} (hxy : x ≠ y) (t u w : Text) :
    let e : Expression := ⟨.label, [⟨x, .plain⟩, ⟨y, .plain⟩]⟩
    e.expand (Bindings.ofPairs [(x, .scalar (t ++ '.' :: u)), (y, .scalar w)]) =
      e.expand (Bindings.ofPairs [(x, .scalar t), (y, .scalar (u ++ '.' :: w))]) := by
  intro e
  have hcontributions (s r : Text) : e.contributions (Bindings.ofPairs [(x, .scalar s), (y, .scalar r)]) =
      [Percent.encode s, Percent.encode r] := by
    have hpairs : Bindings.ofPairs [(x, .scalar s), (y, .scalar r)] =
        Bindings.bind (Bindings.bind NameMap.empty x (.scalar s)) y (.scalar r) := rfl
    have hx : (Bindings.ofPairs [(x, .scalar s), (y, .scalar r)]).get? x = some (.scalar s) := by
      rw [hpairs, Bindings.get?_bind, if_neg hxy, Bindings.get?_bind, if_pos rfl]
      rfl
    have hy : (Bindings.ofPairs [(x, .scalar s), (y, .scalar r)]).get? y = some (.scalar r) := by
      rw [hpairs, Bindings.get?_bind, if_pos rfl, Bindings.get?_bind, if_neg hxy.symm]
      rfl
    simp only [Expression.contributions, e, List.flatMap_cons, List.flatMap_nil, Varspec.sharesIn, hx, hy]
    rfl
  have hpoint (s : Text) : Percent.encode ('.' :: s) = '.' :: Percent.encode s := rfl
  have happend (s r : Text) : Percent.encode (s ++ r) = Percent.encode s ++ Percent.encode r :=
    List.flatMap_append
  rw [e.expand_eq, e.expand_eq, Expression.joinedOnce, Expression.joinedOnce, hcontributions, hcontributions]
  have hjoined (s r : Text) : Text.joined e.operator.separator [Percent.encode s, Percent.encode r] =
      Percent.encode (s ++ '.' :: r) := by
    rw [Text.joined_cons _ (List.cons_ne_nil _ _), Text.joined_singleton, happend, hpoint, List.append_assoc]
    rfl
  rw [hjoined, hjoined, List.append_assoc, List.cons_append]

/-- **Expansions of values of the same kinds tell the values**, as far as the modifiers let them through,
unless the operator is the label: between its values a point may have moved from one to the next. -/
theorem expand_tells_values :
    (∀ (e : Expression) (b c : Bindings), e.operator ≠ .label →
      (∀ v ∈ e.varspecs, Option.Rel Value.SameKind (b.get? v.name) (c.get? v.name)) → e.expand b = e.expand c →
        ∀ v ∈ e.varspecs, (b.get? v.name).map v.seen = (c.get? v.name).map v.seen) ∧
      ∀ x y t u w : Text, x ≠ y →
        (⟨.label, [⟨x, .plain⟩, ⟨y, .plain⟩]⟩ : Expression).expand
            (Bindings.ofPairs [(x, .scalar (t ++ '.' :: u)), (y, .scalar w)]) =
          (⟨.label, [⟨x, .plain⟩, ⟨y, .plain⟩]⟩ : Expression).expand
            (Bindings.ofPairs [(x, .scalar t), (y, .scalar (u ++ '.' :: w))]) :=
  ⟨fun _ _ _ hop hkind heq => Expression.seen_eq_of_expand_eq hop hkind heq,
    fun _ _ t u w hxy => expand_label_dot hxy t u w⟩

/-- Two characters of a text are seen, and the rest of it differs. -/
theorem expand_tells_values_path :
    let e : Expression := ⟨.pathSegment, [⟨['s'], .maxLength 2⟩, ⟨['m'], .explode⟩]⟩
    let b := Bindings.ofPairs [(['s'], .scalar ['/', ',', 'x']), (['m'], .mapping [(['=', '/'], [])])]
    let c := Bindings.ofPairs [(['s'], .scalar ['/', ',', 'y', 'z']), (['m'], .mapping [(['=', '/'], [])])]
    e.operator ≠ .label ∧ (∀ v ∈ e.varspecs, Option.Rel Value.SameKind (b.get? v.name) (c.get? v.name)) ∧
      e.expand b = e.expand c ∧ ∀ v ∈ e.varspecs, (b.get? v.name).map v.seen = (c.get? v.name).map v.seen := by
  intro e b c
  have hop : e.operator ≠ .label := by decide
  have hs : Option.Rel Value.SameKind (b.get? ['s']) (c.get? ['s']) := .some (.scalar _ _)
  have hm : Option.Rel Value.SameKind (b.get? ['m']) (c.get? ['m']) := .some (.mapping rfl)
  have hkind : ∀ v ∈ e.varspecs, Option.Rel Value.SameKind (b.get? v.name) (c.get? v.name) := by
    intro v hv
    rcases List.mem_cons.mp hv with rfl | hv
    · exact hs
    · obtain rfl := List.mem_singleton.mp hv
      exact hm
  have heq : e.expand b = e.expand c := by decide
  exact ⟨hop, hkind, heq, expand_tells_values.1 e b c hop hkind heq⟩

end ApiLinks

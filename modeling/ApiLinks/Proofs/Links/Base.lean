import ApiLinks.Proofs.Links.Resolution

/-!
# Resolution on a base

A base takes part in the last step alone: what resolves without it is read as a reference on it. A URI that
comes out so is one of its own, and as the text of a literal link it is left alone by every base.

* `Url.Rereads v` : the text of the URL `v` is a URL of its own;
* `LinkSet.withBase s base?` : the same links on another base, or on none;
* `LinkSet.OnBase base t result` : what a reference comes to, with a rule for
  each answer of the readers of URLs;
* `LinkSet.resolve_withBase_some` : resolving on a base is resolving without one and then the last step;
* `LinkSet.resolve_literal_of_parse` : a literal link with a URL of its own resolves to it on every base;
* `LinkSet.resolve_withBase_outcome` : the refusals, the last step and the second resolution.
-/

namespace ApiLinks

/-- The resource is unknown or does not take a bound name. -/
inductive LinkError.IsRefusal : LinkError → Prop
  | unknownResource (resource : Text) : IsRefusal (.unknownResource resource)
  | invalidParameter (resource parameter : Text) : IsRefusal (.invalidParameter resource parameter)

/-- The text of the URL is a URL of its own. -/
def Url.Rereads (v : Url) : Prop := ∃ w, Url.parse v.toText = .ok w

namespace LinkSet

variable {s : LinkSet} {resource : Text} {b : Bindings} {base : Url} {t u : Text}

/-- The same links on another base, or on none. -/
def withBase (s : LinkSet) (base? : Option Url) : LinkSet := { s with base := base? }

/-- What the reference `t` comes to on a base. -/
inductive OnBase (base : Url) (t : Text) : Except LinkError Text → Prop
  | absolute {v : Url} : Url.parse t = .ok v → OnBase base t (.ok t)
  | joined {v : Url} : Url.parse t = .error .relative → Url.join base t = .ok v → OnBase base t (.ok v.toText)
  | unjoined {reason : UrlError} : Url.parse t = .error .relative → Url.join base t = .error reason →
    OnBase base t (.error (.invalidUri t reason))
  | invalid {reason : UrlError} : Url.parse t = .error reason → reason ≠ .relative →
    OnBase base t (.error (.invalidUri t reason))

/-! ## The last step -/

theorem joinRelative_onBase (base : Url) (t : Text) : OnBase base t (joinRelative base t) := by
  unfold joinRelative
  split
  · rename_i v hparse
    exact .absolute hparse
  · rename_i hparse
    split
    · rename_i v hjoin
      exact .joined hparse hjoin
    · rename_i reason hjoin
      exact .unjoined hparse hjoin
  · rename_i reason hne hparse
    exact .invalid hparse hne

theorem joinRelative_eq_of_onBase {result : Except LinkError Text} (h : OnBase base t result) :
    joinRelative base t = result := by
  unfold joinRelative
  cases h with
  | absolute hparse => simp only [hparse]
  | joined hparse hjoin => simp only [hparse, hjoin]
  | unjoined hparse hjoin => simp only [hparse, hjoin]
  | @invalid reason hparse hne =>
    rw [hparse]
    cases reason with
    | relative => exact absurd rfl hne
    | _ => rfl

theorem joinRelative_eq_iff {result : Except LinkError Text} :
    joinRelative base t = result ↔ OnBase base t result :=
  ⟨fun h => h ▸ joinRelative_onBase base t, joinRelative_eq_of_onBase⟩

theorem not_isRefusal_of_onBase {e : LinkError} (h : OnBase base t (.error e)) : ¬ e.IsRefusal := by
  cases h with
  | unjoined => rintro ⟨⟩
  | invalid => rintro ⟨⟩

/-! ## Resolving with and without a base -/

theorem resolve_withBase_some (s : LinkSet) (base : Url) (resource : Text) (b : Bindings) :
    (s.withBase (some base)).resolve resource b =
      match (s.withBase none).resolve resource b with
      | .ok t => joinRelative base t
      | .error e => .error e := by
  cases hl : s.get? resource with
  | none => rw [resolve_of_none (s := s.withBase (some base)) hl, resolve_of_none (s := s.withBase none) hl]
  | some l =>
    cases ho : offender? l b.names with
    | some name =>
      rw [resolve_of_offender (s := s.withBase (some base)) hl ho,
        resolve_of_offender (s := s.withBase none) hl ho]
    | none =>
      have hbased : (s.withBase (some base)).get? resource = some l := hl
      rw [resolve_of_base_none (s := s.withBase none) hl ho rfl]
      unfold resolve resolveListed
      simp only [hbased, ho]
      rfl

theorem isRefusal_of_resolve {e : LinkError} (h : (s.withBase none).resolve resource b = .error e) :
    e.IsRefusal := by
  cases hl : s.get? resource with
  | none =>
    rw [resolve_of_none (s := s.withBase none) hl] at h
    obtain rfl := Except.error.inj h
    exact .unknownResource resource
  | some l =>
    cases ho : offender? l b.names with
    | some name =>
      rw [resolve_of_offender (s := s.withBase none) hl ho] at h
      obtain rfl := Except.error.inj h
      exact .invalidParameter resource name
    | none =>
      rw [resolve_of_base_none (s := s.withBase none) hl ho rfl] at h
      cases h

/-- No base touches a text that is a URL of its own. -/
theorem resolve_literal_of_parse (hu : ∃ v, Url.parse u = .ok v)
    (hl : s.get? resource = some ⟨⟨u⟩, false⟩) (base : Url)
    (b : Bindings) : (s.withBase (some base)).resolve resource b = .ok u := by
  obtain ⟨v, hv⟩ := hu
  have hplain : (s.withBase none).resolve resource b = .ok u :=
    resolve_of_base_none (s := s.withBase none) (l := ⟨⟨u⟩, false⟩) hl rfl rfl
  rw [resolve_withBase_some, hplain]
  exact joinRelative_eq_of_onBase (.absolute hv)

/-- **A base changes nothing but the last step.** The refusals are those without a base; where there is
none, the text that resolves without a base is read as a reference on it, and an error of that reading
carries this text. What comes out is left alone by every base once it is the text of a literal link,
given that a joined URL rereads. -/
theorem resolve_withBase_outcome (s : LinkSet) (base : Url) (resource : Text) (b : Bindings) :
    (∀ e : LinkError, e.IsRefusal →
      ((s.withBase (some base)).resolve resource b = .error e ↔
        (s.withBase none).resolve resource b = .error e)) ∧
      (∀ e, (s.withBase none).resolve resource b = .error e → e.IsRefusal) ∧
      (∀ t, (s.withBase none).resolve resource b = .ok t →
        ∀ result, (s.withBase (some base)).resolve resource b = result ↔ OnBase base t result) ∧
      ∀ u, (s.withBase (some base)).resolve resource b = .ok u →
        (∀ t v, (s.withBase none).resolve resource b = .ok t → Url.join base t = .ok v → v.Rereads) →
          ∀ (s' : LinkSet) (name : Text), s'.get? name = some ⟨⟨u⟩, false⟩ →
            ∀ (base' : Url) (c : Bindings), (s'.withBase (some base')).resolve name c = .ok u := by
  rw [resolve_withBase_some]
  cases hplain : (s.withBase none).resolve resource b with
  | error e =>
    refine ⟨fun _ _ => Iff.rfl, fun e' he => ?_, fun t ht => ?_, fun u hu => ?_⟩
    · exact isRefusal_of_resolve (hplain.trans he)
    · cases ht
    · cases hu
  | ok t =>
    refine ⟨fun e he => ?_, fun e he => ?_, fun t' ht result => ?_, fun u hu hown s' name hl base' c => ?_⟩
    · rw [joinRelative_eq_iff]
      exact ⟨fun h => absurd he (not_isRefusal_of_onBase h), fun h => by cases h⟩
    · cases he
    · obtain rfl := Except.ok.inj ht
      exact joinRelative_eq_iff
    · have hread : ∃ v, Url.parse u = .ok v := by
        cases joinRelative_eq_iff.mp hu with
        | absolute hparse => exact ⟨_, hparse⟩
        | joined hparse hjoin => exact hown t _ rfl hjoin
      exact resolve_literal_of_parse hread hl base' c

/-- A templated reference, and its URI as a literal link on another server. -/
theorem resolve_withBase_outcome_join :
    let base : Url :=
      ⟨"https".toList, some ⟨[], [], .domain "api.example.org".toList, none⟩, .segments [[]], none, none⟩
    let base' : Url := ⟨"http".toList, some ⟨[], [], .domain ['b'], none⟩, .segments [[]], none, none⟩
    let u : Text := "https://api.example.org/poi?q=a".toList
    let s := LinkSet.ofList [(['r'], ⟨⟨"poi\x7b?q\x7d".toList⟩, true⟩), (['u'], ⟨⟨u⟩, false⟩)]
    let b := Bindings.ofPairs [(['q'], .scalar ['a'])]
    (s.withBase (some base)).resolve ['r'] b = .ok u ∧ (s.withBase (some base')).resolve ['u'] b = .ok u := by
  intro base base' u s b
  have hplain : (s.withBase none).resolve ['r'] b = .ok "poi?q=a".toList := by decide +kernel
  have hjoin : Url.join base "poi?q=a".toList = .ok ⟨"https".toList, base.authority, .segments ["poi".toList],
      some "q=a".toList, none⟩ := by decide +kernel
  have hread : ∃ w, Url.parse u = .ok w :=
    ⟨⟨"https".toList, base.authority, .segments ["poi".toList], some "q=a".toList, none⟩, by decide +kernel⟩
  have hl : s.get? ['u'] = some ⟨⟨u⟩, false⟩ := by decide +kernel
  obtain ⟨-, -, hlast, hagain⟩ := resolve_withBase_outcome s base ['r'] b
  have hu : (s.withBase (some base)).resolve ['r'] b = .ok u :=
    (hlast _ hplain _).mpr (.joined (by decide +kernel) hjoin)
  refine ⟨hu, hagain u hu (fun t v ht hv => ?_) s ['u'] hl base' b⟩
  obtain rfl := Except.ok.inj (hplain.symm.trans ht)
  obtain rfl := Except.ok.inj (hjoin.symm.trans hv)
  exact hread

end LinkSet

end ApiLinks

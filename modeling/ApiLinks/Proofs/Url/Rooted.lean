import ApiLinks.Url.Reader
import Mathlib.Data.List.TakeWhile

/-!
# References that begin with a slash

Such a reference keeps the scheme of its base. It keeps the authority too, unless a second
slash follows, be it a backslash and whatever tabs and line breaks stand between the two: then
it names an authority of its own.

* `Url.StartsAtHost t` : the text `t` begins with two slashes;
* `Url.clean_cons_slash` : what counts of a text that begins with a slash;
* `Url.parse_cons_slash` : such a text is no URL of its own;
* `Url.join_cons_slash` : what it keeps of a base that is no file.
-/

namespace ApiLinks.Url

/-- Two slashes of either kind begin the text, tabs and line breaks aside. -/
def StartsAtHost (t : Text) : Prop :=
  ∃ c d rest, t.filter (!isTabOrBreak ·) = c :: d :: rest ∧ isSlash c = true ∧ isSlash d = true

/-! ## The text that counts -/

theorem isSlash_of_isControlOrSpace {c : Char} (h : isControlOrSpace c = true) : isSlash c = false := by
  unfold isSlash
  rw [Bool.or_eq_false_iff, beq_eq_false_iff_ne, beq_eq_false_iff_ne]
  constructor
  · rintro rfl
    exact absurd h (by decide)
  · rintro rfl
    exact absurd h (by decide)

theorem head?_filter_append {t u : Text} (hu : ∀ c ∈ u, isSlash c = false) (p : Char → Bool) :
    ((t ++ u).filter p).head?.any isSlash = (t.filter p).head?.any isSlash := by
  rw [List.filter_append, List.head?_append]
  cases ht : (t.filter p).head? with
  | some c => rfl
  | none =>
    rw [Option.none_or]
    cases hc : (u.filter p).head? with
    | none => rfl
    | some c => exact hu c (List.mem_filter.mp (List.mem_of_head? hc)).1

theorem startsAtHost_cons_slash (t : Text) :
    StartsAtHost ('/' :: t) ↔ (t.filter (!isTabOrBreak ·)).head?.any isSlash = true := by
  have hslash : ('/' :: t).filter (!isTabOrBreak ·) = '/' :: t.filter (!isTabOrBreak ·) := rfl
  unfold StartsAtHost
  rw [hslash]
  constructor
  · rintro ⟨c, d, rest, heq, -, hd⟩
    rw [(List.cons.inj heq).2]
    exact hd
  · intro h
    cases hf : t.filter (!isTabOrBreak ·) with
    | nil =>
      rw [hf] at h
      cases h
    | cons d rest =>
      rw [hf] at h
      exact ⟨'/', d, rest, rfl, rfl, h⟩

/-- The slash stays in front, and whether another one follows is not a matter of what is trimmed at the end. -/
theorem clean_cons_slash (t : Text) :
    ∃ rest, clean ('/' :: t) = '/' :: rest ∧ (StartsAtHost ('/' :: t) ↔ rest.head?.any isSlash = true) := by
  have hstart : ('/' :: t).dropWhile isControlOrSpace = '/' :: t := List.dropWhile_cons_of_neg (by decide)
  have hend : (t.reverse ++ ['/']).dropWhile isControlOrSpace =
      t.reverse.dropWhile isControlOrSpace ++ ['/'] := by
    rw [List.dropWhile_append]
    split
    · rename_i hnil
      rw [List.isEmpty_iff.mp hnil]
      rfl
    · rfl
  refine ⟨(t.reverse.dropWhile isControlOrSpace).reverse.filter (!isTabOrBreak ·), ?_, ?_⟩
  · unfold clean
    rw [hstart, List.reverse_cons, hend, List.reverse_append]
    rfl
  · have hsplit : t = (t.reverse.dropWhile isControlOrSpace).reverse ++
        (t.reverse.takeWhile isControlOrSpace).reverse := by
      rw [← List.reverse_append, List.takeWhile_append_dropWhile, List.reverse_reverse]
    have hcut : ∀ c ∈ (t.reverse.takeWhile isControlOrSpace).reverse, isSlash c = false := by
      intro c hc
      exact isSlash_of_isControlOrSpace (List.mem_takeWhile_imp (List.mem_reverse.mp hc))
    have hhead :=
      head?_filter_append (t := (t.reverse.dropWhile isControlOrSpace).reverse) hcut (!isTabOrBreak ·)
    rw [← hsplit] at hhead
    rw [startsAtHost_cons_slash, hhead]

/-! ## The parts that are kept -/

theorem withRest_eq (u : Url) (t : Text) : ∃ query fragment, u.withRest t = { u with query, fragment } := by
  unfold withRest
  split
  · split
    · exact ⟨_, _, rfl⟩
    · exact ⟨_, _, rfl⟩
  · exact ⟨_, _, rfl⟩
  · exact ⟨_, _, rfl⟩

theorem withRest_scheme (u : Url) (t : Text) : (u.withRest t).scheme = u.scheme := by
  obtain ⟨query, fragment, h⟩ := u.withRest_eq t
  rw [h]

theorem withPath_eq (u : Url) (start : List Text) (t : Text) :
    ∃ query fragment, u.withPath start t =
      { u with path := .segments (pathFrom u.scheme start (t.takeWhile (!endsPath ·))), query, fragment } :=
  withRest_eq _ _

theorem withPath_scheme (u : Url) (start : List Text) (t : Text) : (u.withPath start t).scheme = u.scheme := by
  obtain ⟨query, fragment, h⟩ := u.withPath_eq start t
  rw [h]

theorem withPath_authority (u : Url) (start : List Text) (t : Text) :
    (u.withPath start t).authority = u.authority := by
  obtain ⟨query, fragment, h⟩ := u.withPath_eq start t
  rw [h]

theorem resolve_ne_nil {segments : List Text} (h : segments ≠ []) (done : List Text) :
    resolve false done segments ≠ [] := by
  induction segments generalizing done with
  | nil => exact absurd rfl h
  | cons s rest ih =>
    cases rest with
    | nil =>
      unfold resolve
      split
      · simp
      · split
        · simp
        · simp [follow]
    | cons r rest =>
      have hrest : r :: rest ≠ [] := List.cons_ne_nil r rest
      rw [resolve]
      · split
        · exact ih hrest _
        · split
          · exact ih hrest _
          · exact ih hrest _
      · exact fun hn => absurd hn hrest

/-- A path that is read has a segment, be it an empty one. -/
theorem withPath_path {u : Url} (hf : u.scheme ≠ fileScheme) (start : List Text) (t : Text) :
    ∃ s ss, (u.withPath start t).path = .segments (s :: ss) := by
  have hne : pathFrom u.scheme start (t.takeWhile (!endsPath ·)) ≠ [] := by
    unfold pathFrom
    simp only
    rw [if_neg hf]
    apply resolve_ne_nil
    unfold segmentsOf
    rw [Ne, List.map_eq_nil_iff]
    exact List.splitOnP_ne_nil _ _
  obtain ⟨s, ss, hss⟩ := List.exists_cons_of_ne_nil hne
  obtain ⟨query, fragment, h⟩ := u.withPath_eq start t
  exact ⟨s, ss, by rw [h, hss]⟩

/-! ## Authorities that are read -/

theorem bare_scheme (u : Url) (t : Text) : (ofAuthority.bare u t).scheme = u.scheme := by
  rw [ofAuthority.bare, withRest_scheme]

theorem ofAuthority_scheme {scheme t : Text} {v : Url} (h : ofAuthority scheme t = .ok v) :
    v.scheme = scheme := by
  unfold ofAuthority at h
  simp only at h
  split at h
  · cases h
  · cases hread : authorityOf scheme (t.takeWhile fun c => !endsAuthority (isSpecial scheme) c) with
    | error e =>
      rw [hread] at h
      cases h
    | ok r =>
      rw [hread] at h
      dsimp only [bind, Except.bind, pure, Except.pure] at h
      split at h
      · obtain rfl := Except.ok.inj h
        exact withPath_scheme _ _ _
      · split at h
        · split at h
          · obtain rfl := Except.ok.inj h
            exact withPath_scheme _ _ _
          · obtain rfl := Except.ok.inj h
            exact bare_scheme _ _
        · obtain rfl := Except.ok.inj h
          exact bare_scheme _ _

/-! ## References with a slash in front -/

theorem scheme?_cons_slash (t : Text) : scheme? ('/' :: t) = none := rfl

theorem parse_cons_slash (t : Text) : parse ('/' :: t) = .error .relative := by
  obtain ⟨rest, hclean, -⟩ := clean_cons_slash t
  unfold parse read
  simp only [hclean, scheme?_cons_slash]

theorem relativeTo_slash {c : Char} (hc : c ≠ '/') (b : Url) (ss : List Text) (t : Text) :
    relativeTo b ss ('/' :: c :: t) =
      if isSlash c then ofAuthority b.scheme (('/' :: c :: t).dropWhile isSlash)
        else .ok (b.withPath [] (c :: t)) := by
  rw [relativeTo]
  · rfl
  · decide
  · decide
  · intro rest _ heq
    exact hc (List.cons.inj heq).1

/-- One slash: the rest is a path. -/
theorem relativeTo_path (b : Url) (ss : List Text) {t : Text} (ht : t.head?.any isSlash = false) :
    relativeTo b ss ('/' :: t) = .ok (b.withPath [] t) := by
  cases t with
  | nil => rfl
  | cons c t =>
    have hc : isSlash c = false := ht
    have hne : c ≠ '/' := by
      rintro rfl
      cases hc
    rw [relativeTo_slash hne, hc, if_neg Bool.false_ne_true]

/-- Two slashes: the rest begins with an authority. -/
theorem relativeTo_authority (b : Url) (ss : List Text) {t : Text} (ht : t.head?.any isSlash = true) :
    ∃ rest, relativeTo b ss ('/' :: t) = ofAuthority b.scheme rest := by
  cases t with
  | nil => cases ht
  | cons c t =>
    have hc : isSlash c = true := ht
    by_cases hne : c = '/'
    · exact ⟨t, by rw [hne, relativeTo]⟩
    · exact ⟨('/' :: c :: t).dropWhile isSlash, by rw [relativeTo_slash hne, hc, if_pos rfl]⟩

/-- **The scheme of the base stays, and so does its authority if the reference names none.** -/
theorem join_cons_slash {base v : Url} {t : Text} (hf : base.scheme ≠ fileScheme)
    (h : join base ('/' :: t) = .ok v) :
    v.scheme = base.scheme ∧
      (¬ StartsAtHost ('/' :: t) → v.authority = base.authority ∧ ∃ s ss, v.path = .segments (s :: ss)) := by
  obtain ⟨rest, hclean, hhost⟩ := clean_cons_slash t
  unfold join read at h
  simp only [hclean, scheme?_cons_slash] at h
  cases hpath : base.path with
  | rootless text =>
    rw [hpath] at h
    cases h
  | segments ss =>
    rw [hpath] at h
    simp only [if_neg hf] at h
    change relativeTo base ss ('/' :: rest) = .ok v at h
    cases hhead : rest.head?.any isSlash with
    | false =>
      rw [relativeTo_path base ss hhead] at h
      obtain rfl := Except.ok.inj h
      exact ⟨withPath_scheme base [] rest, fun _ => ⟨withPath_authority base [] rest, withPath_path hf [] rest⟩⟩
    | true =>
      obtain ⟨authority, hread⟩ := relativeTo_authority base ss hhead
      rw [hread] at h
      exact ⟨ofAuthority_scheme h, fun hn => absurd (hhost.mpr hhead) hn⟩

end ApiLinks.Url

import ApiLinks.Proofs.Expansion.Delimiters
import ApiLinks.Proofs.Text.Decoding
import ApiLinks.Proofs.Url.Rooted

/-!
# References of plain segments

A reference that is made of segments without delimiters, one slash between each two of them, is
read on a base that is a directory. Its segments are put behind those of the base, and only the
dots among them move: a reference without dots is put behind the text of the base as it is, and
dots make the path shorter than that.

* `Url.IsDirectory base start` : a base with a server and the path `start`, a slash behind it;
* `Url.IsSegment s` : a text without delimiters, and not the empty one;
* `Url.join_joined` : what such a reference comes to;
* `Url.below base start segments` : the URL of the segments below the base, `Url.toText_below` its text;
* `Url.pathLength_resolve_le` : dots make a path shorter;
* `Url.isDots_encode_iff` : the values that are dots once they are encoded.
-/

namespace ApiLinks.Url

variable {base : Url} {start segments : List Text} {s t : Text} {c : Char}

/-- A URL that is no file, on a server, with a path that ends in a slash and nothing behind it. -/
structure IsDirectory (base : Url) (start : List Text) : Prop where
  scheme : base.scheme ≠ fileScheme
  authority : base.authority.isSome = true
  path : base.path = .segments (start ++ [[]])
  query : base.query = none
  fragment : base.fragment = none

/-- A segment without a sign that a reader of URLs knows. -/
structure IsSegment (s : Text) : Prop where
  ne_nil : s ≠ []
  plain : ∀ c ∈ s, isDelimiter c = false

/-! ## Plain characters -/

theorem ne_of_isDelimiter {d : Char} (hd : isDelimiter d = true) (hc : isDelimiter c = false) : c ≠ d := by
  rintro rfl
  rw [hd] at hc
  cases hc

theorem toNat_of_plain (hc : isDelimiter c = false) : 0x21 ≤ c.toNat ∧ c.toNat ≤ 0x7E := by
  have hle (a b : Char) : a ≤ b ↔ a.toNat ≤ b.toNat := UInt32.le_iff_toNat_le
  have hmarks (d : Char) (hd : c = d) : c.toNat = d.toNat := congrArg Char.toNat hd
  unfold isDelimiter at hc
  simp only [Bool.not_eq_false', Bool.or_eq_true, Bool.and_eq_true, decide_eq_true_eq, beq_iff_eq, hle] at hc
  have hA : 'A'.toNat = 65 ∧ 'Z'.toNat = 90 ∧ 'a'.toNat = 97 ∧ 'z'.toNat = 122 ∧ '0'.toNat = 48 ∧
      '9'.toNat = 57 := by
    decide
  rcases hc with ((((((hc | hc) | hc) | hc) | hc) | hc) | hc) | hc
  · omega
  · omega
  · omega
  all_goals
    rw [hc]
    decide

theorem isControlOrSpace_of_plain (hc : isDelimiter c = false) : isControlOrSpace c = false :=
  decide_eq_false (by have := (toNat_of_plain hc).1; omega)

theorem mayStandInPath_of_plain (hc : isDelimiter c = false) : mayStandInPath c = true := by
  obtain ⟨hlow, hhigh⟩ := toNat_of_plain hc
  have hne {d : Char} (hd : isDelimiter d = true) : (c != d) = true := bne_iff_ne.mpr (ne_of_isDelimiter hd hc)
  have hprintable : isPrintableAscii c = true := by
    unfold isPrintableAscii
    rw [Bool.and_eq_true, decide_eq_true_eq, decide_eq_true_eq]
    omega
  simp only [mayStandInPath, mayStandInFragment, hprintable, hne (d := ' ') (by decide),
    hne (d := '"') (by decide), hne (d := '<') (by decide), hne (d := '>') (by decide),
    hne (d := '\u0060') (by decide), hne (d := '#') (by decide), hne (d := '?') (by decide),
    hne (d := '\x7b') (by decide), hne (d := '\x7d') (by decide), Bool.and_self]

theorem encodeExcept_of_plain (h : ∀ c ∈ s, isDelimiter c = false) :
    Percent.encodeExcept mayStandInPath s = s := by
  unfold Percent.encodeExcept
  induction s with
  | nil => rfl
  | cons c s ih =>
    rw [List.flatMap_cons, if_pos (mayStandInPath_of_plain (h c List.mem_cons_self)),
      ih fun d hd => h d (List.mem_cons_of_mem c hd)]
    rfl

/-! ## The reference as it is read -/

theorem eq_slash_or_plain (h : ∀ s ∈ segments, IsSegment s) (hc : c ∈ Text.joined ['/'] segments) :
    c = '/' ∨ isDelimiter c = false := by
  rcases Text.mem_joined hc with hc | ⟨s, hs, hc⟩
  · exact Or.inl (List.mem_singleton.mp hc)
  · exact Or.inr ((h s hs).plain c hc)

theorem clean_eq_self (h : ∀ c ∈ t, isControlOrSpace c = false) : clean t = t := by
  have hkept {u : Text} (hu : ∀ c ∈ u, isControlOrSpace c = false) : u.dropWhile isControlOrSpace = u := by
    cases u with
    | nil => rfl
    | cons c u => exact List.dropWhile_cons_of_neg (by rw [hu c List.mem_cons_self]; exact Bool.false_ne_true)
  unfold clean
  rw [hkept h, hkept fun c hc => h c (List.mem_reverse.mp hc), List.reverse_reverse, List.filter_eq_self]
  intro c hc
  have hbreak : isTabOrBreak c = false := by
    have hcount := h c hc
    unfold isTabOrBreak
    simp only [Bool.or_eq_false_iff, beq_eq_false_iff_ne]
    refine ⟨⟨?_, ?_⟩, ?_⟩
    all_goals
      rintro rfl
      exact absurd hcount (by decide)
  rw [hbreak]
  rfl

theorem clean_joined (h : ∀ s ∈ segments, IsSegment s) :
    clean (Text.joined ['/'] segments) = Text.joined ['/'] segments := by
  apply clean_eq_self
  intro c hc
  rcases eq_slash_or_plain h hc with rfl | hc
  · decide
  · exact isControlOrSpace_of_plain hc

theorem scheme?_eq_none (h : ':' ∉ t) : scheme? t = none := by
  unfold scheme?
  split
  · split
    · rename_i rest hrest
      have hin : ':' ∈ t.dropWhile isSchemeChar := by rw [hrest]; exact List.mem_cons_self
      exact absurd ((List.dropWhile_suffix isSchemeChar).mem hin) h
    · rfl
  · rfl

theorem scheme?_joined (h : ∀ s ∈ segments, IsSegment s) : scheme? (Text.joined ['/'] segments) = none := by
  apply scheme?_eq_none
  intro hc
  rcases eq_slash_or_plain h hc with hc | hc
  · exact absurd hc (by decide)
  · exact absurd hc (by decide)

theorem segmentsOf_joined (special : Bool) (hne : segments ≠ []) (h : ∀ s ∈ segments, IsSegment s) :
    segmentsOf special (Text.joined ['/'] segments) = segments := by
  have hkept {s : Text} (hs : IsSegment s) : ∀ c ∈ s, isSeparator special c = false := by
    intro c hc
    have hne {d : Char} (hd : isDelimiter d = true) : (c == d) = false :=
      beq_false_of_ne (ne_of_isDelimiter hd (hs.plain c hc))
    unfold isSeparator
    rw [hne (by decide), hne (by decide), Bool.and_false, Bool.or_false]
  have hsplit : (Text.joined ['/'] segments).splitOnP (isSeparator special) = segments := by
    induction segments with
    | nil => exact absurd rfl hne
    | cons s rest ih =>
      have hs := hkept (h s List.mem_cons_self)
      by_cases hrest : rest = []
      · rw [hrest, Text.joined_singleton]
        exact List.splitOnP_eq_singleton hs
      · rw [Text.joined_cons s hrest, List.append_assoc, List.singleton_append,
          List.splitOnP_append_cons_of_forall_mem hs '/' (by rfl),
          ih hrest fun x hx => h x (List.mem_cons_of_mem s hx)]
  unfold segmentsOf
  rw [hsplit]
  exact (List.map_congr_left fun s hs => encodeExcept_of_plain (h s hs).plain).trans (List.map_id segments)

theorem directory_append (hscheme : base.scheme ≠ fileScheme) (start : List Text) :
    directory base.scheme (start ++ [[]]) = start := by
  have hlast : (start ++ [([] : Text)]).getLast? = some [] := List.getLast?_concat
  unfold directory
  rw [hlast]
  simp only [hscheme, false_and, if_false, List.dropLast_concat]

/-- A path with nothing behind it. -/
theorem withPath_of_forall (hscheme : base.scheme ≠ fileScheme) (start : List Text)
    (h : ∀ c ∈ t, endsPath c = false) :
    base.withPath start t =
      { base with
        path := .segments (resolve false start.reverse (segmentsOf (isSpecial base.scheme) t)),
        query := none,
        fragment := none } := by
  have hall : ∀ c ∈ t, (!endsPath c) = true := by
    intro c hc
    rw [h c hc]
    rfl
  have htake : t.takeWhile (!endsPath ·) = t := List.takeWhile_eq_self_iff.mpr hall
  have hdrop : t.dropWhile (!endsPath ·) = [] := List.dropWhile_eq_nil_iff.mpr hall
  unfold withPath pathFrom
  rw [htake, hdrop]
  simp only [if_neg hscheme]
  rfl

/-- A reference that begins with none of the signs is a path. -/
theorem relativeTo_of_plain (base : Url) (ss : List Text) (hc : isDelimiter c = false) (t : Text) :
    relativeTo base ss (c :: t) = .ok (base.withPath (directory base.scheme ss) (c :: t)) := by
  have hne {d : Char} (hd : isDelimiter d = true) : c ≠ d := ne_of_isDelimiter hd hc
  have hslash : isSlash c = false := by
    unfold isSlash
    rw [beq_false_of_ne (hne (by decide)), beq_false_of_ne (hne (by decide))]
    rfl
  rw [relativeTo]
  · rw [hslash, if_neg Bool.false_ne_true]
  · rintro rfl
    exact absurd hc (by decide)
  · rintro rfl
    exact absurd hc (by decide)
  · rintro rest rfl -
    exact absurd hc (by decide)

theorem parse_joined (h : ∀ s ∈ segments, IsSegment s) :
    parse (Text.joined ['/'] segments) = .error .relative := by
  unfold parse read
  simp only [clean_joined h, scheme?_joined h]

theorem join_of_relative {ss : List Text} (hscheme : base.scheme ≠ fileScheme)
    (hpath : base.path = .segments ss) (hclean : clean t = t) (hnone : scheme? t = none) :
    join base t = relativeTo base ss t := by
  unfold join read
  simp only [hclean, hnone, hpath, if_neg hscheme]
  split
  · rfl
  · rename_i heq
    cases heq
  · rename_i heq
    cases heq
    rfl

/-- **The segments of the reference are put behind those of the base**, and its dots resolved. -/
theorem join_joined (hbase : base.IsDirectory start) (hne : segments ≠ []) (h : ∀ s ∈ segments, IsSegment s) :
    join base (Text.joined ['/'] segments) =
      .ok { base with path := .segments (resolve false start.reverse segments) } := by
  obtain ⟨c, t, ht, hc⟩ : ∃ c t, Text.joined ['/'] segments = c :: t ∧ isDelimiter c = false := by
    obtain ⟨s, rest, rfl⟩ := List.exists_cons_of_ne_nil hne
    have hs := h s List.mem_cons_self
    obtain ⟨c, s, rfl⟩ := List.exists_cons_of_ne_nil hs.ne_nil
    have hc := hs.plain c List.mem_cons_self
    by_cases hrest : rest = []
    · exact ⟨c, s, by rw [hrest, Text.joined_singleton], hc⟩
    · exact ⟨c, s ++ ['/'] ++ Text.joined ['/'] rest, by rw [Text.joined_cons _ hrest]; rfl, hc⟩
  have hends : ∀ d ∈ Text.joined ['/'] segments, endsPath d = false := by
    intro d hd
    rcases eq_slash_or_plain h hd with rfl | hd
    · rfl
    · unfold endsPath
      rw [beq_false_of_ne (ne_of_isDelimiter (by decide) hd),
        beq_false_of_ne (ne_of_isDelimiter (by decide) hd)]
      rfl
  rw [join_of_relative hbase.scheme hbase.path (clean_joined h) (scheme?_joined h), ht,
    relativeTo_of_plain base _ hc, ← ht, directory_append hbase.scheme,
    withPath_of_forall hbase.scheme start hends, segmentsOf_joined _ hne h]
  simp only [hbase.query, hbase.fragment]

/-! ## The text of the URL -/

/-- The URL of segments below a directory. -/
def below (base : Url) (start segments : List Text) : Url := { base with path := .segments (start ++ segments) }

theorem flatMap_slash (hne : segments ≠ []) :
    segments.flatMap ('/' :: ·) = '/' :: Text.joined ['/'] segments := by
  induction segments with
  | nil => exact absurd rfl hne
  | cons s rest ih =>
    by_cases hrest : rest = []
    · rw [hrest, Text.joined_singleton]
      simp
    · rw [Text.joined_cons s hrest, List.flatMap_cons, ih hrest]
      simp

/-- Below a directory the text of the base stays in front. -/
theorem toText_below (hbase : base.IsDirectory start) (hne : segments ≠ []) :
    (base.below start segments).toText = base.toText ++ Text.joined ['/'] segments := by
  obtain ⟨a, ha⟩ := Option.isSome_iff_exists.mp hbase.authority
  have hauthority : (base.below start segments).authorityText = base.authorityText := by
    simp only [authorityText, below, ha]
  have hpath : (base.below start segments).path.toText = base.path.toText ++ Text.joined ['/'] segments := by
    rw [hbase.path, below, UrlPath.toText, UrlPath.toText, List.flatMap_append, flatMap_slash hne,
      List.flatMap_append]
    simp
  rw [toText, beforeQuery, hauthority, hpath, toText, beforeQuery, hbase.query, hbase.fragment]
  simp [below, hbase.query, hbase.fragment]

/-- The length of a path in the text of its URL. -/
def pathLength (segments : List Text) : Nat := (UrlPath.segments segments).toText.length

@[simp] theorem pathLength_cons (s : Text) (rest : List Text) :
    pathLength (s :: rest) = s.length + 1 + pathLength rest := by
  simp only [pathLength, UrlPath.toText, List.flatMap_cons, List.length_append, List.length_cons]

@[simp] theorem pathLength_append (ss ss' : List Text) :
    pathLength (ss ++ ss') = pathLength ss + pathLength ss' := by
  simp only [pathLength, UrlPath.toText, List.flatMap_append, List.length_append]

@[simp] theorem pathLength_reverse_cons (s : Text) (done : List Text) :
    pathLength (s :: done).reverse = pathLength done.reverse + (s.length + 1) := by
  rw [List.reverse_cons, pathLength_append, pathLength_cons]
  rfl

/-- On one server a shorter path makes a shorter text. -/
theorem toText_ne_of_pathLength_lt {ss ss' : List Text} (hauthority : base.authority.isSome = true)
    (hlt : pathLength ss < pathLength ss') :
    ({ base with path := .segments ss } : Url).toText ≠ ({ base with path := .segments ss' } : Url).toText := by
  obtain ⟨a, ha⟩ := Option.isSome_iff_exists.mp hauthority
  intro heq
  have hlength := congrArg List.length heq
  simp only [toText, beforeQuery, authorityText, ha, List.length_append, List.length_cons] at hlength
  unfold pathLength at hlt
  omega

/-! ## Dots -/

/-- The segments that move instead of standing in a path. -/
def isDots (s : Text) : Bool := isDot s || isDoubleDot s

theorem resolve_of_no_dots (h : ∀ s ∈ segments, isDots s = false) (done : List Text) :
    resolve false done segments = done.reverse ++ segments :=
  resolve_plain fun s hs => Bool.or_eq_false_iff.mp (h s hs)

/-- What is done behind a segment that others follow. -/
def pass (done : List Text) (s : Text) : List Text :=
  if isDoubleDot s then back done else if isDot s then done else s :: done

theorem resolve_singleton (done : List Text) (s : Text) :
    resolve false done [s] = (if isDots s then [] :: pass done s else pass done s).reverse := by
  rw [resolve]
  cases hdd : isDoubleDot s <;> cases hd : isDot s <;> simp [isDots, pass, follow, hdd, hd]

theorem resolve_cons_cons (done : List Text) (s r : Text) (rest : List Text) :
    resolve false done (s :: r :: rest) = resolve false (pass done s) (r :: rest) := by
  rw [resolve]
  · cases hdd : isDoubleDot s <;> cases hd : isDot s <;> simp [pass, follow, hdd, hd]
  · exact fun hn => absurd hn (List.cons_ne_nil r rest)

theorem pathLength_back_le (done : List Text) : pathLength (back done).reverse ≤ pathLength done.reverse := by
  cases done with
  | nil => exact Nat.le_refl _
  | cons s rest =>
    rw [back]
    split
    · exact Nat.le_refl _
    · rw [pathLength_reverse_cons]
      exact Nat.le_add_right _ _

theorem pathLength_pass_of_isDots (h : isDots s = true) (done : List Text) :
    pathLength (pass done s).reverse ≤ pathLength done.reverse := by
  unfold pass
  split
  · exact pathLength_back_le done
  · rename_i hdd
    rcases (Bool.or_eq_true _ _).mp h with hd | hdd'
    · rw [if_pos hd]
    · exact absurd hdd' hdd

theorem pass_of_not_isDots (h : isDots s = false) (done : List Text) : pass done s = s :: done := by
  obtain ⟨hd, hdd⟩ := Bool.or_eq_false_iff.mp h
  simp only [pass, hd, hdd, Bool.false_eq_true, if_false]

theorem length_pos_of_isDots (h : isDots s = true) : 0 < s.length := by
  apply List.length_pos_iff.mpr
  rintro rfl
  exact absurd h (by decide)

/-- Every segment of dots costs the path a character at least. -/
theorem pathLength_resolve_le (hne : segments ≠ []) (done : List Text) :
    pathLength (resolve false done segments) + segments.countP isDots ≤
      pathLength done.reverse + pathLength segments := by
  induction segments generalizing done with
  | nil => exact absurd rfl hne
  | cons s rest ih =>
    rw [List.countP_cons, pathLength_cons]
    cases hs : isDots s with
    | true =>
      have hpass := pathLength_pass_of_isDots hs done
      have hpos := length_pos_of_isDots hs
      cases rest with
      | nil =>
        rw [resolve_singleton, hs, if_pos rfl, if_pos rfl, pathLength_reverse_cons,
          List.countP_nil, List.length_nil]
        omega
      | cons r rest =>
        have hrest := ih (List.cons_ne_nil r rest) (pass done s)
        rw [resolve_cons_cons, if_pos rfl]
        omega
    | false =>
      cases rest with
      | nil =>
        rw [resolve_singleton, hs, if_neg Bool.false_ne_true, if_neg Bool.false_ne_true, pass_of_not_isDots hs,
          pathLength_reverse_cons, List.countP_nil]
        omega
      | cons r rest =>
        have hrest := ih (List.cons_ne_nil r rest) (pass done s)
        rw [pass_of_not_isDots hs, pathLength_reverse_cons] at hrest
        rw [resolve_cons_cons, pass_of_not_isDots hs, if_neg Bool.false_ne_true]
        omega

/-! ### Encoded values -/

/-- The encoder writes points as they are, so that dots come from dots alone. -/
theorem isDots_encode_iff : isDots (Percent.encode t) = true ↔ t = ['.'] ∨ t = ['.', '.'] := by
  have hread {w : Text} (hw : Percent.encode t = w) : Percent.decode? w = some t :=
    hw ▸ (Percent.standsFor_encode t).decode?_eq
  constructor
  · intro h
    rcases (Bool.or_eq_true _ _).mp h with h | h
    · have hword : ∀ w ∈ [['.'], "%2e".toList, "%2E".toList], Percent.decode? w = some ['.'] := by
        decide +kernel
      have hin : Percent.encode t ∈ [['.'], "%2e".toList, "%2E".toList] := by
        unfold isDot at h
        simpa only [List.mem_cons, List.not_mem_nil, or_false, Bool.or_eq_true, beq_iff_eq, or_assoc] using h
      exact Or.inl (Option.some.inj ((hread rfl).symm.trans (hword _ hin)))
    · have hword : ∀ w ∈ ["..", "%2e%2e", "%2e%2E", "%2E%2e", "%2E%2E", "%2e.", "%2E.", ".%2e", ".%2E"],
          Percent.decode? w.toList = some ['.', '.'] := by decide +kernel
      obtain ⟨w, hw, hbeq⟩ := List.any_eq_true.mp h
      have heq : Percent.encode t = w.toList := beq_iff_eq.mp hbeq
      have hdecode := (hread heq).symm.trans (hword w hw)
      exact Or.inr (Option.some.inj hdecode)
  · rintro (rfl | rfl)
    · decide
    · decide

end ApiLinks.Url

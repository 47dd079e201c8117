import ApiLinks.Proofs.Expansion.Contributions
import ApiLinks.Proofs.Links.Base
import ApiLinks.Proofs.Template.Seam
import ApiLinks.Proofs.Template.Varspecs
import ApiLinks.Proofs.Url.Segments

/-!
# Values as segments of a path

A templated link whose segments are literal texts or single variables resolves, on a base that is a
directory, to the text of the base with the expansion behind it, so that every segment of the link stays one
segment of the path. Only values that are dots leave their place: the encoder lets points through, and the
reader of the path takes them for steps.

* `Segment` : a literal text, or the span of one variable, with its text in the link and in an expansion;
* `Segment.href segments` : the link, one slash between each two segments;
* `Bindings.Fills b segments` : every variable has a text for a value, and nothing else is bound;
* `Segment.expand_href` : the expansion of such a link, segment by segment;
* `LinkSet.resolve_segments_iff` : when the link resolves to its expansion below the base;
* `LinkSet.resolve_segments_moves` : a value of two points that leaves the directory of the base.
-/

namespace ApiLinks

/-- A segment of a link. -/
inductive Segment where
  | literal (text : Text)
  /-- The span of one variable, by the body between its braces and the name that this is read as. -/
  | value (body name : Text)
  deriving DecidableEq, Repr

namespace Segment

/-- The text of a segment as it stands in the link. -/
def text : Segment → Text
  | literal t => t
  | value body _ => braced body

/-- A literal segment has unreserved characters alone and is no dot, and the body of a
variable is read as its name. -/
def IsPlain : Segment → Prop
  | literal t => t ≠ [] ∧ (∀ c ∈ t, Percent.isUnreserved c = true) ∧ t ≠ ['.'] ∧ t ≠ ['.', '.']
  | value body name => IsBody body ∧ Expression.ofBody body = ⟨.simple, [⟨name, .plain⟩]⟩

/-- The text of a segment under bindings. -/
def expand (b : Bindings) : Segment → Text
  | literal t => t
  | value _ name => match b.get? name with
    | some (.scalar t) => Percent.encode t
    | _ => []

/-- The link of some segments. -/
def href (segments : List Segment) : Template := ⟨Text.joined ['/'] (segments.map text)⟩

/-- A variable has a value, which is a text and not the empty one. -/
def IsFilled (b : Bindings) : Segment → Prop
  | literal _ => True
  | value _ name => ∃ t, t ≠ [] ∧ b.get? name = some (.scalar t)

end Segment

namespace Bindings

/-- Every variable of the segments has a value, which is a text and not the empty one, and nothing else has. -/
structure Fills (b : Bindings) (segments : List Segment) : Prop where
  value : ∀ body name, .value body name ∈ segments → ∃ t, t ≠ [] ∧ b.get? name = some (.scalar t)
  only : ∀ name, b.contains name = true → ∃ body, .value body name ∈ segments

/-- No name has a value of one or two points. -/
def NoDots (b : Bindings) : Prop := ∀ name t, b.get? name = some (.scalar t) → t ≠ ['.'] ∧ t ≠ ['.', '.']

end Bindings

variable {b : Bindings} {segments : List Segment} {x : Segment} {body name : Text}

theorem Bindings.Fills.isFilled (h : b.Fills segments) : ∀ x ∈ segments, x.IsFilled b := by
  intro x hx
  cases x with
  | literal t => trivial
  | value body name => exact h.value body name hx

/-! ## The expansion of the link -/

theorem spanFree_of_no_open {t : Text} (h : '{' ∉ t) : SpanFree t := by
  intro body _ hi
  exact h (hi.mem (by simp [braced]))

theorem settled_of_no_open {t : Text} (h : '{' ∉ t) : Settled t := by
  intro body _ _ hs
  exact h (hs.mem List.mem_cons_self)

namespace Template

theorem pieces_of_no_open {t : Text} (hne : t ≠ []) (h : '{' ∉ t) : (⟨t⟩ : Template).pieces = [⟨t, none⟩] :=
  (isReading_pieces ⟨t⟩).unique (IsReading.of_literal (spanFree_of_no_open h) hne)

/-- A span anywhere in the text is one of the expressions. -/
theorem mem_expressions_of_infix {t : Template} (hb : IsBody body) (h : braced body <:+: t.text) :
    Expression.ofBody body ∈ t.expressions := by
  obtain ⟨before, after, hsplit⟩ := h
  obtain ⟨i, hi, -⟩ := t.isReading_pieces.exists_index hb (hsplit.symm.trans (List.append_assoc _ _ _))
  rw [expressions_eq_flatMap_pieces, List.mem_flatMap]
  exact ⟨_, List.mem_of_getElem? hi, List.mem_singleton_self _⟩

end Template

/-- The simple operator has neither a lead nor names. -/
theorem Expression.expand_plain {t : Text} (h : b.get? name = some (.scalar t)) :
    (⟨.simple, [⟨name, .plain⟩]⟩ : Expression).expand b = Percent.encode t := by
  rw [Expression.expand_scalar h]
  change Operator.led .simple (Percent.encode t) = Percent.encode t
  cases Percent.encode t <;> rfl

namespace Segment

theorem no_open_of_literal {t : Text} (h : (literal t).IsPlain) : '{' ∉ t :=
  fun hin => absurd (h.2.1 '{' hin) (by decide)

theorem settled_text (h : x.IsPlain) : Settled x.text := by
  cases x with
  | literal t => exact settled_of_no_open (no_open_of_literal h)
  | value body name => exact settled_concat_close ('{' :: body)

theorem expand_text (h : x.IsPlain) (hb : x.IsFilled b) :
    (⟨x.text⟩ : Template).expand b = x.expand b := by
  cases x with
  | literal t =>
    rw [text, Template.expand_eq_flatMap_pieces, Template.pieces_of_no_open h.1 (no_open_of_literal h)]
    exact List.append_nil t
  | value body name =>
    obtain ⟨t, -, ht⟩ := hb
    simp only [text, Template.expand_braced h.1, h.2, Expression.expand_plain ht, expand, ht]

/-- Every segment of the link expands for itself. -/
theorem expand_href (h : ∀ x ∈ segments, x.IsPlain) (hb : b.Fills segments) :
    (href segments).expand b = Text.joined ['/'] (segments.map (expand b)) := by
  have hfilled := hb.isFilled
  clear hb
  unfold href
  induction segments with
  | nil => rfl
  | cons x rest ih =>
    have hx := h x List.mem_cons_self
    have htext := expand_text hx (hfilled x List.mem_cons_self)
    by_cases hrest : rest = []
    · rw [hrest, List.map_singleton, List.map_singleton, Text.joined_singleton, Text.joined_singleton]
      exact htext
    · have hslash : (⟨['/']⟩ : Template).expand b = ['/'] := rfl
      have hsettled : Settled (x.text ++ ['/']) := (settled_text hx).concat (by decide)
      rw [List.map_cons, List.map_cons, Text.joined_cons _ (by simpa using hrest),
        Text.joined_cons _ (by simpa using hrest), Template.expand_append (hsettled.safeSeam _),
        Template.expand_append ((settled_text hx).safeSeam _), htext, hslash,
        ih (fun y hy => h y (List.mem_cons_of_mem x hy)) fun y hy => hfilled y (List.mem_cons_of_mem x hy)]

/-- The variables of the segments are parameters of the link. -/
theorem hasParameter_href (h : ∀ x ∈ segments, x.IsPlain) (hv : .value body name ∈ segments) :
    (href segments).hasParameter name = true := by
  obtain ⟨hbody, hread⟩ := h _ hv
  have hin : braced body <:+: (href segments).text := Text.infix_joined (List.mem_map_of_mem hv)
  refine Template.hasParameter_iff.mpr ⟨_, Template.mem_expressions_of_infix hbody hin, ⟨name, .plain⟩, ?_, rfl⟩
  rw [hread]
  exact List.mem_singleton_self _

/-! ## The segments of the expansion -/

theorem isSegment_expand (h : x.IsPlain) (hb : x.IsFilled b) : Url.IsSegment (x.expand b) := by
  cases x with
  | literal t =>
    refine ⟨h.1, fun c hc => ?_⟩
    rw [isDelimiter_eq, h.2.1 c hc]
    rfl
  | value body name =>
    obtain ⟨t, hne, ht⟩ := hb
    simp only [expand, ht]
    refine ⟨fun hn => hne (Percent.encode_eq_nil_iff.mp hn), fun c hc => ?_⟩
    rw [Bool.eq_false_iff]
    exact fun hd => not_mem_encode hd t hc

/-- A literal segment is its own encoding. -/
theorem encode_of_literal {t : Text} (h : (literal t).IsPlain) : Percent.encode t = t := by
  have hkept := h.2.1
  clear h
  unfold Percent.encode Percent.encodeExcept
  induction t with
  | nil => rfl
  | cons c t ih =>
    rw [List.flatMap_cons, if_pos (hkept c List.mem_cons_self),
      ih fun d hd => hkept d (List.mem_cons_of_mem c hd)]
    rfl

theorem isDots_expand (h : x.IsPlain) (hb : x.IsFilled b) (hdots : b.NoDots) :
    Url.isDots (x.expand b) = false := by
  rw [Bool.eq_false_iff]
  intro hd
  cases x with
  | literal t =>
    rw [expand, ← encode_of_literal h] at hd
    rcases Url.isDots_encode_iff.mp hd with hd | hd
    · exact h.2.2.1 hd
    · exact h.2.2.2 hd
  | value body name =>
    obtain ⟨t, -, ht⟩ := hb
    simp only [expand, ht] at hd
    rcases Url.isDots_encode_iff.mp hd with hd | hd
    · exact (hdots name t ht).1 hd
    · exact (hdots name t ht).2 hd

theorem exists_isDots_expand (hb : b.Fills segments) (hdots : ¬ b.NoDots) :
    ∃ s ∈ segments.map (expand b), Url.isDots s = true := by
  unfold Bindings.NoDots at hdots
  push Not at hdots
  obtain ⟨name, t, ht, hdots⟩ := hdots
  have hbound : b.contains name = true := by
    unfold NameMap.contains
    rw [ht]
    rfl
  obtain ⟨body, hv⟩ := hb.only name hbound
  refine ⟨_, List.mem_map_of_mem hv, ?_⟩
  simp only [expand, ht]
  apply Url.isDots_encode_iff.mpr
  by_cases hone : t = ['.']
  · exact Or.inl hone
  · exact Or.inr (hdots hone)

end Segment

/-! ## The resolution of the link -/

namespace LinkSet

theorem resolve_of_base_some {s : LinkSet} {resource : Text} {l : Link} {base : Url}
    (hl : s.get? resource = some l) (ho : offender? l b.names = none) (hs : s.base = some base) :
    s.resolve resource b = joinRelative base (l.expand b) := by
  unfold resolve resolveListed
  simp only [hl, ho, hs]

/-- **A link of plain segments resolves below a directory to the text of the base with its expansion
behind it exactly if no value is one or two points.** The segments of the path are then those of the base
and, one for one, those of the link. -/
theorem resolve_segments_iff (s : LinkSet) (resource : Text) (b : Bindings) (base : Url) (start : List Text)
    (segments : List Segment) (hbase : s.base = some base) (hdir : base.IsDirectory start)
    (hl : s.get? resource = some ⟨Segment.href segments, true⟩) (hne : segments ≠ [])
    (hplain : ∀ x ∈ segments, x.IsPlain) (hfills : b.Fills segments) :
    (s.resolve resource b = .ok (base.toText ++ (Segment.href segments).expand b) ↔ b.NoDots) ∧
      (b.NoDots →
        s.resolve resource b = .ok (base.below start (segments.map (Segment.expand b))).toText ∧
          (Segment.href segments).expand b = Text.joined ['/'] (segments.map (Segment.expand b))) := by
  have hexpand := Segment.expand_href hplain hfills
  have hsegments : ∀ t ∈ segments.map (Segment.expand b), Url.IsSegment t := by
    intro t ht
    obtain ⟨x, hx, rfl⟩ := List.mem_map.mp ht
    exact Segment.isSegment_expand (hplain x hx) (hfills.isFilled x hx)
  have hsome : segments.map (Segment.expand b) ≠ [] := by simpa using hne
  have hnames : offender? ⟨Segment.href segments, true⟩ b.names = none := by
    rw [offender?_eq_none_iff hl (List.Perm.refl b.names)]
    rintro - name ⟨hbound, hparam⟩
    obtain ⟨body, hv⟩ := hfills.only name hbound
    rw [hasParameter_eq hl rfl, Segment.hasParameter_href hplain hv] at hparam
    cases hparam
  have hresolve : s.resolve resource b =
      .ok ({ base with
        path := .segments (Url.resolve false start.reverse (segments.map (Segment.expand b))) } : Url).toText := by
    have hlink : (⟨Segment.href segments, true⟩ : Link).expand b =
        Text.joined ['/'] (segments.map (Segment.expand b)) := hexpand
    rw [resolve_of_base_some hl hnames hbase, hlink]
    exact joinRelative_eq_of_onBase
      (.joined (Url.parse_joined hsegments) (Url.join_joined hdir hsome hsegments))
  have hbelow := Url.toText_below hdir hsome
  have hstays (hdots : b.NoDots) :
      s.resolve resource b = .ok (base.below start (segments.map (Segment.expand b))).toText := by
    rw [hresolve, Url.resolve_of_no_dots, List.reverse_reverse]
    · rfl
    · intro t ht
      obtain ⟨x, hx, rfl⟩ := List.mem_map.mp ht
      exact Segment.isDots_expand (hplain x hx) (hfills.isFilled x hx) hdots
  refine ⟨⟨fun h => ?_, fun hdots => ?_⟩, fun hdots => ⟨hstays hdots, hexpand⟩⟩
  · by_contra hdots
    have hcount : 0 < (segments.map (Segment.expand b)).countP Url.isDots :=
      List.countP_pos_iff.mpr (Segment.exists_isDots_expand hfills hdots)
    have hlength := Url.pathLength_resolve_le hsome start.reverse
    rw [hresolve, hexpand, ← hbelow] at h
    refine Url.toText_ne_of_pathLength_lt hdir.authority ?_ (Except.ok.inj h)
    rw [Url.pathLength_append]
    rw [List.reverse_reverse] at hlength
    omega
  · rw [hstays hdots, hbelow, hexpand]

/-- Values with points and slashes in them, below a directory. -/
theorem resolve_segments_iff_slash :
    let base : Url :=
      ⟨"https".toList, some ⟨[], [], .domain "h".toList, none⟩, .segments ["a".toList, []], none, none⟩
    let segments : List Segment := [.value ['v'] ['v'], .literal ['x'], .value ['w'] ['w']]
    let s : LinkSet := ⟨NameMap.ofList [(['r'], ⟨Segment.href segments, true⟩)], some base⟩
    let b := Bindings.ofPairs [(['v'], .scalar "..b".toList), (['w'], .scalar "../c".toList)]
    base.IsDirectory ["a".toList] ∧ (∀ x ∈ segments, x.IsPlain) ∧ b.Fills segments ∧
      s.resolve ['r'] b = .ok "https://h/a/..b/x/..%2Fc".toList := by
  intro base segments s b
  have hdir : base.IsDirectory ["a".toList] := ⟨by decide, rfl, rfl, rfl, rfl⟩
  have hplain : ∀ x ∈ segments, x.IsPlain := by
    intro x hx
    simp only [segments, List.mem_cons, List.not_mem_nil, or_false] at hx
    rcases hx with rfl | rfl | rfl
    · exact ⟨⟨by decide, by decide, by decide⟩, by decide +kernel⟩
    · exact ⟨by decide, List.all_eq_true.mp (by decide), by decide, by decide⟩
    · exact ⟨⟨by decide, by decide, by decide⟩, by decide +kernel⟩
  have hentries {name : Text} {value : Value} (h : b.get? name = some value) :
      (name, value) = (['v'], .scalar "..b".toList) ∨ (name, value) = (['w'], .scalar "../c".toList) := by
    have hall : b.entries = [(['v'], .scalar "..b".toList), (['w'], .scalar "../c".toList)] := by decide +kernel
    have hin := NameMap.mem_entries_iff.mpr h
    rw [hall] at hin
    simpa only [List.mem_cons, List.not_mem_nil, or_false] using hin
  have hfills : b.Fills segments := by
    constructor
    · intro body name hx
      simp only [segments, List.mem_cons, List.not_mem_nil, or_false, Segment.value.injEq,
        reduceCtorEq, false_or] at hx
      rcases hx with ⟨rfl, rfl⟩ | ⟨rfl, rfl⟩
      · exact ⟨"..b".toList, by decide, by decide +kernel⟩
      · exact ⟨"../c".toList, by decide, by decide +kernel⟩
    · intro name hbound
      obtain ⟨value, hvalue⟩ := Option.isSome_iff_exists.mp hbound
      rcases hentries hvalue with h | h
      · obtain ⟨rfl, -⟩ := Prod.mk.inj h
        exact ⟨['v'], by decide⟩
      · obtain ⟨rfl, -⟩ := Prod.mk.inj h
        exact ⟨['w'], by decide⟩
  have hdots : b.NoDots := by
    intro name t ht
    rcases hentries ht with h | h
    · rw [Value.scalar.inj (Prod.mk.inj h).2]
      decide
    · rw [Value.scalar.inj (Prod.mk.inj h).2]
      decide
  have h := (resolve_segments_iff s ['r'] b base ["a".toList] segments rfl hdir (by decide +kernel)
    (by decide) hplain hfills).1.mpr hdots
  exact ⟨hdir, hplain, hfills, h.trans (by decide +kernel)⟩

/-- **A value of two points leaves the directory of the base**, although all that is asked of the
link and of the values holds. -/
theorem resolve_segments_moves :
    let base : Url :=
      ⟨"https".toList, some ⟨[], [], .domain "h".toList, none⟩, .segments ["a".toList, []], none, none⟩
    let segments : List Segment := [.value ['v'] ['v']]
    let s : LinkSet := ⟨NameMap.ofList [(['r'], ⟨Segment.href segments, true⟩)], some base⟩
    let b := Bindings.ofPairs [(['v'], .scalar "..".toList)]
    Url.parse "https://h/a/".toList = .ok base ∧ base.IsDirectory ["a".toList] ∧ (∀ x ∈ segments, x.IsPlain) ∧
      b.Fills segments ∧ s.resolve ['r'] b = .ok "https://h/".toList ∧
        s.resolve ['r'] b ≠ .ok (base.toText ++ (Segment.href segments).expand b) := by
  intro base segments s b
  refine ⟨by decide +kernel, ⟨by decide, rfl, rfl, rfl, rfl⟩, ?_, ⟨?_, ?_⟩, by decide +kernel,
    by decide +kernel⟩
  · intro x hx
    rw [List.mem_singleton.mp hx]
    exact ⟨⟨by decide, by decide, by decide⟩, by decide +kernel⟩
  · intro body name hx
    obtain ⟨rfl, rfl⟩ := Segment.value.inj (List.mem_singleton.mp hx)
    exact ⟨"..".toList, by decide, by decide +kernel⟩
  · intro name hbound
    have hnames : b.names = [['v']] := by decide +kernel
    rw [← NameMap.mem_names_iff, hnames] at hbound
    exact ⟨['v'], by rw [List.mem_singleton.mp hbound]; decide⟩

end LinkSet

end ApiLinks

import ApiLinks.Proofs.Number.Decimal
import ApiLinks.Proofs.Template.Varspecs
import ApiLinks.Proofs.Text.Trimmed

/-!
# Layouts of an expression

An expression can be written in many ways: with blanks around its entries and inside them, with zeros in
front of a length, with blank entries between the commas. All of them read as the same expression.

* `Varspec.Written v core` : the text `core` spells the specification `v`, without blanks around it;
* `Varspec.Writable v` : the specifications that every such text reads back as;
* `Expression.Entries vs entries` : the entries spell `vs` in order, with blank ones among them;
* `Expression.IsLayout e body` : the text `body` is a layout of the expression `e`;
* `ofBody_eq_of_isLayout` : a layout reads as its expression, and nothing is remarked on.
-/

namespace ApiLinks

open Text (Blanks IsTrimmed)

namespace Varspec

/-- How a specification is spelled. -/
inductive Written : Varspec → Text → Prop
  | plain (name : Text) : Written ⟨name, .plain⟩ name
  | explode (name : Text) {gap : Text} : Blanks gap → Written ⟨name, .explode⟩ (name ++ gap ++ ['*'])
  | maxLength (name : Text) {gap gap' : Text} (zeros n : Nat) : Blanks gap → Blanks gap' →
    Written ⟨name, .maxLength n⟩ (name ++ gap ++ ':' :: (gap' ++ (List.replicate zeros '0' ++ Number.ofNat n)))

/-- What a specification has to keep to. Its name holds no sign that would end it too
early, and its length is one. -/
structure Writable (v : Varspec) : Prop where
  ne_nil : v.name ≠ []
  trimmed : IsTrimmed v.name
  no_comma : ',' ∉ v.name
  plain : v.modifier = .plain → ':' ∉ v.name ∧ v.name.getLast? ≠ some '*'
  maxLength : ∀ n, v.modifier = .maxLength n → ':' ∉ v.name ∧ 0 < n ∧ n < Nat.pow 2 64

variable {v : Varspec} {core : Text}

theorem getLast?_length {gap' digits : Text} (hne : digits ≠ []) (gap : Text) :
    (gap ++ ':' :: (gap' ++ digits)).getLast? = digits.getLast? := by
  rw [List.getLast?_append_of_ne_nil gap (List.cons_ne_nil _ _), ← List.singleton_append, ← List.append_assoc,
    List.getLast?_append_of_ne_nil _ hne]

theorem Written.isTrimmed (h : Written v core) (hv : Writable v) : IsTrimmed core := by
  have hname := hv.trimmed
  have hne := hv.ne_nil
  cases h with
  | plain name => exact hname
  | explode name hgap =>
    rw [List.append_assoc]
    refine hname.append hne (by simp) fun c hc => ?_
    rw [List.getLast?_append_of_ne_nil _ (List.cons_ne_nil _ _)] at hc
    obtain rfl := Option.some.inj hc
    rfl
  | maxLength name zeros n hgap hgap' =>
    rw [List.append_assoc]
    refine hname.append hne (by simp) fun c hc => ?_
    rw [getLast?_length (Number.zeros_ofNat_ne_nil zeros n)] at hc
    exact Text.isBlank_of_isDigit (Number.isDigit_of_mem_zeros_ofNat (List.mem_of_getLast? hc))

theorem Written.ne_nil (h : Written v core) (hv : Writable v) : core ≠ [] := by
  have hne := hv.ne_nil
  cases h with
  | plain name => exact hne
  | explode name hgap => simp
  | maxLength name zeros n hgap hgap' => simp

theorem Written.no_comma (h : Written v core) (hv : Writable v) : ',' ∉ core := by
  have hname := hv.no_comma
  have hblanks {gap : Text} (hgap : Blanks gap) : ',' ∉ gap := hgap.not_mem rfl
  cases h with
  | plain name => exact hname
  | explode name hgap => simp [hname, hblanks hgap]
  | maxLength name zeros n hgap hgap' =>
    have hdigits : ',' ∉ List.replicate zeros '0' ++ Number.ofNat n := by
      intro hm
      have hd : ','.isDigit = true := Number.isDigit_of_mem_zeros_ofNat hm
      exact absurd hd (by decide)
    rw [List.mem_append, List.mem_append, List.mem_cons, List.mem_append]
    rintro ((hm | hm) | hm | hm | hm)
    · exact hname hm
    · exact hblanks hgap hm
    · exact absurd hm (by decide)
    · exact hblanks hgap' hm
    · exact hdigits hm

/-- The star and the colon are found where they were put. -/
theorem Written.parts_eq (h : Written v core) (hv : Writable v) : parts core = (v.name, v.modifier, []) := by
  have hlast := hv.trimmed.last
  cases h with
  | plain name =>
    obtain ⟨hcolon, hstar⟩ := hv.plain rfl
    simp only [parts, Text.dropLast?_eq_none hstar, Text.cut?_eq_none_iff.mpr hcolon]
  | explode name hgap =>
    simp only [parts, Text.dropLast?_append, Text.trimEnd_append_of_blanks hgap hlast]
  | @maxLength name gap gap' zeros n hgap hgap' =>
    obtain ⟨hcolon, hlength⟩ := hv.maxLength n rfl
    have hread := Number.unsigned?_zeros_ofNat zeros n
    have hne := Number.zeros_ofNat_ne_nil zeros n
    have hdigits (c : Char) (hc : c ∈ List.replicate zeros '0' ++ Number.ofNat n) : c.isDigit = true :=
      Number.isDigit_of_mem_zeros_ofNat hc
    generalize List.replicate zeros '0' ++ Number.ofNat n = digits at hread hne hdigits
    have hstar : (name ++ gap ++ ':' :: (gap' ++ digits)).getLast? ≠ some '*' := by
      intro hl
      rw [getLast?_length hne] at hl
      exact absurd (hdigits '*' (List.mem_of_getLast? hl)) (by decide)
    have hcolon' : ':' ∉ name ++ gap := by
      intro hm
      rcases List.mem_append.mp hm with hm | hm
      · exact hcolon hm
      · exact hgap.not_mem rfl hm
    have htrimmed : IsTrimmed digits :=
      ⟨fun c hc => Text.isBlank_of_isDigit (hdigits c (List.mem_of_head? hc)),
        fun c hc => Text.isBlank_of_isDigit (hdigits c (List.mem_of_getLast? hc))⟩
    have hlen : length? (gap' ++ digits).trim = some n := by
      have hpadded : (gap' ++ digits ++ []).trim = digits :=
        Text.trim_padded hgap' htrimmed fun c hc => by cases hc
      rw [← List.append_nil (gap' ++ digits), hpadded, length?_eq_some_iff]
      exact ⟨hread, hlength⟩
    simp only [parts, Text.dropLast?_eq_none hstar, Text.cut?_append hcolon', hlen,
      Text.trimEnd_append_of_blanks hgap hlast]

/-- An entry reads as the specification that it spells, whatever blanks stand around it. -/
theorem Written.ofEntry_eq (h : Written v core) (hv : Writable v) {before after : Text} (hb : Blanks before)
    (ha : Blanks after) : ofEntry (before ++ core ++ after) = ⟨some v, []⟩ := by
  have hcore : core.isEmpty = false := List.isEmpty_eq_false_iff.mpr (h.ne_nil hv)
  have hname : v.name.isEmpty = false := List.isEmpty_eq_false_iff.mpr hv.ne_nil
  simp only [ofEntry, Text.trim_padded hb (h.isTrimmed hv) ha, hcore, h.parts_eq hv, hname,
    Bool.false_eq_true, if_false]

theorem ofEntry_of_blanks {entry : Text} (h : Blanks entry) : ofEntry entry = ⟨none, []⟩ := by
  simp only [ofEntry, Text.trim_of_blanks h, List.isEmpty_nil, if_true]

end Varspec

namespace Expression

/-- Entries that spell specifications in order. Between them, and around them, there may be blank ones. -/
inductive Entries : List Varspec → List Text → Prop
  | nil : Entries [] []
  | blank {vs : List Varspec} {entries : List Text} {entry : Text} :
    Blanks entry → Entries vs entries → Entries vs (entry :: entries)
  | written {vs : List Varspec} {entries : List Text} {v : Varspec} {before core after : Text} :
    Blanks before → v.Written core → Blanks after → Entries vs entries →
      Entries (v :: vs) ((before ++ core ++ after) :: entries)

/-- A layout of an expression: the code of the operator and, between commas, entries
that spell the specifications. -/
def IsLayout (e : Expression) (body : Text) : Prop :=
  ∃ entries, Entries e.varspecs entries ∧ body = e.operator.code ++ Text.joined [','] entries

variable {vs : List Varspec} {entries : List Text}

theorem Entries.no_comma (h : Entries vs entries) (hvs : ∀ v ∈ vs, v.Writable) :
    ∀ entry ∈ entries, ',' ∉ entry := by
  induction h with
  | nil => intro entry he; cases he
  | blank hblank _ ih =>
    intro entry he
    rcases List.mem_cons.mp he with rfl | he
    · exact hblank.not_mem rfl
    · exact ih hvs entry he
  | @written vs entries v before core after hb hcore ha _ ih =>
    intro entry he
    rcases List.mem_cons.mp he with rfl | he
    · have hc := hcore.no_comma (hvs v List.mem_cons_self)
      simp [hc, hb.not_mem (c := ',') rfl, ha.not_mem (c := ',') rfl]
    · exact ih (fun w hw => hvs w (List.mem_cons_of_mem v hw)) entry he

/-- One entry after the other reads as it was spelled. -/
theorem Entries.readings_eq (h : Entries vs entries) (hvs : ∀ v ∈ vs, v.Writable) :
    (entries.map Varspec.ofEntry).filterMap (·.varspec) = vs ∧
      (entries.map Varspec.ofEntry).flatMap (·.notices) = [] := by
  induction h with
  | nil => exact ⟨rfl, rfl⟩
  | blank hblank _ ih =>
    obtain ⟨hspecs, hnotices⟩ := ih hvs
    rw [List.map_cons, Varspec.ofEntry_of_blanks hblank]
    exact ⟨hspecs, hnotices⟩
  | @written vs entries v before core after hb hcore ha _ ih =>
    obtain ⟨hspecs, hnotices⟩ := ih fun w hw => hvs w (List.mem_cons_of_mem v hw)
    rw [List.map_cons, hcore.ofEntry_eq (hvs v List.mem_cons_self) hb ha]
    exact ⟨congrArg (v :: ·) hspecs, hnotices⟩

/-- The commas are found again. Without entries there is one blank one. -/
theorem splitOn_joined (h : ∀ entry ∈ entries, ',' ∉ entry) (hne : entries ≠ []) :
    (Text.joined [','] entries).splitOn ',' = entries :=
  List.splitOn_intercalate ',' h hne

theorem splitOperator_code_append (op : Operator) (rest : Text)
    (hop : op = .simple → ∀ c, rest.head? = some c → Operator.ofChar? c = none) :
    splitOperator (op.code ++ rest) = (op, rest) := by
  by_cases hs : op = .simple
  · subst hs
    cases rest with
    | nil => rfl
    | cons c rest =>
      have hc : Operator.ofChar? c = none := hop rfl c rfl
      show splitOperator (c :: rest) = _
      simp only [splitOperator, hc]
  · cases op with
    | simple => exact absurd rfl hs
    | _ => rfl

end Expression

/-- **Every layout of an expression reads as the expression**, with the same operator, names and
modifiers in the same order, and leaves no notice. Under the simple operator, which has no code, a
layout may not begin with that of another. -/
theorem ofBody_eq_of_isLayout (e : Expression) (body : Text) (hvs : ∀ v ∈ e.varspecs, v.Writable)
    (h : e.IsLayout body)
    (hop : e.operator = .simple → ∀ c, body.head? = some c → c ∉ ['+', '#', '.', '/', ';', '?', '&']) :
    Expression.ofBody body = e ∧ Expression.notices body = [] := by
  obtain ⟨entries, hentries, rfl⟩ := h
  -- a text without commas is one entry, so that no entry at all is taken for a blank one
  obtain ⟨present, hsome, hne, hjoined⟩ : ∃ es, Expression.Entries e.varspecs es ∧ es ≠ [] ∧
      Text.joined [','] es = Text.joined [','] entries := by
    cases entries with
    | nil => exact ⟨[[]], .blank (fun c hc => by cases hc) hentries, List.cons_ne_nil _ _, rfl⟩
    | cons entry entries => exact ⟨entry :: entries, hentries, List.cons_ne_nil _ _, rfl⟩
  have hsplit : Expression.splitOperator (e.operator.code ++ Text.joined [','] entries) =
      (e.operator, Text.joined [','] entries) := by
    apply Expression.splitOperator_code_append
    intro hs c hc
    apply Operator.ofChar?_eq_none
    exact hop hs c (by rw [hs]; exact hc)
  obtain ⟨hspecs, hnotices⟩ := hsome.readings_eq hvs
  have hreadings : Expression.readings (e.operator.code ++ Text.joined [','] entries) =
      present.map Varspec.ofEntry := by
    rw [Expression.readings, hsplit, ← hjoined, Expression.splitOn_joined (hsome.no_comma hvs) hne]
  unfold Expression.ofBody Expression.notices
  rw [hreadings, hsplit, hspecs, hnotices]
  exact ⟨rfl, rfl⟩

/-- A name with a star before a padded length, behind an exploded variable and a blank entry. -/
theorem ofBody_eq_of_isLayout_query :
    let e : Expression := ⟨.query, [⟨['a', ':'], .explode⟩, ⟨['b', '*'], .maxLength 7⟩]⟩
    let body : Text :=
      ['?', ' ', 'a', ':', '\t', '*', ',', ' ', ',', 'b', '*', ' ', ':', '\u3000', '0', '7', ' ']
    (∀ v ∈ e.varspecs, v.Writable) ∧ e.IsLayout body ∧ Expression.ofBody body = e := by
  intro e body
  have htrimmed {c d : Char} (hc : isBlank c = false) (hd : isBlank d = false) : IsTrimmed [c, d] :=
    ⟨fun _ h => Option.some.inj h ▸ hc, fun _ h => Option.some.inj h ▸ hd⟩
  have ha : Varspec.Writable ⟨['a', ':'], .explode⟩ :=
    ⟨by decide, htrimmed rfl rfl, by decide, by decide, fun n hn => by cases hn⟩
  have hb : Varspec.Writable ⟨['b', '*'], .maxLength 7⟩ :=
    ⟨by decide, htrimmed rfl rfl, by decide, by decide, fun n hn => by cases hn; decide⟩
  have hvs : ∀ v ∈ e.varspecs, v.Writable := by
    intro v hv
    rcases List.mem_cons.mp hv with rfl | hv
    · exact ha
    · obtain rfl := List.mem_singleton.mp hv
      exact hb
  have hblank : Blanks [' '] := Blanks.singleton rfl
  have hwide : Blanks ['\u3000'] := Blanks.singleton rfl
  have htab : Blanks ['\t'] := Blanks.singleton rfl
  have hnone : Blanks [] := fun c hc => by cases hc
  have hlayout : e.IsLayout body :=
    ⟨_, .written hblank (.explode _ htab) hnone (.blank hblank (.written hnone
      (.maxLength _ 1 7 hblank hwide) hblank .nil)), rfl⟩
  have hsimple : e.operator = .simple → ∀ c, body.head? = some c → c ∉ ['+', '#', '.', '/', ';', '?', '&'] :=
    fun h => by cases h
  exact ⟨hvs, hlayout, (ofBody_eq_of_isLayout e body hvs hlayout hsimple).1⟩

end ApiLinks

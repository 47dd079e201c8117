import ApiLinks.Param
import ApiLinks.Proofs.Yaml.Bracketed

/-!
# Values that are taken as they are written

A value that is not null and no flow collection is bound as it is written, but for a block mapping
whose text begins with a bracket or a brace. Such a text is a collection in YAML, and its first key
is the collection in the brackets.

* `Param.beginsCollection_trim_iff` : where the bracket of a value stands;
* `Param.ofArgument_eq_literal_iff` : which values are taken as they are
  written, and what happens to the others;
* `Param.ofArgument_bracketed_key` : a note behind a word in brackets that gives no parameter.
-/

namespace ApiLinks.Param

variable {name v : Text}

theorem ofArgument_eq_ofAssignment (hname : '=' ∉ name) (hblank : name.trim ≠ []) (raw : Text) :
    ofArgument (name ++ '=' :: raw) = ofAssignment name.trim raw := by
  unfold ofArgument
  rw [Text.cut?_append hname]
  simp only [List.isEmpty_eq_false_iff.mpr hblank, Bool.false_eq_true, if_false]

/-- A value without a bracket at its start. -/
theorem ofAssignment_of_not_beginsCollection (hnull : Yaml.isNullWord v.trim = false)
    (h : beginsCollection v.trim = false) (name : Text) :
    ofAssignment name v = .ok ⟨name, some (.scalar v)⟩ := by
  unfold ofAssignment
  simp only [hnull, h, Bool.false_eq_true, if_false]

/-- A value with a bracket at its start that is no collection. -/
theorem ofAssignment_of_collection?_eq_none (hnull : Yaml.isNullWord v.trim = false) (h : collection? v = none)
    (name : Text) : ofAssignment name v = .ok ⟨name, some (.scalar v)⟩ := by
  unfold ofAssignment
  simp only [hnull, h, Bool.false_eq_true, if_false, ite_self]

/-- A value with a bracket at its start that is a collection. -/
theorem ofAssignment_of_collection? {d : Data} (hnull : Yaml.isNullWord v.trim = false)
    (hbegins : beginsCollection v.trim = true) (h : collection? v = some d) (name : Text) :
    ofAssignment name v = ofData name d := by
  unfold ofAssignment
  simp only [hnull, hbegins, h, Bool.false_eq_true, if_false, if_true]

theorem collection?_eq_some_iff {d : Data} :
    collection? v = some d ↔ Yaml.data? v = some d ∧ d.IsCollection := by
  unfold collection?
  constructor
  · intro h
    split at h
    · rename_i items hdata
      obtain rfl := Option.some.inj h
      exact ⟨hdata, .sequence items⟩
    · rename_i entries hdata
      obtain rfl := Option.some.inj h
      exact ⟨hdata, .mapping entries⟩
    · cases h
  · rintro ⟨hdata, hd⟩
    rw [hdata]
    cases hd <;> rfl

/-! ## The bracket at the start -/

theorem beginsCollection_cons_iff {c : Char} {rest : Text} :
    beginsCollection (c :: rest) = true ↔ c = '[' ∨ c = '\x7b' := by
  rw [beginsCollection, Bool.or_eq_true, beq_iff_eq, beq_iff_eq]

theorem exists_cons_of_beginsCollection {t : Text} (h : beginsCollection t = true) :
    ∃ c rest, t = c :: rest ∧ (c = '[' ∨ c = '\x7b') := by
  cases t with
  | nil => cases h
  | cons c rest => exact ⟨c, rest, rfl, beginsCollection_cons_iff.mp h⟩

/-- Nothing but blanks stands before the bracket. -/
theorem beginsCollection_trim_iff :
    beginsCollection v.trim = true ↔
      ∃ before c after, v = before ++ c :: after ∧ Text.Blanks before ∧ (c = '[' ∨ c = '\x7b') := by
  constructor
  · intro h
    obtain ⟨c, rest, htrim, hc⟩ := exists_cons_of_beginsCollection h
    obtain ⟨after, hafter⟩ := Text.trimEnd_prefix_self v.trimStart
    have hstart : v.trimStart = c :: (rest ++ after) := by
      rw [← hafter, ← List.cons_append, ← htrim]
      rfl
    refine ⟨v.takeWhile isBlank, c, rest ++ after, ?_, fun d hd => List.mem_takeWhile_imp hd, hc⟩
    rw [← hstart]
    exact Text.trimStart_append v
  · rintro ⟨before, c, after, rfl, hbefore, hc⟩
    have hblank : isBlank c = false := by
      rcases hc with rfl | rfl
      · rfl
      · rfl
    have hstart : Text.trimStart (before ++ c :: after) = c :: after := by
      apply Text.trimStart_append_of_blanks hbefore
      rintro d ⟨⟩
      exact hblank
    rw [Text.trim, hstart]
    have hsplit := Text.trimEnd_append (c :: after)
    cases htrim : Text.trimEnd (c :: after) with
    | nil =>
      rw [htrim, List.nil_append] at hsplit
      have hin : c ∈ ((c :: after).reverse.takeWhile isBlank).reverse := by
        rw [← hsplit]
        exact List.mem_cons_self
      rw [List.mem_takeWhile_imp (List.mem_reverse.mp hin)] at hblank
      cases hblank
    | cons d rest =>
      rw [htrim] at hsplit
      rw [beginsCollection_cons_iff, ← (List.cons.inj hsplit).1]
      exact hc

/-! ## Literal values -/

/-- **A value that is not null and no flow collection is taken as it is written, unless it is a block
mapping that begins with a bracket.** The latter is refused for its first key, at least where only spaces
and line breaks stand before the bracket. -/
theorem ofArgument_eq_literal_iff (name v : Text) (hname : '=' ∉ name) (hblank : name.trim ≠ [])
    (hnull : Yaml.isNullWord v.trim = false) (hflow : ¬ Yaml.IsFlowCollection v) :
    (ofArgument (name ++ '=' :: v) = .ok ⟨name.trim, some (.scalar v)⟩ ↔
        ¬ (beginsCollection v.trim = true ∧ Yaml.IsBlockMapping v)) ∧
      (beginsCollection (v.dropWhile Yaml.isMargin) = true → Yaml.IsBlockMapping v →
        ofArgument (name ++ '=' :: v) = .error (.shape name.trim .key)) := by
  rw [ofArgument_eq_ofAssignment hname hblank]
  refine ⟨⟨?_, ?_⟩, ?_⟩
  · rintro hliteral ⟨hbegins, entries, rest, hdata, -⟩
    have hcollection := collection?_eq_some_iff.mpr ⟨hdata, .mapping entries⟩
    rw [ofAssignment_of_collection? hnull hbegins hcollection, ofData, Data.value?] at hliteral
    -- a mapping has entries or an error, and neither is a text
    cases hentries : Data.entryTexts entries with
    | error e =>
      rw [hentries] at hliteral
      cases hliteral
    | ok texts =>
      rw [hentries] at hliteral
      cases hliteral
  · intro hnot
    cases hbegins : beginsCollection v.trim with
    | false => exact ofAssignment_of_not_beginsCollection hnull hbegins _
    | true =>
      apply ofAssignment_of_collection?_eq_none hnull
      by_contra hsome
      obtain ⟨d, hd⟩ := Option.ne_none_iff_exists'.mp hsome
      obtain ⟨hdata, hcollection⟩ := collection?_eq_some_iff.mp hd
      obtain ⟨before, c, after, rfl, hbefore, hc⟩ := beginsCollection_trim_iff.mp hbegins
      rcases Yaml.bracketed_cases hbefore hc hdata hcollection with h | h
      · exact hflow h
      · exact hnot ⟨hbegins, h⟩
  · intro hmargin hblock
    obtain ⟨c, after, hdrop, hc⟩ := exists_cons_of_beginsCollection hmargin
    have hsplit : v = v.takeWhile Yaml.isMargin ++ c :: after := by
      rw [← hdrop, List.takeWhile_append_dropWhile]
    have hbefore : ∀ x ∈ v.takeWhile Yaml.isMargin, Yaml.isMargin x = true :=
      fun x hx => List.mem_takeWhile_imp hx
    have hbegins : beginsCollection v.trim = true :=
      beginsCollection_trim_iff.mpr
        ⟨_, c, after, hsplit, fun x hx => Yaml.isBlank_of_isMargin (hbefore x hx), hc⟩
    rw [hsplit] at hblock
    obtain ⟨key, value, more, hdata, hkey⟩ := Yaml.bracketed_key hbefore hc hblock
    rw [← hsplit] at hdata
    rw [ofAssignment_of_collection? hnull hbegins (collection?_eq_some_iff.mpr ⟨hdata, .mapping _⟩), ofData,
      Data.value?, Data.entryTexts, hkey.scalarText?]
    rfl

/-- A note behind a word in brackets, with a blank before the note. -/
theorem ofArgument_eq_literal_iff_note :
    let v : Text := "[draft] notes".toList
    '=' ∉ "q".toList ∧ Text.trim "q".toList ≠ [] ∧ Yaml.isNullWord v.trim = false ∧ ¬ Yaml.IsFlowCollection v ∧
      ofArgument "q=[draft] notes".toList = .ok ⟨['q'], some (.scalar v)⟩ := by
  intro v
  have hname : '=' ∉ "q".toList := by decide
  have hblank : Text.trim "q".toList ≠ [] := by decide
  have hnull : Yaml.isNullWord v.trim = false := by decide
  have hdata : (Yaml.data? v).isNone = true := by decide +kernel
  have hnone : Yaml.data? v = none := Option.isNone_iff_eq_none.mp hdata
  have hflow : ¬ Yaml.IsFlowCollection v := by
    rintro ⟨d, _, _, hd, -⟩
    rw [hnone] at hd
    cases hd
  have hblock : ¬ (beginsCollection v.trim = true ∧ Yaml.IsBlockMapping v) := by
    rintro ⟨-, entries, _, hd, -⟩
    rw [hnone] at hd
    cases hd
  exact ⟨hname, hblank, hnull, hflow,
    (ofArgument_eq_literal_iff "q".toList v hname hblank hnull hflow).1.mpr hblock⟩

/-- **A colon behind the brackets makes a block mapping of the note**, whose key is no scalar: the argument
gives no parameter, although it is neither null nor a flow collection. -/
theorem ofArgument_bracketed_key :
    let v : Text := "[draft]: notes".toList
    Yaml.isNullWord v.trim = false ∧ ¬ Yaml.IsFlowCollection v ∧ Yaml.IsBlockMapping v ∧
      ofArgument "q=[draft]: notes".toList = .error (.shape ['q'] .key) := by
  intro v
  have htokens : Yaml.Token.ofText? v =
      some [.blockMappingStart, .key, .flowSequenceStart, .scalar .plain "draft".toList, .flowSequenceEnd,
        .value, .scalar .plain "notes".toList, .blockEnd] := by decide +kernel
  refine ⟨by decide, ?_, ?_, by decide +kernel⟩
  · rintro ⟨d, first, rest, -, hfirst, hopens⟩
    rw [htokens] at hfirst
    cases hfirst
    cases hopens
  · have hvalue : (Yaml.data? v).isSome = true := by decide +kernel
    obtain ⟨d, hd⟩ := Option.isSome_iff_exists.mp hvalue
    obtain ⟨fuel, n, s, k, hn, hdata⟩ := Yaml.exists_node_of_data? hd htokens
    obtain ⟨-, entries, -, rfl⟩ := Yaml.NodeReader.document_block hn
    obtain ⟨read, rfl, -⟩ := Yaml.Document.data_mapping_eq_some hdata
    exact ⟨read, _, hd, htokens⟩

end ApiLinks.Param

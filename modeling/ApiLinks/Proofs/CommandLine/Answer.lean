import ApiLinks.CommandLine.Run
import ApiLinks.Proofs.Bindings
import ApiLinks.Proofs.InOrder
import ApiLinks.Proofs.Text.ByteOrder

/-!
# Resolving a resource from the command line

A run for a resource has four things to read: the base, the arguments that give parameters, the
parameters of the document, and the resource under what these bind. It tells the first fault in
this order, or the resource's URI.

* `BaseReads t base` : what a base reads as, where there is one;
* `LinksDocument.FirstShapeless doc name e` : the least name of a parameter of the document that has no shape;
* `Command.Ready doc o s b` : all is read, and `b` binds what the arguments and the document give;
* `Command.Answer doc o resource result` : what a run gives, with a rule for each fault and one for the URI;
* `Command.ready_iff` : what is ready is what the command passes on to the link set;
* `Command.run_answer` : a run gives its answer, and an argument that is null could be left out.
-/

namespace ApiLinks

/-! ## The document and its base -/

/-- What a base reads as, where there is one. -/
inductive BaseReads : Option Text → Option Url → Prop where
  | absent : BaseReads none none
  | parsed {t : Text} {u : Url} : Url.parse t = .ok u → BaseReads (some t) (some u)

namespace LinksDocument

variable {doc : LinksDocument} {override : Option Text} {s : LinkSet}

/-- The value that a document has for a name, if it has one that is not null. -/
def value? (doc : LinksDocument) (name : Text) : Option Value :=
  (doc.params.get? name).bind fun d => match d.value? with
    | .ok value => value
    | .error _ => none

/-- A parameter whose value has no shape, none of which has a name with a smaller form in bytes. -/
def FirstShapeless (doc : LinksDocument) (name : Text) (e : ShapeError) : Prop :=
  (∃ d, doc.params.get? name = some d ∧ d.value? = .error e) ∧
    ∀ other d e', doc.params.get? other = some d → d.value? = .error e' → ¬ Utf8.encode other < Utf8.encode name

theorem linkSet_eq_ok_iff :
    doc.linkSet override = .ok s ↔ BaseReads (override.or doc.base) s.base ∧ s.links = doc.links := by
  obtain ⟨links, base⟩ := s
  unfold linkSet
  cases override.or doc.base with
  | none =>
    constructor
    · rintro ⟨⟩
      exact ⟨.absent, rfl⟩
    · rintro ⟨⟨⟩, rfl⟩
      rfl
  | some t =>
    cases hparse : Url.parse t with
    | error reason =>
      simp only [hparse]
      constructor
      · rintro ⟨⟩
      · rintro ⟨hread, -⟩
        cases hread with | parsed hu => ?_
        rw [hparse] at hu
        cases hu
    | ok u =>
      simp only [hparse]
      constructor
      · rintro ⟨⟩
        exact ⟨.parsed hparse, rfl⟩
      · rintro ⟨hread, rfl⟩
        cases hread with | parsed hu => ?_
        rw [hparse] at hu
        cases hu
        rfl

theorem linkSet_of_baseReads {base : Option Url} (h : BaseReads (override.or doc.base) base) :
    doc.linkSet override = .ok ⟨doc.links, base⟩ := linkSet_eq_ok_iff.mpr ⟨h, rfl⟩

theorem linkSet_eq_error_iff {t : Text} {reason : UrlError} :
    doc.linkSet override = .error ⟨t, reason⟩ ↔
      override.or doc.base = some t ∧ Url.parse t = .error reason := by
  unfold linkSet
  cases override.or doc.base with
  | none => simp
  | some t' =>
    rw [Option.some.injEq]
    cases hparse : Url.parse t' with
    | error reason' =>
      simp only [hparse, Except.error.injEq, BaseError.mk.injEq]
      refine and_congr_right fun ht => ?_
      rw [← ht, hparse, Except.error.injEq]
    | ok u =>
      simp only [hparse, reduceCtorEq, false_iff]
      rintro ⟨rfl, hreason⟩
      rw [hparse] at hreason
      cases hreason

end LinksDocument

/-! ## The parameters -/

namespace Param

theorem ofData_eq_ok_iff {name : Text} {d : Data} {p : Param} :
    ofData name d = .ok p ↔ p.name = name ∧ d.value? = .ok p.value := by
  obtain ⟨pname, pvalue⟩ := p
  unfold ofData
  cases d.value? <;> simp [eq_comm]

theorem ofData_eq_error_iff {name : Text} {d : Data} {e : ParamError} :
    ofData name d = .error e ↔ ∃ e', d.value? = .error e' ∧ e = .shape name e' := by
  unfold ofData
  cases d.value? <;> simp [eq_comm]

theorem ofArguments_eq_mapM (arguments : List Text) : ofArguments arguments = arguments.mapM ofArgument := by
  induction arguments with
  | nil => rfl
  | cons argument rest ih => rw [ofArguments, ih, List.mapM_cons]

/-- An argument that is null leaves a parameter without a value, and the errors of the others as they are. -/
theorem ofArguments_null {argument name : Text} (hnull : ofArgument argument = .ok ⟨name, none⟩)
    (before after : List Text) :
    (∃ e, ofArguments (before ++ argument :: after) = .error e ∧ ofArguments (before ++ after) = .error e) ∨
      ∃ ps qs, ofArguments (before ++ argument :: after) = .ok (ps ++ ⟨name, none⟩ :: qs) ∧
        ofArguments (before ++ after) = .ok (ps ++ qs) := by
  simp only [ofArguments_eq_mapM, List.mapM_append, mapM_cons_of_ok hnull]
  cases before.mapM ofArgument with
  | error e => exact Or.inl ⟨e, rfl, rfl⟩
  | ok ps =>
    cases after.mapM ofArgument with
    | error e => exact Or.inl ⟨e, rfl, rfl⟩
    | ok qs => exact Or.inr ⟨ps, qs, rfl, rfl⟩

end Param

namespace LinksDocument

variable {doc : LinksDocument}

theorem paramList_eq_error_iff {e : ParamError} :
    doc.paramList = .error e ↔ ∃ name e', doc.FirstShapeless name e' ∧ e = .shape name e' := by
  unfold paramList
  rw [mapM_eq_error_iff]
  constructor
  · rintro ⟨before, ⟨name, d⟩, after, hsplit, hbefore, he⟩
    obtain ⟨e', hd, rfl⟩ := Param.ofData_eq_error_iff.mp he
    obtain ⟨hname, hsmaller⟩ := NameMap.entries_eq_append_iff.mp ⟨before, after, hsplit, hbefore⟩
    refine ⟨name, e', ⟨⟨d, hname, hd⟩, fun other d' e'' hother hd' hlt => ?_⟩, rfl⟩
    obtain ⟨p, hp⟩ := hsmaller other d' hother (Utf8.encode_lt_encode_iff.mp hlt)
    have := (Param.ofData_eq_ok_iff.mp hp).2
    rw [hd'] at this
    cases this
  · rintro ⟨name, e', ⟨⟨d, hname, hd⟩, hleast⟩, rfl⟩
    have hsmaller : ∀ other d', doc.params.get? other = some d' → other < name →
        ∃ p, Param.ofData other d' = .ok p := by
      intro other d' hother hlt
      cases hd' : d'.value? with
      | error e'' => exact absurd (Utf8.encode_lt_encode_iff.mpr hlt) (hleast other d' e'' hother hd')
      | ok value => exact ⟨⟨other, value⟩, Param.ofData_eq_ok_iff.mpr ⟨rfl, hd'⟩⟩
    obtain ⟨before, after, hsplit, hbefore⟩ :=
      (NameMap.entries_eq_append_iff (p := fun e => ∃ p, Param.ofData e.1 e.2 = .ok p)).mpr ⟨hname, hsmaller⟩
    exact ⟨before, (name, d), after, hsplit, hbefore, Param.ofData_eq_error_iff.mpr ⟨e', hd, rfl⟩⟩

theorem exists_paramList_iff :
    (∃ params, doc.paramList = .ok params) ↔ ∀ name d, doc.params.get? name = some d →
      ∃ value, d.value? = .ok value := by
  unfold paramList
  rw [exists_mapM_eq_ok_iff]
  constructor
  · intro hall name d hd
    obtain ⟨p, hp⟩ := hall (name, d) (NameMap.mem_entries_iff.mpr hd)
    exact ⟨p.value, (Param.ofData_eq_ok_iff.mp hp).2⟩
  · rintro hall ⟨name, d⟩ hin
    obtain ⟨value, hvalue⟩ := hall name d (NameMap.mem_entries_iff.mp hin)
    exact ⟨⟨name, value⟩, Param.ofData_eq_ok_iff.mpr ⟨rfl, hvalue⟩⟩

theorem firstValue?_paramList {params : List Param} (h : doc.paramList = .ok params) (name : Text) :
    Bindings.firstValue? (params.map Param.toPair) name = doc.value? name := by
  unfold value?
  rw [← NameMap.findSome?_entries, Bindings.firstValue?, List.findSome?_map]
  have hread := mapM_eq_ok_iff.mp h
  clear h
  -- entry by entry, the parameter has the name of the entry and the value of its item
  generalize doc.params.entries = entries at hread
  induction hread with
  | nil => rfl
  | @cons e p entries params hp _ ih =>
    obtain ⟨hname, hvalue⟩ := Param.ofData_eq_ok_iff.mp hp
    rw [List.findSome?_cons, List.findSome?_cons, ih]
    simp only [Function.comp, Param.toPair, hname, hvalue]

end LinksDocument

/-! ## The run -/

namespace Command

variable {doc : LinksDocument} {o : Options} {resource : Text} {s : LinkSet} {b : Bindings}

/-- Everything in front of the resource is read: the base in force, all arguments and all
parameters of the document. A name is bound to its first value in the arguments that is not null,
or else to that of the document. -/
structure Ready (doc : LinksDocument) (o : Options) (s : LinkSet) (b : Bindings) : Prop where
  base : BaseReads (o.base.or doc.base) s.base
  links : s.links = doc.links
  arguments : ∃ arguments, List.Forall₂ (fun a p => Param.ofArgument a = .ok p) o.params arguments ∧
    ∀ name, b.get? name = (Bindings.firstValue? (arguments.map Param.toPair) name).or (doc.value? name)
  document : ∀ name d, doc.params.get? name = some d → ∃ value, d.value? = .ok value

/-- What a run for a resource gives. A rule for a fault asks that nothing in front of it fails. -/
inductive Answer (doc : LinksDocument) (o : Options) (resource : Text) : Except CommandError Text → Prop where
  | badBase {t : Text} {reason : UrlError} : o.base.or doc.base = some t → Url.parse t = .error reason →
      Answer doc o resource (.error (.base ⟨t, reason⟩))
  | badArgument {base : Option Url} {e : ParamError} : BaseReads (o.base.or doc.base) base →
      FirstFailure Param.ofArgument o.params e → Answer doc o resource (.error (.param e))
  | badParam {base : Option Url} {name : Text} {e : ShapeError} : BaseReads (o.base.or doc.base) base →
      (∀ a ∈ o.params, ∃ p, Param.ofArgument a = .ok p) → doc.FirstShapeless name e →
      Answer doc o resource (.error (.param (.shape name e)))
  | refused {s : LinkSet} {b : Bindings} {e : LinkError} : Ready doc o s b → s.resolve resource b = .error e →
      Answer doc o resource (.error (.link e))
  | resolved {s : LinkSet} {b : Bindings} {u : Text} : Ready doc o s b → s.resolve resource b = .ok u →
      Answer doc o resource (.ok (u ++ ['\n']))

theorem get?_bindings {arguments params : List Param} (hparams : doc.paramList = .ok params) (name : Text) :
    (bindings arguments params).get? name =
      (Bindings.firstValue? (arguments.map Param.toPair) name).or (doc.value? name) := by
  rw [bindings, Bindings.get?_bindSome, Bindings.get?_bindSome, NameMap.get?_empty, Option.none_or,
    LinksDocument.firstValue?_paramList hparams]

theorem ready_iff :
    Ready doc o s b ↔ doc.linkSet o.base = .ok s ∧ ∃ arguments params,
      Param.ofArguments o.params = .ok arguments ∧ doc.paramList = .ok params ∧
        b = bindings arguments params := by
  rw [LinksDocument.linkSet_eq_ok_iff, Param.ofArguments_eq_mapM]
  simp only [mapM_eq_ok_iff (f := Param.ofArgument)]
  constructor
  · rintro ⟨hbase, hlinks, ⟨arguments, hread, hbound⟩, hdocument⟩
    obtain ⟨params, hparams⟩ := LinksDocument.exists_paramList_iff.mpr hdocument
    -- what is bound under each name is all there is to bindings
    refine ⟨⟨hbase, hlinks⟩, arguments, params, hread, hparams, NameMap.eq_of_get?_eq fun name => ?_⟩
    rw [hbound, get?_bindings hparams]
  · rintro ⟨⟨hbase, hlinks⟩, arguments, params, hread, hparams, rfl⟩
    exact ⟨hbase, hlinks, ⟨arguments, hread, get?_bindings hparams⟩,
      LinksDocument.exists_paramList_iff.mp ⟨params, hparams⟩⟩

/-- The command reads in the order of the rules. -/
theorem answer_output (hresource : o.resource = some resource) : Answer doc o resource (output doc o) := by
  unfold output
  cases hlinks : doc.linkSet o.base with
  | error e =>
    obtain ⟨ht, hparse⟩ := LinksDocument.linkSet_eq_error_iff.mp hlinks
    exact .badBase ht hparse
  | ok s =>
    have hbase := (LinksDocument.linkSet_eq_ok_iff.mp hlinks).1
    simp only [hresource]
    cases harguments : Param.ofArguments o.params with
    | error e =>
      rw [Param.ofArguments_eq_mapM, mapM_eq_error_iff] at harguments
      exact .badArgument hbase harguments
    | ok arguments =>
      cases hparams : doc.paramList with
      | error e =>
        obtain ⟨name, e', hfirst, rfl⟩ := LinksDocument.paramList_eq_error_iff.mp hparams
        rw [Param.ofArguments_eq_mapM] at harguments
        exact .badParam hbase (exists_mapM_eq_ok_iff.mp ⟨arguments, harguments⟩) hfirst
      | ok params =>
        have hready : Ready doc o s (bindings arguments params) :=
          ready_iff.mpr ⟨hlinks, arguments, params, harguments, hparams, rfl⟩
        cases hresolve : s.resolve resource (bindings arguments params) with
        | error e => simpa only [hresolve] using .refused hready hresolve
        | ok u => simpa only [hresolve] using .resolved hready hresolve

/-- The rules exclude each other. -/
theorem output_eq_of_answer (hresource : o.resource = some resource) {result : Except CommandError Text}
    (h : Answer doc o resource result) : output doc o = result := by
  unfold output
  cases h with
  | badBase ht hparse =>
    rw [LinksDocument.linkSet_eq_error_iff.mpr ⟨ht, hparse⟩]
  | @badArgument base e hbase hfirst =>
    have harguments : Param.ofArguments o.params = .error e := by
      rw [Param.ofArguments_eq_mapM, mapM_eq_error_iff]
      exact hfirst
    simp only [LinksDocument.linkSet_of_baseReads hbase, hresource, harguments]
  | @badParam base name e hbase hall hfirst =>
    obtain ⟨arguments, harguments⟩ := exists_mapM_eq_ok_iff.mpr hall
    rw [← Param.ofArguments_eq_mapM] at harguments
    have hparams : doc.paramList = .error (.shape name e) :=
      LinksDocument.paramList_eq_error_iff.mpr ⟨name, e, hfirst, rfl⟩
    simp only [LinksDocument.linkSet_of_baseReads hbase, hresource, harguments, hparams]
  | refused hready hresolve =>
    obtain ⟨hlinks, arguments, params, harguments, hparams, rfl⟩ := ready_iff.mp hready
    simp only [hlinks, hresource, harguments, hparams, hresolve]
  | resolved hready hresolve =>
    obtain ⟨hlinks, arguments, params, harguments, hparams, rfl⟩ := ready_iff.mp hready
    simp only [hlinks, hresource, harguments, hparams, hresolve]

theorem output_null {before after : List Text} {argument name : Text}
    (hparams : o.params = before ++ argument :: after)
    (hnull : Param.ofArgument argument = .ok ⟨name, none⟩) :
    output doc { o with params := before ++ after } = output doc o := by
  unfold output
  rw [hparams]
  rcases Param.ofArguments_null hnull before after with ⟨e, hwith, hwithout⟩ | ⟨ps, qs, hwith, hwithout⟩
  · simp only [hwith, hwithout]
  · have hbindings (params : List Param) :
        bindings (ps ++ ⟨name, none⟩ :: qs) params = bindings (ps ++ qs) params := by
      unfold bindings
      rw [List.map_append, List.map_append, List.map_cons, Param.toPair, Bindings.bindSome_null]
    simp only [hwith, hwithout, hbindings]

theorem run_of_loadDocument {content : Except FileError (List UInt8)}
    (hdoc : loadDocument o.links content = .ok doc) :
    run o content = output doc o := by
  rw [run, hdoc]
  rfl

/-- What is read of a document shows that it is read. -/
theorem exists_loadDocument {path : Text} {content : Except FileError (List UInt8)} {α : Type}
    {f : LinksDocument → α} {x : α} (h : (loadDocument path content).toOption.map f = some x) :
    ∃ doc, loadDocument path content = .ok doc ∧ f doc = x := by
  cases hload : loadDocument path content with
  | error e =>
    rw [hload] at h
    cases h
  | ok doc =>
    rw [hload] at h
    exact ⟨doc, rfl, Option.some.inj h⟩

/-- **What a run for a resource of a document that reads gives**: the URI with a line break exactly
if everything in front of it is read and the resource resolves to it under what is bound, and else
the first fault. An argument that is null changes nothing: its name stays unbound by it, and the
value of the document stays in force. -/
theorem run_answer (o : Options) (content : Except FileError (List UInt8))
    (doc : LinksDocument) (resource : Text) (hdoc : loadDocument o.links content = .ok doc)
    (hresource : o.resource = some resource) :
    (∀ u, run o content = .ok (u ++ ['\n']) ↔ ∃ s b, Ready doc o s b ∧ s.resolve resource b = .ok u) ∧
      (∀ result, run o content = result ↔ Answer doc o resource result) ∧
      ∀ before argument name after, o.params = before ++ argument :: after →
        Param.ofArgument argument = .ok ⟨name, none⟩ →
        run { o with params := before ++ after } content = run o content := by
  rw [run_of_loadDocument hdoc]
  have hanswer : ∀ result, output doc o = result ↔ Answer doc o resource result := fun result =>
    ⟨fun h => h ▸ answer_output hresource, output_eq_of_answer hresource⟩
  refine ⟨fun u => ?_, hanswer, fun before argument name after hparams hnull => ?_⟩
  · rw [hanswer]
    constructor
    · generalize hresult : (.ok (u ++ ['\n']) : Except CommandError Text) = result
      intro h
      cases h with
      | @resolved s b v hready hresolve =>
        have huv : u = v := List.append_cancel_right (Except.ok.inj hresult)
        exact ⟨s, b, hready, huv ▸ hresolve⟩
      | _ => cases hresult
    · rintro ⟨s, b, hready, hresolve⟩
      exact .resolved hready hresolve
  · rw [← output_null hparams hnull]
    exact run_of_loadDocument hdoc

/-- A base of the document that does not read gives way to that of the options. The value of the document
gives way to the second argument: the first one is null, and the third one comes too late. -/
theorem run_answer_override :
    let content := Utf8.encode "[\"x\",\x7b\"r\":[\"/\x7ba\x7d\",true]\x7d,\x7b\"a\":\"1\"\x7d]".toList
    let o : Options :=
      ⟨"d.json".toList, some ['r'], ["a=~".toList, "a=2".toList, "a=3".toList], some "http://h/".toList, false⟩
    ∃ doc, loadDocument o.links (.ok content) = .ok doc ∧ o.resource = some ['r'] ∧ doc.base = some ['x'] ∧
      doc.paramList = .ok [⟨['a'], some (.scalar ['1'])⟩] ∧
      run o (.ok content) = .ok ("http://h/2".toList ++ ['\n']) := by
  intro content o
  let links : NameMap Link := NameMap.ofList [(['r'], ⟨⟨['/', '\x7b', 'a', '\x7d']⟩, true⟩)]
  have hread : (loadDocument o.links (.ok content)).toOption.map
      (fun doc => (doc.base, doc.links.entries, doc.paramList)) =
      some (some ['x'], links.entries, .ok [⟨['a'], some (.scalar ['1'])⟩]) := by decide +kernel
  obtain ⟨doc, hsome, hparts⟩ := Option.map_eq_some_iff.mp hread
  simp only [Prod.mk.injEq] at hparts
  obtain ⟨hdocBase, hentries, hparams⟩ := hparts
  have hdoc : loadDocument o.links (.ok content) = .ok doc := by
    cases h : loadDocument o.links (.ok content) with
    | error e =>
      rw [h] at hsome
      cases hsome
    | ok d =>
      rw [h] at hsome
      exact congrArg Except.ok (Option.some.inj hsome)
  let base : Url := ⟨"http".toList, some ⟨[], [], .domain ['h'], none⟩, .segments [[]], none, none⟩
  let b := Bindings.ofPairs [(['a'], .scalar ['2'])]
  have hready : Ready doc o ⟨links, some base⟩ b := by
    have hbase : Url.parse "http://h/".toList = .ok base := by decide +kernel
    have harguments : Param.ofArguments o.params =
        .ok [⟨['a'], none⟩, ⟨['a'], some (.scalar ['2'])⟩, ⟨['a'], some (.scalar ['3'])⟩] := by decide +kernel
    exact ready_iff.mpr ⟨LinksDocument.linkSet_eq_ok_iff.mpr ⟨.parsed hbase, (NameMap.ext hentries).symm⟩, _, _,
      harguments, hparams, rfl⟩
  have hresolve : LinkSet.resolve ⟨links, some base⟩ ['r'] b = .ok "http://h/2".toList := by decide +kernel
  exact ⟨doc, hdoc, rfl, hdocBase, hparams,
    ((run_answer o (.ok content) doc ['r'] hdoc rfl).1 _).mpr ⟨_, b, hready, hresolve⟩⟩

end Command

end ApiLinks

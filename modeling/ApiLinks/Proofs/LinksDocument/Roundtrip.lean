import ApiLinks.Proofs.Json.Values

/-!
# Links documents and their JSON texts

The writer leaves out a base and parameters that are not there, and the reader takes what is missing for
nothing; a link always has both of its parts.

* `linksDocument?_documentTree` : the parts of a document are read from where they are
  written, whichever are left out;
* `writtenFor_toData`, `linksDocumentOf?_eq_some` : what is written of a document, and what is read of it;
* `LinksDocument.ofJson?_toJson?` : a document survives its JSON text.
-/

namespace ApiLinks

namespace Json

open LinksDocument (namedData linkData baseKey linksKey paramsKey hrefKey templatedKey)

theorem returns_linkData (l : Link) : Returns (linkData l) link? l := by
  have hwritten : WrittenFor (named [(hrefKey, ofText l.href.text), (templatedKey, bool l.templated)])
      (namedData [(hrefKey, .string l.href.text), (templatedKey, .bool l.templated)]) :=
    writtenFor_namedData (.cons ⟨rfl, .string _, rfl⟩ (.cons ⟨rfl, .bool _, rfl⟩ .nil))
  exact ⟨_, hwritten, rfl⟩

/-- A document is written as an object of the parts that it has. -/
def documentTree (base : Option Json) (links : Json) (params : Option Json) : Json :=
  named ((base.map (baseKey, ·)).toList ++ [(linksKey, links)] ++ (params.map (paramsKey, ·)).toList)

theorem linksDocument?_documentTree (base : Option Json) (links : Json) (params : Option Json) :
    linksDocument? (documentTree base links params) = linksDocumentOf? base links params := by
  cases base <;> cases params <;> rfl

/-- Parameters are left out if there are none. -/
def paramsTree (doc : LinksDocument) (params : Json) : Option Json :=
  if doc.params.isEmpty then none else some params

theorem linksDocumentOf?_eq_some {doc : LinksDocument} {links params : Json}
    (hlinks : byName? link? links = some doc.links)
    (hparams : byName? (data? (depthLimit - 2)) params = some doc.params) :
    linksDocumentOf? (doc.base.map ofText) links (paramsTree doc params) = some doc := by
  obtain ⟨base, linkMap, paramMap⟩ := doc
  rw [paramsTree]
  by_cases hempty : paramMap = NameMap.empty
  · subst hempty
    rw [if_pos (NameMap.isEmpty_iff.mpr rfl)]
    cases base <;> simp [linksDocumentOf?, hlinks, optionalText?, ofText]
  · rw [if_neg (mt NameMap.isEmpty_iff.mp hempty)]
    cases base <;> simp [linksDocumentOf?, hlinks, hparams, optionalText?, ofText]

theorem writtenFor_toData {doc : LinksDocument} {links params : Json}
    (hlinks : WrittenFor links (namedData (doc.links.map linkData).entries))
    (hparams : WrittenFor params (namedData doc.params.entries)) :
    WrittenFor (documentTree (doc.base.map ofText) links (paramsTree doc params)) doc.toData := by
  have hbaseMember : List.Forall₂ (Paired WrittenFor) ((doc.base.map ofText).map (baseKey, ·)).toList
      (doc.base.map fun base => (baseKey, .string base)).toList := by
    cases doc.base with
    | none => exact .nil
    | some base => exact .cons ⟨rfl, .string base, rfl⟩ .nil
  have hparamsMember : List.Forall₂ (Paired WrittenFor) ((paramsTree doc params).map (paramsKey, ·)).toList
      (if doc.params.isEmpty then [] else [(paramsKey, namedData doc.params.entries)]) := by
    rw [paramsTree]
    split
    · exact .nil
    · exact .cons ⟨rfl, hparams⟩ .nil
  exact writtenFor_namedData
    (List.rel_append (List.rel_append hbaseMember (.cons ⟨rfl, hlinks⟩ .nil)) hparamsMember)

theorem returns_toData {doc : LinksDocument} {depth : Nat} (hdepth : depth + 2 < depthLimit)
    (h : ∀ name d, doc.params.get? name = some d → d.Portable depth) :
    Returns doc.toData linksDocument? doc := by
  obtain ⟨links, hlinks, hreadLinks⟩ := returns_namedData doc.links fun e _ => returns_linkData e.2
  have hitems : ∀ e ∈ doc.params.entries, Returns (id e.2) (data? (depthLimit - 2)) e.2 := fun (name, d) he =>
    returns_of_portable (h name d (NameMap.mem_entries_iff.mp he)) (by omega)
  obtain ⟨params, hparams, hreadParams⟩ := returns_namedData doc.params hitems
  rw [NameMap.map_id] at hparams
  refine ⟨_, writtenFor_toData hlinks hparams, ?_⟩
  rw [linksDocument?_documentTree, linksDocumentOf?_eq_some hreadLinks hreadParams]

end Json

namespace LinksDocument

/-- **A links document survives its JSON text.** Whatever its base, its links and the texts in them are, a
document whose parameters are portable and lie within the limit of depth has a text, and the document that
is read from the text is the same one, the order of every mapping included. The limit leaves room for
values that are nested 125 deep. -/
theorem ofJson?_toJson? {doc : LinksDocument} {depth : Nat} (hdepth : depth + 2 < Json.depthLimit)
    (hparams : ∀ name d, doc.params.get? name = some d → d.Portable depth) :
    ∃ t, doc.toJson? = some t ∧ ofJson? t = some doc := by
  obtain ⟨j, hj, hread⟩ := Json.returns_toData hdepth hparams
  refine ⟨j.write, ?_, ?_⟩
  · rw [toJson?, hj.eq, Option.map_some]
  · rw [ofJson?, hj.legible.read?_write, Option.bind_some, hread]

/-- Without a base, with a link whose name and href need escapes, and with the
numbers at both ends of the range. -/
theorem ofJson?_toJson?_escaped :
    let link : Link := ⟨⟨['/', '"', '\u0001', '\\']⟩, true⟩
    let value : Data := namedData [(['b'], .null), (['a'], .sequence [.number (.integer (-9223372036854775808)),
      .number (.integer 18446744073709551615), .string ['\n', 'é']])]
    let doc : LinksDocument := ⟨none, NameMap.ofList [(['\t'], link)], NameMap.ofList [(['p'], value)]⟩
    100 + 2 < Json.depthLimit ∧ (∀ name d, doc.params.get? name = some d → d.Portable 100) ∧
      ∃ t, doc.toJson? = some t ∧ ofJson? t = some doc := by
  intro link value doc
  have hvalue : value.Portable 100 := by
    refine .mapping (by decide) fun e he => ?_
    rcases List.mem_pair.mp he with rfl | rfl
    · exact .null
    · refine .sequence fun d hd => ?_
      simp only [List.mem_cons, List.not_mem_nil, or_false] at hd
      rcases hd with rfl | rfl | rfl
      · exact .integer ⟨by decide, by decide⟩
      · exact .integer ⟨by decide, by decide⟩
      · exact .string _
  have hparams : ∀ name d, doc.params.get? name = some d → d.Portable 100 := by
    intro name d hd
    have hentry : (name, d) ∈ [(['p'], value)] := NameMap.mem_entries_iff.mpr hd
    obtain ⟨-, rfl⟩ := Prod.mk.inj (List.mem_singleton.mp hentry)
    exact hvalue
  exact ⟨by decide, hparams, ofJson?_toJson? (by decide) hparams⟩

end LinksDocument

end ApiLinks

import ApiLinks.Proofs.CommandLine.Answer
import ApiLinks.Proofs.Template.Reading
import ApiLinks.Proofs.Template.Varspecs

/-!
# Reading a listing back

A run without a resource lists the links of its document. A reader that splits the list at line
breaks, each line at tabs and the names of the parameters at commas finds the links again: what
it splits at stands nowhere else.

* `Listing.rows? t` : the rows of a list, by splitting alone;
* `Listing.Describes row entry` : what a row says of a link under its name;
* `Listing.items_joined`, `Listing.lines?_flatMap` : what is joined, or ended, with a separator splits again;
* `Listing.row?_line`, `Listing.rows?_listing` : the reader of a line, and of a list;
* `Command.run_listing` : a run lists every link of the document in the order of the names.
-/

namespace ApiLinks

namespace Listing

/-! ## The reader -/

/-- What a line of a list says. -/
structure Row where
  name : Text
  href : Text
  /-- The names of the parameters, where the line has a list of them. -/
  parameters : Option (List Text)
  deriving DecidableEq, Repr

/-- The pieces of a text between the commas that a space follows. -/
def items : Text → List Text
  | [] => [[]]
  | ',' :: ' ' :: rest => [] :: items rest
  | c :: rest => (items rest).modifyHead (c :: ·)

/-- The names between two brackets, where there may be none. -/
def parameters? : Text → Option (List Text)
  | '[' :: rest => (Text.dropLast? ']' rest).map fun inner => if inner.isEmpty then [] else items inner
  | _ => none

/-- The row of a line, which has two or three fields. -/
def row? (line : Text) : Option Row :=
  match line.splitOn '\t' with
  | [name, href] => some ⟨name, href, none⟩
  | [name, href, field] => (parameters? field).map fun parameters => ⟨name, href, some parameters⟩
  | _ => none

/-- The lines of a text. Each of them ends in a line break, so that nothing is left behind the last one. -/
def lines? (t : Text) : Option (List Text) :=
  let pieces := t.splitOn '\n'
  if pieces.getLast? = some [] then some pieces.dropLast else none

def rows? (t : Text) : Option (List Row) := (lines? t).bind fun lines => lines.mapM row?

/-! ## What a row says -/

/-- All parameters of a link, each once, in the order in which the href names them first. -/
structure IsParameterList (l : Link) (parameters : List Text) : Prop where
  nodup : parameters.Nodup
  mem_iff : ∀ name, name ∈ parameters ↔ l.acceptsParameter name = true
  ordered : parameters.Pairwise fun p q => l.href.occurrences.idxOf p < l.href.occurrences.idxOf q

/-- The row has the name and the exact href of a link, and lists parameters exactly if the link is templated. -/
structure Describes (row : Row) (entry : Text × Link) : Prop where
  name : row.name = entry.1
  href : row.href = entry.2.href.text
  templated : row.parameters.isSome = entry.2.templated
  parameters : ∀ parameters, row.parameters = some parameters → IsParameterList entry.2 parameters

/-! ## Splitting -/

theorem items_cons {c : Char} (hc : c ≠ ',') (rest : Text) :
    items (c :: rest) = (items rest).modifyHead (c :: ·) := by
  rw [items]
  rintro _ rfl
  exact absurd rfl hc

theorem items_of_no_comma {t : Text} (h : ',' ∉ t) : items t = [t] := by
  induction t with
  | nil => rfl
  | cons c t ih =>
    obtain ⟨hc, ht⟩ : ',' ≠ c ∧ ',' ∉ t := by simpa using h
    rw [items_cons hc.symm, ih ht, List.modifyHead_cons]

theorem items_append {t : Text} (h : ',' ∉ t) (rest : Text) :
    items (t ++ ',' :: ' ' :: rest) = t :: items rest := by
  induction t with
  | nil => rfl
  | cons c t ih =>
    obtain ⟨hc, ht⟩ : ',' ≠ c ∧ ',' ∉ t := by simpa using h
    rw [List.cons_append, items_cons hc.symm, ih ht, List.modifyHead_cons]

theorem items_joined {names : List Text} (h : ∀ name ∈ names, ',' ∉ name) (hne : names ≠ []) :
    items (Text.joined [',', ' '] names) = names := by
  induction names with
  | nil => exact absurd rfl hne
  | cons name names ih =>
    have hname := h name List.mem_cons_self
    by_cases hnil : names = []
    · rw [hnil, Text.joined_singleton, items_of_no_comma hname]
    · rw [Text.joined_cons name hnil, List.append_assoc]
      exact (items_append hname _).trans
        (congrArg (name :: ·) (ih (fun other hother => h other (List.mem_cons_of_mem name hother)) hnil))

theorem splitOn_flatMap {lines : List Text} (h : ∀ line ∈ lines, '\n' ∉ line) :
    (lines.flatMap (· ++ ['\n'])).splitOn '\n' = lines ++ [[]] := by
  induction lines with
  | nil => rfl
  | cons line lines ih =>
    rw [List.flatMap_cons, List.append_assoc, List.singleton_append,
      List.splitOn_append_cons_self_of_not_mem (h line List.mem_cons_self),
      ih fun other hother => h other (List.mem_cons_of_mem line hother), List.cons_append]

theorem lines?_flatMap {lines : List Text} (h : ∀ line ∈ lines, '\n' ∉ line) :
    lines? (lines.flatMap (· ++ ['\n'])) = some lines := by
  simp only [lines?, splitOn_flatMap h, List.getLast?_concat, List.dropLast_concat, if_true]

/-! ## The names of the parameters -/

section Parameters

variable {t : Template} {name : Text}

/-- What holds of the names in the bodies of expressions holds of the variables of a template. -/
theorem exists_of_mem_variableNames (h : name ∈ t.variableNames) :
    ∃ body v, .span body ∈ t.parts ∧ v ∈ (Expression.ofBody body).varspecs ∧ v.name = name := by
  obtain ⟨e, he, v, hv, hname⟩ := Template.hasParameter_iff.mp (Template.mem_variableNames_iff.mp h)
  obtain ⟨body, hbody, rfl⟩ := Template.exists_span he
  exact ⟨body, v, hbody, hv, hname⟩

theorem ne_nil_of_mem_variableNames (h : name ∈ t.variableNames) : name ≠ [] := by
  obtain ⟨body, v, -, hv, rfl⟩ := exists_of_mem_variableNames h
  exact Expression.name_ne_nil hv

theorem no_comma_of_mem_variableNames (h : name ∈ t.variableNames) : ',' ∉ name := by
  obtain ⟨body, v, -, hv, rfl⟩ := exists_of_mem_variableNames h
  exact Expression.no_comma_of_ofBody hv

theorem infix_of_mem_variableNames (h : name ∈ t.variableNames) : name <:+: t.text := by
  obtain ⟨body, v, hbody, hv, rfl⟩ := exists_of_mem_variableNames h
  have hspan : body <:+: (Part.span body).text := ⟨['{'], ['}'], rfl⟩
  rw [← t.flatMap_text_parts, List.flatMap_def]
  exact (Expression.name_infix_of_ofBody hv).trans
    (hspan.trans (List.infix_of_mem_flatten (List.mem_map_of_mem hbody)))

theorem parameters?_variableList (t : Template) :
    parameters? (Command.variableList t) = some t.variableNames := by
  have hread : parameters? (Command.variableList t) =
      some (if (Text.joined [',', ' '] t.variableNames).isEmpty then []
        else items (Text.joined [',', ' '] t.variableNames)) := by
    simp only [Command.variableList, List.cons_append, parameters?, Text.dropLast?_append, Option.map_some]
  rw [hread, Option.some.injEq]
  by_cases hnil : t.variableNames = []
  · rw [hnil]
    rfl
  · obtain ⟨name, hname⟩ := List.exists_mem_of_ne_nil _ hnil
    have hjoined : Text.joined [',', ' '] t.variableNames ≠ [] :=
      Text.joined_ne_nil hname (ne_nil_of_mem_variableNames hname)
    rw [if_neg (by simpa using hjoined), items_joined (fun _ h => no_comma_of_mem_variableNames h) hnil]

theorem not_mem_variableList {c : Char} (hc : c ∉ ['[', ',', ' ', ']']) (ht : c ∉ t.text) :
    c ∉ Command.variableList t := by
  have hsigns : [',', ' '] ⊆ ['[', ',', ' ', ']'] := by simp
  intro hin
  simp only [Command.variableList, List.cons_append, List.mem_cons, List.mem_append,
    List.not_mem_nil, or_false] at hin
  rcases hin with rfl | hin | rfl
  · exact hc (by simp)
  · rcases Text.mem_joined hin with hsep | ⟨name, hname, hcname⟩
    · exact hc (hsigns hsep)
    · exact ht ((infix_of_mem_variableNames hname).subset hcname)
  · exact hc (by simp)

theorem isParameterList_variableNames {l : Link} (ht : l.templated = true) :
    IsParameterList l l.href.variableNames where
  nodup := by
    refine l.href.variableNames_pairwise.imp ?_
    rintro p _ hlt rfl
    exact Nat.lt_irrefl _ hlt
  mem_iff name := by rw [Template.mem_variableNames_iff, Link.acceptsParameter, ht, Bool.true_and]
  ordered := l.href.variableNames_pairwise

end Parameters

/-! ## Lines -/

section Lines

variable {name : Text} {l : Link}

/-- The line of a link without its line break. -/
def line (name : Text) (l : Link) : Text :=
  name ++ '\t' :: (l.href.text ++ if l.templated then '\t' :: Command.variableList l.href else [])

/-- The row of a link. -/
def row (name : Text) (l : Link) : Row :=
  ⟨name, l.href.text, if l.templated then some l.href.variableNames else none⟩

theorem describes_row (name : Text) (l : Link) : Describes (row name l) (name, l) where
  name := rfl
  href := rfl
  templated := by
    unfold row
    cases l.templated <;> rfl
  parameters parameters h := by
    obtain ⟨ht, rfl⟩ : l.templated = true ∧ l.href.variableNames = parameters := by simpa [row] using h
    exact isParameterList_variableNames ht

theorem listing_eq_flatMap (links : NameMap Link) :
    Command.listing links = (links.entries.map fun (name, l) => line name l).flatMap (· ++ ['\n']) := by
  rw [List.flatMap_map]
  refine List.flatMap_congr fun entry _ => ?_
  simp only [Command.listingLine, line, List.append_assoc, List.cons_append]

theorem no_break_line (hname : '\n' ∉ name) (hhref : '\n' ∉ l.href.text) : '\n' ∉ line name l := by
  have hlist : '\n' ∉ Command.variableList l.href := not_mem_variableList (by decide) hhref
  unfold line
  cases l.templated <;> simp [hname, hhref, hlist]

theorem row?_line (hname : '\t' ∉ name) (hhref : '\t' ∉ l.href.text) :
    row? (line name l) = some (row name l) := by
  have hlist : '\t' ∉ Command.variableList l.href := not_mem_variableList (by decide) hhref
  unfold row? line row
  cases l.templated with
  | false =>
    have hfields : (name ++ '\t' :: (l.href.text ++ [])).splitOn '\t' = [name, l.href.text] := by
      rw [List.append_nil, List.splitOn_append_cons_self_of_not_mem hname, List.splitOn_eq_singleton hhref]
    simp only [Bool.false_eq_true, if_false, hfields]
  | true =>
    have hfields : (name ++ '\t' :: (l.href.text ++ '\t' :: Command.variableList l.href)).splitOn '\t' =
        [name, l.href.text, Command.variableList l.href] := by
      rw [List.splitOn_append_cons_self_of_not_mem hname, List.splitOn_append_cons_self_of_not_mem hhref,
        List.splitOn_eq_singleton hlist]
    simp only [if_true, hfields, parameters?_variableList, Option.map_some]

end Lines

/-- The names and hrefs of the links hold neither tab nor line break. -/
def Splits (links : NameMap Link) : Prop :=
  ∀ name l, links.get? name = some l → ∀ c ∈ ['\t', '\n'], c ∉ name ∧ c ∉ l.href.text

theorem rows?_listing {links : NameMap Link} (h : Splits links) :
    rows? (Command.listing links) = some (links.entries.map fun (name, l) => row name l) := by
  have hlines : ∀ t ∈ links.entries.map fun (name, l) => line name l, '\n' ∉ t := by
    intro t ht
    obtain ⟨⟨name, l⟩, hin, rfl⟩ := List.mem_map.mp ht
    obtain ⟨hname, hhref⟩ := h name l (NameMap.mem_entries_iff.mp hin) '\n' (by decide)
    exact no_break_line hname hhref
  have hrows : ∀ e ∈ links.entries, row? (line e.1 e.2) = some (row e.1 e.2) := by
    rintro ⟨name, l⟩ hin
    obtain ⟨hname, hhref⟩ := h name l (NameMap.mem_entries_iff.mp hin) '\t' (by decide)
    exact row?_line hname hhref
  rw [rows?, listing_eq_flatMap, lines?_flatMap hlines, Option.bind_some]
  clear h hlines
  generalize links.entries = entries at hrows
  induction entries with
  | nil => rfl
  | cons e entries ih =>
    rw [List.map_cons, List.mapM_cons, hrows e List.mem_cons_self,
      ih fun other hother => hrows other (List.mem_cons_of_mem e hother)]
    rfl

end Listing

namespace Command

variable {doc : LinksDocument} {o : Options}

theorem output_listing (hresource : o.resource = none) (text : Text) :
    output doc o = .ok text ↔ (∃ base, BaseReads (o.base.or doc.base) base) ∧ text = listing doc.links := by
  unfold output
  cases hlinks : doc.linkSet o.base with
  | error e =>
    simp only [reduceCtorEq, false_iff, not_and]
    rintro ⟨base, hbase⟩
    rw [LinksDocument.linkSet_of_baseReads hbase] at hlinks
    cases hlinks
  | ok s =>
    obtain ⟨hbase, hs⟩ := LinksDocument.linkSet_eq_ok_iff.mp hlinks
    simp only [hresource, Except.ok.injEq, hs]
    exact ⟨fun h => ⟨⟨s.base, hbase⟩, h.symm⟩, fun h => h.2.symm⟩

/-- **A run without a resource lists the links, and the list reads back.** It gives a list exactly if
the base in force, where there is one, reads as a URL. If no name and no href holds a tab or a line
break, the list is a line for each link in the order of the bytes of the names, and each line has the
fields of its link: the name, the exact href and, of a templated link, all its parameters, each once, in
the order in which the href names them. -/
theorem run_listing (o : Options) (content : Except FileError (List UInt8)) (doc : LinksDocument)
    (hdoc : loadDocument o.links content = .ok doc) (hresource : o.resource = none)
    (hsplits : Listing.Splits doc.links) :
    ((∃ text, run o content = .ok text) ↔ ∃ base, BaseReads (o.base.or doc.base) base) ∧
      ∀ text, run o content = .ok text → ∃ rows, Listing.rows? text = some rows ∧
        List.Forall₂ Listing.Describes rows doc.links.entries ∧
        (rows.map (·.name)).Pairwise fun a b => Utf8.encode a < Utf8.encode b := by
  rw [run_of_loadDocument hdoc]
  simp only [output_listing hresource]
  refine ⟨⟨fun ⟨_, hbase, _⟩ => hbase, fun hbase => ⟨_, hbase, rfl⟩⟩, ?_⟩
  rintro _ ⟨-, rfl⟩
  refine ⟨_, Listing.rows?_listing hsplits, ?_, ?_⟩
  · rw [List.forall₂_map_left_iff, List.forall₂_same]
    exact fun e _ => Listing.describes_row e.1 e.2
  · rw [List.map_map, List.pairwise_map]
    exact doc.links.ascending.imp fun hlt => Utf8.encode_lt_encode_iff.mpr hlt

/-- A literal link in front of a templated one, whose href names a variable again and repeats another one. -/
theorem run_listing_repeated :
    let content :=
      Utf8.encode "[null,\x7b\"r\":[\"/\x7bb,a\x7d\x7b?b*\x7d\",true],\"l\":[\"\x7ba\x7d\"]\x7d]".toList
    let o : Options := ⟨"d.json".toList, none, ["?".toList], none, false⟩
    ∃ doc, loadDocument o.links (.ok content) = .ok doc ∧ o.resource = none ∧ Listing.Splits doc.links ∧
      ∃ text rows, run o (.ok content) = .ok text ∧ Listing.rows? text = some rows ∧
        rows = [⟨['l'], ['\x7b', 'a', '\x7d'], none⟩,
          ⟨['r'], "/\x7bb,a\x7d\x7b?b*\x7d".toList, some [['b'], ['a']]⟩] ∧
        List.Forall₂ Listing.Describes rows doc.links.entries := by
  intro content o
  let entries : List (Text × Link) :=
    [(['l'], ⟨⟨['\x7b', 'a', '\x7d']⟩, false⟩), (['r'], ⟨⟨"/\x7bb,a\x7d\x7b?b*\x7d".toList⟩, true⟩)]
  have hread : (loadDocument o.links (.ok content)).toOption.map (·.links.entries) = some entries := by
    decide +kernel
  obtain ⟨doc, hdoc, hentries⟩ := exists_loadDocument hread
  have hsplits : Listing.Splits doc.links := by
    intro name l hl
    rw [← NameMap.mem_entries_iff, hentries] at hl
    rcases List.mem_pair.mp hl with heq | heq
    all_goals
      obtain ⟨rfl, rfl⟩ := Prod.mk.inj heq
      simp
  have htext : ∃ text, run o (.ok content) = .ok text ∧ Listing.rows? text =
      some [⟨['l'], ['\x7b', 'a', '\x7d'], none⟩,
        ⟨['r'], "/\x7bb,a\x7d\x7b?b*\x7d".toList, some [['b'], ['a']]⟩] :=
    ⟨"l\t\x7ba\x7d\nr\t/\x7bb,a\x7d\x7b?b*\x7d\t[b, a]\n".toList, by decide +kernel, by decide +kernel⟩
  obtain ⟨text, hrun, hrows⟩ := htext
  obtain ⟨rows, hrows', hdescribes, -⟩ := (run_listing o (.ok content) doc hdoc rfl hsplits).2 text hrun
  exact ⟨doc, hdoc, rfl, hsplits, text, rows, hrun, hrows',
    Option.some.inj (hrows'.symm.trans hrows), hdescribes⟩

end Command

end ApiLinks

import ApiLinks.Proofs.Yaml.FirstToken
import ApiLinks.Proofs.Yaml.Values

/-!
# Texts in brackets that are collections

A text with nothing but blanks before its opening bracket or brace can be read as a collection in two ways:
as a flow collection, or as a block mapping whose first key begins there.

* `Yaml.IsFlowCollection t` : the text is one flow sequence or flow mapping;
* `Yaml.IsBlockMapping t` : the text is a block mapping;
* `Yaml.bracketed_cases` : a text in brackets that is a collection is the one or the other;
* `Yaml.bracketed_key` : the first key of a block mapping that begins with a bracket is a collection.
-/

namespace ApiLinks

/-- A value that is made of other values. -/
inductive Data.IsCollection : Data → Prop
  | sequence (items : List Data) : IsCollection (.sequence items)
  | mapping (entries : List (Data × Data)) : IsCollection (.mapping entries)

theorem Data.IsCollection.scalarText? {d : Data} (h : d.IsCollection) : d.scalarText? = none := by
  cases h <;> rfl

namespace Yaml

/-- A text that is one sequence or mapping in brackets or braces. -/
def IsFlowCollection (t : Text) : Prop :=
  ∃ d first rest, data? t = some d ∧ Token.ofText? t = some (first :: rest) ∧ first.OpensFlow

/-- A text that is a mapping without braces. -/
def IsBlockMapping (t : Text) : Prop :=
  ∃ entries rest, data? t = some (.mapping entries) ∧ Token.ofText? t = some (.blockMappingStart :: rest)

variable {t : Text} {first : Token} {tokens rest : List Token} {d : Data}

/-- A node without properties that is made of other nodes. -/
inductive Node.IsCollection : Node → Prop
  | sequence (items : List Node) : IsCollection (.sequence ⟨none, none⟩ items)
  | mapping (entries : List (Node × Node)) : IsCollection (.mapping ⟨none, none⟩ entries)

namespace NodeReader

variable {fuel : Nat} {place : Place} {anchors : List (Text × Nat)} {handles : List (Text × Text)}
    {s : NodeReader} {n : Node}

theorem isCollection_of_opensFlow (hfirst : first.OpensFlow)
    (h : node fuel place ⟨first :: rest, anchors, handles⟩ = some (n, s)) : n.IsCollection := by
  cases fuel with
  | zero => cases h
  | succ fuel =>
    cases hfirst with
    | sequence =>
      rw [node_flowSequence] at h
      obtain ⟨r, -, h⟩ := Option.bind_eq_some_iff.mp h
      cases h
      exact .sequence r.1
    | mapping =>
      rw [node_flowMapping] at h
      obtain ⟨r, -, h⟩ := Option.bind_eq_some_iff.mp h
      cases h
      exact .mapping r.1

/-- The first entry of a block mapping has the node behind the key's sign for its key. -/
theorem blockEntries_key {entries : List (Node × Node)} (hfirst : first.OpensFlow)
    (h : blockEntries fuel ⟨.key :: first :: rest, anchors, handles⟩ = some (entries, s)) :
    ∃ key value more, entries = (key, value) :: more ∧ key.IsCollection := by
  cases fuel with
  | zero => cases h
  | succ fuel =>
    rw [blockEntries] at h
    obtain ⟨_, _, hpeek, h⟩ := bind_eq_some_iff.mp h
    cases hpeek
    obtain ⟨_, _, hskip, h⟩ := bind_eq_some_iff.mp h
    cases hskip
    obtain ⟨_, _, hpeek, h⟩ := bind_eq_some_iff.mp h
    cases hpeek
    have hends : endsEntry (some first) = false := by cases hfirst <;> rfl
    change (if endsEntry (some first) = true then _ else _ : Read (List (Node × Node))) _ = _ at h
    rw [hends, if_neg Bool.false_ne_true] at h
    obtain ⟨key, _, hkey, h⟩ := bind_eq_some_iff.mp h
    obtain ⟨next, _, -, h⟩ := bind_eq_some_iff.mp h
    have hentry {value : Node} {s₁ : NodeReader}
        (hv : (blockEntries fuel >>= fun more => pure ((key, value) :: more) : Read (List (Node × Node)))
          s₁ = some (entries, s)) :
        ∃ key value more, entries = (key, value) :: more ∧ key.IsCollection := by
      obtain ⟨more, _, -, hv⟩ := bind_eq_some_iff.mp hv
      cases hv
      exact ⟨key, value, more, rfl, isCollection_of_opensFlow hfirst hkey⟩
    dsimp only at h
    split at h
    · obtain ⟨_, _, -, h⟩ := bind_eq_some_iff.mp h
      obtain ⟨_, _, -, h⟩ := bind_eq_some_iff.mp h
      split at h
      · obtain ⟨_, _, -, h⟩ := bind_eq_some_iff.mp h
        exact hentry h
      · obtain ⟨_, _, -, h⟩ := bind_eq_some_iff.mp h
        exact hentry h
    · obtain ⟨_, _, -, h⟩ := bind_eq_some_iff.mp h
      exact hentry h

end NodeReader

namespace Document

variable {doc : Document} {depth k k' : Nat} {n : Node} {entries : List (Node × Node)}

theorem data_mapping_eq_some (h : doc.data depth (.mapping ⟨none, none⟩ entries) k = some (d, k')) :
    ∃ read, d = .mapping read ∧ ∀ key value more, entries = (key, value) :: more →
      ∃ x y others depth' k'', read = (x, y) :: others ∧ doc.data depth' key k = some (x, k'') := by
  cases depth with
  | zero =>
    rw [data_zero_mapping] at h
    cases h
  | succ depth =>
    rw [data_mapping] at h
    obtain ⟨⟨read, _⟩, hread, h⟩ := Option.bind_eq_some_iff.mp h
    split at h
    · cases h
      refine ⟨read, rfl, ?_⟩
      rintro key value more rfl
      rw [List.mapM_cons] at hread
      obtain ⟨entry, _, hentry, hread⟩ := bind_eq_some_iff.mp hread
      obtain ⟨x, _, hx, hentry⟩ := bind_eq_some_iff.mp hentry
      obtain ⟨y, _, -, hentry⟩ := bind_eq_some_iff.mp hentry
      cases hentry
      obtain ⟨others, _, -, hread⟩ := bind_eq_some_iff.mp hread
      cases hread
      exact ⟨x, y, others, depth, _, rfl, hx⟩
    · cases h

theorem isCollection_data (hn : n.IsCollection) (h : doc.data depth n k = some (d, k')) : d.IsCollection := by
  cases hn with
  | sequence items =>
    cases depth with
    | zero =>
      rw [data_zero_sequence] at h
      cases h
    | succ depth =>
      rw [data_sequence] at h
      obtain ⟨r, -, h⟩ := Option.bind_eq_some_iff.mp h
      cases h
      exact .sequence r.1
  | mapping entries =>
    obtain ⟨read, rfl, -⟩ := data_mapping_eq_some h
    exact .mapping read

end Document

/-- What a plain scalar means is no collection. -/
theorem not_isCollection_of_plainData? (h : plainData? t = some d) : ¬ d.IsCollection := by
  rcases plainData?_cases h with ⟨rfl, -⟩ | ⟨u, hu⟩
  · rintro ⟨⟩
  · intro hd
    rw [hd.scalarText?] at hu
    cases hu

/-- The value of a text comes from the node that its tokens begin with. -/
theorem exists_node_of_data? (h : data? t = some d) (htokens : Token.ofText? t = some (first :: rest)) :
    ∃ fuel n s k, NodeReader.document fuel ⟨first :: rest, [], NodeReader.standardHandles⟩ = some (n, s) ∧
      (Document.ofNode n).data Document.depthLimit n 0 = some (d, k) := by
  unfold data? Node.ofText? at h
  rw [htokens] at h
  simp only [Option.bind_eq_bind, Option.bind_some, List.isEmpty_cons, Bool.false_eq_true, if_false] at h
  obtain ⟨root, hroot, h⟩ := Option.bind_eq_some_iff.mp h
  obtain ⟨⟨n, s⟩, hn, hroot⟩ := Option.bind_eq_some_iff.mp hroot
  split at hroot
  · cases hroot
    obtain ⟨⟨value, k⟩, hvalue, h⟩ := Option.bind_eq_some_iff.mp h
    cases h
    exact ⟨_, n, s, k, hn, hvalue⟩
  · cases hroot

namespace NodeReader

variable {fuel : Nat} {s : NodeReader} {n : Node}

theorem document_plain (h : document fuel ⟨.scalar .plain t :: rest, [], standardHandles⟩ = some (n, s)) :
    n = .scalar ⟨none, none⟩ .plain t := by
  rw [document_eq_node fuel (by simp) (by simp) (by simp)] at h
  cases fuel with
  | zero => cases h
  | succ fuel =>
    rw [node_scalar] at h
    cases h
    rfl

theorem document_key (fuel : Nat) (rest : List Token) :
    document fuel ⟨.key :: rest, [], standardHandles⟩ = none := by
  rw [document_eq_node fuel (by simp) (by simp) (by simp)]
  cases fuel with
  | zero => rfl
  | succ fuel => exact node_key fuel .block rest [] standardHandles

theorem document_block (h : document fuel ⟨.blockMappingStart :: rest, [], standardHandles⟩ = some (n, s)) :
    ∃ fuel' entries, blockEntries fuel' ⟨rest, [], standardHandles⟩ = some (entries, s) ∧
      n = .mapping ⟨none, none⟩ entries := by
  rw [document_eq_node fuel (by simp) (by simp) (by simp)] at h
  cases fuel with
  | zero => cases h
  | succ fuel =>
    rw [node_blockMapping] at h
    obtain ⟨⟨entries, _⟩, hentries, h⟩ := Option.bind_eq_some_iff.mp h
    cases h
    exact ⟨fuel, entries, hentries, rfl⟩

end NodeReader

/-! ## Texts in brackets -/

variable {before after : Text} {c : Char}

theorem exists_tokens_of_data? (h : data? t = some d) : ∃ tokens, Token.ofText? t = some tokens := by
  cases htokens : Token.ofText? t with
  | some tokens => exact ⟨tokens, rfl⟩
  | none =>
    rw [data?, Node.ofText?, htokens] at h
    cases h

/-- **A text in brackets that is a collection** is a flow collection or a block mapping. -/
theorem bracketed_cases (hbefore : Text.Blanks before) (hc : c = '[' ∨ c = '\x7b')
    (h : data? (before ++ c :: after) = some d) (hd : d.IsCollection) :
    IsFlowCollection (before ++ c :: after) ∨ IsBlockMapping (before ++ c :: after) := by
  obtain ⟨_, htokens⟩ := exists_tokens_of_data? h
  obtain ⟨first, lead, hlead, ⟨more, rfl⟩, hfirst⟩ := Token.ofText?_bracketed hbefore hc htokens
  cases hlead with
  | nothing =>
    rcases hfirst with hfirst | ⟨⟨text, rfl⟩, -⟩
    · exact Or.inl ⟨d, first, more, h, htokens, hfirst⟩
    · obtain ⟨fuel, n, s, k, hn, hvalue⟩ := exists_node_of_data? h htokens
      rw [NodeReader.document_plain hn, Document.data_plain] at hvalue
      obtain ⟨x, hx, hvalue⟩ := Option.bind_eq_some_iff.mp hvalue
      cases hvalue
      exact absurd hd (not_isCollection_of_plainData? hx)
  | key =>
    obtain ⟨fuel, n, s, k, hn, -⟩ := exists_node_of_data? h htokens
    rw [NodeReader.document_key fuel] at hn
    cases hn
  | block =>
    obtain ⟨fuel, n, s, k, hn, hvalue⟩ := exists_node_of_data? h htokens
    obtain ⟨-, entries, -, rfl⟩ := NodeReader.document_block hn
    obtain ⟨read, rfl, -⟩ := Document.data_mapping_eq_some hvalue
    exact Or.inr ⟨read, _, h, htokens⟩

theorem isBlank_of_isMargin (hc : isMargin c = true) : isBlank c = true := by
  have hall : [' ', '\n', '\u2028', '\u2029', '\r', '\u0085'].all isBlank = true := by decide
  apply List.all_eq_true.mp hall
  simpa only [isMargin, TokenStream.isPadding, isBreak, Bool.or_eq_true, beq_iff_eq,
    List.mem_cons, List.not_mem_nil, or_false, or_assoc] using hc

/-- **A block mapping whose text begins with a bracket has a collection for its first key.** -/
theorem bracketed_key (hbefore : ∀ x ∈ before, isMargin x = true) (hc : c = '[' ∨ c = '\x7b')
    (h : IsBlockMapping (before ++ c :: after)) :
    ∃ key value more, data? (before ++ c :: after) = some (.mapping ((key, value) :: more)) ∧
      key.IsCollection := by
  obtain ⟨read, rest, hdata, htokens⟩ := h
  obtain ⟨first, lead, hlead, ⟨more, hmore⟩, hfirst⟩ :=
    Token.ofText?_bracketed (fun x hx => isBlank_of_isMargin (hbefore x hx)) hc htokens
  have hopens : first.OpensFlow := by
    refine hfirst.resolve_right ?_
    rintro ⟨-, x, hx, hmargin⟩
    rw [hbefore x hx] at hmargin
    cases hmargin
  cases hlead with
  | nothing =>
    cases hmore
    cases hopens
  | key => cases hmore
  | block =>
    cases hmore
    obtain ⟨fuel, n, s, k, hn, hvalue⟩ := exists_node_of_data? hdata htokens
    obtain ⟨fuel', entries, hentries, rfl⟩ := NodeReader.document_block hn
    obtain ⟨key, value, others, rfl, hkey⟩ := NodeReader.blockEntries_key hopens hentries
    obtain ⟨read', hread, hfirst⟩ := Document.data_mapping_eq_some hvalue
    cases hread
    obtain ⟨x, y, values, depth, k', rfl, hx⟩ := hfirst key value others rfl
    exact ⟨x, y, values, hdata, Document.isCollection_data hkey hx⟩

end Yaml

end ApiLinks

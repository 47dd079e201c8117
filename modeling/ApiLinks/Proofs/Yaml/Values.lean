import ApiLinks.Shape
import ApiLinks.Yaml.Reader

/-!
# Nodes and their values

The nodes that stand without an anchor and a tag, and the values that they have.

* `bind_eq_some_iff` : two readers one behind the other;
* `NodeReader.node_scalar` … : the node that begins with a token;
* `Document.data_plain` … : the value of a node;
* `plainData?_cases` : a plain scalar means null, or something with a text.
-/

namespace ApiLinks.Yaml

/-- Both readers of nodes and readers of values keep a state and may fail. -/
theorem bind_eq_some_iff {σ α β : Type} {x : StateT σ Option α} {f : α → StateT σ Option β} {s s' : σ} {b : β} :
    (x >>= f) s = some (b, s') ↔ ∃ a s'', x s = some (a, s'') ∧ f a s'' = some (b, s') := by
  change ((x s).bind fun r => f r.1 r.2) = _ ↔ _
  rw [Option.bind_eq_some_iff]
  exact Prod.exists

namespace NodeReader

theorem node_scalar (fuel : Nat) (place : Place) (style : Style) (t : Text) (tokens : List Token)
    (anchors : List (Text × Nat)) (handles : List (Text × Text)) :
    node (fuel + 1) place ⟨.scalar style t :: tokens, anchors, handles⟩ =
      some (.scalar ⟨none, none⟩ style t, ⟨tokens, anchors, handles⟩) := rfl

theorem node_flowSequence (fuel : Nat) (place : Place) (tokens : List Token) (anchors : List (Text × Nat))
    (handles : List (Text × Text)) :
    node (fuel + 1) place ⟨.flowSequenceStart :: tokens, anchors, handles⟩ =
      (flowItems fuel true ⟨tokens, anchors, handles⟩).bind fun r =>
        some (.sequence ⟨none, none⟩ r.1, r.2) := rfl

theorem node_flowMapping (fuel : Nat) (place : Place) (tokens : List Token) (anchors : List (Text × Nat))
    (handles : List (Text × Text)) :
    node (fuel + 1) place ⟨.flowMappingStart :: tokens, anchors, handles⟩ =
      (flowEntries fuel true ⟨tokens, anchors, handles⟩).bind fun r =>
        some (.mapping ⟨none, none⟩ r.1, r.2) := rfl

theorem node_blockMapping (fuel : Nat) (tokens : List Token) (anchors : List (Text × Nat))
    (handles : List (Text × Text)) :
    node (fuel + 1) .block ⟨.blockMappingStart :: tokens, anchors, handles⟩ =
      (blockEntries fuel ⟨tokens, anchors, handles⟩).bind fun r => some (.mapping ⟨none, none⟩ r.1, r.2) := rfl

theorem node_key (fuel : Nat) (place : Place) (tokens : List Token) (anchors : List (Text × Nat))
    (handles : List (Text × Text)) : node (fuel + 1) place ⟨.key :: tokens, anchors, handles⟩ = none := rfl

/-- A document without directives is the node that it begins with. -/
theorem document_eq_node (fuel : Nat) {first : Token}
    (hversion : ∀ major minor, first ≠ .versionDirective major minor)
    (htag : ∀ handle lead, first ≠ .tagDirective handle lead) (hstart : first ≠ .documentStart)
    (tokens : List Token) (anchors : List (Text × Nat)) (handles : List (Text × Text)) :
    document fuel ⟨first :: tokens, anchors, handles⟩ =
      node fuel .block ⟨first :: tokens, anchors, handles⟩ := by
  cases first with
  | versionDirective major minor => exact absurd rfl (hversion major minor)
  | tagDirective handle lead => exact absurd rfl (htag handle lead)
  | documentStart => exact absurd rfl hstart
  | _ => rfl

end NodeReader

namespace Document

theorem data_plain (d : Document) (depth : Nat) (t : Text) (n : Nat) :
    d.data depth (.scalar ⟨none, none⟩ .plain t) n = (plainData? t).bind fun x => some (x, n) := by
  have hfollow : d.follow (.scalar ⟨none, none⟩ .plain t) n = some (.scalar ⟨none, none⟩ .plain t, n) := rfl
  have hplain : scalarData? none .plain t = plainData? t := rfl
  rw [data]
  simp only [bind, StateT.bind, hfollow, Option.bind_some, ite_self, hplain]
  cases plainData? t with
  | none => rfl
  | some value => rfl

theorem data_sequence (d : Document) (depth : Nat) (items : List Node) (n : Nat) :
    d.data (depth + 1) (.sequence ⟨none, none⟩ items) n =
      (items.mapM (d.data depth) n).bind fun r => some (.sequence r.1, r.2) := by
  rw [data]
  rfl

theorem data_zero_sequence (d : Document) (p : Properties) (items : List Node) (n : Nat) :
    d.data 0 (.sequence p items) n = none := by
  rw [data]
  rfl

theorem data_zero_mapping (d : Document) (p : Properties) (entries : List (Node × Node)) (n : Nat) :
    d.data 0 (.mapping p entries) n = none := by
  rw [data]
  rfl

theorem data_mapping (d : Document) (depth : Nat) (entries : List (Node × Node)) (n : Nat) :
    d.data (depth + 1) (.mapping ⟨none, none⟩ entries) n =
      ((entries.mapM fun (k, v) => return (← d.data depth k, ← d.data depth v) :
          Read (List (Data × Data))) n).bind fun r =>
        if distinct [] r.1 then some (.mapping r.1, r.2) else none := by
  rw [data]
  change ((entries.mapM fun (k, v) => return (← d.data depth k, ← d.data depth v) :
      Read (List (Data × Data))) n).bind
    (fun r => (if distinct [] r.1 then withTag none (.mapping r.1) else fail : Read Data) r.2) = _
  congr 1
  funext r
  split <;> rfl

end Document

/-! ## Plain scalars -/

theorem exists_integer_of_ofInteger? {t : Text} {d : Data} (h : ofInteger? t = some (some d)) :
    ∃ n, d = .number (.integer n) := by
  unfold ofInteger? at h
  split at h
  · rename_i n _
    split at h
    · exact ⟨n, (Option.some.inj (Option.some.inj h)).symm⟩
    · split at h <;> cases h
  · cases h

theorem plainData?_cases {t : Text} {d : Data} (h : plainData? t = some d) :
    d = .null ∧ (t = [] ∨ isNullWord t = true) ∨ ∃ u, d.scalarText? = some u := by
  unfold plainData? at h
  split at h
  · rename_i hnull
    exact Or.inl ⟨(Option.some.inj h).symm, ((Bool.or_eq_true _ _).mp hnull).imp_left List.isEmpty_iff.mp⟩
  · refine Or.inr ?_
    split at h
    · exact ⟨_, by rw [← Option.some.inj h, Data.scalarText?]⟩
    · split at h
      · rename_i d' hd
        obtain ⟨n, rfl⟩ := exists_integer_of_ofInteger? (hd.trans (congrArg some h))
        exact ⟨_, rfl⟩
      · split at h
        · exact ⟨t, by rw [← Option.some.inj h, Data.scalarText?]⟩
        · split at h
          · exact ⟨_, by rw [← Option.some.inj h, Data.scalarText?]⟩
          · exact ⟨t, by rw [← Option.some.inj h, Data.scalarText?]⟩

end ApiLinks.Yaml

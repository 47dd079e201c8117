import ApiLinks.LinksDocument.FromJson
import ApiLinks.Proofs.Json.Trees
import ApiLinks.Proofs.NameMap

/-!
# Document values in JSON

A value is written as a tree, and a reader makes something of the tree. Both go through lists of items and
of members, so that what is known of the items carries over to the lists.

* `Data.Portable depth d` : the value is one that JSON holds as it is, nested at most `depth` deep;
* `WrittenFor j d` : the tree is written for the value, and is legible;
* `Returns d read x` : `read` makes `x` of what is written for the value;
* `returns_of_portable` : a portable value returns as itself if it is nested less deeply than is read;
* `returns_namedData` : a map by name returns if its items do.
-/

namespace ApiLinks

/-- The values that JSON holds as they are, with collections nested at most `depth` deep: the keys of
mappings are texts, all different, and no number is a real. -/
inductive Data.Portable : Nat → Data → Prop where
  | null {depth : Nat} : Portable depth .null
  | bool {depth : Nat} (b : Bool) : Portable depth (.bool b)
  | integer {depth : Nat} {n : Int} (h : Json.IsWord n) : Portable depth (.number (.integer n))
  | string {depth : Nat} (t : Text) : Portable depth (.string t)
  | sequence {depth : Nat} {items : List Data} (h : ∀ d ∈ items, Portable depth d) :
    Portable (depth + 1) (.sequence items)
  | mapping {depth : Nat} {entries : List (Text × Data)} (hkeys : (entries.map (·.1)).Nodup)
    (h : ∀ e ∈ entries, Portable depth e.2) : Portable (depth + 1) (LinksDocument.namedData entries)

namespace Json

open LinksDocument (namedData)

variable {α : Type}

/-- The tree is what is written for the value, and is read back as a tree. -/
structure WrittenFor (j : Json) (d : Data) : Prop where
  legible : Legible j
  eq : ofData? d = some j

/-- The value is written as a tree of which `read` makes `x`. -/
def Returns (d : Data) (read : Json → Option α) (x : α) : Prop := ∃ j : Json, j.WrittenFor d ∧ read j = some x

theorem forall_mem_of_forall₂ {α β : Type} {r : α → β → Prop} {p : α → Prop}
    (hr : ∀ x y, r x y → p x) {xs : List α} {ys : List β} (h : List.Forall₂ r xs ys) : ∀ x ∈ xs, p x := by
  have hboth : List.Forall₂ (fun x y => p x ∧ r x y) xs ys := h.imp fun x y hxy => ⟨hr x y hxy, hxy⟩
  exact ((List.forall₂_and_left _ _).mp hboth).1

theorem exists_forall₂ {α β : Type} {r : α → β → Prop} {ys : List β} (h : ∀ y ∈ ys, ∃ x, r x y) :
    ∃ xs, List.Forall₂ r xs ys := by
  induction ys with
  | nil => exact ⟨[], .nil⟩
  | cons y ys ih =>
    obtain ⟨⟨x, hx⟩, hys⟩ := List.forall_mem_cons.mp h
    obtain ⟨xs, hxs⟩ := ih hys
    exact ⟨x :: xs, .cons hx hxs⟩

/-! ## Items -/

theorem writtenFor_sequence {js : List Json} {items : List Data} (h : List.Forall₂ WrittenFor js items) :
    WrittenFor (array js) (.sequence items) where
  legible := .array (forall_mem_of_forall₂ (fun _ _ hj => hj.legible) h)
  eq := by
    have hitems : ofItems? items = some js := by
      induction h with
      | nil => rfl
      | cons hj _ ih =>
        rw [ofItems?, ih, hj.eq]
        rfl
    rw [ofData?, hitems, Option.map_some]

theorem data?_array {k : Nat} {js : List Json} {items : List Data}
    (h : List.Forall₂ (fun j d => data? (k + 1) j = some d) js items) :
    data? (k + 2) (array js) = some (.sequence items) := by
  have hitems : dataItems? (k + 1) js = some items := by
    induction h with
    | nil => rfl
    | cons hj _ ih =>
      rw [dataItems?, ih, hj]
      rfl
  rw [data?, hitems]
  · rfl
  · exact Nat.succ_ne_zero k

/-! ## Members -/

/-- A member and an entry of one name, with a tree and an item that belong together. -/
def Paired (r : Json → α → Prop) (m : Text × Json) (e : Text × α) : Prop := m.1 = e.1 ∧ r m.2 e.2

theorem ofEntries?_eq_some {ms : List (Text × Json)} {entries : List (Text × Data)}
    (h : List.Forall₂ (Paired WrittenFor) ms entries) :
    ofEntries? (entries.map fun (name, d) => (.string name, d)) =
      some (ms.map fun (key, j) => (some key, j)) := by
  induction h with
  | nil => rfl
  | cons hm _ ih =>
    rw [List.map_cons, ofEntries?, ih, hm.2.eq, ← hm.1]
    rfl

theorem writtenFor_namedData {ms : List (Text × Json)} {entries : List (Text × Data)}
    (h : List.Forall₂ (Paired WrittenFor) ms entries) : WrittenFor (named ms) (namedData entries) where
  legible := .object (forall_mem_of_forall₂ (fun _ _ hm => hm.2.legible) h)
  eq := by rw [namedData, ofData?, ofEntries?_eq_some h, Option.map_some, named]

theorem hasKey_iff {entries : List (Text × Data)} {name : Text} :
    Data.hasKey (entries.map fun (key, d) => (.string key, d)) (.string name) = true ↔
      name ∈ entries.map (·.1) := by
  simp [Data.hasKey, Data.same]

theorem distinctKeys_of_nodup {entries : List (Text × Data)} (h : (entries.map (·.1)).Nodup) :
    distinctKeys (entries.map fun (key, d) => (.string key, d)) = true := by
  induction entries with
  | nil => rfl
  | cons e entries ih =>
    obtain ⟨hname, hrest⟩ := List.nodup_cons.mp h
    have hkey := mt hasKey_iff.mp hname
    simp only [List.map_cons, distinctKeys, hkey, ih hrest]
    rfl

theorem dataEntries?_eq_some {depth : Nat} {ms : List (Text × Json)} {entries : List (Text × Data)}
    (h : List.Forall₂ (Paired fun j d => data? depth j = some d) ms entries) :
    dataEntries? depth (ms.map fun (key, j) => (some key, j)) =
      some (entries.map fun (name, d) => (.string name, d)) := by
  induction h with
  | nil => rfl
  | cons hm _ ih =>
    rw [List.map_cons, dataEntries?, ih, hm.2, hm.1]
    rfl

theorem data?_named {k : Nat} {ms : List (Text × Json)} {entries : List (Text × Data)}
    (h : List.Forall₂ (Paired fun j d => data? (k + 1) j = some d) ms entries)
    (hkeys : (entries.map (·.1)).Nodup) :
    data? (k + 2) (named ms) = some (namedData entries) := by
  rw [named, data?, dataEntries?_eq_some h, namedData]
  · simp only [Option.bind_eq_bind, Option.bind_some, distinctKeys_of_nodup hkeys, if_true]
  · exact Nat.succ_ne_zero k

theorem named?_map (ms : List (Text × Json)) : named? (ms.map fun (key, j) => (some key, j)) = some ms := by
  induction ms with
  | nil => rfl
  | cons m ms ih =>
    rw [List.map_cons, named?, ih]
    rfl

theorem mapM_named {read : Json → Option α} {ms : List (Text × Json)} {entries : List (Text × α)}
    (h : List.Forall₂ (Paired fun j x => read j = some x) ms entries) :
    (ms.mapM fun (name, j) => do return (name, ← read j)) = some entries := by
  induction h with
  | nil => rfl
  | @cons m e ms entries hm _ ih =>
    obtain ⟨name, j⟩ := m
    obtain ⟨_, x⟩ := e
    obtain ⟨rfl, hread⟩ := hm
    rw [List.mapM_cons, ih]
    simp only [show read j = some x from hread]
    rfl

theorem byName?_eq_bind (read : Json → Option α) (ms : List (Text × Json)) :
    byName? read (named ms) = (named? (ms.map fun (key, j) => (some key, j))).bind fun ms =>
      (ms.mapM fun (name, j) => do return (name, ← read j) : Option (List (Text × α))).bind fun items =>
        some (NameMap.ofList items) := rfl

theorem byName?_named {read : Json → Option α} {ms : List (Text × Json)} {entries : List (Text × α)}
    (h : List.Forall₂ (Paired fun j x => read j = some x) ms entries) :
    byName? read (named ms) = some (NameMap.ofList entries) := by
  rw [byName?_eq_bind, named?_map, Option.bind_some, mapM_named h, Option.bind_some]

/-! ## What returns -/

theorem exists_members (toData : α → Data) {read : Json → Option α} {entries : List (Text × α)}
    (h : ∀ e ∈ entries, Returns (toData e.2) read e.2) :
    ∃ ms, List.Forall₂ (Paired WrittenFor) ms (entries.map fun (name, x) => (name, toData x)) ∧
      List.Forall₂ (Paired fun j x => read j = some x) ms entries := by
  have hmembers : ∀ e ∈ entries, ∃ m, Paired (fun j x => WrittenFor j (toData x) ∧ read j = some x) m e := by
    intro e he
    obtain ⟨j, hj⟩ := h e he
    exact ⟨(e.1, j), rfl, hj⟩
  obtain ⟨ms, hms⟩ := exists_forall₂ hmembers
  exact ⟨ms, List.forall₂_map_right_iff.mpr (hms.imp fun _ _ hm => ⟨hm.1, hm.2.1⟩),
    hms.imp fun _ _ hm => ⟨hm.1, hm.2.2⟩⟩

/-- A map by name returns if its items do. -/
theorem returns_namedData {toData : α → Data} {read : Json → Option α} (m : NameMap α)
    (h : ∀ e ∈ m.entries, Returns (toData e.2) read e.2) :
    Returns (namedData (m.map toData).entries) (byName? read) m := by
  obtain ⟨ms, hwritten, hread⟩ := exists_members toData h
  exact ⟨named ms, writtenFor_namedData hwritten, by rw [byName?_named hread, NameMap.ofList_entries]⟩

theorem returns_of_portable {depth : Nat} {d : Data} (h : d.Portable depth) {k : Nat} (hk : depth < k) :
    Returns d (data? k) d := by
  induction h generalizing k with
  | null => exact ⟨.null, ⟨.null, rfl⟩, by rw [data?.eq_def]⟩
  | bool b => exact ⟨.bool b, ⟨.bool b, rfl⟩, by rw [data?.eq_def]⟩
  | integer h => exact ⟨_, ⟨.integer h, rfl⟩, by rw [data?.eq_def]; rfl⟩
  | string t => exact ⟨_, ⟨.string t, rfl⟩, by rw [data?.eq_def]; rfl⟩
  | sequence _ ih =>
    obtain ⟨k, rfl⟩ : ∃ i, k = i + 2 := ⟨k - 2, by omega⟩
    obtain ⟨js, hjs⟩ := exists_forall₂ fun d hd => ih d hd (k := k + 1) (by omega)
    exact ⟨array js, writtenFor_sequence (hjs.imp fun _ _ hj => hj.1), data?_array (hjs.imp fun _ _ hj => hj.2)⟩
  | mapping hkeys _ ih =>
    obtain ⟨k, rfl⟩ : ∃ i, k = i + 2 := ⟨k - 2, by omega⟩
    obtain ⟨ms, hwritten, hread⟩ := exists_members id fun e he => ih e he (k := k + 1) (by omega)
    simp only [id_eq, List.map_id'] at hwritten
    exact ⟨named ms, writtenFor_namedData hwritten, data?_named hread hkeys⟩

end Json

end ApiLinks

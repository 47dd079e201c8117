import ApiLinks.NameMap

/-!
# The names of a map

A map lists its names in ascending order, each once. A hash map gives out the same names in an order of its
own; sorted, they are the list again.

* `NameMap.mem_names_iff` : the names are those with an item;
* `NameMap.mergeSort_eq_names` : sorting forgets the order in which they come;
* `NameMap.find?_names_eq_some_iff` : the first name of some kind is the least one;
* `NameMap.eq_of_get?_eq` : a map is what it has under each name;
* `NameMap.entries_eq_append_iff` : in front of an entry stand those of the smaller names;
* `NameMap.ofList_entries` : the entries of a map make the map again.
-/

namespace ApiLinks.NameMap

variable {α : Type}

theorem find?_isSome_iff {name : Text} {entries : List (Text × α)} :
    (find? name entries).isSome = true ↔ name ∈ entries.map (·.1) := by
  induction entries with
  | nil => simp [find?]
  | cons head rest ih =>
    obtain ⟨n, x⟩ := head
    rw [find?, List.map_cons, List.mem_cons]
    by_cases hn : name = n
    · simp [hn]
    · rw [if_neg hn, ih, or_iff_right hn]

theorem mem_names_iff {m : NameMap α} {name : Text} : name ∈ m.names ↔ m.contains name = true :=
  find?_isSome_iff.symm

theorem names_pairwise (m : NameMap α) : m.names.Pairwise (· < ·) := List.pairwise_map.mpr m.ascending

theorem names_nodup (m : NameMap α) : m.names.Nodup := by
  refine m.names_pairwise.imp ?_
  rintro name _ hlt rfl
  exact List.lt_irrefl name hlt

theorem mergeSort_eq_names {m : NameMap α} {names : List Text} (h : names.Perm m.names) :
    (names.mergeSort fun a b => decide (¬ b < a)) = m.names := by
  have hsorted : (names.mergeSort fun a b => decide (¬ b < a)).Pairwise fun a b => decide (¬ b < a) = true := by
    apply List.pairwise_mergeSort
    · intro a b c hab hbc
      have hac := List.le_trans (List.not_lt.mp (of_decide_eq_true hab))
        (List.not_lt.mp (of_decide_eq_true hbc))
      exact decide_eq_true (List.not_lt.mpr hac)
    · intro a b
      rw [Bool.or_eq_true, decide_eq_true_iff, decide_eq_true_iff, List.not_lt, List.not_lt]
      exact List.le_total a b
  refine ((List.mergeSort_perm names _).trans h).eq_of_pairwise ?_ hsorted ?_
  · intro a b _ _ hab hba
    exact List.le_antisymm (List.not_lt.mp (of_decide_eq_true hab)) (List.not_lt.mp (of_decide_eq_true hba))
  · exact m.names_pairwise.imp fun hab => decide_eq_true (List.lt_asymm hab)

/-- In front of an item of an ordered list stand exactly the lesser ones. -/
theorem eq_append_iff_of_pairwise {β : Type} {r : β → β → Prop} (hr : ∀ x y, r x y → ¬ r y x) {xs : List β}
    (h : xs.Pairwise r) {x : β} {p : β → Prop} :
    (∃ before after, xs = before ++ x :: after ∧ ∀ y ∈ before, p y) ↔ x ∈ xs ∧ ∀ y ∈ xs, r y x → p y := by
  constructor
  · rintro ⟨before, after, rfl, hbefore⟩
    rw [List.pairwise_append, List.pairwise_cons] at h
    refine ⟨List.mem_append_right _ List.mem_cons_self, fun y hy hlt => ?_⟩
    rcases List.mem_append.mp hy with hin | hin
    · exact hbefore y hin
    rcases List.mem_cons.mp hin with rfl | hin
    · exact absurd hlt (hr y y hlt)
    · exact absurd hlt (hr x y (h.2.1.1 y hin))
  · rintro ⟨hx, hlesser⟩
    obtain ⟨before, after, rfl⟩ := List.append_of_mem hx
    rw [List.pairwise_append] at h
    refine ⟨before, after, rfl, fun y hy => ?_⟩
    exact hlesser y (List.mem_append_left _ hy) (h.2.2 y hy x List.mem_cons_self)

theorem find?_names_eq_some_iff {m : NameMap α} {p : Text → Bool} {name : Text} :
    m.names.find? p = some name ↔
      (m.contains name = true ∧ p name = true) ∧
        ∀ other, m.contains other = true → p other = true → ¬ other < name := by
  rw [List.find?_eq_some_iff_append, eq_append_iff_of_pairwise (fun _ _ => List.lt_asymm) m.names_pairwise,
    mem_names_iff, and_left_comm, and_assoc]
  refine and_congr_right fun _ => and_congr_right fun _ => forall_congr' fun other => ?_
  rw [mem_names_iff, Bool.not_eq_true']
  refine imp_congr_right fun _ => ?_
  cases p other <;> simp

/-! ## The entries -/

theorem find?_eq_none {name : Text} {entries : List (Text × α)} (h : ∀ e ∈ entries, name < e.1) :
    find? name entries = none := by
  induction entries with
  | nil => rfl
  | cons head rest ih =>
    obtain ⟨n, x⟩ := head
    have hne : name ≠ n := fun heq => List.lt_irrefl name (by simpa [← heq] using h (n, x) List.mem_cons_self)
    rw [find?, if_neg hne, ih fun e he => h e (List.mem_cons_of_mem _ he)]

theorem find?_eq_some_iff {entries : List (Text × α)} (h : entries.Pairwise fun a b => a.1 < b.1)
    {name : Text} {x : α} :
    find? name entries = some x ↔ (name, x) ∈ entries := by
  induction entries with
  | nil => simp [find?]
  | cons head rest ih =>
    obtain ⟨n, y⟩ := head
    obtain ⟨hn, hrest⟩ := List.pairwise_cons.mp h
    rw [find?, List.mem_cons, Prod.mk.injEq, ← ih hrest]
    by_cases hname : name = n
    · subst hname
      rw [if_pos rfl, find?_eq_none hn]
      simp [eq_comm]
    · simp [hname]

theorem mem_entries_iff {m : NameMap α} {name : Text} {x : α} : (name, x) ∈ m.entries ↔ m.get? name = some x :=
  (find?_eq_some_iff m.ascending).symm

theorem eq_of_get?_eq {m n : NameMap α} (h : ∀ name, m.get? name = n.get? name) : m = n := by
  have hnodup (k : NameMap α) : k.entries.Nodup := by
    refine List.Pairwise.imp ?_ k.ascending
    rintro a b hlt rfl
    exact List.lt_irrefl a.1 hlt
  have hmem : ∀ e, e ∈ m.entries ↔ e ∈ n.entries := fun (name, x) => by
    rw [mem_entries_iff, mem_entries_iff, h]
  have hperm : m.entries.Perm n.entries := (List.perm_ext_iff_of_nodup (hnodup m) (hnodup n)).mpr hmem
  exact ext (hperm.eq_of_pairwise (fun a b _ _ hab hba => absurd hba (List.lt_asymm hab))
    m.ascending n.ascending)

theorem entries_eq_append_iff {m : NameMap α} {name : Text} {x : α} {p : Text × α → Prop} :
    (∃ before after, m.entries = before ++ (name, x) :: after ∧ ∀ e ∈ before, p e) ↔
      m.get? name = some x ∧ ∀ other y, m.get? other = some y → other < name → p (other, y) := by
  rw [eq_append_iff_of_pairwise (fun _ _ => List.lt_asymm) m.ascending, mem_entries_iff]
  refine and_congr_right fun _ => ⟨fun h other y hy => h (other, y) (mem_entries_iff.mpr hy), ?_⟩
  rintro h ⟨other, y⟩ hy
  exact h other y (mem_entries_iff.mp hy)

theorem map_id (m : NameMap α) : m.map id = m := ext (List.map_id' m.entries)

theorem isEmpty_iff {m : NameMap α} : m.isEmpty = true ↔ m = empty := by
  rw [isEmpty, List.isEmpty_iff]
  exact ⟨fun h => ext h, fun h => h ▸ rfl⟩

theorem place_of_last {name : Text} {x : α} {entries : List (Text × α)} (h : ∀ e ∈ entries, e.1 < name) :
    place name x entries = entries ++ [(name, x)] := by
  induction entries with
  | nil => rfl
  | cons head rest ih =>
    obtain ⟨n, y⟩ := head
    obtain ⟨hn, hrest⟩ := List.forall_mem_cons.mp h
    have hne : name ≠ n := by
      rintro rfl
      exact List.lt_irrefl name hn
    rw [place, if_neg (List.lt_asymm hn), if_neg hne, ih hrest, List.cons_append]

/-- What is inserted in order goes behind what there is. -/
theorem entries_foldl_insert {items : List (Text × α)} {m : NameMap α}
    (h : (m.entries ++ items).Pairwise fun a b => a.1 < b.1) :
    (items.foldl (fun m (name, item) => m.insert name item) m).entries = m.entries ++ items := by
  induction items generalizing m with
  | nil => rw [List.foldl_nil, List.append_nil]
  | cons head rest ih =>
    have hinsert : (m.insert head.1 head.2).entries = m.entries ++ [head] :=
      place_of_last fun e he => (List.pairwise_append.mp h).2.2 e he head List.mem_cons_self
    rw [List.append_cons, ← hinsert] at h ⊢
    exact ih h

theorem ofList_entries (m : NameMap α) : ofList m.entries = m :=
  ext (entries_foldl_insert (m := empty) m.ascending)

/-- Each name stands once, so that looking for something under a name is looking at its item. -/
theorem findSome?_entries {β : Type} (m : NameMap α) (f : α → Option β) (name : Text) :
    (m.entries.findSome? fun e => if e.1 = name then f e.2 else none) = (m.get? name).bind f := by
  obtain ⟨entries, ascending⟩ := m
  change (entries.findSome? _) = (find? name entries).bind f
  induction entries with
  | nil => rfl
  | cons head rest ih =>
    obtain ⟨n, x⟩ := head
    obtain ⟨hn, hrest⟩ := List.pairwise_cons.mp ascending
    rw [List.findSome?_cons, find?]
    by_cases hname : name = n
    · subst hname
      rw [ih hrest, find?_eq_none hn]
      cases hx : f x <;> simp [hx]
    · rw [if_neg hname, if_neg (Ne.symm hname), ih hrest]

end ApiLinks.NameMap

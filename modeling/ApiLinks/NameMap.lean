import ApiLinks.Text.Basic

/-!
# Maps from names

A `NameMap` holds one item per name and lists its items in ascending order of the names, so that two
maps with the same items are equal.

`get?_insert` : an insertion writes one name and leaves every other as it was.
-/

namespace ApiLinks

namespace NameMap

variable {α : Type}

/-- Places an item into a list in ascending order of the names; an item of the same name gives way. -/
def place (name : Text) (item : α) : List (Text × α) → List (Text × α)
  | [] => [(name, item)]
  | (n, x) :: rest =>
    if name < n then (name, item) :: (n, x) :: rest
    else if name = n then (name, item) :: rest
    else (n, x) :: place name item rest

/-- The item of a name in a list. -/
def find? (name : Text) : List (Text × α) → Option α
  | [] => none
  | (n, x) :: rest => if name = n then some x else find? name rest

theorem mem_place {name : Text} {item : α} {entries : List (Text × α)} {e : Text × α}
    (h : e ∈ place name item entries) : e = (name, item) ∨ e ∈ entries := by
  induction entries with
  | nil => simpa [place] using h
  | cons head rest ih =>
    obtain ⟨n, x⟩ := head
    rw [place] at h
    split at h
    · simpa using h
    · split at h
      · rcases List.mem_cons.1 h with h | h
        · exact Or.inl h
        · exact Or.inr (List.mem_cons_of_mem _ h)
      · rcases List.mem_cons.1 h with h | h
        · exact Or.inr (h ▸ List.mem_cons_self)
        · rcases ih h with h | h
          · exact Or.inl h
          · exact Or.inr (List.mem_cons_of_mem _ h)

theorem place_pairwise {name : Text} {item : α} {entries : List (Text × α)}
    (h : entries.Pairwise fun a b => a.1 < b.1) : (place name item entries).Pairwise fun a b => a.1 < b.1 := by
  induction entries with
  | nil => simp [place]
  | cons head rest ih =>
    obtain ⟨n, x⟩ := head
    obtain ⟨hn, hr⟩ := List.pairwise_cons.1 h
    rw [place]
    split
    · rename_i hlt
      refine List.pairwise_cons.2 ⟨fun e he => ?_, h⟩
      rcases List.mem_cons.1 he with rfl | he
      · exact hlt
      · exact List.lt_trans hlt (hn e he)
    · split
      · rename_i heq
        subst heq
        exact List.pairwise_cons.2 ⟨hn, hr⟩
      · rename_i hlt hne
        refine List.pairwise_cons.2 ⟨fun e he => ?_, ih hr⟩
        rcases mem_place he with rfl | he
        · exact Classical.byContradiction fun h => hne (List.le_antisymm (List.not_lt.1 h) (List.not_lt.1 hlt))
        · exact hn e he

theorem find?_place_self (name : Text) (item : α) (entries : List (Text × α)) :
    find? name (place name item entries) = some item := by
  induction entries with
  | nil => simp [place, find?]
  | cons head rest ih =>
    obtain ⟨n, x⟩ := head
    rw [place]
    split
    · simp [find?]
    · split
      · simp [find?]
      · rename_i hne
        simp [find?, hne, ih]

theorem find?_place_of_ne {name other : Text} (h : other ≠ name) (item : α) (entries : List (Text × α)) :
    find? other (place name item entries) = find? other entries := by
  induction entries with
  | nil => simp [place, find?, h]
  | cons head rest ih =>
    obtain ⟨n, x⟩ := head
    rw [place]
    split
    · simp [find?, h]
    · split
      · rename_i heq
        subst heq
        simp [find?, h]
      · simp [find?, ih]

end NameMap

/-- Items under names, in ascending order of the names. -/
structure NameMap (α : Type) where
  entries : List (Text × α)
  ascending : entries.Pairwise fun a b => a.1 < b.1

namespace NameMap

variable {α : Type}

def empty : NameMap α := ⟨[], List.Pairwise.nil⟩

instance : Inhabited (NameMap α) := ⟨empty⟩

/-- Equal items under equal names. -/
instance [BEq α] : BEq (NameMap α) := ⟨fun m n => m.entries == n.entries⟩

/-- The map with `item` under `name`, in place of what was there. -/
def insert (m : NameMap α) (name : Text) (item : α) : NameMap α :=
  ⟨place name item m.entries, place_pairwise m.ascending⟩

def get? (m : NameMap α) (name : Text) : Option α := find? name m.entries

def contains (m : NameMap α) (name : Text) : Bool := (m.get? name).isSome

/-- The names in ascending order. -/
def names (m : NameMap α) : List Text := m.entries.map (·.1)

def size (m : NameMap α) : Nat := m.entries.length

def isEmpty (m : NameMap α) : Bool := m.entries.isEmpty

/-- The map of a list of items; the last item of a name stays. -/
def ofList (items : List (Text × α)) : NameMap α :=
  items.foldl (fun m (name, item) => m.insert name item) empty

def map {β : Type} (f : α → β) (m : NameMap α) : NameMap β :=
  ⟨m.entries.map fun (name, item) => (name, f item), List.pairwise_map.2 m.ascending⟩

@[ext]
theorem ext {m n : NameMap α} (h : m.entries = n.entries) : m = n := by
  cases m; cases n; cases h; rfl

@[simp]
theorem get?_empty (name : Text) : (empty : NameMap α).get? name = none := rfl

@[simp]
theorem get?_insert_self (m : NameMap α) (name : Text) (item : α) :
    (m.insert name item).get? name = some item :=
  find?_place_self name item m.entries

theorem get?_insert_of_ne (m : NameMap α) {name other : Text} (h : other ≠ name) (item : α) :
    (m.insert name item).get? other = m.get? other :=
  find?_place_of_ne h item m.entries

theorem get?_insert (m : NameMap α) (name other : Text) (item : α) :
    (m.insert name item).get? other = if other = name then some item else m.get? other := by
  split
  · rename_i h
    rw [h, get?_insert_self]
  · rename_i h
    exact m.get?_insert_of_ne h item

end NameMap

end ApiLinks

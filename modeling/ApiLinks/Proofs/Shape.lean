import ApiLinks.Proofs.InOrder
import ApiLinks.Shape

/-!
# The shapes of document values

What a value gives is told by rules that know no tags. Tags are taken off in two places, around the
value and around the scalars inside of it; both take off all of them, so that the rules hold of
every value once its tags are gone.

* `Data.HasText d t` : a value without tags is a scalar, with its text;
* `Data.EntryError entry e` : what is wrong with an entry, the key before the value;
* `Data.HasShape d result` : what a value without tags gives, with a rule for each shape and for each fault;
* `Data.entryText_eq_ok_iff`, `Data.entryText_eq_error_iff` : an entry by itself;
* `Data.itemTexts_eq_error_iff`, `Data.entryTexts_eq_error_iff` : the fault of a collection;
* `Data.value?_eq_iff_hasShape` : a value gives what the rules say of it without its tags.
-/

namespace ApiLinks.Data

/-- A scalar without tags, with its text. -/
inductive HasText : Data → Text → Prop
  | yes : HasText (bool true) "true".toList
  | no : HasText (bool false) "false".toList
  | number (n : Numeral) : HasText (number n) n.toText
  | string (t : Text) : HasText (string t) t

/-- An entry of two scalars, with their texts. -/
def EntryHasTexts (entry : Data × Data) (texts : Text × Text) : Prop :=
  HasText entry.1 texts.1 ∧ HasText entry.2 texts.2

/-- What is wrong with an entry. A fault of the value is told by the text of the key. -/
inductive EntryError : Data × Data → ShapeError → Prop
  | key {key value : Data} : (∀ t, ¬ HasText key t) → EntryError (key, value) .key
  | value {key value : Data} {t : Text} :
      HasText key t → (∀ u, ¬ HasText value u) → EntryError (key, value) (.value t)

/-- What a value without tags gives. Of the entries of a mapping the first one with a fault decides. -/
inductive HasShape : Data → Except ShapeError (Option Value) → Prop
  | null : HasShape null (.ok none)
  | scalar {d : Data} {t : Text} : HasText d t → HasShape d (.ok (some (.scalar t)))
  | sequence {items : List Data} {texts : List Text} :
      List.Forall₂ HasText items texts → HasShape (sequence items) (.ok (some (.sequence texts)))
  | mapping {entries : List (Data × Data)} {texts : List (Text × Text)} :
      List.Forall₂ EntryHasTexts entries texts → HasShape (mapping entries) (.ok (some (.mapping texts)))
  | badItem {items : List Data} {item : Data} :
      item ∈ items → (∀ t, ¬ HasText item t) → HasShape (sequence items) (.error .item)
  | badEntry {before after : List (Data × Data)} {texts : List (Text × Text)} {entry : Data × Data}
      {e : ShapeError} :
      List.Forall₂ EntryHasTexts before texts → EntryError entry e →
      HasShape (mapping (before ++ entry :: after)) (.error e)

variable {d : Data} {t : Text} {e : ShapeError} {items : List Data} {entries : List (Data × Data)}

/-- The tags of an entry are those of its key and of its value. -/
def untaggedEntry (entry : Data × Data) : Data × Data := (entry.1.untagged, entry.2.untagged)

theorem untaggedItems_eq_map (items : List Data) : untaggedItems items = items.map untagged := by
  induction items with
  | nil => rfl
  | cons item rest ih => rw [untaggedItems, ih, List.map_cons]

theorem untaggedEntries_eq_map (entries : List (Data × Data)) :
    untaggedEntries entries = entries.map untaggedEntry := by
  induction entries with
  | nil => rfl
  | cons entry rest ih => rw [untaggedEntries, ih, List.map_cons, untaggedEntry]

/-! ## Scalars -/

theorem scalarText?_of_hasText (h : HasText d t) : d.scalarText? = some t := by cases h <;> rfl

/-- A scalar has its text through any number of tags. -/
theorem scalarText?_eq_some_iff : d.scalarText? = some t ↔ HasText d.untagged t := by
  induction d using scalarText?.induct with
  | case1 b =>
    refine ⟨fun h => ?_, scalarText?_of_hasText⟩
    obtain rfl := Option.some.inj h
    cases b
    · exact .no
    · exact .yes
  | case2 n =>
    refine ⟨fun h => ?_, scalarText?_of_hasText⟩
    obtain rfl := Option.some.inj h
    exact .number n
  | case3 u =>
    refine ⟨fun h => ?_, scalarText?_of_hasText⟩
    obtain rfl := Option.some.inj h
    exact .string u
  | case4 _ value ih => rwa [scalarText?, untagged]
  -- null and collections have no text
  | case5 => exact ⟨nofun, nofun⟩
  | case6 => exact ⟨nofun, nofun⟩
  | case7 => exact ⟨nofun, nofun⟩

theorem scalarText?_eq_none_iff : d.scalarText? = none ↔ ∀ t, ¬ HasText d.untagged t := by
  simp only [Option.eq_none_iff_forall_ne_some, ne_eq, scalarText?_eq_some_iff]

/-! ## Items -/

/-- The text of an item. -/
def itemText (item : Data) : Except ShapeError Text :=
  match item.scalarText? with
  | none => .error .item
  | some text => .ok text

theorem itemTexts_eq_mapM (items : List Data) : itemTexts items = items.mapM itemText := by
  induction items with
  | nil => rfl
  | cons item rest ih =>
    rw [itemTexts, ih]
    cases h : item.scalarText? with
    | none => rw [mapM_cons_of_error (show itemText item = .error .item by simp only [itemText, h])]
    | some text => rw [mapM_cons_of_ok (show itemText item = .ok text by simp only [itemText, h])]

theorem itemText_eq_ok_iff {item : Data} : itemText item = .ok t ↔ HasText item.untagged t := by
  rw [← scalarText?_eq_some_iff, itemText]
  cases item.scalarText? <;> simp

theorem itemText_eq_error_iff {item : Data} :
    itemText item = .error e ↔ e = .item ∧ ∀ t, ¬ HasText item.untagged t := by
  rw [← scalarText?_eq_none_iff, itemText]
  cases item.scalarText? <;> simp [eq_comm]

theorem itemTexts_eq_ok_iff {texts : List Text} :
    itemTexts items = .ok texts ↔ List.Forall₂ HasText (items.map untagged) texts := by
  rw [itemTexts_eq_mapM, mapM_eq_ok_iff, List.forall₂_map_left_iff]
  simp only [itemText_eq_ok_iff]

/-- All faults of items are the same, so that it does not matter which one is met first. -/
theorem itemTexts_eq_error_iff :
    itemTexts items = .error e ↔ e = .item ∧ ∃ item ∈ items.map untagged, ∀ t, ¬ HasText item t := by
  rw [itemTexts_eq_mapM]
  constructor
  · intro h
    obtain ⟨before, item, after, rfl, -, hitem⟩ := mapM_eq_error_iff.mp h
    obtain ⟨he, hnone⟩ := itemText_eq_error_iff.mp hitem
    exact ⟨he, item.untagged, List.mem_map_of_mem (List.mem_append_right _ List.mem_cons_self), hnone⟩
  · rintro ⟨rfl, _, hin, hnone⟩
    obtain ⟨item, hitem, rfl⟩ := List.mem_map.mp hin
    cases h : items.mapM itemText with
    | error e' =>
      obtain ⟨_, x, _, _, -, hx⟩ := mapM_eq_error_iff.mp h
      rw [(itemText_eq_error_iff.mp hx).1]
    | ok texts =>
      obtain ⟨t, ht⟩ := exists_mapM_eq_ok_iff.mp ⟨texts, h⟩ item hitem
      exact absurd (itemText_eq_ok_iff.mp ht) (hnone t)

/-! ## Entries -/

/-- The texts of an entry; the key is looked at first. -/
def entryText (entry : Data × Data) : Except ShapeError (Text × Text) :=
  match entry.1.scalarText? with
  | none => .error .key
  | some key =>
    match entry.2.scalarText? with
    | none => .error (.value key)
    | some value => .ok (key, value)

theorem entryTexts_eq_mapM (entries : List (Data × Data)) : entryTexts entries = entries.mapM entryText := by
  induction entries with
  | nil => rfl
  | cons entry rest ih =>
    obtain ⟨key, value⟩ := entry
    rw [entryTexts, ih]
    cases hk : key.scalarText? with
    | none => rw [mapM_cons_of_error (show entryText (key, value) = .error .key by simp only [entryText, hk])]
    | some k =>
      cases hv : value.scalarText? with
      | none =>
        rw [mapM_cons_of_error (show entryText (key, value) = .error (.value k) by simp only [entryText, hk, hv])]
      | some v =>
        rw [mapM_cons_of_ok (show entryText (key, value) = .ok (k, v) by simp only [entryText, hk, hv])]

theorem entryText_eq_ok_iff {entry : Data × Data} {texts : Text × Text} :
    entryText entry = .ok texts ↔ EntryHasTexts (untaggedEntry entry) texts := by
  obtain ⟨k, v⟩ := texts
  rw [EntryHasTexts, untaggedEntry, ← scalarText?_eq_some_iff, ← scalarText?_eq_some_iff, entryText]
  cases entry.1.scalarText? with
  | none => simp
  | some key => cases entry.2.scalarText? <;> simp

theorem entryText_eq_error_iff {entry : Data × Data} :
    entryText entry = .error e ↔ EntryError (untaggedEntry entry) e := by
  obtain ⟨key, value⟩ := entry
  constructor
  · intro h
    unfold entryText at h
    cases hk : key.scalarText? with
    | none =>
      simp only [hk, Except.error.injEq] at h
      subst h
      exact .key (scalarText?_eq_none_iff.mp hk)
    | some k =>
      cases hv : value.scalarText? with
      | none =>
        simp only [hk, hv, Except.error.injEq] at h
        subst h
        exact .value (scalarText?_eq_some_iff.mp hk) (scalarText?_eq_none_iff.mp hv)
      | some v =>
        simp only [hk, hv] at h
        cases h
  · intro h
    cases h with
    | key hnone => simp only [entryText, scalarText?_eq_none_iff.mpr hnone]
    | value hkey hnone =>
      simp only [entryText, scalarText?_eq_some_iff.mpr hkey, scalarText?_eq_none_iff.mpr hnone]

theorem entryTexts_eq_ok_iff {texts : List (Text × Text)} :
    entryTexts entries = .ok texts ↔ List.Forall₂ EntryHasTexts (entries.map untaggedEntry) texts := by
  rw [entryTexts_eq_mapM, mapM_eq_ok_iff, List.forall₂_map_left_iff]
  simp only [entryText_eq_ok_iff]

theorem entryTexts_eq_error_iff :
    entryTexts entries = .error e ↔
      ∃ before entry after texts, entries.map untaggedEntry = before ++ entry :: after ∧
      List.Forall₂ EntryHasTexts before texts ∧ EntryError entry e := by
  rw [entryTexts_eq_mapM, mapM_eq_error_iff]
  constructor
  · rintro ⟨before, entry, after, rfl, hbefore, hentry⟩
    obtain ⟨texts, htexts⟩ := exists_mapM_eq_ok_iff.mpr hbefore
    rw [← entryTexts_eq_mapM, entryTexts_eq_ok_iff] at htexts
    exact ⟨_, _, _, texts, by rw [List.map_append, List.map_cons], htexts, entryText_eq_error_iff.mp hentry⟩
  · rintro ⟨_, _, _, texts, hsplit, htexts, hentry⟩
    obtain ⟨before, rest, rfl, rfl, hrest⟩ := List.map_eq_append_iff.mp hsplit
    obtain ⟨entry, after, rfl, rfl, -⟩ := List.map_eq_cons_iff.mp hrest
    rw [← entryTexts_eq_ok_iff, entryTexts_eq_mapM] at htexts
    exact ⟨before, entry, after, rfl, exists_mapM_eq_ok_iff.mp ⟨texts, htexts⟩,
      entryText_eq_error_iff.mpr hentry⟩

/-! ## Shapes -/

theorem value?_of_hasText (h : HasText d t) : d.value? = .ok (some (.scalar t)) := by cases h <;> rfl

theorem hasShape_scalar (h : d.scalarText? = some t) : HasShape d.untagged (.ok (some (.scalar t))) :=
  .scalar (scalarText?_eq_some_iff.mp h)

/-- What a value gives follows from the rules. -/
theorem hasShape_value? (d : Data) : HasShape d.untagged d.value? := by
  induction d using scalarText?.induct with
  | case1 b => exact hasShape_scalar (d := bool b) rfl
  | case2 n => exact hasShape_scalar (d := number n) rfl
  | case3 t => exact hasShape_scalar (d := string t) rfl
  | case4 _ value ih => rwa [untagged, value?]
  | case5 => exact .null
  | case6 items =>
    rw [untagged, untaggedItems_eq_map, value?]
    cases h : itemTexts items with
    | ok texts => exact .sequence (itemTexts_eq_ok_iff.mp h)
    | error e =>
      obtain ⟨rfl, item, hin, hnone⟩ := itemTexts_eq_error_iff.mp h
      exact .badItem hin hnone
  | case7 entries =>
    rw [untagged, untaggedEntries_eq_map, value?]
    cases h : entryTexts entries with
    | ok texts => exact .mapping (entryTexts_eq_ok_iff.mp h)
    | error e =>
      obtain ⟨before, entry, after, texts, hsplit, htexts, hentry⟩ := entryTexts_eq_error_iff.mp h
      rw [hsplit]
      exact .badEntry htexts hentry

/-- The rules exclude each other. -/
theorem value?_eq_of_hasShape {r : Except ShapeError (Option Value)} :
    ∀ {d : Data}, HasShape d.untagged r → d.value? = r
  | null, h => by
    cases h with
    | null => rfl
    | scalar ht => cases ht
  | bool _, h => by
    cases h with | scalar ht => exact value?_of_hasText ht
  | number _, h => by
    cases h with | scalar ht => exact value?_of_hasText ht
  | string _, h => by
    cases h with | scalar ht => exact value?_of_hasText ht
  | sequence items, h => by
    rw [untagged, untaggedItems_eq_map] at h
    rw [value?]
    cases h with
    | scalar ht => cases ht
    | sequence htexts => rw [itemTexts_eq_ok_iff.mpr htexts, Except.map]
    | badItem hin hnone => rw [itemTexts_eq_error_iff.mpr ⟨rfl, _, hin, hnone⟩, Except.map]
  | mapping entries, h => by
    rw [untagged, untaggedEntries_eq_map] at h
    rw [value?]
    generalize hbare : mapping (entries.map untaggedEntry) = bare at h
    cases h with
    | null => cases hbare
    | scalar ht => cases ht <;> cases hbare
    | sequence => cases hbare
    | badItem => cases hbare
    | mapping htexts =>
      rw [← mapping.inj hbare] at htexts
      rw [entryTexts_eq_ok_iff.mpr htexts, Except.map]
    | badEntry htexts hentry =>
      rw [entryTexts_eq_error_iff.mpr ⟨_, _, _, _, mapping.inj hbare, htexts, hentry⟩, Except.map]
  | tagged _ value, h => value?_eq_of_hasShape (d := value) h

/-- **A value is classified exactly by its shape, and its tags do not count**, however deep they stand and
however many of them there are. Without tags, null alone has no value; a scalar is its text; a sequence or a
mapping is that of the texts of its items or entries, one for one in their order, if all of them are
scalars; and anything else has the fault of an item or of the first entry that has one. Entries whose keys
differ in their tags alone, or have the same text, stay entries of their own. -/
theorem value?_eq_iff_hasShape (d : Data) :
    d.value? = d.untagged.value? ∧ (d.value? = .ok none ↔ d.untagged = .null) ∧
      ∀ result, d.value? = result ↔ HasShape d.untagged result := by
  have hrules (d : Data) (result : Except ShapeError (Option Value)) :
      d.value? = result ↔ HasShape d.untagged result :=
    ⟨fun h => h ▸ hasShape_value? d, value?_eq_of_hasShape⟩
  refine ⟨?_, ?_, hrules d⟩
  · rw [hrules, ← d.untagged_untagged, ← hrules, untagged_untagged]
  · rw [hrules]
    constructor
    · generalize d.untagged = bare
      intro h
      cases h
      rfl
    · intro h
      rw [h]
      exact .null

/-- The key is told by its text, and null is no scalar under a tag either. -/
example : value? (mapping [(tagged ['t'] (string ['k']), tagged ['u'] null)]) = .error (.value ['k']) := rfl

end ApiLinks.Data

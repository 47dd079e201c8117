import ApiLinks.Proofs.Json.Scalars
import ApiLinks.Proofs.Text.Joined

/-!
# Trees of JSON texts

The text that is written for a tree is read as the same tree. The reader is bounded by fuel, one unit for
each call inside another; the length of the text is enough.

* `Legible j` : the numbers of the tree are integers of 64 bits, and no text in it is missing;
* `Reads j` : the tree is read from what is written for it, with anything behind that closes it;
* `items_joined`, `members_joined` : items and members are read one behind another if each of them is read;
* `Legible.read?_write` : a legible tree is read from its text.
-/

namespace ApiLinks.Json

/-- An object of members whose keys are texts. -/
def named (members : List (Text × Json)) : Json := object (members.map fun (key, j) => (some key, j))

/-- The trees that are read back from what is written for them. -/
inductive Legible : Json → Prop where
  | null : Legible null
  | bool (b : Bool) : Legible (bool b)
  | integer {n : Int} (h : IsWord n) : Legible (number (some (.integer n)))
  | string (t : Text) : Legible (string (some t))
  | array {items : List Json} (h : ∀ j ∈ items, Legible j) : Legible (array items)
  | object {members : List (Text × Json)} (h : ∀ m ∈ members, Legible m.2) : Legible (named members)

/-! ## What is written -/

theorem writeItems_eq_map (items : List Json) : writeItems items = items.map write := by
  induction items with
  | nil => rfl
  | cons j items ih => rw [writeItems, ih, List.map_cons]

/-- A member as it is written. -/
def writeMember (m : Text × Json) : Text := quoted m.1 ++ ':' :: m.2.write

theorem writeMembers_named (members : List (Text × Json)) :
    writeMembers (members.map fun (key, j) => (some key, j)) = members.map writeMember := by
  induction members with
  | nil => rfl
  | cons m members ih => rw [List.map_cons, writeMembers, ih, List.map_cons]; rfl

theorem write_array (items : List Json) :
    (array items).write = '[' :: Text.joined [','] (items.map write) ++ [']'] := by
  rw [write, writeItems_eq_map]

theorem write_named (members : List (Text × Json)) :
    (named members).write = '\x7b' :: Text.joined [','] (members.map writeMember) ++ ['\x7d'] := by
  rw [named, write, writeMembers_named]

/-- A number is told by its first character. -/
def BeginsNumber (c : Char) : Prop := c = '-' ∨ c.isDigit = true

theorem ofInt_eq_cons (n : Int) : ∃ c t, Number.ofInt n = c :: t ∧ BeginsNumber c := by
  cases n with
  | ofNat n =>
    obtain ⟨c, digits, h, hc⟩ := Number.ofNat_eq_cons n
    exact ⟨c, digits, h, Or.inr hc⟩
  | negSucc n => exact ⟨'-', Number.ofNat (n + 1), rfl, Or.inl rfl⟩

theorem BeginsNumber.ne {c d : Char} (hc : BeginsNumber c) (hminus : d ≠ '-') (hd : d.isDigit = false) :
    c ≠ d := by
  rintro rfl
  rcases hc with rfl | hc
  · exact hminus rfl
  · rw [hd] at hc
    cases hc

theorem BeginsNumber.isGap_eq_false {c : Char} (hc : BeginsNumber c) : isGap c = false := by
  have hgaps : c ≠ ' ' ∧ c ≠ '\n' ∧ c ≠ '\t' ∧ c ≠ '\r' :=
    ⟨hc.ne (by decide) rfl, hc.ne (by decide) rfl, hc.ne (by decide) rfl, hc.ne (by decide) rfl⟩
  simp [isGap, hgaps]

/-- What is written begins with a sign that no blank and no end of an array is. -/
theorem Legible.write_eq_cons {j : Json} (h : Legible j) :
    ∃ c t, j.write = c :: t ∧ isGap c = false ∧ c ≠ ']' := by
  cases h with
  | null => exact ⟨'n', "ull".toList, rfl, rfl, by decide⟩
  | bool b =>
    cases b
    · exact ⟨'f', "alse".toList, rfl, rfl, by decide⟩
    · exact ⟨'t', "rue".toList, rfl, rfl, by decide⟩
  | @integer n h =>
    obtain ⟨c, t, hn, hc⟩ := ofInt_eq_cons n
    exact ⟨c, t, hn, hc.isGap_eq_false, hc.ne (by decide) rfl⟩
  | string t => exact ⟨'"', _, rfl, rfl, by decide⟩
  | array h => exact ⟨'[', _, by rw [write_array]; rfl, rfl, by decide⟩
  | object h => exact ⟨'\x7b', _, by rw [write_named]; rfl, rfl, by decide⟩

/-! ## What is read -/

theorem skipGaps_cons {c : Char} (h : isGap c = false) (t : Text) : skipGaps (c :: t) = c :: t := by
  rw [skipGaps, List.dropWhile_cons, h]
  rfl

theorem closes_cons {c : Char} (h : c = ',' ∨ c = ']' ∨ c = '\x7d') (rest : Text) : Closes (c :: rest) := by
  rintro d ⟨⟩
  exact h

/-- The tree is read from what is written for it, whatever closes it; the length of
what is written is fuel enough. -/
def Reads (j : Json) : Prop :=
  ∀ ⦃fuel : Nat⦄ ⦃rest : Text⦄, j.write.length ≤ fuel → Closes rest →
    value (fuel + 1) (j.write ++ rest) = some (j, rest)

theorem reads_integer {n : Int} (h : IsWord n) : Reads (number (some (.integer n))) := by
  intro fuel rest _ hrest
  obtain ⟨c, t, hn, hc⟩ := ofInt_eq_cons n
  have hvalue : value (fuel + 1) (c :: (t ++ rest)) = number? (c :: (t ++ rest)) := by
    rw [value, skipGaps_cons hc.isGap_eq_false]
    split
    case h_7 => rfl
    -- the other cases begin with a sign that begins no number
    all_goals
      rename_i heq
      exact absurd (List.cons.inj heq).1 (hc.ne (by decide) rfl)
  have hwrite : (number (some (.integer n))).write = Number.ofInt n := rfl
  rw [hwrite, hn, List.cons_append, hvalue, ← List.cons_append, ← hn, number?_ofInt h hrest]

theorem reads_string (t : Text) : Reads (string (some t)) := by
  intro fuel rest _ _
  obtain ⟨ps, hps, ht⟩ := pieces_flatMap_escaped t rest
  have hwrite : (string (some t)).write ++ rest = '"' :: (t.flatMap escaped ++ '"' :: rest) := by
    simp [write, quoted]
  rw [hwrite, value, skipGaps_cons rfl]
  simp only [hps, Option.map_some, ht]

theorem items_joined {j : Json} {js : List Json} (h : ∀ i ∈ j :: js, Reads i) (fuel : Nat)
    (hfuel : (Text.joined [','] ((j :: js).map write)).length < fuel) (rest : Text) :
    items (fuel + 1) (Text.joined [','] ((j :: js).map write) ++ ']' :: rest) = some (j :: js, rest) := by
  induction js generalizing j fuel with
  | nil =>
    obtain ⟨fuel, rfl⟩ : ∃ k, fuel = k + 1 := ⟨fuel - 1, by omega⟩
    rw [List.map_singleton, Text.joined_singleton] at hfuel ⊢
    rw [items, h j List.mem_cons_self (by omega) (closes_cons (by simp) rest)]
    rfl
  | cons k js ih =>
    obtain ⟨hj, hjs⟩ := List.forall_mem_cons.mp h
    rw [List.map_cons, Text.joined_cons _ (by simp)] at hfuel ⊢
    simp only [List.length_append, List.length_singleton] at hfuel
    obtain ⟨fuel, rfl⟩ : ∃ k, fuel = k + 1 := ⟨fuel - 1, by omega⟩
    rw [List.append_assoc, List.append_assoc, List.singleton_append, items,
      hj (by omega) (closes_cons (by simp) _)]
    simp only [Option.bind_eq_bind, Option.bind_some, skipGaps_cons (c := ',') rfl, ih hjs fuel (by omega)]
    rfl

theorem reads_array {js : List Json} (hlegible : ∀ j ∈ js, Legible j) (h : ∀ j ∈ js, Reads j) :
    Reads (array js) := by
  intro fuel rest hfuel hrest
  rw [write_array] at hfuel ⊢
  simp only [List.cons_append, List.append_assoc, List.nil_append, List.length_cons, List.length_append,
    List.length_nil] at hfuel ⊢
  cases js with
  | nil => rfl
  | cons j js =>
    obtain ⟨fuel, rfl⟩ : ∃ k, fuel = k + 1 := ⟨fuel - 1, by omega⟩
    have hitems := items_joined h fuel (by omega) rest
    -- the first item does not look like the end of an empty array
    obtain ⟨c, t, hj, hgap, hc⟩ := (hlegible j List.mem_cons_self).write_eq_cons
    obtain ⟨u, hu⟩ : j.write <+: Text.joined [','] ((j :: js).map write) := Text.prefix_joined _ _
    rw [← hu, hj, List.append_assoc, List.cons_append] at hitems ⊢
    rw [value, skipGaps_cons rfl]
    simp only [skipGaps_cons hgap]
    split
    · rename_i heq
      exact absurd (List.cons.inj heq).1 hc
    · rw [hitems, Option.map_some]

/-- Reads what stands behind the value of a member. -/
def afterMember? (fuel : Nat) (member : Option Text × Json) (rest : Text) :
    Option (List (Option Text × Json) × Text) :=
  match skipGaps rest with
  | ',' :: rest => do
    let (ms, rest) ← members fuel rest
    return (member :: ms, rest)
  | '\x7d' :: rest => some ([member], rest)
  | _ => none

theorem members_writeMember {m : Text × Json} (hm : Reads m.2) {fuel : Nat} {rest : Text}
    (hfuel : (writeMember m).length < fuel) (hrest : Closes rest) :
    members (fuel + 1) (writeMember m ++ rest) = afterMember? fuel (some m.1, m.2) rest := by
  obtain ⟨ps, hps, hkey⟩ := pieces_flatMap_escaped m.1 (':' :: m.2.write ++ rest)
  have hwrite : writeMember m ++ rest = '"' :: (m.1.flatMap escaped ++ '"' :: (':' :: m.2.write ++ rest)) := by
    simp [writeMember, quoted]
  obtain ⟨fuel, rfl⟩ : ∃ k, fuel = k + 1 := ⟨fuel - 1, by omega⟩
  have hlength : m.2.write.length ≤ fuel := by
    simp only [writeMember, List.length_append, List.length_cons] at hfuel
    omega
  rw [members, hwrite, skipGaps_cons rfl]
  simp only [Option.bind_eq_bind, Option.bind_some, hps]
  simp only [List.cons_append, skipGaps_cons (c := ':') rfl, hm hlength hrest, hkey, Option.bind_some]
  rfl

theorem members_joined {m : Text × Json} {ms : List (Text × Json)} (h : ∀ n ∈ m :: ms, Reads n.2) (fuel : Nat)
    (hfuel : (Text.joined [','] ((m :: ms).map writeMember)).length < fuel) (rest : Text) :
    members (fuel + 1) (Text.joined [','] ((m :: ms).map writeMember) ++ '\x7d' :: rest) =
      some ((m :: ms).map fun (key, j) => (some key, j), rest) := by
  induction ms generalizing m fuel with
  | nil =>
    rw [List.map_singleton, Text.joined_singleton] at hfuel ⊢
    rw [members_writeMember (h m List.mem_cons_self) hfuel (closes_cons (by simp) rest)]
    rfl
  | cons n ms ih =>
    obtain ⟨hm, hms⟩ := List.forall_mem_cons.mp h
    rw [List.map_cons, Text.joined_cons _ (by simp)] at hfuel ⊢
    simp only [List.length_append, List.length_singleton] at hfuel
    obtain ⟨fuel, rfl⟩ : ∃ k, fuel = k + 1 := ⟨fuel - 1, by omega⟩
    rw [List.append_assoc, List.append_assoc, List.singleton_append,
      members_writeMember hm (by omega) (closes_cons (by simp) _)]
    simp only [afterMember?, skipGaps_cons (c := ',') rfl, ih hms fuel (by omega), Option.bind_eq_bind,
      Option.bind_some]
    rfl

theorem reads_named {ms : List (Text × Json)} (h : ∀ m ∈ ms, Reads m.2) : Reads (named ms) := by
  intro fuel rest hfuel hrest
  rw [write_named] at hfuel ⊢
  simp only [List.cons_append, List.append_assoc, List.nil_append, List.length_cons, List.length_append,
    List.length_nil] at hfuel ⊢
  cases ms with
  | nil => rfl
  | cons m ms =>
    obtain ⟨fuel, rfl⟩ : ∃ k, fuel = k + 1 := ⟨fuel - 1, by omega⟩
    have hmembers := members_joined h fuel (by omega) rest
    -- the first member begins with the quote of its key
    obtain ⟨u, hu⟩ : writeMember m <+: Text.joined [','] ((m :: ms).map writeMember) := Text.prefix_joined _ _
    have hquote : writeMember m = '"' :: (m.1.flatMap escaped ++ '"' :: ':' :: m.2.write) := by
      simp [writeMember, quoted]
    rw [← hu, hquote, List.append_assoc, List.cons_append] at hmembers ⊢
    rw [value, skipGaps_cons rfl]
    simp only [skipGaps_cons (c := '"') rfl, hmembers, Option.map_some]
    rfl

theorem Legible.reads {j : Json} (h : Legible j) : Reads j := by
  induction h with
  | null =>
    intro fuel rest _ _
    rfl
  | bool b =>
    intro fuel rest _ _
    cases b <;> rfl
  | integer h => exact reads_integer h
  | string t => exact reads_string t
  | array hlegible ih => exact reads_array hlegible ih
  | object _ ih => exact reads_named ih

theorem Legible.read?_write {j : Json} (h : Legible j) : read? j.write = some j := by
  have hvalue : value (j.write.length + 1) j.write = some (j, []) := by
    have hend : Closes [] := nofun
    simpa only [List.append_nil] using h.reads (Nat.le_refl _) hend
  rw [read?, hvalue]
  rfl

end ApiLinks.Json

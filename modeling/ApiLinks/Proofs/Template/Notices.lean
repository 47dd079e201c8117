import ApiLinks.Proofs.Number.Decimal
import ApiLinks.Proofs.Template.Varspecs
import ApiLinks.Proofs.Text.Trimmed
import Mathlib.Data.List.Forall2

/-!
# Notices of an expression

No entry of an expression body is lost without a word: one that is not blank is read as a
specification, or leaves a notice that it names no variable. A text behind a colon that is no length
leaves a notice, too, and nothing else does.

* `Expression.entries body` : the entries that are not blank, without the blanks around them;
* `Varspec.HasBadLength entry length name` : the entry has a colon, and behind it no length;
* `Varspec.IsNameless entry` : nothing but blanks stands in front of the star or the colon of the entry;
* `Varspec.Remarks entry notices` : the notices of an entry, that on the length first;
* `Varspec.lengthRemark_parts`, `Varspec.parts_name_eq_nil_iff` : the two halves of reading an entry;
* `Varspec.remarks_ofEntry`, `Varspec.ofEntry_conserves` : what reading an entry
  leaves, and that it leaves something;
* `Expression.notices_account` : what reading a body leaves, entry by entry and in numbers.
-/

namespace ApiLinks

open Text (Blanks)

/-- The notice that an entry is left out. -/
def Notice.isNameless : Notice → Bool
  | badLength _ _ => false
  | nameless _ => true

namespace Varspec

/-- The entry ends in no star and has a colon; what stands behind the first one is no length. -/
structure HasBadLength (entry length name : Text) : Prop where
  no_star : entry.getLast? ≠ some '*'
  entry_eq : entry = name ++ ':' :: length
  no_colon : ':' ∉ name
  no_length : ∀ n, Number.Denotes length.trim n → ¬ (0 < n ∧ n < Nat.pow 2 64)

/-- Nothing but blanks stands where the name should be: in front of the star at the
end, or else in front of a colon. -/
inductive IsNameless : Text → Prop
  | star {name : Text} : Blanks name → IsNameless (name ++ ['*'])
  | colon {name length : Text} : (name ++ ':' :: length).getLast? ≠ some '*' → Blanks name →
      IsNameless (name ++ ':' :: length)

/-- The notice on a bad length, with the texts at the two sides of the colon as they stand there. -/
inductive LengthRemark (entry : Text) : List Notice → Prop
  | bad {length name : Text} : HasBadLength entry length name → LengthRemark entry [.badLength length name]
  | none : (∀ length name, ¬ HasBadLength entry length name) → LengthRemark entry []

/-- The notice on a missing name, with the entry. -/
inductive NameRemark (entry : Text) : List Notice → Prop
  | missing : IsNameless entry → NameRemark entry [.nameless entry]
  | none : ¬ IsNameless entry → NameRemark entry []

/-- The notices of an entry: that on the length, and behind it that on the name. -/
def Remarks (entry : Text) (notices : List Notice) : Prop :=
  ∃ onLength onName, LengthRemark entry onLength ∧ NameRemark entry onName ∧ notices = onLength ++ onName

variable {entry : Text}

/-! ## The halves of an entry -/

theorem length?_eq_none_iff {t : Text} :
    length? t = none ↔ ∀ n, Number.Denotes t n → ¬ (0 < n ∧ n < lengthBound) := by
  simp only [Option.eq_none_iff_forall_ne_some, ne_eq, length?_eq_some_iff,
    Number.unsigned?_eq_some_iff, not_and]

theorem lengthRemark_parts (entry : Text) : LengthRemark entry (parts entry).2.2 := by
  unfold parts
  cases hstar : Text.dropLast? '*' entry with
  | some name =>
    refine .none fun length name h => h.no_star ?_
    rw [Text.dropLast?_eq_some_iff.mp hstar, List.getLast?_concat]
  | none =>
    cases hcut : Text.cut? ':' entry with
    | none =>
      refine .none fun length name h => Text.cut?_eq_none_iff.mp hcut ?_
      rw [h.entry_eq]
      exact List.mem_append_right name List.mem_cons_self
    | some sides =>
      obtain ⟨name, length⟩ := sides
      obtain ⟨hentry, hcolon⟩ := Text.cut?_eq_some hcut
      simp only
      cases hlength : length? length.trim with
      | none => exact .bad ⟨Text.dropLast?_eq_none_iff.mp hstar, hentry, hcolon, length?_eq_none_iff.mp hlength⟩
      | some n =>
        -- the first colon is at one place only, and what stands behind it is a length
        refine .none fun length' name' h => ?_
        have hsame := hcut
        rw [h.entry_eq, Text.cut?_append h.no_colon] at hsame
        obtain ⟨rfl, rfl⟩ := Prod.mk.inj (Option.some.inj hsame)
        rw [length?_eq_none_iff.mpr h.no_length] at hlength
        cases hlength

theorem parts_name_of_cut {name length : Text} (hstar : Text.dropLast? '*' entry = none)
    (hcut : Text.cut? ':' entry = some (name, length)) : (parts entry).1 = name.trimEnd := by
  simp only [parts, hstar, hcut]
  cases length? length.trim <;> rfl

theorem parts_name_eq_nil_iff (hne : entry ≠ []) : (parts entry).1 = [] ↔ IsNameless entry := by
  cases hstar : Text.dropLast? '*' entry with
  | some name =>
    obtain rfl := Text.dropLast?_eq_some_iff.mp hstar
    simp only [parts, hstar, Text.trimEnd_eq_nil_iff]
    refine ⟨.star, fun h => ?_⟩
    generalize hentry : name ++ ['*'] = entry at h
    cases h with
    | star hblanks => rwa [List.append_cancel_right hentry]
    | colon hlast => exact absurd (by rw [← hentry, List.getLast?_concat]) hlast
  | none =>
    have hlast := Text.dropLast?_eq_none_iff.mp hstar
    have hnot {name : Text} : entry ≠ name ++ ['*'] := fun heq => hlast (by rw [heq, List.getLast?_concat])
    cases hcut : Text.cut? ':' entry with
    | none =>
      simp only [parts, hstar, hcut]
      refine ⟨fun hnil => absurd hnil hne, fun h => ?_⟩
      cases h with
      | star => exact absurd rfl hnot
      | colon => exact absurd (List.mem_append_right _ List.mem_cons_self) (Text.cut?_eq_none_iff.mp hcut)
    | some sides =>
      obtain ⟨name, length⟩ := sides
      rw [parts_name_of_cut hstar hcut, Text.trimEnd_eq_nil_iff]
      constructor
      · intro hblanks
        obtain ⟨rfl, -⟩ := Text.cut?_eq_some hcut
        exact .colon hlast hblanks
      · intro h
        cases h with
        | star => exact absurd rfl hnot
        | colon _ hblanks =>
          -- blanks hold no colon, so that this is the first colon of the entry
          rw [Text.cut?_append (hblanks.not_mem rfl)] at hcut
          rwa [← (Prod.mk.inj (Option.some.inj hcut)).1]

/-! ## One entry -/

/-- Reading looks at an entry without the blanks around it. -/
theorem ofEntry_trim (entry : Text) : ofEntry entry.trim = ofEntry entry := by
  simp only [ofEntry, Text.trim_eq_self (Text.isTrimmed_trim entry)]

theorem ofEntry_of_trim_eq_nil (h : entry.trim = []) : ofEntry entry = ⟨none, []⟩ := by
  simp only [ofEntry, h, List.isEmpty_nil, if_true]

theorem ofEntry_of_ne_nil (ht : entry.trim = entry) (hne : entry ≠ []) :
    ofEntry entry = if (parts entry).1 = [] then ⟨none, (parts entry).2.2 ++ [.nameless entry]⟩
      else ⟨some ⟨(parts entry).1, (parts entry).2.1⟩, (parts entry).2.2⟩ := by
  simp only [ofEntry, ht, List.isEmpty_eq_false_iff.mpr hne, Bool.false_eq_true, if_false, List.isEmpty_iff]

theorem remarks_ofEntry (ht : entry.trim = entry) (hne : entry ≠ []) :
    Remarks entry (ofEntry entry).notices := by
  rw [ofEntry_of_ne_nil ht hne]
  by_cases hname : (parts entry).1 = []
  · rw [if_pos hname]
    exact ⟨_, _, lengthRemark_parts entry, .missing ((parts_name_eq_nil_iff hne).mp hname), rfl⟩
  · rw [if_neg hname]
    exact ⟨_, _, lengthRemark_parts entry, .none fun h => hname ((parts_name_eq_nil_iff hne).mpr h),
      (List.append_nil _).symm⟩

theorem LengthRemark.countP_eq_zero {notices : List Notice} (h : LengthRemark entry notices) :
    notices.countP Notice.isNameless = 0 := by
  cases h <;> rfl

/-- An entry that is not blank is a specification or leaves one notice that it is none, and not both. -/
theorem ofEntry_conserves (ht : entry.trim = entry) (hne : entry ≠ []) :
    (ofEntry entry).varspec.toList.length + (ofEntry entry).notices.countP Notice.isNameless = 1 := by
  have hlength := (lengthRemark_parts entry).countP_eq_zero
  rw [ofEntry_of_ne_nil ht hne]
  split
  · rw [List.countP_append, hlength]
    rfl
  · rw [hlength]
    rfl

end Varspec

namespace Expression

/-- The entries of a body that are not blank, in order and without the blanks around them. -/
def entries (body : Text) : List Text :=
  (((splitOperator body).2.splitOn ',').map Text.trim).filter fun entry => entry ≠ []

theorem trim_of_mem_entries {body entry : Text} (h : entry ∈ entries body) :
    entry.trim = entry ∧ entry ≠ [] := by
  obtain ⟨hin, hne⟩ := List.mem_filter.mp h
  obtain ⟨raw, -, rfl⟩ := List.mem_map.mp hin
  exact ⟨Text.trim_eq_self (Text.isTrimmed_trim raw), of_decide_eq_true hne⟩

/-- Blank entries leave nothing, whatever is read off the entries. -/
theorem flatMap_readings {α : Type} (f : EntryReading → List α) (hf : f ⟨none, []⟩ = []) (body : Text) :
    (readings body).flatMap f = (entries body).flatMap fun entry => f (Varspec.ofEntry entry) := by
  unfold readings entries
  induction (splitOperator body).2.splitOn ',' with
  | nil => rfl
  | cons raw rest ih =>
    rw [List.map_cons, List.flatMap_cons, ih, List.map_cons, List.filter_cons]
    by_cases hblank : Text.trim raw = []
    · rw [if_neg (by simpa using hblank), Varspec.ofEntry_of_trim_eq_nil hblank, hf, List.nil_append]
    · rw [if_pos (by simpa using hblank), List.flatMap_cons, Varspec.ofEntry_trim]

theorem notices_eq_flatMap (body : Text) :
    notices body = (entries body).flatMap fun entry => (Varspec.ofEntry entry).notices :=
  flatMap_readings (·.notices) rfl body

theorem varspecs_eq_flatMap (body : Text) :
    (ofBody body).varspecs = (entries body).flatMap fun entry => (Varspec.ofEntry entry).varspec.toList := by
  rw [ofBody, List.filterMap_eq_flatMap_toList]
  exact flatMap_readings (·.varspec.toList) rfl body

end Expression

/-- **Every entry of a body that is not blank is accounted for.** The notices are those of the entries in
their order: one where a colon has no length behind it, then one where there is no name, and no others. The
entries are as many as the specifications and the notices on missing names together. -/
theorem Expression.notices_account (body : Text) :
    (∃ remarks, notices body = remarks.flatten ∧ List.Forall₂ Varspec.Remarks (entries body) remarks) ∧
      (entries body).length = (ofBody body).varspecs.length + (notices body).countP Notice.isNameless := by
  constructor
  · refine ⟨(entries body).map fun entry => (Varspec.ofEntry entry).notices, ?_, ?_⟩
    · rw [notices_eq_flatMap, List.flatMap_def]
    · rw [List.forall₂_map_right_iff, List.forall₂_same]
      intro entry hentry
      obtain ⟨ht, hne⟩ := trim_of_mem_entries hentry
      exact Varspec.remarks_ofEntry ht hne
  · rw [varspecs_eq_flatMap, notices_eq_flatMap]
    have hone : ∀ entry ∈ entries body,
        (Varspec.ofEntry entry).varspec.toList.length +
          (Varspec.ofEntry entry).notices.countP Notice.isNameless = 1 := by
      intro entry hentry
      obtain ⟨ht, hne⟩ := trim_of_mem_entries hentry
      exact Varspec.ofEntry_conserves ht hne
    generalize entries body = entries at hone
    induction entries with
    | nil => rfl
    | cons entry rest ih =>
      have hhead := hone entry List.mem_cons_self
      have hrest := ih fun other hother => hone other (List.mem_cons_of_mem entry hother)
      rw [List.flatMap_cons, List.flatMap_cons, List.length_append, List.countP_append, List.length_cons]
      omega

/-- A star alone, a blank entry, a length without a name and a bad one, and a bad length behind a name. -/
example : Expression.notices "?*, ,:3,:x,b: 0".toList =
    [.nameless "*".toList, .nameless ":3".toList, .badLength "x".toList [], .nameless ":x".toList,
      .badLength " 0".toList "b".toList] := by decide

end ApiLinks

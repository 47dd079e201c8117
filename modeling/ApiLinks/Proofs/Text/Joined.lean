import ApiLinks.Text.Basic

/-!
# Joined texts

* `joined_cons`, `joined_append` : a separator stands between each two texts and nowhere else;
* `joined_map_joined` : joining groups of texts and then the groups is joining
  all texts, unless a group is empty;
* `mem_joined`, `infix_joined` : what a joined text holds comes from the texts and the
  separator, and each text is in it;
* `prefix_joined` : it begins with the first text;
* `joined_eq_nil_iff` : nothing comes of no text and of the empty one alone;
* `not_mem_of_mem_splitOn` : a piece between separators holds none;
* `Grows ts us` : further texts have come in among `ts`, none of them empty; the joined text then keeps what
  it held (`Grows.joined_sublist`) and is longer (`Grows.length_joined_lt`).
-/

namespace ApiLinks.Text

variable {sep : Text}

@[simp] theorem joined_singleton (t : Text) : joined sep [t] = t := List.intercalate_singleton

theorem joined_cons (t : Text) {ts : List Text} (h : ts ≠ []) :
    joined sep (t :: ts) = t ++ sep ++ joined sep ts :=
  List.intercalate_cons_of_ne_nil h

theorem joined_append {ts us : List Text} (ht : ts ≠ []) (hu : us ≠ []) :
    joined sep (ts ++ us) = joined sep ts ++ sep ++ joined sep us := by
  induction ts with
  | nil => exact absurd rfl ht
  | cons t ts ih =>
    by_cases hts : ts = []
    · subst hts
      rw [List.singleton_append, joined_cons t hu, joined_singleton]
    · rw [List.cons_append, joined_cons t (by simp [hts]), ih hts, joined_cons t hts]
      simp only [List.append_assoc]

theorem joined_map_joined {groups : List (List Text)} (h : [] ∉ groups) :
    joined sep (groups.map (joined sep)) = joined sep groups.flatten := by
  induction groups with
  | nil => rfl
  | cons g groups ih =>
    obtain ⟨hg, hgs⟩ : g ≠ [] ∧ [] ∉ groups := by simpa [eq_comm] using h
    by_cases hn : groups = []
    · subst hn
      simp
    · have hne : groups.flatten ≠ [] := by
        obtain ⟨k, rest, rfl⟩ := List.exists_cons_of_ne_nil hn
        intro hf
        rw [List.flatten_cons, List.append_eq_nil_iff] at hf
        exact hgs (by simp [hf.1])
      rw [List.map_cons, joined_cons _ (by simpa using hn), ih hgs, List.flatten_cons, joined_append hg hne]

/-- A joined text has its characters from the texts and from what separates them. -/
theorem mem_joined {c : Char} {ts : List Text} (h : c ∈ joined sep ts) : c ∈ sep ∨ ∃ t ∈ ts, c ∈ t := by
  induction ts with
  | nil => cases h
  | cons t ts ih =>
    by_cases hts : ts = []
    · subst hts
      rw [joined_singleton] at h
      exact Or.inr ⟨t, List.mem_singleton_self t, h⟩
    · rw [joined_cons t hts, List.mem_append, List.mem_append] at h
      rcases h with (h | h) | h
      · exact Or.inr ⟨t, List.mem_cons_self, h⟩
      · exact Or.inl h
      · rcases ih h with hsep | ⟨u, hu, hc⟩
        · exact Or.inl hsep
        · exact Or.inr ⟨u, List.mem_cons_of_mem t hu, hc⟩

theorem prefix_joined (t : Text) (ts : List Text) : t <+: joined sep (t :: ts) := by
  by_cases hts : ts = []
  · subst hts
    simp only [joined_singleton, List.prefix_refl]
  · rw [joined_cons t hts, List.append_assoc]
    exact List.prefix_append t _

theorem infix_joined {t : Text} {ts : List Text} (h : t ∈ ts) : t <:+: joined sep ts := by
  induction ts with
  | nil => cases h
  | cons u ts ih =>
    by_cases hts : ts = []
    · subst hts
      obtain rfl := List.mem_singleton.mp h
      simp only [joined_singleton, List.infix_refl]
    · rw [joined_cons u hts]
      rcases List.mem_cons.mp h with rfl | h
      · exact ((List.prefix_append t sep).trans (List.prefix_append _ _)).isInfix
      · exact (ih h).trans (List.suffix_append _ _).isInfix

theorem joined_ne_nil {t : Text} {ts : List Text} (ht : t ∈ ts) (hne : t ≠ []) : joined sep ts ≠ [] :=
  fun h => hne (List.infix_nil.mp (h ▸ infix_joined ht))

theorem joined_eq_nil_iff (hsep : sep ≠ []) {ts : List Text} : joined sep ts = [] ↔ ts = [] ∨ ts = [[]] := by
  cases ts with
  | nil => exact ⟨fun _ => Or.inl rfl, fun _ => rfl⟩
  | cons t rest =>
    by_cases hrest : rest = []
    · subst hrest
      simp
    · rw [joined_cons t hrest]
      simp [hsep, hrest]

theorem not_mem_of_mem_splitOn {c : Char} {t piece : Text} (h : piece ∈ t.splitOn c) : c ∉ piece := by
  induction t generalizing piece with
  | nil =>
    obtain rfl := List.mem_singleton.mp h
    exact List.not_mem_nil
  | cons d rest ih =>
    rw [List.splitOn_cons_eq_if_modifyHead] at h
    split at h
    · rcases List.mem_cons.mp h with rfl | h
      · exact List.not_mem_nil
      · exact ih h
    · rename_i hd
      -- the character goes in front of the first piece of the rest
      obtain ⟨first, others, hsplit⟩ := List.exists_cons_of_ne_nil (List.splitOn_ne_nil c rest)
      rw [hsplit, List.modifyHead_cons] at h
      rcases List.mem_cons.mp h with rfl | h
      · have hfirst : c ∉ first := ih (hsplit ▸ List.mem_cons_self)
        simp [hfirst, Ne.symm (by simpa using hd : d ≠ c)]
      · exact ih (hsplit ▸ List.mem_cons_of_mem first h)

/-! ### More texts -/

/-- The second list is the first one with further texts in it, none of them empty. -/
inductive Grows : List Text → List Text → Prop
  | nil : Grows [] []
  | keep (t : Text) {ts us : List Text} : Grows ts us → Grows (t :: ts) (t :: us)
  | add {t : Text} {ts us : List Text} : t ≠ [] → Grows ts us → Grows ts (t :: us)

namespace Grows

variable {ts us vs ws : List Text}

theorem refl : ∀ ts : List Text, Grows ts ts
  | [] => nil
  | t :: ts => keep t (refl ts)

theorem append (h : Grows ts us) (k : Grows vs ws) : Grows (ts ++ vs) (us ++ ws) := by
  induction h with
  | nil => exact k
  | keep t _ ih => exact keep t ih
  | add ht _ ih => exact add ht ih

theorem length_le (h : Grows ts us) : ts.length ≤ us.length := by
  induction h with
  | nil => exact Nat.le_refl 0
  | keep t _ ih => exact Nat.succ_le_succ ih
  | add ht _ ih => exact Nat.le_succ_of_le ih

theorem eq_nil (h : Grows ts []) : ts = [] := List.length_eq_zero_iff.mp (Nat.le_zero.mp h.length_le)

theorem joined_sublist (h : Grows ts us) : (joined sep ts).Sublist (joined sep us) := by
  induction h with
  | nil => exact List.Sublist.refl _
  | @keep t ts us h ih =>
    by_cases hts : ts = []
    · subst hts
      by_cases hus : us = []
      · subst hus
        exact List.Sublist.refl _
      · rw [joined_singleton, joined_cons t hus, List.append_assoc]
        exact List.sublist_append_left t _
    · have hus : us ≠ [] := fun hn => hts (eq_nil (hn ▸ h))
      rw [joined_cons t hts, joined_cons t hus]
      exact ih.append_left _
  | @add t ts us ht h ih =>
    by_cases hus : us = []
    · subst hus
      obtain rfl := h.eq_nil
      exact List.nil_sublist _
    · rw [joined_cons t hus]
      exact ih.trans (List.sublist_append_right _ _)

theorem length_joined_lt (h : Grows ts us) (hne : ts ≠ us) :
    (joined sep ts).length < (joined sep us).length := by
  induction h with
  | nil => exact absurd rfl hne
  | @keep t ts us h ih =>
    have hlt := ih fun heq => hne (congrArg (t :: ·) heq)
    have hus : us ≠ [] := by
      rintro rfl
      exact absurd hlt (Nat.not_lt_zero _)
    rw [joined_cons t hus, List.length_append, List.length_append]
    by_cases hts : ts = []
    · subst hts
      rw [joined_singleton]
      have hnil : (joined sep []).length = 0 := rfl
      omega
    · rw [joined_cons t hts, List.length_append, List.length_append]
      omega
  | @add t ts us ht h ih =>
    have hpos : 0 < t.length := List.length_pos_iff.mpr ht
    by_cases hus : us = []
    · subst hus
      obtain rfl := h.eq_nil
      rw [joined_singleton]
      exact hpos
    · have hle : (joined sep ts).length ≤ (joined sep us).length := h.joined_sublist.length_le
      rw [joined_cons t hus, List.length_append, List.length_append]
      omega

end Grows

end ApiLinks.Text

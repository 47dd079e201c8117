import Mathlib.Data.List.Forall2

/-!
# Reading in order

A list whose items are read one after the other, each of which may fail.

* `FirstFailure f xs e` : `e` is the error of the first item that fails;
* `mapM_eq_ok_iff` : the list is read to a list of what its items are read to;
* `exists_mapM_eq_ok_iff` : it is read if every item is;
* `mapM_eq_error_iff` : it fails with the error of the first item that fails.
-/

namespace ApiLinks

variable {α β ε : Type} {f : α → Except ε β}

/-- The error of an item in front of which every item is read. -/
def FirstFailure (f : α → Except ε β) (xs : List α) (e : ε) : Prop :=
  ∃ before x after, xs = before ++ x :: after ∧ (∀ y ∈ before, ∃ z, f y = .ok z) ∧ f x = .error e

theorem not_firstFailure_nil (e : ε) : ¬ FirstFailure f [] e := by
  rintro ⟨before, x, after, hsplit, -⟩
  exact List.append_ne_nil_of_right_ne_nil before (List.cons_ne_nil x after) hsplit.symm

theorem firstFailure_cons_iff {x : α} {xs : List α} {e : ε} :
    FirstFailure f (x :: xs) e ↔ f x = .error e ∨ (∃ y, f x = .ok y) ∧ FirstFailure f xs e := by
  constructor
  · rintro ⟨before, y, after, hsplit, hbefore, hy⟩
    cases before with
    | nil =>
      obtain ⟨rfl, -⟩ := List.cons.inj hsplit
      exact Or.inl hy
    | cons z before =>
      obtain ⟨rfl, rfl⟩ := List.cons.inj hsplit
      exact Or.inr ⟨hbefore x List.mem_cons_self,
        before, y, after, rfl, fun w hw => hbefore w (List.mem_cons_of_mem x hw), hy⟩
  · rintro (hx | ⟨hx, before, y, after, rfl, hbefore, hy⟩)
    · exact ⟨[], x, xs, rfl, fun _ hy => (List.not_mem_nil hy).elim, hx⟩
    · refine ⟨x :: before, y, after, rfl, fun w hw => ?_, hy⟩
      rcases List.mem_cons.mp hw with rfl | hw
      · exact hx
      · exact hbefore w hw

theorem mapM_cons_of_error {x : α} {e : ε} (hx : f x = .error e) (xs : List α) :
    (x :: xs).mapM f = .error e := by
  rw [List.mapM_cons, hx]
  rfl

theorem mapM_cons_of_ok {x : α} {y : β} (hx : f x = .ok y) (xs : List α) :
    (x :: xs).mapM f = (xs.mapM f).map (y :: ·) := by
  rw [List.mapM_cons, hx]
  cases xs.mapM f <;> rfl

theorem mapM_eq_ok_iff {xs : List α} {ys : List β} :
    xs.mapM f = .ok ys ↔ List.Forall₂ (fun x y => f x = .ok y) xs ys := by
  induction xs generalizing ys with
  | nil =>
    rw [List.forall₂_nil_left_iff, List.mapM_nil]
    exact ⟨fun h => (Except.ok.inj h).symm, fun h => congrArg Except.ok h.symm⟩
  | cons x xs ih =>
    rw [List.forall₂_cons_left_iff]
    simp only [← ih]
    cases hx : f x with
    | error e =>
      rw [mapM_cons_of_error hx]
      constructor
      · rintro ⟨⟩
      · rintro ⟨_, _, ⟨⟩, _⟩
    | ok y =>
      rw [mapM_cons_of_ok hx]
      cases xs.mapM f with
      | error e =>
        constructor
        · rintro ⟨⟩
        · rintro ⟨_, _, _, ⟨⟩, _⟩
      | ok zs =>
        constructor
        · rintro ⟨⟩
          exact ⟨y, zs, rfl, rfl, rfl⟩
        · rintro ⟨_, _, ⟨⟩, ⟨⟩, rfl⟩
          rfl

theorem exists_mapM_eq_ok_iff {xs : List α} : (∃ ys, xs.mapM f = .ok ys) ↔ ∀ x ∈ xs, ∃ y, f x = .ok y := by
  induction xs with
  | nil => exact ⟨fun _ _ hx => (List.not_mem_nil hx).elim, fun _ => ⟨[], rfl⟩⟩
  | cons x xs ih =>
    rw [List.forall_mem_cons, ← ih]
    cases hx : f x with
    | error e => simp [mapM_cons_of_error hx]
    | ok y =>
      rw [mapM_cons_of_ok hx]
      cases xs.mapM f <;> simp [Except.map]

theorem mapM_eq_error_iff {xs : List α} {e : ε} : xs.mapM f = .error e ↔ FirstFailure f xs e := by
  induction xs with
  | nil =>
    rw [List.mapM_nil]
    constructor
    · rintro ⟨⟩
    · exact fun h => (not_firstFailure_nil e h).elim
  | cons x xs ih =>
    rw [firstFailure_cons_iff, ← ih]
    cases hx : f x with
    | error e' => simp [mapM_cons_of_error hx]
    | ok y =>
      rw [mapM_cons_of_ok hx]
      cases xs.mapM f <;> simp [Except.map]

end ApiLinks

import Mathlib

/-!
# The first difference of two lists

Two lists of the same length are compared by their first differing elements, as `memcmp` does.

## Main definitions

* `firstDifference`: the first pair of differing elements

## Main results

* `firstDifference_eq_none_iff`: no difference means equal lists
* `lt_iff_firstDifference`: the lexicographic order looks at the first difference
-/

namespace FirstDifference

variable {α : Type*} [DecidableEq α]

/-- The first pair of differing elements at the same position. -/
def firstDifference (xs ys : List α) : Option (α × α) :=
  (xs.zip ys).find? fun p => p.1 ≠ p.2

@[simp] theorem firstDifference_cons_self (x : α) (xs ys : List α) :
    firstDifference (x :: xs) (x :: ys) = firstDifference xs ys := by
  simp [firstDifference]

theorem firstDifference_cons_of_ne {x y : α} (h : x ≠ y) (xs ys : List α) :
    firstDifference (x :: xs) (y :: ys) = some (x, y) := by
  simp [firstDifference, h]

theorem ne_of_firstDifference {xs ys : List α} {p : α × α}
    (h : firstDifference xs ys = some p) : p.1 ≠ p.2 := by
  simpa using List.find?_some h

theorem firstDifference_eq_none_iff {xs ys : List α} (h : xs.length = ys.length) :
    firstDifference xs ys = none ↔ xs = ys := by
  induction xs generalizing ys with
  | nil =>
    cases ys with
    | nil => simp [firstDifference]
    | cons y ys => simp at h
  | cons x xs ih =>
    cases ys with
    | nil => simp at h
    | cons y ys =>
      -- equal heads are skipped, different ones are the first difference
      by_cases hxy : x = y
      · subst hxy
        rw [firstDifference_cons_self, ih (by simpa using h)]
        simp
      · rw [firstDifference_cons_of_ne hxy]
        simp [hxy]

theorem firstDifference_comm (xs ys : List α) :
    firstDifference ys xs = (firstDifference xs ys).map Prod.swap := by
  induction xs generalizing ys with
  | nil => simp [firstDifference]
  | cons x xs ih =>
    cases ys with
    | nil => simp [firstDifference]
    | cons y ys =>
      by_cases hxy : x = y
      · subst hxy
        rw [firstDifference_cons_self, firstDifference_cons_self, ih]
      · rw [firstDifference_cons_of_ne hxy, firstDifference_cons_of_ne (Ne.symm hxy)]
        rfl

theorem firstDifference_map {β : Type*} [DecidableEq β] {f : α → β} (hf : f.Injective)
    (xs ys : List α) :
    firstDifference (xs.map f) (ys.map f) = (firstDifference xs ys).map (Prod.map f f) := by
  induction xs generalizing ys with
  | nil => simp [firstDifference]
  | cons x xs ih =>
    cases ys with
    | nil => simp [firstDifference]
    | cons y ys =>
      by_cases hxy : x = y
      · subst hxy
        simp only [List.map_cons, firstDifference_cons_self, ih]
      · simp only [List.map_cons]
        rw [firstDifference_cons_of_ne hxy, firstDifference_cons_of_ne (hf.ne hxy)]
        rfl

section Order

variable [LinearOrder α]

theorem lt_iff_firstDifference {xs ys : List α} (h : xs.length = ys.length) :
    xs < ys ↔ ∃ x y, firstDifference xs ys = some (x, y) ∧ x < y := by
  induction xs generalizing ys with
  | nil =>
    cases ys with
    | nil => simp [firstDifference]
    | cons y ys => simp at h
  | cons x xs ih =>
    cases ys with
    | nil => simp at h
    | cons y ys =>
      -- the order of lists of one length is decided where they differ first
      by_cases hxy : x = y
      · subst hxy
        rw [firstDifference_cons_self, ← ih (by simpa using h)]
        simp
      · rw [firstDifference_cons_of_ne hxy]
        simp [List.cons_lt_cons_iff, hxy]

end Order

end FirstDifference

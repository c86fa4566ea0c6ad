import Mathlib

/-!
# Comparisons by rank

A comparison function returns a positive number where its first argument is better, a negative one
where its second argument is, and zero for a tie. Where it compares by a rank in a linear order it
is a strict weak order, and a running selection ends with a best element.

## Main definitions

* `Compares`: on a set, the comparison prefers the smaller rank
* `runningBest`: the running selection

## Main results

* `Compares.better_trans`, `Compares.tie_trans`: both relations are transitive
* `Compares.runningBest_best`: the selected element is one of the best
* `Compares.best_iff_tie`: the best elements are those that tie with it, whatever the order
-/

namespace Ranking

variable {α β : Type*} [LinearOrder β] {cmp : α → α → ℤ} {rank : α → β} {S : Set α}

/-- On `S` the comparison prefers the smaller rank. -/
def Compares (cmp : α → α → ℤ) (rank : α → β) (S : Set α) : Prop :=
  ∀ a ∈ S, ∀ b ∈ S, (0 < cmp a b ↔ rank a < rank b) ∧ (cmp a b < 0 ↔ rank b < rank a)

theorem Compares.eq_zero_iff (h : Compares cmp rank S) {a b : α} (ha : a ∈ S) (hb : b ∈ S) :
    cmp a b = 0 ↔ rank a = rank b := by
  obtain ⟨hpos, hneg⟩ := h a ha b hb
  constructor
  · intro hzero
    apply le_antisymm
    · exact not_lt.mp (mt hneg.mpr (by omega))
    · exact not_lt.mp (mt hpos.mpr (by omega))
  · intro heq
    have hpos' : ¬0 < cmp a b := mt hpos.mp heq.not_lt
    have hneg' : ¬cmp a b < 0 := mt hneg.mp heq.not_gt
    omega

theorem Compares.better_trans (h : Compares cmp rank S) {a b c : α} (ha : a ∈ S) (hb : b ∈ S)
    (hc : c ∈ S) (hab : 0 < cmp a b) (hbc : 0 < cmp b c) : 0 < cmp a c := by
  have hab' := (h a ha b hb).1.mp hab
  have hbc' := (h b hb c hc).1.mp hbc
  exact (h a ha c hc).1.mpr (hab'.trans hbc')

theorem Compares.tie_trans (h : Compares cmp rank S) {a b c : α} (ha : a ∈ S) (hb : b ∈ S)
    (hc : c ∈ S) (hab : cmp a b = 0) (hbc : cmp b c = 0) : cmp a c = 0 := by
  rw [h.eq_zero_iff ha hb] at hab
  rw [h.eq_zero_iff hb hc] at hbc
  exact (h.eq_zero_iff ha hc).mpr (hab.trans hbc)

/-! ## Running selection -/

/-- The selection loop: from `x` on, an element that `replaces` the present one takes its
place. -/
def running (replaces : α → α → Bool) (x : α) (xs : List α) : α :=
  xs.foldl (fun best y => if replaces y best then y else best) x

theorem running_mem (replaces : α → α → Bool) (x : α) (xs : List α) :
    running replaces x xs ∈ x :: xs := by
  induction xs generalizing x with
  | nil => simp [running]
  | cons y xs ih =>
    rw [running, List.foldl_cons]
    split
    · exact List.mem_cons_of_mem x (ih y)
    · rcases List.mem_cons.mp (ih x) with heq | hmem
      · exact List.mem_cons.mpr (.inl heq)
      · exact List.mem_cons_of_mem x (List.mem_cons_of_mem y hmem)

/-- A loop in which the elements of smaller rank replace the others ends at the smallest rank. -/
theorem rank_running_le {replaces : α → α → Bool} {x : α} {xs : List α}
    (h : ∀ a ∈ x :: xs, ∀ b ∈ x :: xs, replaces a b ↔ rank a < rank b) :
    ∀ y ∈ x :: xs, rank (running replaces x xs) ≤ rank y := by
  induction xs generalizing x with
  | nil => simp [running]
  | cons z xs ih =>
    have hz := h z (by simp) x (by simp)
    rw [running, List.foldl_cons]
    intro y hy
    -- the induction goes on with whichever of the two is kept
    by_cases hr : replaces z x = true
    · rw [if_pos hr]
      have hbest := ih (x := z) fun a ha b hb =>
        h a (List.mem_cons_of_mem x ha) b (List.mem_cons_of_mem x hb)
      rcases List.mem_cons.mp hy with rfl | hy
      · exact (hbest z List.mem_cons_self).trans (hz.mp hr).le
      · exact hbest y hy
    · rw [if_neg hr]
      have hkeep : ∀ a ∈ x :: xs, a ∈ x :: z :: xs := by
        intro a ha
        rcases List.mem_cons.mp ha with rfl | ha
        · exact List.mem_cons_self
        · exact List.mem_cons_of_mem x (List.mem_cons_of_mem z ha)
      have hbest := ih (x := x) fun a ha b hb => h a (hkeep a ha) b (hkeep b hb)
      rcases List.mem_cons.mp hy with rfl | hy
      · exact hbest y List.mem_cons_self
      · rcases List.mem_cons.mp hy with rfl | hy
        · exact (hbest x List.mem_cons_self).trans (not_lt.mp (mt hz.mpr hr))
        · exact hbest y (List.mem_cons_of_mem x hy)

/-- The selection of a best element: a better element replaces the present one. -/
def runningBest (cmp : α → α → ℤ) : α → List α → α := running fun a b => 0 < cmp a b

theorem Compares.runningBest_best (h : Compares cmp rank S) {x : α} {xs : List α}
    (hS : ∀ y ∈ x :: xs, y ∈ S) : ∀ y ∈ x :: xs, ¬0 < cmp y (runningBest cmp x xs) := by
  have hle : ∀ y ∈ x :: xs, rank (runningBest cmp x xs) ≤ rank y := by
    apply rank_running_le
    intro a ha b hb
    rw [decide_eq_true_iff]
    exact (h a (hS a ha) b (hS b hb)).1
  have hmem : runningBest cmp x xs ∈ x :: xs := running_mem _ x xs
  intro y hy
  rw [(h y (hS y hy) _ (hS _ hmem)).1]
  exact (hle y hy).not_gt

/-- Nothing is better than an element if and only if it ties with the selected one. -/
theorem Compares.best_iff_tie (h : Compares cmp rank S) {x : α} {xs : List α}
    (hS : ∀ y ∈ x :: xs, y ∈ S) {y : α} (hy : y ∈ x :: xs) :
    (∀ z ∈ x :: xs, ¬0 < cmp z y) ↔ cmp y (runningBest cmp x xs) = 0 := by
  have hbest := h.runningBest_best hS
  have hmem : runningBest cmp x xs ∈ x :: xs := running_mem _ x xs
  rw [h.eq_zero_iff (hS y hy) (hS _ hmem)]
  constructor
  · intro hnone
    -- neither of the two ranks below the other
    have hle := mt (h _ (hS _ hmem) y (hS y hy)).1.mpr (hnone _ hmem)
    have hge := mt (h y (hS y hy) _ (hS _ hmem)).1.mpr (hbest y hy)
    exact le_antisymm (not_lt.mp hle) (not_lt.mp hge)
  · intro heq z hz
    have hz' := mt (h z (hS z hz) _ (hS _ hmem)).1.mpr (hbest z hz)
    rw [(h z (hS z hz) y (hS y hy)).1, heq]
    exact hz'

end Ranking

import Mathlib

/-!
# Ring buffers

A ring of slots with two indices that wrap around. The elements stand in the slots after the tail up
to the head; a ring whose indices are equal is empty, so one slot is never used.

## Main definitions

* `contents slots tail head`: the elements, the oldest one first

## Main results

* `length_contents_le`: there is at least one slot more than elements
* `contents_put`, `contents_get`: storing behind the head and taking after the tail
* `full_iff`, `empty_iff`: the tests on the indices
-/

namespace RingBuffer

variable {α : Type*} {n : ℕ}

/-- The elements of the ring, the oldest one first. -/
def contents (slots : Fin (n + 1) → α) (tail head : Fin (n + 1)) : List α :=
  (List.range (head - tail).val).map fun i => slots (tail + 1 + Fin.ofNat (n + 1) i)

variable {slots : Fin (n + 1) → α} {tail head : Fin (n + 1)}

@[simp] theorem length_contents : (contents slots tail head).length = (head - tail).val := by
  simp [contents]

theorem length_contents_le : (contents slots tail head).length ≤ n := by
  rw [length_contents]
  omega

theorem empty_iff : tail = head ↔ contents slots tail head = [] := by
  rw [← List.length_eq_zero_iff, length_contents, Fin.val_eq_zero_iff, sub_eq_zero]
  exact eq_comm

@[simp] theorem contents_self : contents slots tail tail = [] := empty_iff.mp rfl

/-- The distance of the indices grows by one with the head, unless they meet. -/
theorem val_add_one_sub (h : head + 1 ≠ tail) :
    (head + 1 - tail).val = (head - tail).val + 1 := by
  have hsum : head + 1 - tail = (head - tail) + 1 := by abel
  have hlast : head - tail ≠ Fin.last n := by
    intro heq
    apply h
    have hzero : (head - tail) + 1 = 0 := by rw [heq, Fin.last_add_one]
    rw [← hsum, sub_eq_zero] at hzero
    exact hzero
  rw [hsum]
  exact Fin.val_add_one_of_lt (Fin.lt_last_iff_ne_last.mpr hlast)

theorem full_iff : head + 1 = tail ↔ (contents slots tail head).length = n := by
  rw [length_contents]
  constructor
  · rintro rfl
    -- one step behind the head is a whole turn, less the step
    have hminus : head - (head + 1) = Fin.last n := by
      rw [eq_comm, ← sub_eq_zero]
      have : Fin.last n - (head - (head + 1)) = Fin.last n + 1 := by abel
      rw [this, Fin.last_add_one]
    rw [hminus]
    rfl
  · intro h
    by_contra hne
    have := val_add_one_sub hne
    omega

/-- The slot after the head is not one of the elements, unless the ring is full. -/
theorem slot_ne {i : ℕ} (hi : i < (head - tail).val) :
    tail + 1 + Fin.ofNat (n + 1) i ≠ head + 1 := by
  intro h
  have heq : Fin.ofNat (n + 1) i = head - tail := by
    have : Fin.ofNat (n + 1) i = (tail + 1 + Fin.ofNat (n + 1) i) - 1 - tail := by abel
    rw [this, h]
    abel
  rw [← heq] at hi
  have hmod : (Fin.ofNat (n + 1) i).val ≤ i := Nat.mod_le i (n + 1)
  omega

/-- **Storing an element** behind the head of a ring that is not full. -/
theorem contents_put (h : head + 1 ≠ tail) (x : α) :
    contents (Function.update slots (head + 1) x) tail (head + 1) =
      contents slots tail head ++ [x] := by
  unfold contents
  rw [val_add_one_sub h, List.range_succ, List.map_append, List.map_singleton]
  congr 1
  · refine List.map_congr_left fun i hi => ?_
    exact Function.update_of_ne (slot_ne (List.mem_range.mp hi)) _ _
  · have hnew : tail + 1 + Fin.ofNat (n + 1) (head - tail).val = head + 1 := by
      rw [Fin.ofNat_eq_cast, Fin.cast_val_eq_self]
      abel
    rw [hnew, Function.update_self]

/-- **Taking the oldest element** of a ring that is not empty. -/
theorem contents_get (h : tail ≠ head) :
    contents slots tail head = slots (tail + 1) :: contents slots (tail + 1) head := by
  -- the distance shrinks by one, without a wrap since the ring is not empty
  have hval : (head - tail).val = (head - (tail + 1)).val + 1 := by
    have hne : head - (tail + 1) ≠ Fin.last n := by
      intro heq
      apply h
      have hzero : (head - (tail + 1)) + 1 = 0 := by rw [heq, Fin.last_add_one]
      have hsub : head - tail = (head - (tail + 1)) + 1 := by abel
      rw [← hsub, sub_eq_zero] at hzero
      exact hzero.symm
    have hsub : head - tail = (head - (tail + 1)) + 1 := by abel
    rw [hsub]
    exact Fin.val_add_one_of_lt (Fin.lt_last_iff_ne_last.mpr hne)
  unfold contents
  rw [hval, List.range_succ_eq_map, List.map_cons, List.map_map]
  -- the first slot, and the others counted from the next tail on
  congr 1
  · simp
  · refine List.map_congr_left fun i _ => ?_
    have hslot : tail + 1 + Fin.ofNat (n + 1) (i + 1) = tail + 1 + 1 + Fin.ofNat (n + 1) i := by
      have hcast : Fin.ofNat (n + 1) (i + 1) = Fin.ofNat (n + 1) i + 1 := by
        apply Fin.ext
        simp [Fin.val_add]
      rw [hcast]
      abel
    exact congrArg slots hslot

end RingBuffer

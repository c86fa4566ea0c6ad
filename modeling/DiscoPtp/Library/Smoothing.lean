import Mathlib

/-!
# Exponential smoothing in integers

A smoothed value is kept as a sum scaled by a power of two, its order. A new sample adds its
difference from the value to the sum; the order may change from sample to sample, and the sum with
it.

## Main definitions

* `Average`, `Average.value`: the scaled sum and the value it stands for
* `Average.rescale`, `Average.add`: change of the order, and a new sample

## Main results

* `Average.value_rescale`: the order does not matter for the value
* `Average.value_add_between`: a new value lies between the old one and the sample
* `Average.sum_bounds`: how large the sum gets
-/

namespace Smoothing

/-- A sum at an order. -/
structure Average where
  sum : ℤ
  order : ℕ

namespace Average

/-- The smoothed value. -/
def value (a : Average) : ℤ := a.sum / 2 ^ a.order

/-- The same value at another order. -/
def rescale (a : Average) (order : ℕ) : Average :=
  { sum :=
      if order < a.order then a.sum / 2 ^ (a.order - order) else a.sum * 2 ^ (order - a.order)
    order }

/-- One more sample. -/
def add (a : Average) (x : ℤ) : Average := { a with sum := a.sum + (x - a.value) }

variable (a : Average)

theorem mul_value_le : a.value * 2 ^ a.order ≤ a.sum :=
  Int.ediv_mul_le _ (by positivity)

theorem sum_lt_mul_value : a.sum < (a.value + 1) * 2 ^ a.order :=
  Int.lt_ediv_add_one_mul_self _ (by positivity)

@[simp] theorem value_rescale (order : ℕ) : (a.rescale order).value = a.value := by
  unfold value rescale
  by_cases h : order < a.order
  · simp only [if_pos h]
    have hexp : a.order = (a.order - order) + order := by omega
    rw [Int.ediv_ediv_of_nonneg (by positivity), ← pow_add, ← hexp]
  · simp only [if_neg h]
    have hexp : order = a.order + (order - a.order) := by omega
    have hpow : (2 : ℤ) ^ order = 2 ^ a.order * 2 ^ (order - a.order) := by rw [← pow_add, ← hexp]
    rw [hpow]
    exact Int.mul_ediv_mul_of_pos_left _ _ (by positivity)

@[simp] theorem rescale_order (order : ℕ) : (a.rescale order).order = order := rfl

@[simp] theorem add_order (x : ℤ) : (a.add x).order = a.order := rfl

/-- A new value lies between the old one and the sample. -/
theorem value_add_between (x : ℤ) :
    min a.value x ≤ (a.add x).value ∧ (a.add x).value ≤ max a.value x := by
  -- the value is a floor: the sum lies between two multiples of `2 ^ order`
  have hlo := a.mul_value_le
  have hhi := a.sum_lt_mul_value
  have hpow : (1 : ℤ) ≤ 2 ^ a.order := one_le_pow₀ (by decide)
  unfold add
  generalize hv : a.value = v at hlo hhi ⊢
  change _ ≤ (a.sum + (x - v)) / 2 ^ a.order ∧ (a.sum + (x - v)) / 2 ^ a.order ≤ _
  rcases le_total v x with hx | hx
  · rw [min_eq_left hx, max_eq_right hx]
    constructor
    · apply Int.le_ediv_of_mul_le (by positivity)
      omega
    · -- the sum stays below the next multiple after the sample
      apply Int.le_of_lt_add_one
      apply Int.ediv_lt_of_lt_mul (by positivity)
      nlinarith
  · rw [min_eq_right hx, max_eq_left hx]
    constructor
    · apply Int.le_ediv_of_mul_le (by positivity)
      nlinarith
    · apply Int.le_of_lt_add_one
      apply Int.ediv_lt_of_lt_mul (by positivity)
      omega

/-- The sum of a value within `2 ^ m` is within `2 ^ (m + order)`. -/
theorem sum_bounds {m : ℕ} (hlo : -2 ^ m ≤ a.value) (hhi : a.value < 2 ^ m) :
    -2 ^ (m + a.order) ≤ a.sum ∧ a.sum < 2 ^ (m + a.order) := by
  have hpow : (0 : ℤ) < 2 ^ a.order := by positivity
  constructor
  · calc -2 ^ (m + a.order) = -2 ^ m * 2 ^ a.order := by rw [pow_add, neg_mul]
      _ ≤ a.value * 2 ^ a.order := mul_le_mul_of_nonneg_right hlo hpow.le
      _ ≤ a.sum := a.mul_value_le
  · calc a.sum < (a.value + 1) * 2 ^ a.order := a.sum_lt_mul_value
      _ ≤ 2 ^ m * 2 ^ a.order := mul_le_mul_of_nonneg_right hhi hpow.le
      _ = 2 ^ (m + a.order) := (pow_add 2 m a.order).symm

end Average

end Smoothing

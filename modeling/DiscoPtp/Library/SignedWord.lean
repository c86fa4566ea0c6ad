import Mathlib

/-!
# Signed 32-bit words

Arithmetic of `Int32` read as integers: a result that fits in the word is the integer result.

## Main results

* `toInt_add_of_fits`, `toInt_sub_of_fits`, `toInt_mul_of_fits`, `toInt_ofInt_of_fits`
* `toNat_toUInt32_of_nonneg`: a word that is not negative, without its sign
* `toInt_div_pos`: division by a positive word never overflows
* `remainder_of_nonneg`, `remainder_of_nonpos`: the remainder has the sign of the dividend
* `ofNat_int16_inj`: counters of 16 bits agree modulo `2 ^ 16`
-/

namespace SignedWord

/-- `n` is the value of a signed 32-bit word. -/
def Fits (n : ℤ) : Prop := -2147483648 ≤ n ∧ n < 2147483648

theorem fits_toInt (x : Int32) : Fits x.toInt :=
  ⟨Int32.le_toInt x, Int32.toInt_lt x⟩

theorem bmod_of_fits {n : ℤ} (h : Fits n) : n.bmod (2 ^ 32) = n := by
  obtain ⟨hlo, hhi⟩ := h
  exact Int.bmod_eq_of_le (by norm_num; omega) (by norm_num; omega)

theorem toInt_ofInt_of_fits {n : ℤ} (h : Fits n) : (Int32.ofInt n).toInt = n := by
  rw [Int32.toInt_ofInt]
  exact bmod_of_fits h

theorem toInt_add_of_fits {x y : Int32} (h : Fits (x.toInt + y.toInt)) :
    (x + y).toInt = x.toInt + y.toInt := by
  rw [Int32.toInt_add, bmod_of_fits h]

theorem toInt_sub_of_fits {x y : Int32} (h : Fits (x.toInt - y.toInt)) :
    (x - y).toInt = x.toInt - y.toInt := by
  rw [Int32.toInt_sub, bmod_of_fits h]

theorem toInt_mul_of_fits {x y : Int32} (h : Fits (x.toInt * y.toInt)) :
    (x * y).toInt = x.toInt * y.toInt := by
  rw [Int32.toInt_mul, bmod_of_fits h]

/-- A word that is not negative has the same value without a sign. -/
theorem toNat_toUInt32_of_nonneg {x : Int32} (h : 0 ≤ x.toInt) :
    (x.toUInt32.toNat : ℤ) = x.toInt := by
  have hnat : x.toUInt32.toNat = x.toBitVec.toNat := rfl
  have hint : x.toInt = x.toBitVec.toInt := rfl
  have hcond := BitVec.toInt_eq_toNat_cond x.toBitVec
  have hlt := x.toBitVec.isLt
  split at hcond <;> omega

/-! ## Truncated division -/

theorem remainder_of_nonneg {n d : ℤ} (hd : 0 < d) (hn : 0 ≤ n) :
    0 ≤ n - d * n.tdiv d ∧ n - d * n.tdiv d < d := by
  rw [← Int.tmod_def]
  exact ⟨Int.tmod_nonneg d hn, Int.tmod_lt_of_pos n hd⟩

theorem remainder_of_nonpos {n d : ℤ} (hd : 0 < d) (hn : n ≤ 0) :
    -d < n - d * n.tdiv d ∧ n - d * n.tdiv d ≤ 0 := by
  have h := remainder_of_nonneg hd (Int.neg_nonneg_of_nonpos hn)
  rw [Int.neg_tdiv, Int.mul_neg] at h
  omega

theorem toInt_div_pos {x d : Int32} (hd : 0 < d.toInt) :
    (x / d).toInt = x.toInt.tdiv d.toInt := by
  rw [Int32.toInt_div]
  apply bmod_of_fits
  obtain ⟨hlo, hhi⟩ := fits_toInt x
  have hone : 1 ≤ d.toInt := hd
  -- the quotient is no larger in magnitude than the dividend; only a divisor `-1` could overflow
  rcases le_total 0 x.toInt with hx | hx
  · have := Int.tdiv_nonneg hx hd.le
    have := Int.tdiv_le_self d.toInt hx
    exact ⟨by omega, by omega⟩
  · have := Int.tdiv_nonneg (Int.neg_nonneg_of_nonpos hx) hd.le
    have := Int.tdiv_le_self d.toInt (Int.neg_nonneg_of_nonpos hx)
    rw [Int.neg_tdiv] at *
    exact ⟨by omega, by omega⟩

/-! ## Counters of 16 bits -/

theorem ofNat_int16_inj {m n : ℕ} : Int16.ofNat m = Int16.ofNat n ↔ m % 65536 = n % 65536 := by
  rw [← Int16.toInt_inj, Int16.toInt_ofNat', Int16.toInt_ofNat', Int.bmod_def, Int.bmod_def]
  norm_num
  split <;> split <;> omega

end SignedWord

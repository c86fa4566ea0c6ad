import DiscoPtp.Model.Arith
import DiscoPtp.Library.SignedWord

/-!
# Canonical times

A `TimeInternal` is canonical when its nanoseconds are less than a second and do not have the sign
opposite to its seconds. It stands for a number of nanoseconds.

## Main definitions

* `Canonical`: canonical times
* `TimeInternal.toNs`: the value in nanoseconds

## Main results

* `normalizeTime_canonical`: `normalizeTime` always gives a canonical time
* `normalizeTime_of_canonical`: it leaves a canonical time as it is
* `toNs_addTime`, `toNs_subTime`, `toNs_div2Time`, `toNs_scaled`: the arithmetic on the values
* `floorLog2_eq`: `floorLog2` is the integer logarithm
-/

namespace Ptpd

open SignedWord

/-- A canonical time. -/
def Canonical (t : TimeInternal) : Prop :=
  -1000000000 < t.nanoseconds.toInt ∧ t.nanoseconds.toInt < 1000000000 ∧
    (0 < t.seconds.toInt → 0 ≤ t.nanoseconds.toInt) ∧
    (t.seconds.toInt < 0 → t.nanoseconds.toInt ≤ 0)

instance (t : TimeInternal) : Decidable (Canonical t) := inferInstanceAs (Decidable (_ ∧ _))

theorem canonical_zero : Canonical ⟨0, 0⟩ := by decide

theorem toInt_billion : (1000000000 : Int32).toInt = 1000000000 := by decide

theorem toInt_div_billion (x : Int32) : (x / 1000000000).toInt = x.toInt.tdiv 1000000000 := by
  rw [toInt_div_pos (by rw [toInt_billion]; norm_num), toInt_billion]

/-- The whole seconds in a word of nanoseconds are at most two. -/
theorem tdiv_billion_bounds (x : Int32) :
    -2 ≤ x.toInt.tdiv 1000000000 ∧ x.toInt.tdiv 1000000000 ≤ 2 := by
  obtain ⟨hlo, hhi⟩ := fits_toInt x
  rcases le_total 0 x.toInt with hx | hx
  · have := remainder_of_nonneg (d := 1000000000) (by norm_num) hx
    omega
  · have := remainder_of_nonpos (d := 1000000000) (by norm_num) hx
    omega

/-- The nanoseconds that `normalizeTime` leaves before it looks at the signs. -/
theorem toInt_sub_billions (x : Int32) :
    (x - x / 1000000000 * 1000000000).toInt =
      x.toInt - 1000000000 * x.toInt.tdiv 1000000000 := by
  have hq := tdiv_billion_bounds x
  have hmul : (x / 1000000000 * 1000000000).toInt = 1000000000 * x.toInt.tdiv 1000000000 := by
    rw [toInt_mul_of_fits, toInt_div_billion, toInt_billion, mul_comm]
    rw [toInt_div_billion, toInt_billion]
    exact ⟨by omega, by omega⟩
  rw [toInt_sub_of_fits, hmul]
  rw [hmul]
  obtain ⟨hlo, hhi⟩ := fits_toInt x
  rcases le_total 0 x.toInt with hx | hx
  · have := remainder_of_nonneg (d := 1000000000) (by norm_num) hx
    exact ⟨by omega, by omega⟩
  · have := remainder_of_nonpos (d := 1000000000) (by norm_num) hx
    exact ⟨by omega, by omega⟩

theorem toInt_sub_billions_bounds (x : Int32) :
    -1000000000 < (x - x / 1000000000 * 1000000000).toInt ∧
      (x - x / 1000000000 * 1000000000).toInt < 1000000000 := by
  rw [toInt_sub_billions]
  rcases le_total 0 x.toInt with hx | hx
  · have := remainder_of_nonneg (d := 1000000000) (by norm_num) hx
    omega
  · have := remainder_of_nonpos (d := 1000000000) (by norm_num) hx
    omega

/-- The sign correction of `normalizeTime`, on nanoseconds less than a second. -/
theorem canonical_of_signs {seconds nanoseconds : Int32} (hlo : -1000000000 < nanoseconds.toInt)
    (hhi : nanoseconds.toInt < 1000000000) :
    Canonical
      (if 0 < seconds ∧ nanoseconds < 0 then
        { seconds := seconds - 1, nanoseconds := nanoseconds + 1000000000 }
      else if seconds < 0 ∧ 0 < nanoseconds then
        { seconds := seconds + 1, nanoseconds := nanoseconds - 1000000000 }
      else { seconds, nanoseconds }) := by
  have hzero : (0 : Int32).toInt = 0 := rfl
  have hone : (1 : Int32).toInt = 1 := rfl
  have hsec := fits_toInt seconds
  simp only [Int32.lt_iff_toInt_lt, hzero]
  simp only [Fits] at hsec
  split
  case isTrue h =>
    rw [Canonical, toInt_sub_of_fits (by rw [hone]; exact ⟨by omega, by omega⟩),
      toInt_add_of_fits (by rw [toInt_billion]; exact ⟨by omega, by omega⟩), toInt_billion, hone]
    omega
  case isFalse hpos =>
    split
    case isTrue h =>
      rw [Canonical, toInt_add_of_fits (by rw [hone]; exact ⟨by omega, by omega⟩),
        toInt_sub_of_fits (by rw [toInt_billion]; exact ⟨by omega, by omega⟩), toInt_billion, hone]
      omega
    case isFalse hneg =>
      simp only [Canonical]
      omega

theorem normalizeTime_canonical (r : TimeInternal) : Canonical (normalizeTime r) := by
  obtain ⟨hlo, hhi⟩ := toInt_sub_billions_bounds r.nanoseconds
  exact canonical_of_signs hlo hhi

theorem normalizeTime_of_canonical {r : TimeInternal} (h : Canonical r) : normalizeTime r = r := by
  obtain ⟨hlo, hhi, hpos, hneg⟩ := h
  have hq : r.nanoseconds / 1000000000 = 0 := by
    apply Int32.toInt.inj
    rw [toInt_div_billion]
    rcases le_total 0 r.nanoseconds.toInt with hx | hx
    · exact Int.tdiv_eq_zero_of_lt hx hhi
    · have := Int.tdiv_eq_zero_of_lt (Int.neg_nonneg_of_nonpos hx) (b := 1000000000) (by omega)
      rw [Int.neg_tdiv] at this
      simpa using this
  have hzero : (0 : Int32).toInt = 0 := rfl
  unfold normalizeTime
  simp only [hq, Int32.add_zero, Int32.zero_mul, Int32.sub_zero, Int32.lt_iff_toInt_lt, hzero]
  rw [if_neg (by omega), if_neg (by omega)]

theorem addTime_canonical (x y : TimeInternal) : Canonical (addTime x y) :=
  normalizeTime_canonical _

theorem subTime_canonical (x y : TimeInternal) : Canonical (subTime x y) :=
  normalizeTime_canonical _

theorem div2Time_canonical (r : TimeInternal) : Canonical (div2Time r) :=
  normalizeTime_canonical _

/-- A hardware time is canonical as long as its seconds are not read as a negative number. -/
theorem HwTime.canonical (t : HwTime) (h : 0 ≤ t.time.seconds) : Canonical t.time := by
  have hns := t.nanoseconds_nonneg
  have hlt := t.nanoseconds_lt
  have hzero : (0 : Int32).toInt = 0 := rfl
  rw [Int32.le_iff_toInt_le, hzero] at h hns
  rw [Int32.lt_iff_toInt_lt, toInt_billion] at hlt
  exact ⟨by omega, hlt, fun _ => hns, fun h' => by omega⟩

/-! ## Values in nanoseconds -/

/-- The value in nanoseconds. -/
def TimeInternal.toNs (t : TimeInternal) : ℤ := 1000000000 * t.seconds.toInt + t.nanoseconds.toInt

/-- The value below which sums and differences of canonical times do not overflow. -/
def Moderate (n : ℤ) : Prop := -2 ^ 60 ≤ n ∧ n ≤ 2 ^ 60

/-- The value of a canonical time determines it. -/
theorem Canonical.eq_of_toNs {x y : TimeInternal} (hx : Canonical x) (hy : Canonical y)
    (h : x.toNs = y.toNs) : x = y := by
  simp only [Canonical, TimeInternal.toNs] at hx hy h
  have hs : x.seconds.toInt = y.seconds.toInt := by omega
  have hn : x.nanoseconds.toInt = y.nanoseconds.toInt := by omega
  cases x
  cases y
  exact congrArg₂ TimeInternal.mk (Int32.toInt.inj hs) (Int32.toInt.inj hn)

/-- A canonical time of less than a second has no seconds. -/
theorem Canonical.eq_nanoseconds {t : TimeInternal} {n : ℤ} (h : Canonical t) (ht : t.toNs = n)
    (hlo : -1000000000 < n) (hhi : n < 1000000000) : t = ⟨0, Int32.ofInt n⟩ := by
  have hzero : (0 : Int32).toInt = 0 := rfl
  have hn : (Int32.ofInt n).toInt = n := toInt_ofInt_of_fits ⟨by omega, by omega⟩
  refine h.eq_of_toNs ?_ ?_
  · simp only [Canonical, hzero, hn]
    omega
  · simp only [TimeInternal.toNs, hzero, hn] at ht ⊢
    omega

/-- The sign correction of `normalizeTime` keeps the value. -/
theorem toNs_of_signs {seconds nanoseconds : Int32} (hlo : -1000000000 < nanoseconds.toInt)
    (hhi : nanoseconds.toInt < 1000000000) :
    (if 0 < seconds ∧ nanoseconds < 0 then
      { seconds := seconds - 1, nanoseconds := nanoseconds + 1000000000 }
    else if seconds < 0 ∧ 0 < nanoseconds then
      { seconds := seconds + 1, nanoseconds := nanoseconds - 1000000000 }
    else ⟨seconds, nanoseconds⟩ : TimeInternal).toNs =
      (⟨seconds, nanoseconds⟩ : TimeInternal).toNs := by
  have hzero : (0 : Int32).toInt = 0 := rfl
  have hone : (1 : Int32).toInt = 1 := rfl
  have hsec := fits_toInt seconds
  simp only [Int32.lt_iff_toInt_lt, hzero]
  simp only [Fits] at hsec
  split
  case isTrue h =>
    simp only [TimeInternal.toNs]
    rw [toInt_sub_of_fits (by rw [hone]; exact ⟨by omega, by omega⟩),
      toInt_add_of_fits (by rw [toInt_billion]; exact ⟨by omega, by omega⟩), toInt_billion, hone]
    omega
  case isFalse hpos =>
    split
    case isTrue h =>
      simp only [TimeInternal.toNs]
      rw [toInt_add_of_fits (by rw [hone]; exact ⟨by omega, by omega⟩),
        toInt_sub_of_fits (by rw [toInt_billion]; exact ⟨by omega, by omega⟩), toInt_billion, hone]
      omega
    case isFalse hneg => rfl

theorem toNs_normalizeTime {r : TimeInternal}
    (h : Fits (r.seconds.toInt + r.nanoseconds.toInt.tdiv 1000000000)) :
    (normalizeTime r).toNs = r.toNs := by
  obtain ⟨hlo, hhi⟩ := toInt_sub_billions_bounds r.nanoseconds
  have hns := toInt_sub_billions r.nanoseconds
  have hsec : (r.seconds + r.nanoseconds / 1000000000).toInt =
      r.seconds.toInt + r.nanoseconds.toInt.tdiv 1000000000 := by
    rw [toInt_add_of_fits, toInt_div_billion]
    rw [toInt_div_billion]
    exact h
  refine (toNs_of_signs hlo hhi).trans ?_
  simp only [TimeInternal.toNs, hsec, hns]
  omega

section Sums

variable {x y : TimeInternal}

/-- The nanoseconds are less than a second, whatever their sign. -/
def SubSecond (t : TimeInternal) : Prop :=
  -1000000000 < t.nanoseconds.toInt ∧ t.nanoseconds.toInt < 1000000000

theorem Canonical.subSecond {t : TimeInternal} (h : Canonical t) : SubSecond t := ⟨h.1, h.2.1⟩

/-- `n` is strictly inside the range of a word, so that a carry fits as well. -/
def FitsStrictly (n : ℤ) : Prop := -2147483648 < n ∧ n < 2147483647

/-- Two times of less than a second carry at most one. -/
theorem tdiv_billion_of_two {m : ℤ} (hlo : -2000000000 < m) (hhi : m < 2000000000) :
    -1 ≤ m.tdiv 1000000000 ∧ m.tdiv 1000000000 ≤ 1 := by
  rcases le_total 0 m with hm | hm
  · have := remainder_of_nonneg (d := 1000000000) (by norm_num) hm
    omega
  · have := remainder_of_nonpos (d := 1000000000) (by norm_num) hm
    omega

/-- `addTime` is exact as long as the seconds stay strictly inside their range. -/
theorem toNs_addTime_of_fits (hx : SubSecond x) (hy : SubSecond y)
    (h : FitsStrictly (x.seconds.toInt + y.seconds.toInt)) :
    (addTime x y).toNs = x.toNs + y.toNs := by
  simp only [SubSecond, FitsStrictly] at hx hy h
  have hs : (x.seconds + y.seconds).toInt = x.seconds.toInt + y.seconds.toInt :=
    toInt_add_of_fits ⟨by omega, by omega⟩
  have hn : (x.nanoseconds + y.nanoseconds).toInt = x.nanoseconds.toInt + y.nanoseconds.toInt :=
    toInt_add_of_fits ⟨by omega, by omega⟩
  have hq := tdiv_billion_of_two (m := x.nanoseconds.toInt + y.nanoseconds.toInt) (by omega)
    (by omega)
  unfold addTime
  rw [toNs_normalizeTime ⟨by simp only [hs, hn]; omega, by simp only [hs, hn]; omega⟩]
  simp only [TimeInternal.toNs, hs, hn]
  omega

/-- `subTime` is exact as long as the seconds stay strictly inside their range. -/
theorem toNs_subTime_of_fits (hx : SubSecond x) (hy : SubSecond y)
    (h : FitsStrictly (x.seconds.toInt - y.seconds.toInt)) :
    (subTime x y).toNs = x.toNs - y.toNs := by
  simp only [SubSecond, FitsStrictly] at hx hy h
  have hs : (x.seconds - y.seconds).toInt = x.seconds.toInt - y.seconds.toInt :=
    toInt_sub_of_fits ⟨by omega, by omega⟩
  have hn : (x.nanoseconds - y.nanoseconds).toInt = x.nanoseconds.toInt - y.nanoseconds.toInt :=
    toInt_sub_of_fits ⟨by omega, by omega⟩
  have hq := tdiv_billion_of_two (m := x.nanoseconds.toInt - y.nanoseconds.toInt) (by omega)
    (by omega)
  unfold subTime
  rw [toNs_normalizeTime ⟨by simp only [hs, hn]; omega, by simp only [hs, hn]; omega⟩]
  simp only [TimeInternal.toNs, hs, hn]
  omega

theorem toNs_addTime (hx : Canonical x) (hy : Canonical y) (h : Moderate (x.toNs + y.toNs)) :
    (addTime x y).toNs = x.toNs + y.toNs := by
  apply toNs_addTime_of_fits hx.subSecond hy.subSecond
  simp only [Canonical, Moderate, TimeInternal.toNs] at hx hy h
  exact ⟨by omega, by omega⟩

theorem toNs_subTime (hx : Canonical x) (hy : Canonical y) (h : Moderate (x.toNs - y.toNs)) :
    (subTime x y).toNs = x.toNs - y.toNs := by
  apply toNs_subTime_of_fits hx.subSecond hy.subSecond
  simp only [Canonical, Moderate, TimeInternal.toNs] at hx hy h
  exact ⟨by omega, by omega⟩

/-- Halving, for a time of less than two seconds. -/
theorem toNs_div2Time (hx : Canonical x) {n : ℤ} (h : x.toNs = 2 * n) (hlo : 0 ≤ n)
    (hhi : n < 1000000000) : (div2Time x).toNs = n := by
  simp only [Canonical, TimeInternal.toNs] at hx h
  have hzero : (0 : Int32).toInt = 0 := rfl
  have hone : (1 : Int32).toInt = 1 := rfl
  have hhalf (m : Int32) (hm : m.toInt = 2 * n) : (m / 2).toInt = n := by
    rw [toInt_div_pos (d := 2) (by decide), hm]
    exact Int.mul_tdiv_cancel_left n (by decide)
  -- the odd second goes into the nanoseconds
  have hcases : x.seconds = 0 ∧ x.nanoseconds.toInt = 2 * n ∨
      x.seconds = 1 ∧ x.nanoseconds.toInt + 1000000000 = 2 * n := by
    rcases (by omega : x.seconds.toInt = 0 ∨ x.seconds.toInt = 1) with hs | hs
    · exact .inl ⟨Int32.toInt.inj (hs.trans hzero.symm), by omega⟩
    · exact .inr ⟨Int32.toInt.inj (hs.trans hone.symm), by omega⟩
  have hresult (m : Int32) (hm : m.toInt = 2 * n) : (normalizeTime ⟨0, m / 2⟩).toNs = n := by
    have hcanonical : Canonical ⟨0, m / 2⟩ := by
      simp only [Canonical, hhalf m hm, hzero]
      omega
    rw [normalizeTime_of_canonical hcanonical]
    simp only [TimeInternal.toNs, hzero, hhalf m hm]
    omega
  obtain ⟨seconds, nanoseconds⟩ := x
  have hzeros : (0 : Int32) / 2 = 0 ∧ (0 : Int32) % 2 * 1000000000 = 0 := by decide
  have hones : (1 : Int32) / 2 = 0 ∧ (1 : Int32) % 2 * 1000000000 = 1000000000 := by decide
  unfold div2Time
  rcases hcases with ⟨rfl, hm⟩ | ⟨rfl, hm⟩
  · simp only [hzeros, Int32.add_zero]
    exact hresult nanoseconds hm
  · simp only [hones]
    refine hresult (nanoseconds + 1000000000) ?_
    have hsum : nanoseconds.toInt + 1000000000 = 2 * n := hm
    rw [toInt_add_of_fits, toInt_billion]
    · exact hsum
    · rw [toInt_billion]
      exact ⟨by omega, by omega⟩

end Sums

/-! ## Correction fields -/

/-- A correction field of whole nanoseconds, not negative. -/
structure WholeNs (scaledNanoseconds : Int64) (n : ℤ) : Prop where
  value : scaledNanoseconds.toInt = 65536 * n
  nonneg : 0 ≤ n

theorem WholeNs.lt {x : Int64} {n : ℤ} (h : WholeNs x n) : n < 2 ^ 47 := by
  have hlt := Int64.toInt_lt x
  have hvalue := h.value
  omega

/-- The shift of a scaled number drops its fraction. -/
theorem toInt_shiftRight_sixteen (x : Int64) : (x >>> 16).toInt = x.toInt / 65536 := by
  have hshift : (x >>> 16).toBitVec = x.toBitVec.sshiftRight 16 := rfl
  have hint := BitVec.toInt_sshiftRight (x := x.toBitVec) (n := 16)
  rw [← hshift, Int.shiftRight_eq_div_pow] at hint
  exact hint

theorem toInt_shiftRight_whole {x : Int64} {n : ℤ} (h : WholeNs x n) : (x >>> 16).toInt = n := by
  rw [toInt_shiftRight_sixteen, h.value]
  omega

theorem toNs_scaled {x : Int64} {n : ℤ} (h : WholeNs x n) :
    Canonical (scaledNanosecondsToInternalTime x) ∧
      (scaledNanosecondsToInternalTime x).toNs = n := by
  have hlt := h.lt
  have hnonneg := h.nonneg
  have hvalue := h.value
  have hneg : ¬x < 0 := by
    rw [Int64.lt_iff_toInt_lt]
    show ¬x.toInt < 0
    omega
  have hbillion : (1000000000 : Int64).toInt = 1000000000 := by decide
  have hs := toInt_shiftRight_whole h
  have hdiv : ((1 : Int64) * (x >>> 16 / 1000000000)).toInt32.toInt = n / 1000000000 := by
    have hfits : (n / 1000000000).bmod (2 ^ 64) = n / 1000000000 :=
      Int.bmod_eq_of_le (by omega) (by omega)
    rw [Int64.one_mul, Int64.toInt_toInt32, Int64.toInt_div, hs, hbillion,
      Int.tdiv_eq_ediv_of_nonneg hnonneg, hfits, Int.bmod_eq_of_le (by omega) (by omega)]
  have hmod : ((1 : Int64) * (x >>> 16 % 1000000000)).toInt32.toInt = n % 1000000000 := by
    rw [Int64.one_mul, Int64.toInt_toInt32, Int64.toInt_mod, hs, hbillion,
      Int.tmod_eq_emod_of_nonneg hnonneg, Int.bmod_eq_of_le (by omega) (by omega)]
  simp only [scaledNanosecondsToInternalTime, if_neg hneg, Canonical, TimeInternal.toNs, hdiv, hmod]
  omega

/-! ## The integer logarithm -/

/-- One step of the search for the highest bit, which lies below the bit `2 * k`. -/
theorem search_step {n m bound shift : UInt32} {p p' : ℕ} (k : ℕ)
    (h : (if n ≥ bound then (n >>> shift, p + k) else (n, p)) = (m, p'))
    (hbound : bound.toNat = 2 ^ k) (hshift : shift.toNat = k) (hk : k < 32) (hn : 0 < n.toNat)
    (hlt : n.toNat < 2 ^ (k + k)) :
    0 < m.toNat ∧ m.toNat < 2 ^ k ∧
      Nat.log 2 n.toNat + p = Nat.log 2 m.toNat + p' := by
  have hpow : 2 ^ (k + k) = 2 ^ k * 2 ^ k := pow_add 2 k k
  split at h
  case isTrue hge =>
    obtain ⟨rfl, rfl⟩ := Prod.mk.inj h
    rw [ge_iff_le, UInt32.le_iff_toNat_le, hbound] at hge
    have hlog : k ≤ Nat.log 2 n.toNat := Nat.le_log_of_pow_le (by decide) hge
    rw [UInt32.toNat_shiftRight, hshift, Nat.mod_eq_of_lt hk, Nat.shiftRight_eq_div_pow,
      Nat.log_div_base_pow]
    refine ⟨Nat.div_pos hge (Nat.two_pow_pos k), ?_, by omega⟩
    rw [hpow] at hlt
    exact Nat.div_lt_of_lt_mul hlt
  case isFalse hge =>
    obtain ⟨rfl, rfl⟩ := Prod.mk.inj h
    rw [ge_iff_le, UInt32.le_iff_toNat_le, hbound] at hge
    exact ⟨hn, by omega, rfl⟩

/-- **`floorLog2`** is the integer logarithm. -/
theorem floorLog2_eq {n : UInt32} (h : n ≠ 0) : floorLog2 n = Nat.log 2 n.toNat := by
  have hn : 0 < n.toNat := by
    rcases Nat.eq_zero_or_pos n.toNat with h0 | h0
    · exact absurd (UInt32.toNat_inj.mp h0) h
    · exact h0
  unfold floorLog2
  rw [if_neg h]
  generalize h₁ : (if n ≥ 0x10000 then (n >>> 16, 16) else (n, 0)) = r₁
  obtain ⟨n₁, pos₁⟩ := r₁
  dsimp only
  generalize h₂ : (if n₁ ≥ 0x100 then (n₁ >>> 8, pos₁ + 8) else (n₁, pos₁)) = r₂
  obtain ⟨n₂, pos₂⟩ := r₂
  dsimp only
  generalize h₃ : (if n₂ ≥ 0x10 then (n₂ >>> 4, pos₂ + 4) else (n₂, pos₂)) = r₃
  obtain ⟨n₃, pos₃⟩ := r₃
  dsimp only
  generalize h₄ : (if n₃ ≥ 0x4 then (n₃ >>> 2, pos₃ + 2) else (n₃, pos₃)) = r₄
  obtain ⟨n₄, pos₄⟩ := r₄
  dsimp only
  obtain ⟨hpos₁, hlt₁, hlog₁⟩ := search_step (p := 0) 16 h₁ rfl rfl (by decide) hn n.toNat_lt
  obtain ⟨hpos₂, hlt₂, hlog₂⟩ := search_step 8 h₂ rfl rfl (by decide) hpos₁ hlt₁
  obtain ⟨hpos₃, hlt₃, hlog₃⟩ := search_step 4 h₃ rfl rfl (by decide) hpos₂ hlt₂
  obtain ⟨hpos₄, hlt₄, hlog₄⟩ := search_step 2 h₄ rfl rfl (by decide) hpos₃ hlt₃
  -- one to three are left
  have hlast : (if n₄ ≥ 0x2 then (pos₄ : ℤ) + 1 else pos₄) = (Nat.log 2 n₄.toNat : ℤ) + pos₄ := by
    have htwo : (0x2 : UInt32).toNat = 2 := rfl
    have hlog : Nat.log 2 1 = 0 ∧ Nat.log 2 2 = 1 ∧ Nat.log 2 3 = 1 := by decide
    simp only [ge_iff_le, UInt32.le_iff_toNat_le, htwo]
    rcases (by omega : n₄.toNat = 1 ∨ n₄.toNat = 2 ∨ n₄.toNat = 3) with h | h | h
    · rw [h, hlog.1, if_neg (by decide)]
      omega
    · rw [h, hlog.2.1, if_pos (by decide)]
      omega
    · rw [h, hlog.2.2, if_pos (by decide)]
      omega
  rw [hlast]
  omega

end Ptpd

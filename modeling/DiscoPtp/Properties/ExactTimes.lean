import DiscoPtp.Model.CheckedArith
import DiscoPtp.Properties.TimestampRange

/-!
# Exact time arithmetic

The functions of `arith.c` on times in memory: they compute the exact result, in its only canonical
form, and no operation on the way overflows. The arithmetic by value, which wraps, agrees with
them. A correction field is converted exactly unless it is the least one, whose negation overflows.

## Main definitions

* `Computes`: the outcome of an operation that stores one exact result
* `ConvertsExactly`: the exact conversion of a correction field

## Main results

* `normalizeTime_inMemory`, `addTime_inMemory`, `subTime_inMemory`, `div2Time_inMemory`: the
  operations on memory are those by value
* `time_arithmetic_exact`: sums, differences and halves are exact and canonical
* `correction_exact_iff`: the correction fields that are converted exactly
-/

namespace Ptpd

open SignedWord CheckedWord

/-! ## Stores -/

section Stores

variable {Loc : Type} [DecidableEq Loc] {r : Loc} {m : Times Loc} {x y : Int32}

namespace InMemory

@[simp] theorem storeSeconds_self (r : Loc) (x : Int32) (m : Times Loc) :
    storeSeconds r x m r = { m r with seconds := x } :=
  Function.update_self r _ m

@[simp] theorem storeNanoseconds_self (r : Loc) (x : Int32) (m : Times Loc) :
    storeNanoseconds r x m r = { m r with nanoseconds := x } :=
  Function.update_self r _ m

@[simp] theorem storeNanoseconds_storeSeconds (r : Loc) (x y : Int32) (m : Times Loc) :
    storeNanoseconds r y (storeSeconds r x m) = Function.update m r ⟨x, y⟩ := by
  rw [storeNanoseconds, storeSeconds_self]
  exact Function.update_idem _ _ _

/-- The nanoseconds are not touched, whether they are read from the same time or another one. -/
@[simp] theorem storeSeconds_nanoseconds (r a : Loc) (x : Int32) (m : Times Loc) :
    (storeSeconds r x m a).nanoseconds = (m a).nanoseconds := by
  by_cases ha : a = r
  · rw [ha, storeSeconds_self]
  · exact congrArg TimeInternal.nanoseconds (Function.update_of_ne ha _ _)

@[simp] theorem storeNanoseconds_update (r : Loc) (x : Int32) (t : TimeInternal) (m : Times Loc) :
    storeNanoseconds r x (Function.update m r t) =
      Function.update m r { t with nanoseconds := x } := by
  rw [storeNanoseconds, Function.update_self]
  exact Function.update_idem _ _ _

@[simp] theorem storeSeconds_storeNanoseconds (r : Loc) (x y : Int32) (m : Times Loc) :
    storeSeconds r x (storeNanoseconds r y m) = Function.update m r ⟨x, y⟩ := by
  rw [storeSeconds, storeNanoseconds_self]
  exact Function.update_idem _ _ _

end InMemory

/-! ## Operations without overflow -/

theorem add_of_fits (h : Fits (x.toInt + y.toInt)) : add x y = some (x + y) :=
  checked_eq_some_iff.mpr (toInt_add_of_fits h)

theorem sub_of_fits (h : Fits (x.toInt - y.toInt)) : sub x y = some (x - y) :=
  checked_eq_some_iff.mpr (toInt_sub_of_fits h)

theorem mul_of_fits (h : Fits (x.toInt * y.toInt)) : mul x y = some (x * y) :=
  checked_eq_some_iff.mpr (toInt_mul_of_fits h)

theorem div_of_toInt_pos (h : 0 < y.toInt) : div x y = some (x / y) :=
  div_of_pos h (toInt_div_pos h)

theorem mod_of_toInt_pos (h : 0 < y.toInt) : mod x y = some (x % y) :=
  mod_of_pos h (Int32.toInt_mod x y)

open InMemory in
/-- **`normalizeTime` in memory**: it overflows only where the carry does. -/
theorem normalizeTime_inMemory
    (h : Fits ((m r).seconds.toInt + (m r).nanoseconds.toInt.tdiv 1000000000)) :
    InMemory.normalizeTime r m = some (Function.update m r (normalizeTime (m r))) := by
  obtain ⟨hlo, hhi⟩ := toInt_sub_billions_bounds (m r).nanoseconds
  have hq := tdiv_billion_bounds (m r).nanoseconds
  have hquotient := toInt_div_billion (m r).nanoseconds
  have hrest := toInt_sub_billions (m r).nanoseconds
  have hone : (1 : Int32).toInt = 1 := rfl
  have hzero : (0 : Int32).toInt = 0 := rfl
  have hdiv : div (m r).nanoseconds 1000000000 = some ((m r).nanoseconds / 1000000000) :=
    div_of_toInt_pos (by decide)
  have hcarry : add (m r).seconds ((m r).nanoseconds / 1000000000) =
      some ((m r).seconds + (m r).nanoseconds / 1000000000) :=
    add_of_fits (by rwa [hquotient])
  have hmul : mul ((m r).nanoseconds / 1000000000) 1000000000 =
      some ((m r).nanoseconds / 1000000000 * 1000000000) := by
    apply mul_of_fits
    rw [hquotient, toInt_billion]
    exact ⟨by omega, by omega⟩
  have hproduct : ((m r).nanoseconds / 1000000000 * 1000000000).toInt =
      (m r).nanoseconds.toInt.tdiv 1000000000 * 1000000000 := by
    rw [toInt_mul_of_fits, hquotient, toInt_billion]
    rw [hquotient, toInt_billion]
    exact ⟨by omega, by omega⟩
  have hsub : sub (m r).nanoseconds ((m r).nanoseconds / 1000000000 * 1000000000) =
      some ((m r).nanoseconds - (m r).nanoseconds / 1000000000 * 1000000000) := by
    apply sub_of_fits
    rw [hproduct]
    rw [hrest] at hlo hhi
    exact ⟨by omega, by omega⟩
  unfold InMemory.normalizeTime Ptpd.normalizeTime
  simp only [Option.bind_eq_bind, hdiv, Option.bind_some, hcarry, storeSeconds_self, hmul, hsub,
    storeNanoseconds_storeSeconds, Function.update_self]
  -- the sign correction
  generalize (m r).seconds + (m r).nanoseconds / 1000000000 = seconds
  generalize (m r).nanoseconds - (m r).nanoseconds / 1000000000 * 1000000000 = nanoseconds
    at hlo hhi ⊢
  have hseconds := fits_toInt seconds
  have hcorrect (h : seconds.toInt ≠ 0) :
      (0 < seconds.toInt → sub seconds 1 = some (seconds - 1)) ∧
        (seconds.toInt < 0 → add seconds 1 = some (seconds + 1)) := by
    refine ⟨fun hs => sub_of_fits ?_, fun hs => add_of_fits ?_⟩
    · rw [hone]
      exact ⟨by omega, by have := hseconds.2; omega⟩
    · rw [hone]
      exact ⟨by have := hseconds.1; omega, by omega⟩
  split
  case isTrue hsigns =>
    rw [Int32.lt_iff_toInt_lt, Int32.lt_iff_toInt_lt, hzero] at hsigns
    have hadd : add nanoseconds 1000000000 = some (nanoseconds + 1000000000) := by
      apply add_of_fits
      rw [toInt_billion]
      exact ⟨by omega, by omega⟩
    rw [(hcorrect (by omega)).1 hsigns.1, hadd]
    exact congrArg some (Function.update_idem _ _ _)
  case isFalse hpos =>
    split
    case isTrue hsigns =>
      rw [Int32.lt_iff_toInt_lt, Int32.lt_iff_toInt_lt, hzero] at hsigns
      have hsub' : sub nanoseconds 1000000000 = some (nanoseconds - 1000000000) := by
        apply sub_of_fits
        rw [toInt_billion]
        exact ⟨by omega, by omega⟩
      rw [(hcorrect (by omega)).2 hsigns.1, hsub']
      exact congrArg some (Function.update_idem _ _ _)
    case isFalse hneg => rfl

/-! ## Operations on times -/

variable {a b : Loc}

theorem tdiv_billion_of_subSecond {t : TimeInternal} (h : SubSecond t) :
    t.nanoseconds.toInt.tdiv 1000000000 = 0 := by
  obtain ⟨hlo, hhi⟩ := h
  rcases le_total 0 t.nanoseconds.toInt with hn | hn
  · have := remainder_of_nonneg (d := 1000000000) (by norm_num) hn
    omega
  · have := remainder_of_nonpos (d := 1000000000) (by norm_num) hn
    omega

/-- A carry of one fits. -/
theorem fits_carry {s n : ℤ} (hs : FitsStrictly s) (hlo : -2000000000 < n) (hhi : n < 2000000000) :
    Fits (s + n.tdiv 1000000000) := by
  have hcarry := tdiv_billion_of_two hlo hhi
  obtain ⟨hslo, hshi⟩ := hs
  exact ⟨by omega, by omega⟩

theorem addTime_inMemory (ha : SubSecond (m a)) (hb : SubSecond (m b))
    (h : FitsStrictly ((m a).seconds.toInt + (m b).seconds.toInt)) :
    InMemory.addTime r a b m = some (Function.update m r (addTime (m a) (m b))) := by
  obtain ⟨halo, hahi⟩ := ha
  obtain ⟨hblo, hbhi⟩ := hb
  have hs : Fits ((m a).seconds.toInt + (m b).seconds.toInt) := ⟨h.1.le, by have := h.2; omega⟩
  have hn : Fits ((m a).nanoseconds.toInt + (m b).nanoseconds.toInt) := ⟨by omega, by omega⟩
  have hcarry := fits_carry h (n := (m a).nanoseconds.toInt + (m b).nanoseconds.toInt) (by omega)
    (by omega)
  unfold InMemory.addTime
  simp only [Option.bind_eq_bind, add_of_fits hs, Option.bind_some,
    InMemory.storeSeconds_nanoseconds, add_of_fits hn, InMemory.storeNanoseconds_storeSeconds]
  rw [normalizeTime_inMemory, Function.update_self, Function.update_idem]
  · rfl
  · rwa [Function.update_self, toInt_add_of_fits hs, toInt_add_of_fits hn]

theorem subTime_inMemory (ha : SubSecond (m a)) (hb : SubSecond (m b))
    (h : FitsStrictly ((m a).seconds.toInt - (m b).seconds.toInt)) :
    InMemory.subTime r a b m = some (Function.update m r (subTime (m a) (m b))) := by
  obtain ⟨halo, hahi⟩ := ha
  obtain ⟨hblo, hbhi⟩ := hb
  have hs : Fits ((m a).seconds.toInt - (m b).seconds.toInt) := ⟨h.1.le, by have := h.2; omega⟩
  have hn : Fits ((m a).nanoseconds.toInt - (m b).nanoseconds.toInt) := ⟨by omega, by omega⟩
  have hcarry := fits_carry h (n := (m a).nanoseconds.toInt - (m b).nanoseconds.toInt) (by omega)
    (by omega)
  unfold InMemory.subTime
  simp only [Option.bind_eq_bind, sub_of_fits hs, Option.bind_some,
    InMemory.storeSeconds_nanoseconds, sub_of_fits hn, InMemory.storeNanoseconds_storeSeconds]
  rw [normalizeTime_inMemory, Function.update_self, Function.update_idem]
  · rfl
  · rwa [Function.update_self, toInt_sub_of_fits hs, toInt_sub_of_fits hn]

end Stores

/-! ## Halving -/

section Halving

variable {t : TimeInternal}

theorem toInt_mod_two (x : Int32) : (x % 2).toInt = x.toInt.tmod 2 := Int32.toInt_mod x 2

/-- Halves of the same sign are truncated together. -/
theorem tdiv_two_split {s n : ℤ} (h : 0 ≤ s ∧ 0 ≤ n ∨ s ≤ 0 ∧ n ≤ 0) :
    (1000000000 * s + n).tdiv 2 =
      1000000000 * s.tdiv 2 + (n + s.tmod 2 * 1000000000).tdiv 2 := by
  rw [Int.tmod_def]
  rcases h with ⟨hs, hn⟩ | ⟨hs, hn⟩
  · have hseconds := remainder_of_nonneg (d := 2) (by norm_num) hs
    have htotal := remainder_of_nonneg (d := 2) (n := 1000000000 * s + n) (by norm_num) (by omega)
    have hrest := remainder_of_nonneg (d := 2) (n := n + (s - 2 * s.tdiv 2) * 1000000000)
      (by norm_num) (by omega)
    omega
  · have hseconds := remainder_of_nonpos (d := 2) (by norm_num) hs
    have htotal := remainder_of_nonpos (d := 2) (n := 1000000000 * s + n) (by norm_num) (by omega)
    have hrest := remainder_of_nonpos (d := 2) (n := n + (s - 2 * s.tdiv 2) * 1000000000)
      (by norm_num) (by omega)
    omega

/-- The sign of the seconds is that of the nanoseconds, where neither is zero. -/
theorem Canonical.signs (ht : Canonical t) :
    0 ≤ t.seconds.toInt ∧ 0 ≤ t.nanoseconds.toInt ∨
      t.seconds.toInt ≤ 0 ∧ t.nanoseconds.toInt ≤ 0 := by
  obtain ⟨-, -, hpos, hneg⟩ := ht
  omega

/-- The nanoseconds of a canonical time, with those of its odd second. -/
theorem toInt_odd (ht : Canonical t) :
    mul (t.seconds % 2) 1000000000 = some (t.seconds % 2 * 1000000000) ∧
      add t.nanoseconds (t.seconds % 2 * 1000000000) =
        some (t.nanoseconds + t.seconds % 2 * 1000000000) ∧
      (t.nanoseconds + t.seconds % 2 * 1000000000).toInt =
        t.nanoseconds.toInt + t.seconds.toInt.tmod 2 * 1000000000 := by
  have hsigns := ht.signs
  obtain ⟨hlo, hhi, -, -⟩ := ht
  have hodd : -1 ≤ t.seconds.toInt.tmod 2 ∧ t.seconds.toInt.tmod 2 ≤ 1 := by
    rw [Int.tmod_def]
    rcases le_total 0 t.seconds.toInt with hs | hs
    · have := remainder_of_nonneg (d := 2) (by norm_num) hs
      omega
    · have := remainder_of_nonpos (d := 2) (by norm_num) hs
      omega
  have hproduct : Fits ((t.seconds % 2).toInt * (1000000000 : Int32).toInt) := by
    rw [toInt_mod_two, toInt_billion]
    exact ⟨by omega, by omega⟩
  have hvalue : (t.seconds % 2 * 1000000000).toInt = t.seconds.toInt.tmod 2 * 1000000000 := by
    rw [toInt_mul_of_fits hproduct, toInt_mod_two, toInt_billion]
  have hsum : Fits (t.nanoseconds.toInt + (t.seconds % 2 * 1000000000).toInt) := by
    rw [hvalue]
    exact ⟨by omega, by omega⟩
  exact ⟨mul_of_fits hproduct, add_of_fits hsum, by rw [toInt_add_of_fits hsum, hvalue]⟩

/-- `div2Time` halves the seconds and what is left, without a carry. -/
theorem div2Time_eq (ht : Canonical t) :
    Canonical ⟨t.seconds / 2, (t.nanoseconds + t.seconds % 2 * 1000000000) / 2⟩ ∧
      (⟨t.seconds / 2, (t.nanoseconds + t.seconds % 2 * 1000000000) / 2⟩ : TimeInternal).toNs =
        t.toNs.tdiv 2 := by
  obtain ⟨-, -, hodd⟩ := toInt_odd ht
  have hsigns := ht.signs
  obtain ⟨hlo, hhi, -, -⟩ := ht
  have htwo : (2 : Int32).toInt = 2 := rfl
  have hseconds : (t.seconds / 2).toInt = t.seconds.toInt.tdiv 2 := toInt_div_pos (by decide)
  have hrest : ((t.nanoseconds + t.seconds % 2 * 1000000000) / 2).toInt =
      (t.nanoseconds.toInt + t.seconds.toInt.tmod 2 * 1000000000).tdiv 2 := by
    rw [toInt_div_pos (by decide), hodd, htwo]
  refine ⟨?_, ?_⟩
  · simp only [Canonical, hseconds, hrest, Int.tmod_def]
    rcases hsigns with ⟨hs, hn⟩ | ⟨hs, hn⟩
    · have hhalf := remainder_of_nonneg (d := 2) (by norm_num) hs
      have hrest := remainder_of_nonneg (d := 2)
        (n := t.nanoseconds.toInt + (t.seconds.toInt - 2 * t.seconds.toInt.tdiv 2) * 1000000000)
        (by norm_num) (by omega)
      omega
    · have hhalf := remainder_of_nonpos (d := 2) (by norm_num) hs
      have hrest := remainder_of_nonpos (d := 2)
        (n := t.nanoseconds.toInt + (t.seconds.toInt - 2 * t.seconds.toInt.tdiv 2) * 1000000000)
        (by norm_num) (by omega)
      omega
  · simp only [TimeInternal.toNs, hseconds, hrest]
    exact (tdiv_two_split hsigns).symm

theorem toNs_div2Time_tdiv (ht : Canonical t) : (div2Time t).toNs = t.toNs.tdiv 2 := by
  obtain ⟨hcanonical, hvalue⟩ := div2Time_eq ht
  unfold div2Time
  rw [normalizeTime_of_canonical hcanonical, hvalue]

theorem div2Time_inMemory {Loc : Type} [DecidableEq Loc] {r : Loc} {m : Times Loc}
    (h : Canonical (m r)) :
    InMemory.div2Time r m = some (Function.update m r (div2Time (m r))) := by
  obtain ⟨hproduct, hsum, -⟩ := toInt_odd h
  obtain ⟨hcanonical, -⟩ := div2Time_eq h
  have hmod : mod (m r).seconds 2 = some ((m r).seconds % 2) := mod_of_toInt_pos (by decide)
  have hdiv (x : Int32) : div x 2 = some (x / 2) := div_of_toInt_pos (by decide)
  unfold InMemory.div2Time
  simp only [Option.bind_eq_bind, hmod, Option.bind_some, hproduct, hsum,
    InMemory.storeNanoseconds_self, hdiv, InMemory.storeSeconds_storeNanoseconds,
    Function.update_self, InMemory.storeNanoseconds_update]
  rw [normalizeTime_inMemory, Function.update_self, Function.update_idem]
  · rfl
  · -- what is left is less than a second
    rw [Function.update_self]
    have hs := fits_toInt ((m r).seconds / 2)
    have hsecond := hcanonical.subSecond
    have hnone := tdiv_billion_of_subSecond hsecond
    simp only [hnone, add_zero]
    exact hs

end Halving

/-! ## The operations compute the exact results -/

section Exact

variable {Loc : Type} [DecidableEq Loc]

/-- **The outcome of an operation that computes `n`**: no overflow; the time `t` is stored at `r`
and nothing else; and `t` is the only canonical time with the value `n`. -/
structure Computes (m : Times Loc) (r : Loc) (t : TimeInternal) (n : ℤ)
    (result : Option (Times Loc)) : Prop where
  stores : result = some (Function.update m r t)
  canonical : Canonical t
  value : t.toNs = n
  unique : ∀ u, Canonical u → u.toNs = n → u = t

theorem Computes.of_value {m : Times Loc} {r : Loc} {t : TimeInternal} {n : ℤ}
    {result : Option (Times Loc)} (hstores : result = some (Function.update m r t))
    (hcanonical : Canonical t) (hvalue : t.toNs = n) : Computes m r t n result :=
  ⟨hstores, hcanonical, hvalue, fun _ hu hn => hu.eq_of_toNs hcanonical (hn.trans hvalue.symm)⟩

/-- **Time arithmetic is exact and canonical**, for all times of less than a second beyond their
seconds, whatever their signs, and for results and arguments at any addresses. -/
theorem time_arithmetic_exact (m : Times Loc) (r x y : Loc) :
    (SubSecond (m x) → SubSecond (m y) →
      FitsStrictly ((m x).seconds.toInt + (m y).seconds.toInt) →
        Computes m r (addTime (m x) (m y)) ((m x).toNs + (m y).toNs) (InMemory.addTime r x y m)) ∧
      (SubSecond (m x) → SubSecond (m y) →
        FitsStrictly ((m x).seconds.toInt - (m y).seconds.toInt) →
          Computes m r (subTime (m x) (m y)) ((m x).toNs - (m y).toNs)
            (InMemory.subTime r x y m)) ∧
      (Canonical (m r) →
        Computes m r (div2Time (m r)) ((m r).toNs.tdiv 2) (InMemory.div2Time r m)) := by
  refine ⟨fun hx hy h => ?_, fun hx hy h => ?_, fun h => ?_⟩
  · exact .of_value (addTime_inMemory hx hy h) (addTime_canonical _ _)
      (toNs_addTime_of_fits hx hy h)
  · exact .of_value (subTime_inMemory hx hy h) (subTime_canonical _ _)
      (toNs_subTime_of_fits hx hy h)
  · exact .of_value (div2Time_inMemory h) (div2Time_canonical _) (toNs_div2Time_tdiv h)

/-- Sum, difference and half of one and a half seconds, at one address. -/
theorem time_arithmetic_exact_aliased :
    let m : Times Unit := fun _ => ⟨1, 500000000⟩
    Computes m () ⟨3, 0⟩ 3000000000 (InMemory.addTime () () () m) ∧
      Computes m () ⟨0, 0⟩ 0 (InMemory.subTime () () () m) ∧
      Computes m () ⟨0, 750000000⟩ 750000000 (InMemory.div2Time () m) := by
  have hexact := time_arithmetic_exact (fun _ : Unit => ⟨1, 500000000⟩) () () ()
  have hsecond : SubSecond ⟨1, 500000000⟩ := ⟨by decide, by decide⟩
  exact ⟨hexact.1 hsecond hsecond ⟨by decide, by decide⟩,
    hexact.2.1 hsecond hsecond ⟨by decide, by decide⟩, hexact.2.2 (by decide)⟩

end Exact

/-! ## Correction fields -/

/-- **The exact conversion of a correction field**: no overflow, and the result is the canonical
time of the whole nanoseconds in it, truncated toward zero, with the sign of the field. -/
structure ConvertsExactly (x : Int64) : Prop where
  defined :
    InMemory.scaledNanosecondsToInternalTime x = some (scaledNanosecondsToInternalTime x)
  canonical : Canonical (scaledNanosecondsToInternalTime x)
  value : (scaledNanosecondsToInternalTime x).toNs = x.toInt.tdiv 65536
  nonneg : 0 ≤ x.toInt → 0 ≤ (scaledNanosecondsToInternalTime x).seconds.toInt ∧
    0 ≤ (scaledNanosecondsToInternalTime x).nanoseconds.toInt
  nonpos : x.toInt ≤ 0 → (scaledNanosecondsToInternalTime x).seconds.toInt ≤ 0 ∧
    (scaledNanosecondsToInternalTime x).nanoseconds.toInt ≤ 0

section Corrections

variable {x y sign : Int64}

/-- The absolute value of a correction field, which only the least one does not have. -/
theorem correction_abs (hx : x ≠ Int64.minValue) :
    (x < 0 → neg x = some (-x)) ∧ (if x < 0 then -x else x).toInt = |x.toInt| := by
  have hlo := Int64.le_toInt x
  have hhi := Int64.toInt_lt x
  have hleast : x.toInt ≠ -9223372036854775808 := fun h => hx (Int64.toInt.inj h)
  have hneg : (-x).toInt = -x.toInt := by
    rw [Int64.toInt_neg]
    exact Int.bmod_eq_of_le (by omega) (by omega)
  refine ⟨fun _ => checked_eq_some_iff.mpr hneg, ?_⟩
  split
  case isTrue h =>
    rw [Int64.lt_iff_toInt_lt] at h
    rw [hneg, abs_of_neg h]
  case isFalse h =>
    rw [Int64.lt_iff_toInt_lt, not_lt] at h
    rw [abs_of_nonneg h]

/-- A product with a sign. -/
theorem mul_sign (hsign : sign = 1 ∨ sign = -1) (hlo : -140737488355328 ≤ y.toInt)
    (hhi : y.toInt ≤ 140737488355328) : mul sign y = some (sign * y) := by
  apply checked_eq_some_iff.mpr
  rw [toInt_int64, toInt_int64, toInt_int64, Int64.toInt_mul]
  rcases hsign with rfl | rfl
  · exact Int.bmod_eq_of_le (by show _ ≤ 1 * y.toInt; omega) (by show 1 * y.toInt < _; omega)
  · exact Int.bmod_eq_of_le (by show _ ≤ -1 * y.toInt; omega) (by show -1 * y.toInt < _; omega)

theorem toInt_div_mod_billion (hlo : 0 ≤ y.toInt) (hhi : y.toInt ≤ 140737488355328) :
    (y / 1000000000).toInt = y.toInt / 1000000000 ∧
      (y % 1000000000).toInt = y.toInt % 1000000000 := by
  have hbillion : (1000000000 : Int64).toInt = 1000000000 := by decide
  constructor
  · rw [Int64.toInt_div, hbillion, Int.tdiv_eq_ediv_of_nonneg hlo]
    exact Int.bmod_eq_of_le (by omega) (by omega)
  · rw [Int64.toInt_mod, hbillion, Int.tmod_eq_emod_of_nonneg hlo]

/-- Seconds and nanoseconds with a sign, computed without overflow. -/
theorem signed_split (hsign : sign = 1 ∨ sign = -1) (hlo : 0 ≤ y.toInt)
    (hhi : y.toInt ≤ 140737488355328) :
    ((div y 1000000000).bind fun q => mul sign q) = some (sign * (y / 1000000000)) ∧
      ((mod y 1000000000).bind fun q => mul sign q) = some (sign * (y % 1000000000)) ∧
      (sign * (y / 1000000000)).toInt32.toInt = sign.toInt * (y.toInt / 1000000000) ∧
      (sign * (y % 1000000000)).toInt32.toInt = sign.toInt * (y.toInt % 1000000000) := by
  obtain ⟨hq, hr⟩ := toInt_div_mod_billion hlo hhi
  have hdiv : div y 1000000000 = some (y / 1000000000) :=
    div_of_pos (by decide) (hq.trans (Int.tdiv_eq_ediv_of_nonneg hlo).symm)
  have hmod : mod y 1000000000 = some (y % 1000000000) :=
    mod_of_pos (by decide) (hr.trans (Int.tmod_eq_emod_of_nonneg hlo).symm)
  refine ⟨?_, ?_, ?_, ?_⟩
  · rw [hdiv]
    exact mul_sign hsign (by omega) (by omega)
  · rw [hmod]
    exact mul_sign hsign (by omega) (by omega)
  · rw [toInt_sign_mul hsign (by omega) (by omega), hq]
  · rw [toInt_sign_mul hsign (by omega) (by omega), hr]

/-- The sign of a correction field, as the program computes it. -/
theorem sign_mul_abs (x : Int64) :
    (if x < 0 then (-1 : Int64) else 1).toInt * (|x.toInt| / 65536) = x.toInt.tdiv 65536 := by
  split
  case isTrue h =>
    rw [Int64.lt_iff_toInt_lt] at h
    have hneg : x.toInt < 0 := h
    have hminus : (-1 : Int64).toInt = -1 := by decide
    have htdiv := Int.tdiv_eq_ediv_of_nonneg (a := -x.toInt) (b := 65536) (by omega)
    rw [Int.neg_tdiv] at htdiv
    rw [hminus, abs_of_neg hneg]
    omega
  case isFalse h =>
    rw [Int64.lt_iff_toInt_lt, not_lt] at h
    have hnonneg : 0 ≤ x.toInt := h
    have hone : (1 : Int64).toInt = 1 := by decide
    rw [hone, abs_of_nonneg hnonneg, Int.tdiv_eq_ediv_of_nonneg hnonneg]
    omega

/-- The conversion, with the operations of each field together. -/
theorem scaledNanosecondsToInternalTime_bind (x : Int64) :
    InMemory.scaledNanosecondsToInternalTime x =
      (if x < 0 then neg x else some x).bind fun n =>
        ((div (n >>> 16) 1000000000).bind fun q => mul (if x < 0 then -1 else 1) q).bind fun s =>
          ((mod (n >>> 16) 1000000000).bind fun q => mul (if x < 0 then -1 else 1) q).bind fun ns =>
            some ⟨s.toInt32, ns.toInt32⟩ := by
  simp only [Option.bind_assoc]
  unfold InMemory.scaledNanosecondsToInternalTime
  split <;> rfl

theorem convertsExactly_of_ne (hx : x ≠ Int64.minValue) : ConvertsExactly x := by
  obtain ⟨hneg, habs⟩ := correction_abs hx
  have hlo := Int64.le_toInt x
  have hhi := Int64.toInt_lt x
  have hleast : x.toInt ≠ -9223372036854775808 := fun h => hx (Int64.toInt.inj h)
  have habslo := abs_nonneg x.toInt
  have habshi : |x.toInt| ≤ 9223372036854775807 := abs_le.mpr ⟨by omega, by omega⟩
  have hshift : ((if x < 0 then -x else x) >>> 16).toInt = |x.toInt| / 65536 := by
    rw [toInt_shiftRight_sixteen, habs]
  have hsign : (if x < 0 then (-1 : Int64) else 1) = 1 ∨
      (if x < 0 then (-1 : Int64) else 1) = -1 := by
    split
    · exact .inr rfl
    · exact .inl rfl
  have hdefined : (if x < 0 then neg x else some x) = some (if x < 0 then -x else x) := by
    split
    · exact hneg ‹_›
    · rfl
  have hvalue := sign_mul_abs x
  obtain ⟨hseconds, hnanoseconds, hs, hn⟩ :=
    signed_split hsign (y := (if x < 0 then -x else x) >>> 16) (by omega) (by omega)
  rw [hshift] at hs hn
  have hresult : InMemory.scaledNanosecondsToInternalTime x =
      some (scaledNanosecondsToInternalTime x) := by
    rw [scaledNanosecondsToInternalTime_bind, hdefined, Option.bind_some, hseconds,
      Option.bind_some, hnanoseconds, Option.bind_some]
    rfl
  have hsignval : (if x < 0 then (-1 : Int64) else 1).toInt = 1 ∧ 0 ≤ x.toInt ∨
      (if x < 0 then (-1 : Int64) else 1).toInt = -1 ∧ x.toInt < 0 := by
    split
    case isTrue h => exact .inr ⟨by decide, Int64.lt_iff_toInt_lt.mp h⟩
    case isFalse h => exact .inl ⟨by decide, not_lt.mp fun h' => h (Int64.lt_iff_toInt_lt.mpr h')⟩
  have hcanonical := scaledNanosecondsToInternalTime_canonical x
  have hs' : (scaledNanosecondsToInternalTime x).seconds.toInt = _ := hs
  have hn' : (scaledNanosecondsToInternalTime x).nanoseconds.toInt = _ := hn
  refine ⟨hresult, hcanonical, ?_, ?_, ?_⟩
  · rw [TimeInternal.toNs, hs', hn', ← hvalue]
    rcases hsignval with ⟨h1, -⟩ | ⟨h1, -⟩
    · rw [h1]
      omega
    · rw [h1]
      omega
  · intro hx
    rw [hs', hn']
    rcases hsignval with ⟨h1, -⟩ | ⟨h1, h⟩
    · rw [h1]
      omega
    · omega
  · intro hx
    rw [hs', hn']
    rcases hsignval with ⟨h1, h⟩ | ⟨h1, h⟩
    · have hzero : x.toInt = 0 := by omega
      rw [h1, hzero]
      decide
    · rw [h1]
      omega

end Corrections

/-- The least correction field has no absolute value, and comes out with the wrong sign. -/
theorem least_correction :
    InMemory.scaledNanosecondsToInternalTime Int64.minValue = none ∧
      scaledNanosecondsToInternalTime Int64.minValue = ⟨140737, 488355328⟩ := by
  decide

/-- **Correction fields are converted exactly** unless they are the least one: the conversion
overflows or is wrong only for this one; every signed 64-bit number is the correction field of a
header. -/
theorem correction_exact_iff (buf : Buf) :
    (ConvertsExactly (msgUnpackHeader buf).correctionfield ↔
      (msgUnpackHeader buf).correctionfield ≠ Int64.minValue) ∧
      ∀ x, ∃ buf', (msgUnpackHeader buf').correctionfield = x := by
  constructor
  · refine ⟨fun h hleast => ?_, convertsExactly_of_ne⟩
    have hdefined := h.defined
    rw [hleast, least_correction.1] at hdefined
    cases hdefined
  · intro x
    exact ⟨_, correctionfield_msgPackCorrection (fun _ => 0) x⟩

/-- The header of a message whose correction field is the least number. -/
theorem least_correction_inexact :
    ¬∀ buf, ConvertsExactly (msgUnpackHeader buf).correctionfield := by
  intro h
  have hbuf := correctionfield_msgPackCorrection (fun _ => 0) Int64.minValue
  have hvalue := (h (msgPackCorrection (fun _ => 0) Int64.minValue)).value
  rw [hbuf, least_correction.2] at hvalue
  revert hvalue
  decide

end Ptpd

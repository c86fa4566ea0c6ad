import DiscoPtp.Properties.TimeArith
import DiscoPtp.Properties.Restart

/-!
# The output of the servo

`updateClock` shifts the offset left for sync intervals below a second, passes it through `float`,
accumulates it and adds it to the accumulator, all in 32 bits. The sign of the correction is lost
where the shifted offset, or its sum with the accumulator, no longer fits.

## Main definitions

* `normalised`: the offset at a sync interval of a second, as an integer
* `addendFor`: the addend for a requested correction
* `Pushes`: what the servo promises for one sample
* `KeepsSign`: the samples that are small enough
* `servoRuns`: runs of such samples

## Main results

* `roundToFloat_intCast`: the rounding of an integer to single precision
* `scaleByGain_one`: an integer through `float`, by its size
* `addendFor_follows`: the addend is monotone, in its range and proportional
* `pushes_iff`: the servo keeps its promise for a sample, in every state that such samples lead to,
  if and only if the sample is small enough
-/

namespace Ptpd

open SignedWord

/-! ## Single precision -/

theorem binaryExponent_intCast {x : ℤ} (hx : x ≠ 0) :
    binaryExponent (x : ℚ) = Nat.log2 x.natAbs := by
  have hle : (2 : ℚ) ^ ((Nat.log2 x.natAbs : ℕ) : ℤ) ≤ |(x : ℚ)| := by
    have hnat : 2 ^ Nat.log2 x.natAbs ≤ x.natAbs :=
      Nat.log2_self_le (Int.natAbs_ne_zero.mpr hx)
    rw [zpow_natCast, ← Int.cast_abs, Int.abs_eq_natAbs]
    exact_mod_cast hnat
  have hone : Nat.log2 1 = 0 := by decide
  unfold binaryExponent
  simp only [Rat.num_intCast, Rat.den_intCast, hone, Nat.cast_zero, sub_zero]
  rw [if_neg (not_lt.mpr hle)]

/-- The rounding of `roundToFloat`: the result is a multiple of the last place, and the nearest. -/
theorem nearest_multiple (q : ℚ) {ulp : ℚ} (hulp : 0 < ulp) :
    ∃ n : ℤ,
      (if q / ulp - (q / ulp).floor < 1 / 2 then ((q / ulp).floor : ℚ) * ulp
        else if 1 / 2 < q / ulp - (q / ulp).floor then ((q / ulp).floor + 1) * ulp
        else if (q / ulp).floor % 2 = 0 then (q / ulp).floor * ulp
        else ((q / ulp).floor + 1) * ulp) = n * ulp ∧ 2 * |n * ulp - q| ≤ ulp := by
  have hq : q = q / ulp * ulp := (div_mul_cancel₀ q hulp.ne').symm
  have hfloor : ((q / ulp).floor : ℚ) ≤ q / ulp := Rat.floor_le _
  have hlt : q / ulp < (q / ulp).floor + 1 := by exact_mod_cast Rat.lt_floor_add_one (q / ulp)
  generalize (q / ulp).floor = lo at hfloor hlt ⊢
  generalize q / ulp = r at hq hfloor hlt ⊢
  have hdown (h : r - lo ≤ 1 / 2) : 2 * |(lo : ℚ) * ulp - q| ≤ ulp := by
    rw [hq, ← sub_mul, abs_mul, abs_of_pos hulp, abs_of_nonpos (by linarith)]
    nlinarith
  have hup (h : 1 / 2 ≤ r - lo) : 2 * |((lo + 1 : ℤ) : ℚ) * ulp - q| ≤ ulp := by
    push_cast
    rw [hq, ← sub_mul, abs_mul, abs_of_pos hulp, abs_of_nonneg (by linarith)]
    nlinarith
  split
  next hd => exact ⟨lo, rfl, hdown hd.le⟩
  next hd =>
  split
  next hd' => exact ⟨lo + 1, by push_cast; rfl, hup hd'.le⟩
  next hd' =>
  split
  · exact ⟨lo, rfl, hdown (not_lt.mp hd')⟩
  · exact ⟨lo + 1, by push_cast; rfl, hup (not_lt.mp hd)⟩

/-- Rounding an integer: the nearest multiple of the last place, which is one up to `2 ^ 24`. -/
theorem roundToFloat_intCast (x : ℤ) :
    ∃ r : ℤ, roundToFloat (x : ℚ) = r ∧ (2 : ℤ) ^ (Nat.log2 x.natAbs - 23) ∣ r ∧
      2 * |r - x| ≤ 2 ^ (Nat.log2 x.natAbs - 23) := by
  by_cases hx : x = 0
  · subst hx
    exact ⟨0, rfl, dvd_zero _, by simp⟩
  have hx' : (x : ℚ) ≠ 0 := Int.cast_ne_zero.mpr hx
  unfold roundToFloat
  rw [if_neg hx', binaryExponent_intCast hx]
  dsimp only
  generalize Nat.log2 x.natAbs = e
  have hpos : (0 : ℚ) < 2 ^ ((e : ℤ) - 23) := by positivity
  obtain ⟨n, hn, hclose⟩ := nearest_multiple (x : ℚ) hpos
  rw [hn]
  rcases le_total e 23 with he | he
  · -- the last place is a fraction of one, so the integer is one of its multiples
    obtain ⟨k, hk⟩ := Nat.exists_eq_add_of_le he
    have hulp : (2 : ℚ) ^ ((e : ℤ) - 23) * 2 ^ k = 1 := by
      rw [← zpow_natCast, ← zpow_add₀ two_ne_zero]
      have : (e : ℤ) - 23 + k = 0 := by omega
      rw [this, zpow_zero]
    generalize (2 : ℚ) ^ ((e : ℤ) - 23) = ulp at *
    have hxu : (x : ℚ) = ((x * 2 ^ k : ℤ) : ℚ) * ulp := by
      push_cast
      rw [mul_assoc, mul_comm _ ulp, hulp, mul_one]
    have heq : n = x * 2 ^ k := by
      rw [hxu, ← sub_mul, abs_mul, abs_of_pos hpos, ← mul_assoc] at hclose
      have hlt : 2 * |(n : ℚ) - ((x * 2 ^ k : ℤ) : ℚ)| ≤ 1 := by
        by_contra hgt
        push Not at hgt
        nlinarith
      have hint : 2 * |n - x * 2 ^ k| ≤ 1 := by exact_mod_cast hlt
      have hzero : |n - x * 2 ^ k| = 0 := by
        have := abs_nonneg (n - x * 2 ^ k)
        omega
      exact sub_eq_zero.mp (abs_eq_zero.mp hzero)
    refine ⟨x, ?_, ?_, ?_⟩
    · rw [heq, ← hxu]
    · rw [Nat.sub_eq_zero_of_le he, pow_zero]
      exact one_dvd x
    · rw [sub_self, abs_zero, mul_zero]
      positivity
  · have hulp : (2 : ℚ) ^ ((e : ℤ) - 23) = ((2 ^ (e - 23) : ℤ) : ℚ) := by
      have : (e : ℤ) - 23 = ((e - 23 : ℕ) : ℤ) := by omega
      rw [this, zpow_natCast]
      push_cast
      rfl
    rw [hulp] at hclose ⊢
    refine ⟨n * 2 ^ (e - 23), by push_cast; rfl, dvd_mul_left _ n, ?_⟩
    exact_mod_cast hclose

theorem log2_lt_of_lt {x : ℤ} {e : ℕ} (h : |x| < 2 ^ e) (he : 0 < e) : Nat.log2 x.natAbs < e := by
  by_cases hx : x = 0
  · subst hx
    exact he
  · rw [Nat.log2_lt (Int.natAbs_ne_zero.mpr hx)]
    rw [Int.abs_eq_natAbs] at h
    exact_mod_cast h

theorem roundToFloat_small {x : ℤ} (h : |x| < 2 ^ 24) : roundToFloat (x : ℚ) = x := by
  obtain ⟨r, hr, -, hclose⟩ := roundToFloat_intCast x
  have hlog : Nat.log2 x.natAbs - 23 = 0 := by
    have := log2_lt_of_lt h (by norm_num)
    omega
  rw [hlog, pow_zero] at hclose
  have hzero : |r - x| = 0 := by
    have := abs_nonneg (r - x)
    omega
  rw [hr, sub_eq_zero.mp (abs_eq_zero.mp hzero)]

/-- An integer with its last place below `2 ^ 31`. -/
theorem roundToFloat_near {x : ℤ} (h : |x| < 2 ^ 32) :
    ∃ r : ℤ, roundToFloat (x : ℚ) = r ∧ |r - x| ≤ 128 := by
  obtain ⟨r, hr, -, hclose⟩ := roundToFloat_intCast x
  have hlog : Nat.log2 x.natAbs - 23 ≤ 8 := by
    have := log2_lt_of_lt h (by norm_num)
    omega
  have hpow : (2 : ℤ) ^ (Nat.log2 x.natAbs - 23) ≤ 2 ^ 8 := pow_le_pow_right₀ one_le_two hlog
  refine ⟨r, hr, ?_⟩
  norm_num at hpow
  omega

theorem roundToFloat_last {x : ℤ} (hlo : 2 ^ 30 ≤ |x|) (hhi : |x| < 2 ^ 31) :
    ∃ r : ℤ, roundToFloat (x : ℚ) = r ∧ 128 ∣ r ∧ |r - x| ≤ 64 := by
  obtain ⟨r, hr, hdvd, hclose⟩ := roundToFloat_intCast x
  have hlog : Nat.log2 x.natAbs = 30 := by
    have hlt := log2_lt_of_lt hhi (by norm_num)
    have hx : x.natAbs ≠ 0 := by
      rw [Int.natAbs_ne_zero]
      rintro rfl
      norm_num at hlo
    have hge : 30 ≤ Nat.log2 x.natAbs := by
      rw [Nat.le_log2 hx]
      rw [Int.abs_eq_natAbs] at hlo
      exact_mod_cast hlo
    omega
  rw [hlog] at hdvd hclose
  norm_num at hdvd hclose
  exact ⟨r, hr, hdvd, by omega⟩

theorem binaryExponent_neg (q : ℚ) : binaryExponent (-q) = binaryExponent q := by
  unfold binaryExponent
  simp only [Rat.num_neg_eq_neg_num, Rat.den_neg_eq_den, Int.natAbs_neg, abs_neg]

/-- Rounding is odd: ties go to the even multiple on both sides of zero. -/
theorem roundToFloat_neg (q : ℚ) : roundToFloat (-q) = -roundToFloat q := by
  by_cases hq : q = 0
  · rw [hq, neg_zero]
    rfl
  unfold roundToFloat
  rw [if_neg (neg_ne_zero.mpr hq), if_neg hq, binaryExponent_neg]
  dsimp only
  rw [neg_div]
  generalize (2 : ℚ) ^ (binaryExponent q - 23) = ulp
  generalize q / ulp = r
  have hfloor : (r.floor : ℚ) ≤ r := Rat.floor_le r
  have hlt : r < r.floor + 1 := by exact_mod_cast Rat.lt_floor_add_one r
  by_cases hint : (r.floor : ℚ) = r
  · have hneg : (-r).floor = -r.floor := by
      rw [← hint, ← Int.cast_neg, Rat.floor_intCast, Rat.floor_intCast]
    rw [hneg]
    push_cast
    rw [if_pos (by linarith), if_pos (by linarith), neg_mul]
  · have hlt' : (r.floor : ℚ) < r := lt_of_le_of_ne hfloor hint
    have hneg : (-r).floor = -r.floor - 1 := by
      apply le_antisymm
      · rw [Int.le_sub_one_iff, Rat.floor_lt_iff]
        push_cast
        linarith
      · rw [Rat.le_floor_iff]
        push_cast
        linarith
    rw [hneg]
    push_cast
    -- the distance to the multiple below is the rest of the other one
    rcases lt_trichotomy (r - r.floor) (1 / 2) with hd | hd | hd
    · rw [if_neg (by linarith), if_pos (by linarith), if_pos hd]
      ring
    · rw [if_neg (by linarith), if_neg (by linarith)]
      by_cases heven : r.floor % 2 = 0
      · rw [if_neg (by omega), if_neg (by linarith), if_neg (by linarith), if_pos heven]
        ring
      · rw [if_pos (by omega), if_neg (by linarith), if_neg (by linarith), if_neg heven]
        ring
    · rw [if_pos (by linarith), if_neg (by linarith), if_pos hd]
      ring

/-- The largest integer that `float` takes below the limit is rounded down, and the next one up. -/
theorem roundToFloat_of_le {x : ℤ} (hlo : 0 ≤ x) (hhi : x ≤ 2146971583) :
    ∃ r : ℤ, roundToFloat (x : ℚ) = r ∧ x - 128 ≤ r ∧ r ≤ 2146971520 := by
  rcases lt_or_ge x (2 ^ 30) with hx | hx
  · obtain ⟨r, hr, hnear⟩ := roundToFloat_near (x := x) (by rw [abs_of_nonneg hlo]; omega)
    rw [abs_le] at hnear
    exact ⟨r, hr, by omega, by omega⟩
  · obtain ⟨r, hr, hdvd, hnear⟩ := roundToFloat_last (x := x)
      (by rw [abs_of_nonneg hlo]; omega) (by rw [abs_of_nonneg hlo]; omega)
    rw [abs_le] at hnear
    exact ⟨r, hr, by omega, by omega⟩

theorem roundToFloat_of_ge {x : ℤ} (hlo : 2146971584 ≤ x) (hhi : x < 2 ^ 31 + 256) :
    ∃ r : ℤ, roundToFloat (x : ℚ) = r ∧ 2146971648 ≤ r ∧ r ≤ x + 128 := by
  have habs : |x| = x := abs_of_nonneg (by omega)
  rcases eq_or_lt_of_le hlo with rfl | hlt
  · -- a tie, which goes to the even multiple above
    exact ⟨2146971648, by decide +kernel, le_refl _, by norm_num⟩
  rcases lt_or_ge x (2 ^ 31) with hx | hx
  · obtain ⟨r, hr, hdvd, hnear⟩ := roundToFloat_last (x := x) (by rw [habs]; omega)
      (by rw [habs]; omega)
    rw [abs_le] at hnear
    exact ⟨r, hr, by omega, by omega⟩
  · obtain ⟨r, hr, hnear⟩ := roundToFloat_near (x := x) (by rw [habs]; omega)
    rw [abs_le] at hnear
    exact ⟨r, hr, by omega, by omega⟩

/-! ## An integer through `float` -/

/-- The integer that `(int32_t)` makes of a rounded one. -/
def saturated (n : ℤ) : ℤ := max (-2147483648) (min 2147483647 n)

theorem fits_saturated (n : ℤ) : Fits (saturated n) := by
  unfold Fits saturated
  omega

/-- With a gain of one an integer is rounded twice. -/
theorem scaleByGain_of_rounds {x : Int32} {r r' : ℤ} (h : roundToFloat (x.toInt : ℚ) = r)
    (h' : roundToFloat (r : ℚ) = r') : (scaleByGain x 1).toInt = saturated r' := by
  unfold scaleByGain
  rw [h, mul_one, h']
  have hn : (if (0 : ℚ) ≤ r' then (r' : ℚ).floor else (r' : ℚ).ceil) = r' := by
    rw [Rat.floor_intCast, Rat.ceil_intCast, ite_self]
  dsimp only
  rw [hn]
  exact toInt_ofInt_of_fits (fits_saturated r')

/-- **An integer through `float`, by its size**: it is kept below `2 ^ 24`; below the limit it stays
where its sum with the accumulator fits, and above it does not. -/
structure ScaledByOne (x g : ℤ) : Prop where
  small : |x| < 2 ^ 24 → g = x
  above : 2 ^ 24 ≤ x → x ≤ 2146971583 → 2 ^ 23 ≤ g ∧ g ≤ 2146971520
  below : x ≤ -2 ^ 24 → -2146971583 ≤ x → -2146971520 ≤ g ∧ g ≤ -2 ^ 23
  overAbove : 2146971584 ≤ x → 2146971648 ≤ g
  overBelow : x ≤ -2146971584 → g ≤ -2146971648

/-- A large integer, rounded twice. -/
theorem exists_roundToFloat_twice {x : ℤ} (hlo : 2 ^ 24 ≤ x) (hhi : x ≤ 2 ^ 31) :
    ∃ r r' : ℤ, roundToFloat (x : ℚ) = r ∧ roundToFloat (r : ℚ) = r' ∧
      (x ≤ 2146971583 → 2 ^ 23 ≤ r' ∧ r' ≤ 2146971520) ∧ (2146971584 ≤ x → 2146971648 ≤ r') := by
  rcases lt_or_ge x 2146971584 with hx | hx
  · obtain ⟨r, hr, hge, hle⟩ := roundToFloat_of_le (x := x) (by omega) (by omega)
    obtain ⟨r', hr', hge', hle'⟩ := roundToFloat_of_le (x := r) (by omega) (by omega)
    exact ⟨r, r', hr, hr', fun _ => ⟨by omega, hle'⟩, fun h => by omega⟩
  · obtain ⟨r, hr, hge, hle⟩ := roundToFloat_of_ge (x := x) hx (by omega)
    obtain ⟨r', hr', hge', -⟩ := roundToFloat_of_ge (x := r) (by omega) (by omega)
    exact ⟨r, r', hr, hr', fun h => by omega, fun _ => hge'⟩

theorem scaleByGain_one (x : Int32) : ScaledByOne x.toInt (scaleByGain x 1).toInt := by
  obtain ⟨hlo, hhi⟩ := fits_toInt x
  rcases lt_or_ge |x.toInt| (2 ^ 24) with hx | hx
  · have hround := roundToFloat_small hx
    have habs := abs_lt.mp hx
    rw [scaleByGain_of_rounds hround hround]
    refine ⟨fun _ => ?_, fun h => ?_, fun h => ?_, fun h => ?_, fun h => ?_⟩
    · unfold saturated
      omega
    all_goals omega
  rcases le_abs'.mp hx with hneg | hpos
  · -- rounding is odd
    obtain ⟨r, r', hr, hr', hbelow, hover⟩ :=
      exists_roundToFloat_twice (x := -x.toInt) (by omega) (by omega)
    have hround : roundToFloat (x.toInt : ℚ) = (-r : ℤ) := by
      rw [← neg_neg x.toInt, Int.cast_neg, roundToFloat_neg, hr, Int.cast_neg]
    have hround' : roundToFloat ((-r : ℤ) : ℚ) = (-r' : ℤ) := by
      rw [Int.cast_neg, roundToFloat_neg, hr', Int.cast_neg]
    rw [scaleByGain_of_rounds hround hround']
    refine ⟨fun h => absurd h (not_lt.mpr hx), fun h => by omega, fun _ h => ?_,
      fun h => by omega, fun h => ?_⟩
    · have := hbelow (by omega)
      unfold saturated
      omega
    · have := hover (by omega)
      unfold saturated
      omega
  · obtain ⟨r, r', hr, hr', hbelow, hover⟩ := exists_roundToFloat_twice hpos (by omega)
    rw [scaleByGain_of_rounds hr hr']
    refine ⟨fun h => absurd h (not_lt.mpr hx), fun _ h => ?_, fun h => by omega,
      fun h => ?_, fun h => by omega⟩
    · have := hbelow h
      unfold saturated
      omega
    · have := hover h
      unfold saturated
      omega

/-! ## Samples -/

/-- The offset at a sync interval of a second, as an integer. -/
def normalised (interval : Int8) (offset : Int32) : ℤ :=
  offset.toInt * 2 ^ (-interval.toInt).toNat

/-- The state with an offset from the master and a sync interval. -/
def System.withOffset (s : System) (interval : Int8) (offset : Int32) : System :=
  s.modify fun c =>
    { c with
      currentDS := { c.currentDS with offsetFromMaster := ⟨0, offset⟩ }
      portDS := { c.portDS with logSyncInterval := interval } }

/-- The state after `updateClock` has been called with an offset at a sync interval. -/
def System.sample (s : System) (interval : Int8) (offset : Int32) : System :=
  updateClock (s.withOffset interval offset)

/-- The clamp of the drift and of the correction to `ADJ_FREQ_MAX`, on integers. -/
def clampAdj (n : ℤ) : ℤ := max (-512000) (min 512000 n)

/-- The addend for a requested correction. -/
def addendFor (request : ℤ) : UInt32 := adjFreqAddend (clampAdj (-request))

/-- The values of an addend: they do not increase with the requested correction, they stay in their
range and they are close to proportional. -/
structure AddendFollows (f : ℤ → UInt32) : Prop where
  antitone : ∀ r r', r ≤ r' → (f r').toNat ≤ (f r).toNat
  range : ∀ r, 0x40000000 - 550000 ≤ (f r).toNat ∧ (f r).toNat ≤ 0x40000000 + 550000
  proportional : ∀ r,
    |((f r).toNat : ℚ) - (2 ^ 30 + 2 ^ 30 * (clampAdj (-r) : ℚ) / 10 ^ 9)| ≤
      5 / 10000 * |2 ^ 30 * (clampAdj (-r) : ℚ) / 10 ^ 9| + 1

/-- **What the servo promises for a sample**: the shift does not overflow, the drift follows the
offset and stays in its range, and the addend is the one for the offset plus the drift. -/
structure Pushes (s : System) (interval : Int8) (offset : Int32) : Prop where
  fits : Fits (normalised interval offset)
  rises : 0 < offset.toInt →
    s.ptpClock.observedDrift.toInt ≤ (s.sample interval offset).ptpClock.observedDrift.toInt
  falls : offset.toInt < 0 →
    (s.sample interval offset).ptpClock.observedDrift.toInt ≤ s.ptpClock.observedDrift.toInt
  bounded : |(s.sample interval offset).ptpClock.observedDrift.toInt| ≤ 512000
  addend : s.ptpClock.servo.noAdjust = false → (s.sample interval offset).addend =
    addendFor (normalised interval offset +
      (s.sample interval offset).ptpClock.observedDrift.toInt)

/-- The samples for the controller, at intervals from a 128th of a second to a second. -/
structure Controlled (interval : Int8) (offset : Int32) : Prop where
  interval_ge : -7 ≤ interval.toInt
  interval_le : interval.toInt ≤ 0
  offset_le : |offset.toInt| ≤ 100000000

/-- The samples that are small enough: `float` takes the normalised offset to a value whose sum with
the drift fits. -/
def KeepsSign (interval : Int8) (offset : Int32) : Prop :=
  |normalised interval offset| ≤ 2146971583

/-- The gains that `ptpdStartup` leaves, and a drift in its range. -/
structure Tuned (s : System) : Prop where
  ap : s.ptpClock.servo.ap = 1
  ai : s.ptpClock.servo.ai = 1
  drift : |s.ptpClock.observedDrift.toInt| ≤ 512000

/-- Runs of samples that are small enough, from a servo that was reset. -/
def servoRuns : Transition.TransitionSystem System where
  init s := s.ptpClock.servo.ap = 1 ∧ s.ptpClock.servo.ai = 1 ∧ s.ptpClock.observedDrift = 0
  next s t := ∃ interval offset, Controlled interval offset ∧ KeepsSign interval offset ∧
    t = s.sample interval offset

/-! ## The clamp and the addend -/

theorem clampAdj_bounds (n : ℤ) : -512000 ≤ clampAdj n ∧ clampAdj n ≤ 512000 := by
  unfold clampAdj
  omega

theorem toInt_clamp (x : Int32) :
    (if x > adjFreqMax then adjFreqMax else if x < -adjFreqMax then -adjFreqMax else x).toInt =
      clampAdj x.toInt := by
  have hmax : adjFreqMax.toInt = 512000 := by decide
  have hmin : (-adjFreqMax).toInt = -512000 := by decide
  unfold clampAdj
  simp only [gt_iff_lt, Int32.lt_iff_toInt_lt, hmax, hmin]
  split
  case isTrue h =>
    rw [hmax]
    omega
  case isFalse h =>
  split
  case isTrue h' =>
    rw [hmin]
    omega
  case isFalse h' => omega

/-- The addend of a correction in range, as the integer it is. -/
theorem toNat_adjFreqAddend {adj : ℤ} (hlo : -512000 ≤ adj) (hhi : adj ≤ 512000) :
    ((adjFreqAddend adj).toNat : ℤ) = 275 * adj / 256 + 0x40000000 := by
  have hclamp : max (-5120000) (min 5120000 adj) = adj := by omega
  have hshift : ((adjFreqBaseAddend >>> 24).toNat : ℤ) = 64 := by decide
  have hbase : (adjFreqBaseAddend.toNat : ℤ) = 0x40000000 := by decide
  unfold adjFreqAddend
  simp only [hclamp, hshift, hbase, Nat.cast_ofNat]
  have hpow : 275 * adj / 2 ^ 8 * 64 / 2 ^ 6 = 275 * adj / 256 := by omega
  rw [hpow]
  have hnonneg : 0 ≤ 275 * adj / 256 + 0x40000000 := by omega
  have hlt : 275 * adj / 256 + 0x40000000 < 2 ^ 32 := by omega
  rw [UInt32.ofInt, Int.emod_eq_of_lt hnonneg hlt, UInt32.toNat_ofNat_of_lt' (by
    change _ < 2 ^ 32
    omega), Int.toNat_of_nonneg hnonneg]

theorem addendFor_eq (request : ℤ) :
    ((addendFor request).toNat : ℤ) = 275 * clampAdj (-request) / 256 + 0x40000000 := by
  obtain ⟨hlo, hhi⟩ := clampAdj_bounds (-request)
  exact toNat_adjFreqAddend hlo hhi

/-- Rounding down is off by less than one, and the ratio of the factors by less than `0.05 %`. -/
theorem addendFor_follows : AddendFollows addendFor := by
  refine ⟨fun r r' h => ?_, fun r => ?_, fun r => ?_⟩
  · have hr := addendFor_eq r
    have hr' := addendFor_eq r'
    have hclamp : clampAdj (-r') ≤ clampAdj (-r) := by
      unfold clampAdj
      omega
    omega
  · have hr := addendFor_eq r
    obtain ⟨hlo, hhi⟩ := clampAdj_bounds (-r)
    omega
  · have hr := addendFor_eq r
    generalize clampAdj (-r) = adj at hr ⊢
    have hdiv : 256 * (275 * adj / 256) ≤ 275 * adj ∧
        275 * adj < 256 * (275 * adj / 256) + 256 := by
      omega
    have hq : ((addendFor r).toNat : ℚ) = (275 * adj / 256 : ℤ) + 0x40000000 := by
      exact_mod_cast hr
    rw [hq]
    generalize 275 * adj / 256 = floor at hdiv
    obtain ⟨hge, hlt⟩ := hdiv
    have hge' : (256 : ℚ) * floor ≤ 275 * adj := by exact_mod_cast hge
    have hlt' : (275 : ℚ) * adj < 256 * floor + 256 := by exact_mod_cast hlt
    have habs : |(2 : ℚ) ^ 30 * adj / 10 ^ 9| = 2 ^ 30 * |(adj : ℚ)| / 10 ^ 9 := by
      rw [abs_div, abs_mul, abs_of_pos (by positivity : (0 : ℚ) < 2 ^ 30),
        abs_of_pos (by positivity : (0 : ℚ) < 10 ^ 9)]
    rw [habs, abs_le]
    rcases abs_cases (adj : ℚ) with ⟨heq, hsign⟩ | ⟨heq, hsign⟩ <;> rw [heq] <;>
      constructor <;> norm_num <;> linarith

/-! ## One sample -/

section Sample

variable {s t : System} {interval : Int8} {offset : Int32}

theorem offsetTooLarge_eq_false {c : PtpClock}
    (hseconds : c.currentDS.offsetFromMaster.seconds = 0)
    (hoffset : |c.currentDS.offsetFromMaster.nanoseconds.toInt| ≤ 100000000) :
    offsetTooLarge c = false := by
  obtain ⟨hlo, hhi⟩ := abs_le.mp hoffset
  have hmax : maxAdjOffsetNs.toInt = 100000000 := by decide
  have hzero : (0 : Int32).toInt = 0 := rfl
  have habs : (abs32 c.currentDS.offsetFromMaster.nanoseconds).toInt ≤ 100000000 := by
    unfold abs32
    simp only [Int32.lt_iff_toInt_lt, hzero]
    split
    · rw [← Int32.zero_sub, toInt_sub_of_fits ⟨by omega, by omega⟩]
      omega
    · exact hhi
  unfold offsetTooLarge
  simp only [hseconds, ne_eq, not_true, decide_false, Bool.false_or, gt_iff_lt,
    Int32.lt_iff_toInt_lt, hmax, decide_eq_false_iff_not, not_lt]
  exact habs

theorem updateClock_servo (h : offsetTooLarge s.ptpClock = false) :
    (updateClock s).ptpClock.servo = s.ptpClock.servo := by
  unfold updateClock
  rw [h]
  simp only [Bool.false_eq_true, if_false]
  split <;> rfl

theorem updateClock_observedDrift (h : offsetTooLarge s.ptpClock = false) :
    (updateClock s).ptpClock.observedDrift = accumulateDrift s.ptpClock := by
  unfold updateClock
  rw [h]
  simp only [Bool.false_eq_true, if_false]
  split <;> rfl

theorem updateClock_addend (h : offsetTooLarge s.ptpClock = false)
    (hadjust : s.ptpClock.servo.noAdjust = false) :
    (updateClock s).addend = adjFreqAddend (clampAdj
      (-(scaleByGain (offsetNorm s.ptpClock) s.ptpClock.servo.ap +
        (updateClock s).ptpClock.observedDrift)).toInt) := by
  have heq : updateClock s = adjTime (-(scaleByGain (offsetNorm s.ptpClock) s.ptpClock.servo.ap +
      accumulateDrift s.ptpClock))
        (s.modify fun c => { c with observedDrift := accumulateDrift c }) := by
    unfold updateClock
    rw [h]
    simp only [Bool.false_eq_true, if_false]
    rw [if_neg (by rw [System.modify_ptpClock, hadjust]; exact Bool.false_ne_true)]
    rfl
  rw [updateClock_observedDrift h, ← toInt_clamp, heq]
  rfl

/-- The shift keeps the low 32 bits of the normalised offset. -/
theorem offsetNorm_eq {c : PtpClock} (h : c.portDS.logSyncInterval.toInt ≤ 0) :
    offsetNorm c = Int32.ofInt
      (normalised c.portDS.logSyncInterval c.currentDS.offsetFromMaster.nanoseconds) := by
  unfold offsetNorm normalised
  dsimp only
  rw [if_neg (by omega)]
  split
  · rfl
  · have hzero : (-c.portDS.logSyncInterval.toInt).toNat = 0 := by omega
    rw [hzero, pow_zero, mul_one, Int32.ofInt_toInt]

/-- What a sample adds to the drift. -/
def integral (interval : Int8) (offset : Int32) : Int32 :=
  scaleByGain (Int32.ofInt (normalised interval offset)) 1

theorem Controlled.notTooLarge (h : Controlled interval offset) (s : System) :
    offsetTooLarge (s.withOffset interval offset).ptpClock = false :=
  offsetTooLarge_eq_false (c := (s.withOffset interval offset).ptpClock) rfl h.offset_le

theorem Controlled.offsetNorm_eq (h : Controlled interval offset) (s : System) :
    offsetNorm (s.withOffset interval offset).ptpClock = Int32.ofInt (normalised interval offset) :=
  Ptpd.offsetNorm_eq (c := (s.withOffset interval offset).ptpClock) h.interval_le

theorem Controlled.sample_servo (h : Controlled interval offset) :
    (s.sample interval offset).ptpClock.servo = s.ptpClock.servo :=
  updateClock_servo (h.notTooLarge s)

theorem Controlled.sample_drift (h : Controlled interval offset) (hai : s.ptpClock.servo.ai = 1) :
    (s.sample interval offset).ptpClock.observedDrift.toInt =
      clampAdj (s.ptpClock.observedDrift + integral interval offset).toInt := by
  have hai' : (s.withOffset interval offset).ptpClock.servo.ai = 1 := hai
  unfold System.sample
  rw [updateClock_observedDrift (h.notTooLarge s), ← toInt_clamp, accumulateDrift,
    h.offsetNorm_eq, hai']
  rfl

theorem Controlled.sample_addend (h : Controlled interval offset) (hap : s.ptpClock.servo.ap = 1)
    (hadjust : s.ptpClock.servo.noAdjust = false) :
    (s.sample interval offset).addend = adjFreqAddend (clampAdj
      (-(integral interval offset + (s.sample interval offset).ptpClock.observedDrift)).toInt) := by
  have hap' : (s.withOffset interval offset).ptpClock.servo.ap = 1 := hap
  unfold System.sample
  rw [updateClock_addend (h.notTooLarge s) hadjust, h.offsetNorm_eq, hap']
  rfl

theorem Tuned.sample (ht : Tuned s) (h : Controlled interval offset) :
    Tuned (s.sample interval offset) := by
  refine ⟨?_, ?_, ?_⟩
  · rw [h.sample_servo]
    exact ht.ap
  · rw [h.sample_servo]
    exact ht.ai
  · rw [h.sample_drift ht.ai]
    exact abs_le.mpr (clampAdj_bounds _)

theorem tuned_of_reachable (h : servoRuns.Reachable s) : Tuned s := by
  obtain ⟨s₀, ⟨hap, hai, hdrift⟩, hrun⟩ := h
  have hinit : Tuned s₀ := by
    refine ⟨hap, hai, ?_⟩
    rw [hdrift]
    decide
  have hstep : Transition.Preserves servoRuns.next Tuned := by
    rintro u v ⟨interval, offset, hrange, -, rfl⟩ hu
    exact hu.sample hrange
  exact hstep.run hrun hinit

theorem normalised_pos (interval : Int8) (h : 0 < offset.toInt) :
    0 < normalised interval offset := by
  unfold normalised
  positivity

theorem normalised_neg (interval : Int8) (h : offset.toInt < 0) : normalised interval offset < 0 :=
  mul_neg_of_neg_of_pos h (by positivity)

theorem pos_of_normalised (h : 0 < normalised interval offset) : 0 < offset.toInt :=
  pos_of_mul_pos_left h (by positivity)

theorem neg_of_normalised (h : normalised interval offset < 0) : offset.toInt < 0 :=
  neg_of_mul_neg_left h (by positivity)

theorem integral_scaled (h : Fits (normalised interval offset)) :
    ScaledByOne (normalised interval offset) (integral interval offset).toInt := by
  have hscaled := scaleByGain_one (Int32.ofInt (normalised interval offset))
  rw [toInt_ofInt_of_fits h] at hscaled
  exact hscaled

/-- The integral of a small enough sample: it is the normalised offset, or both exceed the clamp by
more than any drift. -/
theorem KeepsSign.integral_cases (h : KeepsSign interval offset) :
    (integral interval offset).toInt = normalised interval offset ∨
      (2 ^ 24 ≤ normalised interval offset ∧ 2 ^ 23 ≤ (integral interval offset).toInt ∧
        (integral interval offset).toInt ≤ 2146971520) ∨
      (normalised interval offset ≤ -2 ^ 24 ∧ -2146971520 ≤ (integral interval offset).toInt ∧
        (integral interval offset).toInt ≤ -2 ^ 23) := by
  obtain ⟨hlo, hhi⟩ := abs_le.mp h
  have hfits : Fits (normalised interval offset) := ⟨by omega, by omega⟩
  have hscaled := integral_scaled hfits
  rcases lt_or_ge |normalised interval offset| (2 ^ 24) with hx | hx
  · exact .inl (hscaled.small hx)
  rcases le_abs'.mp hx with hneg | hpos
  · exact .inr (.inr ⟨hneg, hscaled.below hneg hlo⟩)
  · exact .inr (.inl ⟨hpos, hscaled.above hpos hhi⟩)

/-- A small enough sample: nothing overflows, and the clamps take the rounded sum where they take
the exact one. -/
theorem Tuned.pushes (ht : Tuned s) (h : Controlled interval offset)
    (hkeeps : KeepsSign interval offset) : Pushes s interval offset := by
  obtain ⟨hlo, hhi⟩ := abs_le.mp hkeeps
  obtain ⟨hdlo, hdhi⟩ := abs_le.mp ht.drift
  have hcases := hkeeps.integral_cases
  have hsum : Fits (s.ptpClock.observedDrift.toInt + (integral interval offset).toInt) :=
    ⟨by omega, by omega⟩
  have hdrift := h.sample_drift ht.ai (s := s)
  rw [toInt_add_of_fits hsum] at hdrift
  refine ⟨⟨by omega, by omega⟩, fun hpos => ?_, fun hneg => ?_, ?_, fun hadjust => ?_⟩
  · have hx := normalised_pos interval hpos
    rw [hdrift]
    unfold clampAdj
    omega
  · have hx := normalised_neg interval hneg
    rw [hdrift]
    unfold clampAdj
    omega
  · exact (ht.sample h).drift
  · rw [h.sample_addend ht.ap hadjust]
    generalize (s.sample interval offset).ptpClock.observedDrift = drift at hdrift
    have hbound := clampAdj_bounds
      (s.ptpClock.observedDrift.toInt + (integral interval offset).toInt)
    have hadd := toInt_add_of_fits (x := integral interval offset) (y := drift)
      ⟨by omega, by omega⟩
    have hneg : (-(integral interval offset + drift)).toInt =
        -((integral interval offset).toInt + drift.toInt) := by
      rw [Int32.toInt_neg, hadd, bmod_of_fits ⟨by omega, by omega⟩]
    have hclamp : clampAdj (-((integral interval offset).toInt + drift.toInt)) =
        clampAdj (-(normalised interval offset + drift.toInt)) := by
      unfold clampAdj
      omega
    rw [hneg, hclamp]
    rfl

/-! ## Samples that are too large -/

/-- The largest offsets, at an interval of a second, take the drift to its bounds. -/
theorem Tuned.sample_largest (ht : Tuned s) :
    (s.sample 0 100000000).ptpClock.observedDrift.toInt = 512000 ∧
      (s.sample 0 (-100000000)).ptpClock.observedDrift.toInt = -512000 := by
  obtain ⟨hdlo, hdhi⟩ := abs_le.mp ht.drift
  have hplus : Controlled 0 100000000 := ⟨by decide, by decide, by decide⟩
  have hminus : Controlled 0 (-100000000) := ⟨by decide, by decide, by decide⟩
  have hfits : Fits (normalised 0 100000000) := ⟨by decide, by decide⟩
  have hfits' : Fits (normalised 0 (-100000000)) := ⟨by decide, by decide⟩
  have hup := (integral_scaled hfits).above (by decide) (by decide)
  have hdown := (integral_scaled hfits').below (by decide) (by decide)
  constructor
  · rw [hplus.sample_drift ht.ai, toInt_add_of_fits ⟨by omega, by omega⟩]
    unfold clampAdj
    omega
  · rw [hminus.sample_drift ht.ai, toInt_add_of_fits ⟨by omega, by omega⟩]
    unfold clampAdj
    omega

/-- The sum of a large integral and the largest drift wraps around. -/
theorem not_pushes_above (ht : Tuned s) (h : Controlled interval offset)
    (hfits : Fits (normalised interval offset)) (hlarge : 2146971584 ≤ normalised interval offset)
    (hdrift : s.ptpClock.observedDrift.toInt = 512000) : ¬Pushes s interval offset := by
  intro hpushes
  have hpos : 0 < normalised interval offset := by omega
  have hrises := hpushes.rises (pos_of_normalised hpos)
  have hover := (integral_scaled hfits).overAbove hlarge
  obtain ⟨-, hglt⟩ := fits_toInt (integral interval offset)
  rw [h.sample_drift ht.ai, Int32.toInt_add, hdrift, Int.bmod_def, if_neg (by omega)] at hrises
  unfold clampAdj at hrises
  omega

theorem not_pushes_below (ht : Tuned s) (h : Controlled interval offset)
    (hfits : Fits (normalised interval offset))
    (hlarge : normalised interval offset ≤ -2146971584)
    (hdrift : s.ptpClock.observedDrift.toInt = -512000)
    (hadjust : s.ptpClock.servo.noAdjust = false) : ¬Pushes s interval offset := by
  intro hpushes
  have hneg : normalised interval offset < 0 := by omega
  have hfalls := hpushes.falls (neg_of_normalised hneg)
  have hover := (integral_scaled hfits).overBelow hlarge
  obtain ⟨hgge, -⟩ := fits_toInt (integral interval offset)
  rw [h.sample_drift ht.ai, Int32.toInt_add, hdrift, Int.bmod_def] at hfalls
  have hg : (integral interval offset).toInt = -2146971648 := by
    by_contra hne
    rw [if_pos (by omega)] at hfalls
    unfold clampAdj at hfalls
    omega
  -- the sum with the new drift is the least integer, which has no negation
  have hnew : (s.sample interval offset).ptpClock.observedDrift = -512000 := by
    apply Int32.toInt.inj
    rw [h.sample_drift ht.ai, toInt_add_of_fits ⟨by omega, by omega⟩, hdrift, hg]
    decide
  have haddend := hpushes.addend hadjust
  have hintegral : integral interval offset = -2146971648 := Int32.toInt.inj hg
  rw [h.sample_addend ht.ap hadjust, hnew, hintegral] at haddend
  have hwrong : (adjFreqAddend (clampAdj (-(-2146971648 + -512000 : Int32)).toInt)).toNat =
      1073191824 := by decide
  rw [haddend] at hwrong
  have hright := addendFor_eq (normalised interval offset + (-512000 : Int32).toInt)
  have hdrift' : (-512000 : Int32).toInt = -512000 := by decide
  rw [hdrift'] at hwrong hright
  unfold clampAdj at hright
  omega

/-- A servo after a reset, with gains of one. -/
def resetServo : System :=
  (default : System).modify fun c =>
    { c with servo := { c.servo with ap := 1, ai := 1, noAdjust := false }, observedDrift := 0 }

theorem resetServo_reachable : servoRuns.Reachable resetServo := .init ⟨rfl, rfl, rfl⟩

/-- A largest offset at an interval of a second is a small enough sample. -/
theorem reachable_sample_largest (offset : Int32) (h : |offset.toInt| = 100000000) :
    servoRuns.Reachable (resetServo.sample 0 offset) := by
  have hnormalised : normalised 0 offset = offset.toInt := by
    unfold normalised
    exact mul_one _
  refine resetServo_reachable.next ⟨0, offset, ⟨by decide, by decide, h.le⟩, ?_, rfl⟩
  rw [KeepsSign, hnormalised, h]
  norm_num

/-- **The servo pushes in the right direction** for a sample, in every state that small enough
samples lead to, if and only if the sample is small enough; the addend follows the request. -/
theorem pushes_iff (h : Controlled interval offset) :
    AddendFollows addendFor ∧
      ((∀ s, servoRuns.Reachable s → Pushes s interval offset) ↔ KeepsSign interval offset) := by
  refine ⟨addendFor_follows, fun hpushes => ?_, fun hkeeps s hs => ?_⟩
  · have hreset := tuned_of_reachable resetServo_reachable
    obtain ⟨hup, hdown⟩ := hreset.sample_largest
    have hplus := reachable_sample_largest 100000000 (by decide)
    have hminus := reachable_sample_largest (-100000000) (by decide)
    have hfits := (hpushes _ resetServo_reachable).fits
    by_contra hlarge
    rw [KeepsSign, not_le, lt_abs] at hlarge
    rcases hlarge with hlarge | hlarge
    · exact not_pushes_above (tuned_of_reachable hplus) h hfits (by omega) hup (hpushes _ hplus)
    · have hrange : Controlled 0 (-100000000) := ⟨by decide, by decide, by decide⟩
      refine not_pushes_below (tuned_of_reachable hminus) h hfits (by omega) hdown ?_
        (hpushes _ hminus)
      rw [hrange.sample_servo]
      rfl
  · exact (tuned_of_reachable hs).pushes h hkeeps

/-- An offset of 16.8 ms at 128 samples a second. -/
theorem pushes_iff_fast :
    AddendFollows addendFor ∧
      ((∀ s, servoRuns.Reachable s → Pushes s (-7) 16773215) ↔ KeepsSign (-7) 16773215) ∧
      ∀ s, servoRuns.Reachable s → Pushes s (-7) 16773215 := by
  have hrange : Controlled (-7) 16773215 := ⟨by decide, by decide, by decide⟩
  have hkeeps : KeepsSign (-7) 16773215 := by
    unfold KeepsSign
    decide
  obtain ⟨hfollows, hiff⟩ := pushes_iff hrange
  exact ⟨hfollows, hiff, hiff.mpr hkeeps⟩

/-- An offset of 100 ms at 128 samples a second: the shift overflows, and the drift falls although
the offset is positive. -/
theorem drift_falls :
    Controlled (-7) 100000000 ∧ servoRuns.Reachable resetServo ∧
      ¬Fits (normalised (-7) 100000000) ∧
      (resetServo.sample (-7) 100000000).ptpClock.observedDrift.toInt <
        resetServo.ptpClock.observedDrift.toInt ∧
      ¬Pushes resetServo (-7) 100000000 := by
  have hrange : Controlled (-7) 100000000 := ⟨by decide, by decide, by decide⟩
  have hfits : ¬Fits (normalised (-7) 100000000) := fun h => absurd h.2 (by decide)
  refine ⟨hrange, resetServo_reachable, hfits, ?_, fun h => hfits h.fits⟩
  have hintegral : integral (-7) 100000000 = -84901888 := by decide +kernel
  have hadd : (resetServo.ptpClock.observedDrift + -84901888).toInt = -84901888 := by decide
  rw [hrange.sample_drift rfl, hintegral, hadd]
  decide

end Sample

end Ptpd

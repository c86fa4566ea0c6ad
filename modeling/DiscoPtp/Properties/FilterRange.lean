import DiscoPtp.Library.Smoothing
import DiscoPtp.Properties.Estimator

/-!
# The range of the smoothing filter

`filter` keeps a scaled sum. Where its order suits both the sample and the previous output, nothing
overflows and the outputs stay within the samples. The order is limited by the signed maximum of
the two, which does not bound a large negative value.

## Main definitions

* `filterValues`: the exact values of the intermediate results of `filter`
* `smooth`: the filter after some samples
* `LimitSuffices`: the limit of the order suits the sample and the previous output

## Main results

* `Filter.Ready.filter_eq`: the filter is the smoothing of integers
* `filter_stays_within`: no overflow, and outputs within the samples
-/

namespace Ptpd

open SignedWord Smoothing History

/-! ## Exact values -/

/-- The scaled sum of the filter. -/
def Filter.average (filt : Filter) : Average := ⟨filt.ySum.toInt, filt.sPrev.toInt.toNat⟩

/-- The signed maximum the limit of the order is computed from. -/
def signedMax (x y : Int32) : Int32 := if x > y then x else y

/-- The order before it is limited: the configured one, less while there are few samples. -/
def wantedOrder (filt : Filter) : ℤ :=
  if shl 1 filt.s.toInt.toNat > filt.n then order filt.n else filt.s.toInt

theorem filterOrder_eq (x : Int32) (filt : Filter) :
    filterOrder x filt = min (wantedOrder filt) (30 - order (signedMax filt.yPrev x)) := rfl

/-- The intermediate results of `filter` as integers: the sample count, the power of two it is
compared with, the operands of the limit, the order, the rescaled sum, the difference and the new
sum. -/
def filterValues (x : Int32) (filt : Filter) : List ℤ :=
  let started := filterStart x filt
  let s := filterOrder x started
  let rescaled := (started.average.rescale s.toNat).sum
  [filt.n.toInt + 1, 2 ^ started.s.toInt.toNat, -(signedMax started.yPrev x).toInt,
    30 - order (signedMax started.yPrev x), s, rescaled, x.toInt - started.yPrev.toInt,
    rescaled + (x.toInt - started.yPrev.toInt)]

/-- The filter after some samples, the newest first. -/
def smooth (filt : Filter) (samples : List Int32) : Filter :=
  samples.foldr (fun x filt => (filter x filt).2) filt

/-- What the filter promises for the sample `x` after the samples `earlier`. -/
def StaysWithin (filt : Filter) (x : Int32) (earlier : List Int32) : Prop :=
  (∀ v ∈ filterValues x (smooth filt earlier), Fits v) ∧
    (∃ y ∈ x :: earlier, y.toInt ≤ (filter x (smooth filt earlier)).1.toInt) ∧
    ∃ y ∈ x :: earlier, (filter x (smooth filt earlier)).1.toInt ≤ y.toInt

/-- Neither the previous output nor the sample has more bits than their signed maximum, unless the
order wanted suits it anyway. The first sample is its own previous output. -/
def LimitSuffices (x : Int32) (filt : Filter) : Prop :=
  filt.n = 0 ∨ ∀ v ∈ [filt.yPrev, x],
    wantedOrder { filt with n := filt.n + 1 } ≤ 30 - order v ∨
      order v ≤ order (signedMax filt.yPrev x)

instance (n : ℤ) : Decidable (Fits n) := by
  unfold Fits
  exact inferInstance

instance (x : Int32) (filt : Filter) : Decidable (LimitSuffices x filt) := by
  -- over the list: `Int32` is a finite type, and must not be enumerated
  have : Decidable (∀ v ∈ [filt.yPrev, x],
      wantedOrder { filt with n := filt.n + 1 } ≤ 30 - order v ∨
        order v ≤ order (signedMax filt.yPrev x)) := List.decidableBAll _ _
  unfold LimitSuffices
  exact instDecidableOr

/-! ## The order of a sample of either sign -/

theorem order_neg {x : Int32} (h : x.toInt < 0) : order x = order (-x) := by
  have hzero : (0 : Int32).toInt = 0 := rfl
  have hlt : x < 0 := by
    rw [Int32.lt_iff_toInt_lt, hzero]
    exact h
  by_cases hmin : x.toInt = -2147483648
  · have hx : x = Int32.minValue := Int32.toInt.inj hmin
    rw [hx]
    rfl
  have hneg : (-x).toInt = -x.toInt := by
    have := Int32.le_toInt x
    rw [Int32.toInt_neg, bmod_of_fits ⟨by omega, by omega⟩]
  have hge : ¬-x < 0 := by
    rw [Int32.lt_iff_toInt_lt, hzero]
    omega
  simp only [order, if_pos hlt, if_neg hge]

/-- The order of a sample counts its bits. -/
theorem order_spec {x : Int32} (hlo : -1000000000 < x.toInt) (hhi : x.toInt < 1000000000) :
    ∃ k : ℕ, order x = k ∧ k ≤ 29 ∧ -2 ^ (k + 1) < x.toInt ∧ x.toInt < 2 ^ (k + 1) := by
  have hnonneg (y : Int32) (hy : 0 ≤ y.toInt) (hy' : y.toInt < 1000000000) :
      ∃ k : ℕ, order y = k ∧ k ≤ 29 ∧ y.toInt < 2 ^ (k + 1) := by
    obtain ⟨k, hk, hlt, hle⟩ := order_of_nonneg hy
    refine ⟨k, hk, ?_, hlt⟩
    rcases hle with rfl | hle
    · omega
    · by_contra hgt
      have : (2 : ℤ) ^ 30 ≤ 2 ^ k := pow_le_pow_right₀ (by decide) (by omega)
      omega
  by_cases hx : 0 ≤ x.toInt
  · obtain ⟨k, hk, hle, hlt⟩ := hnonneg x hx hhi
    have : (0 : ℤ) < 2 ^ (k + 1) := by positivity
    exact ⟨k, hk, hle, by omega, hlt⟩
  · have hneg : (-x).toInt = -x.toInt := by
      rw [Int32.toInt_neg, bmod_of_fits ⟨by omega, by omega⟩]
    obtain ⟨k, hk, hle, hlt⟩ := hnonneg (-x) (by omega) (by omega)
    have : (0 : ℤ) < 2 ^ (k + 1) := by positivity
    exact ⟨k, (order_neg (by omega)).trans hk, hle, by omega, by omega⟩

/-! ## One sample -/

/-- The filter with a sample counted: the previous output is the value of the sum. -/
structure Filter.Ready (filt : Filter) : Prop where
  configured : 0 ≤ filt.s.toInt ∧ filt.s.toInt ≤ 30
  count : 1 ≤ filt.n.toInt ∧ filt.n.toInt ≤ 2 ^ 30 + 1
  order : 0 ≤ filt.sPrev.toInt ∧ filt.sPrev.toInt ≤ 30
  value : filt.yPrev.toInt = filt.average.value
  range : -1000000000 < filt.yPrev.toInt ∧ filt.yPrev.toInt < 1000000000

section Step

variable {filt : Filter} {x : Int32}

theorem signedMax_cases (x y : Int32) : signedMax x y = x ∨ signedMax x y = y := by
  unfold signedMax
  split
  · exact .inl rfl
  · exact .inr rfl

theorem Filter.Ready.order_signedMax (h : filt.Ready) (hlo : -1000000000 < x.toInt)
    (hhi : x.toInt < 1000000000) :
    ∃ j : ℕ, Ptpd.order (signedMax filt.yPrev x) = j ∧ j ≤ 29 := by
  rcases signedMax_cases filt.yPrev x with heq | heq
  · obtain ⟨j, hj, hle, -⟩ := order_spec h.range.1 h.range.2
    exact ⟨j, by rw [heq, hj], hle⟩
  · obtain ⟨j, hj, hle, -⟩ := order_spec hlo hhi
    exact ⟨j, by rw [heq, hj], hle⟩

/-- The order used, without a condition on the sample. -/
theorem Filter.Ready.exists_order (h : filt.Ready) (hlo : -1000000000 < x.toInt)
    (hhi : x.toInt < 1000000000) : ∃ k : ℕ, filterOrder x filt = k ∧ k ≤ 30 := by
  obtain ⟨i, hi, -, -⟩ := order_of_nonneg (x := filt.n) (by have := h.count; omega)
  obtain ⟨j, hj, hjle⟩ := h.order_signedMax hlo hhi
  have hwanted : 0 ≤ wantedOrder filt := by
    unfold wantedOrder
    split
    · rw [hi]
      exact Int.natCast_nonneg i
    · exact h.configured.1
  have horder := filterOrder_eq x filt
  obtain ⟨k, hk⟩ := Int.eq_ofNat_of_zero_le (a := filterOrder x filt) (by omega)
  exact ⟨k, hk, by omega⟩

/-- The order is one that both the previous output and the sample allow. -/
theorem Filter.Ready.order_bounds (h : filt.Ready) (hlo : -1000000000 < x.toInt)
    (hhi : x.toInt < 1000000000)
    (hlimit : ∀ v ∈ [filt.yPrev, x],
      wantedOrder filt ≤ 30 - Ptpd.order v ∨ Ptpd.order v ≤ Ptpd.order (signedMax filt.yPrev x)) :
    ∃ k m : ℕ, filterOrder x filt = k ∧ m + k = 31 ∧ k ≤ 30 ∧
      ∀ v ∈ [filt.yPrev, x], -2 ^ m ≤ v.toInt ∧ v.toInt < 2 ^ m := by
  obtain ⟨k, hk, hk30⟩ := h.exists_order hlo hhi
  have horder := filterOrder_eq x filt
  refine ⟨k, 31 - k, hk, by omega, hk30, ?_⟩
  intro v hv
  have hrange : -1000000000 < v.toInt ∧ v.toInt < 1000000000 := by
    simp only [List.mem_cons, List.not_mem_nil, or_false] at hv
    rcases hv with rfl | rfl
    · exact h.range
    · exact ⟨hlo, hhi⟩
  obtain ⟨l, hl, hlle, hvlo, hvhi⟩ := order_spec hrange.1 hrange.2
  have hbits : l + 1 ≤ 31 - k := by
    rcases hlimit v hv with hw | hw <;> omega
  have hpow : (2 : ℤ) ^ (l + 1) ≤ 2 ^ (31 - k) := pow_le_pow_right₀ (by decide) hbits
  omega

/-- Rescaling in the machine is exact where the result fits. -/
theorem Filter.Ready.filterRescale_eq (h : filt.Ready) {k : ℕ}
    (hfits : Fits (filt.average.rescale k).sum) :
    (filterRescale filt k).toInt = (filt.average.rescale k).sum := by
  have hprev := h.order
  unfold Average.rescale Filter.average at hfits ⊢
  dsimp only at hfits ⊢
  unfold filterRescale
  by_cases hgt : filt.sPrev.toInt > k
  · have hexp : filt.sPrev.toInt.toNat - k = (filt.sPrev.toInt - k).toNat := by omega
    rw [if_pos (by omega), hexp] at hfits
    rw [if_pos hgt, sar, if_pos (by omega), hexp]
    exact toInt_ofInt_of_fits hfits
  · have hexp : k - filt.sPrev.toInt.toNat = (k - filt.sPrev.toInt).toNat := by omega
    rw [if_neg (by omega), hexp] at hfits
    rw [if_neg hgt, if_neg (by omega : ¬k < filt.sPrev.toInt.toNat), hexp]
    split
    · exact toInt_ofInt_of_fits hfits
    · have hsame : (k - filt.sPrev.toInt).toNat = 0 := by omega
      rw [hsame, pow_zero, mul_one]

/-- **The machine's sum is the exact one**: at the order used, neither the rescaled sum nor the new
one leaves the word. -/
theorem Filter.Ready.sum_eq (h : filt.Ready) (hlo : -1000000000 < x.toInt)
    (hhi : x.toInt < 1000000000)
    (hlimit : ∀ v ∈ [filt.yPrev, x],
      wantedOrder filt ≤ 30 - Ptpd.order v ∨ Ptpd.order v ≤ Ptpd.order (signedMax filt.yPrev x)) :
    ∃ k : ℕ, filterOrder x filt = k ∧ k ≤ 30 ∧ Fits (filt.average.rescale k).sum ∧
      Fits ((filt.average.rescale k).sum + (x.toInt - filt.yPrev.toInt)) ∧
      (filterRescale filt k + (x - filt.yPrev)).toInt =
        ((filt.average.rescale k).add x.toInt).sum := by
  obtain ⟨k, m, hk, hm, hk30, hbound⟩ := h.order_bounds hlo hhi hlimit
  have hy := hbound filt.yPrev (by simp)
  have hx := hbound x (by simp)
  have hvalue : (filt.average.rescale k).value = filt.yPrev.toInt := by
    rw [Average.value_rescale, h.value]
  have hbetween := (filt.average.rescale k).value_add_between x.toInt
  have hrescaled := (filt.average.rescale k).sum_bounds (m := m) (by omega) (by omega)
  have hadded := ((filt.average.rescale k).add x.toInt).sum_bounds (m := m) (by omega) (by omega)
  have hadd : ((filt.average.rescale k).add x.toInt).sum =
      (filt.average.rescale k).sum + (x.toInt - filt.yPrev.toInt) := by
    rw [← hvalue]
    rfl
  rw [Average.rescale_order, hm] at hrescaled
  rw [Average.add_order, Average.rescale_order, hm, hadd] at hadded
  have hfits : Fits (filt.average.rescale k).sum := ⟨by omega, by omega⟩
  have hfits' : Fits ((filt.average.rescale k).sum + (x.toInt - filt.yPrev.toInt)) :=
    ⟨by omega, by omega⟩
  refine ⟨k, hk, hk30, hfits, hfits', ?_⟩
  have hdiff : (x - filt.yPrev).toInt = x.toInt - filt.yPrev.toInt := by
    have := h.range
    exact toInt_sub_of_fits ⟨by omega, by omega⟩
  rw [hadd]
  rw [← h.filterRescale_eq hfits, ← hdiff] at hfits' ⊢
  exact toInt_add_of_fits hfits'

/-- The filter after a sample: ready for the next one to be counted. -/
def Filter.Kept (filt : Filter) : Prop := filt.Ready ∧ filt.n.toInt ≤ 2 ^ 30

/-- Counting a sample: the first one is its own previous output. -/
theorem filterStart_ready (hs : 0 ≤ filt.s.toInt ∧ filt.s.toInt ≤ 30)
    (hlo : -1000000000 < x.toInt) (hhi : x.toInt < 1000000000) (h : filt.n = 0 ∨ filt.Kept) :
    (filterStart x filt).Ready ∧ (filterStart x filt).s = filt.s ∧
      filt.n.toInt + 1 = (filterStart x filt).n.toInt ∧
      ((filterStart x filt).yPrev = x ∨
        filt.Kept ∧ filterStart x filt = { filt with n := filt.n + 1 }) := by
  have hone : (1 : Int32).toInt = 1 := rfl
  have hzero : (0 : Int32).toInt = 0 := rfl
  have hzero' : (0 : Int16).toInt = 0 := rfl
  rcases h with h | ⟨h, hn⟩
  · rw [filterStart, if_pos (by rw [h]; rfl)]
    refine ⟨⟨hs, by rw [hone]; decide, by rw [hzero']; decide, ?_, hlo, hhi⟩, rfl, ?_, .inl rfl⟩
    · show x.toInt = x.toInt / 2 ^ (0 : Int16).toInt.toNat
      rw [hzero', Int.toNat_zero, pow_zero, Int.ediv_one]
    · rw [h, hzero, hone]
      rfl
  · have hpos := h.count.1
    have hcount : (filt.n + 1).toInt = filt.n.toInt + 1 := by
      rw [toInt_add_of_fits, hone]
      rw [hone]
      exact ⟨by omega, by omega⟩
    have hne : filt.n + 1 ≠ 1 := by
      intro heq
      rw [heq, hone] at hcount
      omega
    rw [filterStart, if_neg hne]
    refine ⟨⟨hs, ?_, h.order, h.value, h.range⟩, rfl, hcount.symm, .inr ⟨⟨h, hn⟩, rfl⟩⟩
    show 1 ≤ (filt.n + 1).toInt ∧ (filt.n + 1).toInt ≤ _
    omega

/-- **One sample**: no intermediate result leaves the word, and the output lies between the previous
one and the sample, or is the sample if it is the first. -/
theorem filter_step (hs : 0 ≤ filt.s.toInt ∧ filt.s.toInt ≤ 30) (hlo : -1000000000 < x.toInt)
    (hhi : x.toInt < 1000000000) (h : filt.n = 0 ∨ filt.Kept) (hlimit : LimitSuffices x filt) :
    (∀ v ∈ filterValues x filt, Fits v) ∧ (filter x filt).2.Kept ∧ (filter x filt).2.s = filt.s ∧
      (filter x filt).2.yPrev = (filter x filt).1 ∧
      (filter x filt).1.toInt ≤ max (filterStart x filt).yPrev.toInt x.toInt ∧
      min (filterStart x filt).yPrev.toInt x.toInt ≤ (filter x filt).1.toInt := by
  obtain ⟨hready, hsame, hn, hstart⟩ := filterStart_ready hs hlo hhi h
  have hlimit' : ∀ v ∈ [(filterStart x filt).yPrev, x],
      wantedOrder (filterStart x filt) ≤ 30 - Ptpd.order v ∨
        Ptpd.order v ≤ Ptpd.order (signedMax (filterStart x filt).yPrev x) := by
    rcases hstart with hy | ⟨hkept, heq⟩
    · -- the first sample is compared with itself
      intro v hv
      rw [hy] at hv ⊢
      have hmax : signedMax x x = x := by
        rcases signedMax_cases x x with heq | heq <;> exact heq
      simp only [List.mem_cons, List.not_mem_nil, or_false, or_self] at hv
      rw [hv, hmax]
      exact .inr le_rfl
    · rw [heq]
      rcases hlimit with hzero | hlimit
      · have hpos := hkept.1.count.1
        rw [hzero] at hpos
        exact absurd hpos (by decide)
      · exact hlimit
  obtain ⟨k, hk, hk30, hfits, hfits', hsum⟩ := hready.sum_eq hlo hhi hlimit'
  obtain ⟨j, hj, hj29⟩ := hready.order_signedMax hlo hhi
  have hvalue : ((filterStart x filt).average.rescale k).value =
      (filterStart x filt).yPrev.toInt := by
    rw [Average.value_rescale, hready.value]
  have hbetween := ((filterStart x filt).average.rescale k).value_add_between x.toInt
  rw [hvalue] at hbetween
  have hrange := hready.range
  have hprev := toInt_ofInt16 (s := (k : ℤ)) (by omega) (by omega)
  have hout : (filter x filt).1.toInt =
      (((filterStart x filt).average.rescale k).add x.toInt).value := by
    show (sar (filterRescale (filterStart x filt) (filterOrder x (filterStart x filt)) +
      (x - (filterStart x filt).yPrev)) (filterOrder x (filterStart x filt)).toNat).toInt = _
    rw [hk, sar, hsum]
    exact toInt_ofInt_of_fits (n := (((filterStart x filt).average.rescale k).add x.toInt).value)
      ⟨by omega, by omega⟩
  refine ⟨?_, ?_, hsame, rfl, by omega, by omega⟩
  · intro v hv
    have hpow : (0 : ℤ) < 2 ^ (filterStart x filt).s.toInt.toNat ∧
        (2 : ℤ) ^ (filterStart x filt).s.toInt.toNat ≤ 2 ^ 30 :=
      ⟨by positivity, pow_le_pow_right₀ (by decide) (by have := hready.configured; omega)⟩
    have hmax : -1000000000 < (signedMax (filterStart x filt).yPrev x).toInt ∧
        (signedMax (filterStart x filt).yPrev x).toInt < 1000000000 := by
      rcases signedMax_cases (filterStart x filt).yPrev x with heq | heq <;> rw [heq]
      · exact hrange
      · exact ⟨hlo, hhi⟩
    have hcount := hready.count
    unfold filterValues at hv
    dsimp only at hv
    rw [hk, hj, Int.toNat_natCast] at hv
    simp only [List.mem_cons, List.not_mem_nil, or_false] at hv
    rcases hv with rfl | rfl | rfl | rfl | rfl | rfl | rfl | rfl
    · exact ⟨by omega, by omega⟩
    · exact ⟨by omega, by omega⟩
    · exact ⟨by omega, by omega⟩
    · exact ⟨by omega, by omega⟩
    · exact ⟨by omega, by omega⟩
    · exact hfits
    · exact ⟨by omega, by omega⟩
    · exact hfits'
  · have hcount : 1 ≤ (filterCount (filterStart x filt)).toInt ∧ _ :=
      filterCount_bounds hready.configured hready.count.1
    have hs' : (filter x filt).2.sPrev.toInt = k := by
      show (Int16.ofInt (filterOrder x (filterStart x filt))).toInt = k
      rw [hk, hprev]
    refine ⟨⟨?_, ⟨hcount.1, hcount.2.trans (by decide)⟩, by rw [hs']; omega, ?_, ?_⟩, hcount.2⟩
    · exact hsame ▸ hs
    · rw [Filter.average, hs']
      show (filter x filt).1.toInt = (filter x filt).2.ySum.toInt / 2 ^ (k : ℤ).toNat
      rw [hout]
      show _ = (filterRescale (filterStart x filt) (filterOrder x (filterStart x filt)) +
        (x - (filterStart x filt).yPrev)).toInt / _
      rw [hk, hsum]
      rfl
    · show -1000000000 < (filter x filt).1.toInt ∧ (filter x filt).1.toInt < 1000000000
      omega

end Step

/-! ## Runs of the filter -/

/-- What is known of the filter after some samples. -/
theorem smooth_kept {filt : Filter} (hn : filt.n = 0)
    (hs : 0 ≤ filt.s.toInt ∧ filt.s.toInt ≤ 30) {samples : List Int32}
    (hsamples : ∀ x ∈ samples, -1000000000 < x.toInt ∧ x.toInt < 1000000000)
    (hlimit : Every (fun x earlier => LimitSuffices x (smooth filt earlier)) samples) :
    (smooth filt samples).s = filt.s ∧
      (samples = [] ∨ (smooth filt samples).Kept ∧
        (∃ y ∈ samples, y.toInt ≤ (smooth filt samples).yPrev.toInt) ∧
        ∃ y ∈ samples, (smooth filt samples).yPrev.toInt ≤ y.toInt) ∧
      Every (StaysWithin filt) samples := by
  induction samples with
  | nil => exact ⟨rfl, .inl rfl, every_nil _⟩
  | cons x earlier ih =>
    rw [every_cons] at hlimit
    obtain ⟨hsame, hkept, hevery⟩ :=
      ih (fun y hy => hsamples y (List.mem_cons_of_mem x hy)) hlimit.2
    obtain ⟨hlo, hhi⟩ := hsamples x List.mem_cons_self
    have hready : (smooth filt earlier).n = 0 ∨ (smooth filt earlier).Kept := by
      rcases hkept with rfl | hkept
      · exact .inl hn
      · exact .inr hkept.1
    obtain ⟨hvalues, hnext, hs', hy, hmax, hmin⟩ :=
      filter_step (hsame.symm ▸ hs) hlo hhi hready hlimit.1
    -- the previous output lies within the samples, or there is none
    have hprev : (∃ y ∈ x :: earlier, y.toInt ≤ (filterStart x (smooth filt earlier)).yPrev.toInt) ∧
        ∃ y ∈ x :: earlier, (filterStart x (smooth filt earlier)).yPrev.toInt ≤ y.toInt := by
      obtain ⟨-, -, -, hstart⟩ := filterStart_ready (hsame.symm ▸ hs) hlo hhi hready
      rcases hstart with heq | ⟨hk, heq⟩
      · rw [heq]
        exact ⟨⟨x, List.mem_cons_self, le_rfl⟩, ⟨x, List.mem_cons_self, le_rfl⟩⟩
      · rw [heq]
        rcases hkept with rfl | ⟨-, ⟨lo, hmem, hle⟩, ⟨hi, hmem', hle'⟩⟩
        · have hpos := hk.1.count.1
          change 1 ≤ filt.n.toInt at hpos
          rw [hn] at hpos
          exact absurd hpos (by decide)
        · exact ⟨⟨lo, List.mem_cons_of_mem x hmem, hle⟩, ⟨hi, List.mem_cons_of_mem x hmem', hle'⟩⟩
    have hx : x ∈ x :: earlier := List.mem_cons_self
    have hlower : ∃ y ∈ x :: earlier, y.toInt ≤ (filter x (smooth filt earlier)).1.toInt := by
      obtain ⟨⟨lo, hmem, hle⟩, -⟩ := hprev
      rcases le_total (filterStart x (smooth filt earlier)).yPrev.toInt x.toInt with hc | hc
      · exact ⟨lo, hmem, by omega⟩
      · exact ⟨x, hx, by omega⟩
    have hupper : ∃ y ∈ x :: earlier, (filter x (smooth filt earlier)).1.toInt ≤ y.toInt := by
      obtain ⟨-, ⟨hi, hmem, hle⟩⟩ := hprev
      rcases le_total (filterStart x (smooth filt earlier)).yPrev.toInt x.toInt with hc | hc
      · exact ⟨x, hx, by omega⟩
      · exact ⟨hi, hmem, by omega⟩
    refine ⟨hs'.trans hsame, .inr ⟨hnext, ?_, ?_⟩,
      every_cons.mpr ⟨⟨hvalues, hlower, hupper⟩, hevery⟩⟩
    · show ∃ y ∈ x :: earlier, y.toInt ≤ (filter x (smooth filt earlier)).2.yPrev.toInt
      rw [hy]
      exact hlower
    · show ∃ y ∈ x :: earlier, (filter x (smooth filt earlier)).2.yPrev.toInt ≤ y.toInt
      rw [hy]
      exact hupper

/-- From the first sample on, where the limit of the order suits every sample, nothing overflows
and every output lies within the samples so far. -/
theorem filter_stays_within (filt : Filter) (hn : filt.n = 0)
    (hs : 0 ≤ filt.s.toInt ∧ filt.s.toInt ≤ 30) (samples : List Int32)
    (hsamples : ∀ x ∈ samples, -1000000000 < x.toInt ∧ x.toInt < 1000000000)
    (hlimit : Every (fun x earlier => LimitSuffices x (smooth filt earlier)) samples) :
    Every (StaysWithin filt) samples :=
  (smooth_kept hn hs hsamples hlimit).2.2

/-- A filter of order six that has seen nothing. -/
def freshFilter : Filter := { (default : Filter) with s := 6 }

theorem smooth_cons (filt : Filter) (x : Int32) (earlier : List Int32) :
    smooth filt (x :: earlier) = (filter x (smooth filt earlier)).2 := rfl

/-- Samples of both signs that the limit suits. -/
theorem filter_stays_within_mixed : Every (StaysWithin freshFilter) [-45000, 3000, 100] := by
  have h₁ :
      smooth freshFilter [100] = { yPrev := 100, ySum := 100, s := 6, sPrev := 0, n := 1 } := by
    rw [smooth_cons]
    decide +kernel
  have h₂ : smooth freshFilter [3000, 100] =
      { yPrev := 1550, ySum := 3100, s := 6, sPrev := 1, n := 2 } := by
    rw [smooth_cons, h₁]
    decide +kernel
  refine filter_stays_within freshFilter rfl (by decide) _ ?_ ?_
  · intro x hx
    simp only [List.mem_cons, List.not_mem_nil, or_false] at hx
    rcases hx with rfl | rfl | rfl <;> decide +kernel
  · rw [every_cons, every_cons, every_cons, h₁, h₂]
    exact ⟨by decide +kernel, by decide +kernel, .inl rfl, every_nil _⟩

/-- The filter after three samples near a negative second. -/
theorem smooth_nearSecond :
    smooth freshFilter [-999999999, -999999999, -999999999] =
      { yPrev := -999999999, ySum := -1999999998, s := 6, sPrev := 1, n := 3 } := by
  have h₁ : smooth freshFilter [-999999999] =
      { yPrev := -999999999, ySum := -999999999, s := 6, sPrev := 0, n := 1 } := by
    rw [smooth_cons]
    decide +kernel
  have h₂ : smooth freshFilter [-999999999, -999999999] =
      { yPrev := -999999999, ySum := -1999999998, s := 6, sPrev := 1, n := 2 } := by
    rw [smooth_cons, h₁]
    decide +kernel
  rw [smooth_cons, h₂]
  decide +kernel

/-- Then a sample of minus one nanosecond raises the order, and the sum overflows: the output is
larger than every sample. -/
theorem filter_overflows :
    (∀ x ∈ [(-1 : Int32), -999999999, -999999999, -999999999],
      -1000000000 < x.toInt ∧ x.toInt < 1000000000) ∧
    ¬Every (StaysWithin freshFilter) [-1, -999999999, -999999999, -999999999] ∧
    -3999999996 ∈ filterValues (-1) (smooth freshFilter [-999999999, -999999999, -999999999]) ∧
    (filter (-1) (smooth freshFilter [-999999999, -999999999, -999999999])).1 = 323741824 := by
  have hvalue : -3999999996 ∈
      filterValues (-1) (smooth freshFilter [-999999999, -999999999, -999999999]) := by
    rw [smooth_nearSecond]
    decide +kernel
  have hout : (filter (-1) (smooth freshFilter [-999999999, -999999999, -999999999])).1 =
      323741824 := by
    rw [smooth_nearSecond]
    decide +kernel
  refine ⟨?_, ?_, hvalue, hout⟩
  · intro x hx
    simp only [List.mem_cons, List.not_mem_nil, or_false, or_self] at hx
    rcases hx with rfl | rfl <;> decide +kernel
  · intro h
    have hfits := (every_cons.mp h).1.1 _ hvalue
    exact absurd hfits (by decide)

end Ptpd

import DiscoPtp.Library.History
import DiscoPtp.Model.Run
import DiscoPtp.Properties.Effects
import DiscoPtp.Properties.TimeArith

/-!
# The offset and delay estimator

A slave clock reads a constant `theta` more than its master clock, over a path with a constant delay
`d`. On the exchanges of such a slave the estimator is exact: the arithmetic of times loses nothing,
and the filters give back what they are fed.

## Main definitions

* `Filter.Constant`, `Filter.Follows`: filters that have seen one sample only, and of order zero
* `Sample`, `Sample.IsOf`: calls of the estimator, with the times of an exchange
* `estimate`: the clock after some calls
* `Exact`: what a call leaves is exact

## Main results

* `filter_constant`, `filter_follows`: the filter gives its sample back
* `Estimates.apply`: what the estimator knows, call by call
* `estimator_exact`: every result is exact
-/

namespace Ptpd

open SignedWord

/-! ## The order of a sample -/

/-- The order of a sample that is not negative is the position of its highest bit. -/
theorem order_of_nonneg {x : Int32} (h : 0 ≤ x.toInt) :
    ∃ k : ℕ, order x = k ∧ x.toInt < 2 ^ (k + 1) ∧ (k = 0 ∨ 2 ^ k ≤ x.toInt) := by
  have hzero : (0 : Int32).toInt = 0 := rfl
  have hneg : ¬x < 0 := by
    rw [Int32.lt_iff_toInt_lt, hzero]
    omega
  have hnat := toNat_toUInt32_of_nonneg h
  -- zero has the order zero by a test of its own
  by_cases h0 : x = 0
  · refine ⟨0, ?_, ?_, .inl rfl⟩
    · rw [h0]
      rfl
    · rw [h0, hzero]
      norm_num
  · have hpos : x.toUInt32.toNat ≠ 0 := by
      intro hn
      exact h0 (Int32.toInt.inj (by omega))
    have hne : x.toUInt32 ≠ 0 := fun hn => hpos (by rw [hn]; rfl)
    refine ⟨Nat.log 2 x.toUInt32.toNat, ?_, ?_, .inr ?_⟩
    · simp only [order, if_neg hneg, if_neg h0]
      exact floorLog2_eq hne
    · rw [← hnat]
      exact_mod_cast Nat.lt_pow_succ_log_self (by decide) _
    · rw [← hnat]
      exact_mod_cast Nat.pow_log_le_self 2 hpos

/-- The order of a sample of less than a second. -/
theorem order_le {x : Int32} (hlo : -1000000000 < x.toInt) (hhi : x.toInt < 1000000000) :
    order x ≤ 30 := by
  have hzero : (0 : Int32).toInt = 0 := rfl
  have hnonneg (y : Int32) (hy : 0 ≤ y.toInt) (hy' : y.toInt < 1000000000) : order y ≤ 30 := by
    obtain ⟨k, hk, -, hle⟩ := order_of_nonneg hy
    rcases hle with rfl | hle
    · omega
    · by_contra hgt
      have : (2 : ℤ) ^ 31 ≤ 2 ^ k := pow_le_pow_right₀ (by decide) (by omega)
      omega
  -- the order of a negative number is that of its absolute value
  by_cases hx : 0 ≤ x.toInt
  · exact hnonneg x hx hhi
  · have hneg : (-x).toInt = -x.toInt := by
      rw [Int32.toInt_neg, bmod_of_fits ⟨by omega, by omega⟩]
    have horder : order x = order (-x) := by
      have hlt : x < 0 := by
        rw [Int32.lt_iff_toInt_lt, hzero]
        omega
      have hge : ¬-x < 0 := by
        rw [Int32.lt_iff_toInt_lt, hzero]
        omega
      simp only [order, if_pos hlt, if_neg hge]
    rw [horder]
    exact hnonneg _ (by omega) (by omega)

/-! ## The filter on a constant sample -/

theorem toInt_shl_one {s : ℤ} (hlo : 0 ≤ s) (hhi : s ≤ 30) :
    (shl 1 s.toNat).toInt = 2 ^ s.toNat := by
  have hpow : (2 : ℤ) ^ s.toNat ≤ 2 ^ 30 := pow_le_pow_right₀ (by decide) (by omega)
  have hpos : (0 : ℤ) < 2 ^ s.toNat := by positivity
  have hone : (1 : Int32).toInt = 1 := rfl
  rw [shl, hone, one_mul, toInt_ofInt_of_fits ⟨by omega, by omega⟩]

theorem toInt_ofInt16 {s : ℤ} (hlo : 0 ≤ s) (hhi : s ≤ 30) : (Int16.ofInt s).toInt = s := by
  exact Int16.toInt_ofInt_of_le (by omega) (by omega)

/-- The sum of the filter stands for the sample `x`, at the order used last. -/
structure Filter.Sums (filt : Filter) (x : Int32) : Prop where
  yPrev : filt.yPrev = x
  order_nonneg : 0 ≤ filt.sPrev.toInt
  order_le : filt.sPrev.toInt ≤ 30
  ySum : filt.ySum.toInt = x.toInt * 2 ^ filt.sPrev.toInt.toNat

/-- The filter has seen no other sample than `x`. -/
def Filter.Constant (filt : Filter) (x : Int32) : Prop :=
  filt.n = 0 ∨ 1 ≤ filt.n.toInt ∧ filt.n.toInt ≤ 2 ^ 30 ∧ filt.Sums x

section Constant

variable {filt : Filter} {x : Int32}

theorem filterStart_sums (h : filt.Constant x) :
    (filterStart x filt).s = filt.s ∧ 1 ≤ (filterStart x filt).n.toInt ∧
      (filterStart x filt).n.toInt ≤ 2 ^ 30 + 1 ∧ (filterStart x filt).Sums x := by
  have hone : (1 : Int32).toInt = 1 := rfl
  have hzero : (0 : Int16).toInt = 0 := rfl
  -- the first sample, or one more of the same value
  rcases h with h | ⟨hpos, hle, h⟩
  · rw [filterStart, if_pos (by rw [h]; rfl)]
    refine ⟨rfl, by rw [hone], by rw [hone]; decide, rfl, by rw [hzero], by rw [hzero]; decide, ?_⟩
    rw [hzero]
    simp
  · have hn : (filt.n + 1).toInt = filt.n.toInt + 1 := by
      rw [toInt_add_of_fits, hone]
      rw [hone]
      exact ⟨by omega, by omega⟩
    have hne : filt.n + 1 ≠ 1 := by
      intro heq
      rw [heq, hone] at hn
      omega
    rw [filterStart, if_neg hne]
    exact ⟨rfl, by show 1 ≤ (filt.n + 1).toInt; omega, by show (filt.n + 1).toInt ≤ _; omega,
      h.yPrev, h.order_nonneg, h.order_le, h.ySum⟩

/-- The order of the filter is one that does not overflow. -/
theorem filterOrder_bounds (hs : 0 ≤ filt.s.toInt ∧ filt.s.toInt ≤ 30) (hn : 1 ≤ filt.n.toInt)
    (hx : 0 ≤ x.toInt) (hlt : x.toInt < 1000000000) (hy : filt.yPrev = x) :
    0 ≤ filterOrder x filt ∧ filterOrder x filt ≤ 30 ∧
      x.toInt * 2 ^ (filterOrder x filt).toNat < 2 ^ 31 := by
  obtain ⟨k, hk, hklt, -⟩ := order_of_nonneg hx
  have hk30 : order x ≤ 30 := order_le (by omega) hlt
  obtain ⟨j, hj, -, -⟩ := order_of_nonneg (x := filt.n) (by omega)
  -- the largest order that `x` allows
  have hmax : (if filt.yPrev > x then filt.yPrev else x) = x := by
    rw [hy]
    split <;> rfl
  have hle : filterOrder x filt ≤ 30 - k := by
    simp only [filterOrder, hmax, hk]
    exact min_le_right _ _
  have hge : 0 ≤ filterOrder x filt := by
    simp only [filterOrder, hmax, hk]
    refine le_min ?_ (by omega)
    split
    · rw [hj]
      exact Int.natCast_nonneg j
    · exact hs.1
  refine ⟨hge, by omega, ?_⟩
  have hpow : (2 : ℤ) ^ (k + 1) * 2 ^ (filterOrder x filt).toNat ≤ 2 ^ 31 := by
    rw [← pow_add]
    exact pow_le_pow_right₀ (by decide) (by omega)
  have hmul : x.toInt * 2 ^ (filterOrder x filt).toNat <
      2 ^ (k + 1) * 2 ^ (filterOrder x filt).toNat :=
    mul_lt_mul_of_pos_right hklt (by positivity)
  omega

/-- Rescaling the sum keeps what it stands for. -/
theorem toInt_filterRescale (h : filt.Sums x) (hx : 0 ≤ x.toInt) {s : ℤ} (hs : 0 ≤ s)
    (hfits : x.toInt * 2 ^ s.toNat < 2 ^ 31) :
    (filterRescale filt s).toInt = x.toInt * 2 ^ s.toNat := by
  have hnonneg : 0 ≤ x.toInt * 2 ^ s.toNat := by positivity
  have hprev := h.order_nonneg
  have hsum : filt.ySum.toInt = x.toInt * 2 ^ filt.sPrev.toInt.toNat := h.ySum
  unfold filterRescale
  split
  · -- a lower order
    have hexp : filt.sPrev.toInt.toNat = s.toNat + (filt.sPrev.toInt - s).toNat := by omega
    have hdiv : filt.ySum.toInt / 2 ^ (filt.sPrev.toInt - s).toNat = x.toInt * 2 ^ s.toNat := by
      rw [hsum, hexp, pow_add, ← mul_assoc]
      exact Int.mul_ediv_cancel _ (by positivity)
    rw [sar, hdiv]
    exact toInt_ofInt_of_fits ⟨by omega, by omega⟩
  · split
    · -- a higher order
      have hexp : s.toNat = filt.sPrev.toInt.toNat + (s - filt.sPrev.toInt).toNat := by omega
      have hmul : filt.ySum.toInt * 2 ^ (s - filt.sPrev.toInt).toNat = x.toInt * 2 ^ s.toNat := by
        rw [hsum, mul_assoc, ← pow_add, ← hexp]
      rw [shl, hmul]
      exact toInt_ofInt_of_fits ⟨by omega, by omega⟩
    · have heq : filt.sPrev.toInt = s := by omega
      rw [hsum, heq]

theorem filterCount_bounds (hs : 0 ≤ filt.s.toInt ∧ filt.s.toInt ≤ 30) (hn : 1 ≤ filt.n.toInt) :
    1 ≤ (filterCount filt).toInt ∧ (filterCount filt).toInt ≤ 2 ^ 30 := by
  have hshl := toInt_shl_one hs.1 hs.2
  have hpow : (2 : ℤ) ^ filt.s.toInt.toNat ≤ 2 ^ 30 := pow_le_pow_right₀ (by decide) (by omega)
  have hpos : (0 : ℤ) < 2 ^ filt.s.toInt.toNat := by positivity
  unfold filterCount
  split
  case isTrue h =>
    rw [gt_iff_lt, Int32.lt_iff_toInt_lt, hshl] at h
    omega
  case isFalse h =>
    rw [hshl]
    omega

/-- **The filter gives a constant sample back**, at every order it passes through. -/
theorem filter_constant (h : filt.Constant x) (hs : 0 ≤ filt.s.toInt ∧ filt.s.toInt ≤ 30)
    (hx : 0 ≤ x.toInt) (hlt : x.toInt < 1000000000) :
    (filter x filt).1 = x ∧ (filter x filt).2.Constant x ∧ (filter x filt).2.s = filt.s := by
  obtain ⟨hsame, hpos, hle, hsums⟩ := filterStart_sums h
  rw [← hsame] at hs
  obtain ⟨hge, hle30, hfits⟩ := filterOrder_bounds hs hpos hx hlt hsums.yPrev
  have hsum : (filterRescale (filterStart x filt) (filterOrder x (filterStart x filt)) +
      (x - (filterStart x filt).yPrev)).toInt =
        x.toInt * 2 ^ (filterOrder x (filterStart x filt)).toNat := by
    -- the sample is the previous output, so nothing is added to the sum
    rw [hsums.yPrev, Int32.sub_self, Int32.add_zero]
    exact toInt_filterRescale hsums hx hge hfits
  have hout : sar (filterRescale (filterStart x filt) (filterOrder x (filterStart x filt)) +
      (x - (filterStart x filt).yPrev)) (filterOrder x (filterStart x filt)).toNat = x := by
    rw [sar, hsum, Int.mul_ediv_cancel _ (by positivity)]
    exact Int32.ofInt_toInt x
  have hcount := filterCount_bounds hs hpos
  have hprev := toInt_ofInt16 hge hle30
  refine ⟨hout, .inr ⟨hcount.1, hcount.2, hout, ?_, ?_, ?_⟩, hsame⟩
  · show 0 ≤ (Int16.ofInt _).toInt
    rw [hprev]
    exact hge
  · show (Int16.ofInt _).toInt ≤ 30
    rw [hprev]
    exact hle30
  · show _ = x.toInt * 2 ^ (Int16.ofInt _).toInt.toNat
    rw [hprev]
    exact hsum

end Constant

/-! ## The filter at order zero -/

/-- The filter has order zero and has seen samples of less than a second only. -/
structure Filter.Follows (filt : Filter) : Prop where
  s : filt.s = 0
  last : filt.n = 0 ∨ filt.n = 1 ∧ filt.sPrev = 0 ∧ filt.ySum = filt.yPrev ∧
    -1000000000 < filt.yPrev.toInt ∧ filt.yPrev.toInt < 1000000000

/-- **At order zero the filter gives every sample back.** -/
theorem filter_follows {filt : Filter} {x : Int32} (h : filt.Follows)
    (hlo : -1000000000 < x.toInt) (hhi : x.toInt < 1000000000) :
    (filter x filt).1 = x ∧ (filter x filt).2.Follows ∧ (filter x filt).2.n = 1 := by
  -- the state after the first sample has been taken for the previous one
  obtain ⟨n, hn, y, hylo, hyhi, hstart⟩ : ∃ n : Int32, (n = 1 ∨ n = 2) ∧ ∃ y : Int32,
      -1000000000 < y.toInt ∧ y.toInt < 1000000000 ∧
        filterStart x filt = { yPrev := y, ySum := y, s := 0, sPrev := 0, n } := by
    rcases h.last with hn | ⟨hn, hs, hy, hylo, hyhi⟩
    · refine ⟨1, .inl rfl, x, hlo, hhi, ?_⟩
      rw [filterStart, if_pos (by rw [hn]; rfl), h.s]
    · refine ⟨2, .inr rfl, filt.yPrev, hylo, hyhi, ?_⟩
      rw [filterStart, if_neg (by rw [hn]; decide), hn, h.s, hs, hy]
      rfl
  have hmore : ¬shl 1 (0 : Int16).toInt.toNat > n := by
    rcases hn with rfl | rfl <;> decide
  have hmax : order (if y > x then y else x) ≤ 30 := by
    split
    · exact order_le hylo hyhi
    · exact order_le hlo hhi
  have horder : filterOrder x { yPrev := y, ySum := y, s := 0, sPrev := 0, n } = 0 := by
    simp only [filterOrder, if_neg hmore]
    have hzero : (0 : Int16).toInt = 0 := rfl
    rw [hzero]
    omega
  have hcount : filterCount { yPrev := y, ySum := y, s := 0, sPrev := 0, n } = 1 := by
    simp only [filterCount, if_neg hmore]
    rfl
  have hsum : y + (x - y) = x := by
    rw [Int32.add_comm]
    exact Int32.sub_add_cancel x y
  have hfilter : filter x filt = (x, { yPrev := x, ySum := x, s := 0, sPrev := 0, n := 1 }) := by
    have hrescale : filterRescale { yPrev := y, ySum := y, s := 0, sPrev := 0, n } 0 = y := rfl
    have hsar : sar x 0 = x := by
      rw [sar, pow_zero, Int.ediv_one]
      exact Int32.ofInt_toInt x
    have h16 : Int16.ofInt 0 = 0 := rfl
    simp only [filter, hstart, horder, hcount, hrescale, hsum, Int.toNat_zero, hsar, h16]
  rw [hfilter]
  exact ⟨rfl, ⟨rfl, .inr ⟨rfl, rfl, rfl, hlo, hhi⟩⟩, rfl⟩

/-! ## Exchanges -/

/-- The correction that a handler computes from the correction field of a message and, in a two-step
exchange, from the one of its follow-up. -/
def corrections (field : Int64) : Option Int64 → TimeInternal
  | none => scaledNanosecondsToInternalTime field
  | some followUp =>
    addTime (scaledNanosecondsToInternalTime followUp) (scaledNanosecondsToInternalTime field)

/-- The fields report a residence time of `r` nanoseconds. -/
def Reports (field : Int64) (followUp : Option Int64) (r : ℤ) : Prop :=
  match followUp with
  | none => WholeNs field r
  | some followUp => ∃ r₁ r₂, WholeNs field r₁ ∧ WholeNs followUp r₂ ∧ r = r₁ + r₂

/-- A clock that reads `n` nanoseconds gives the time `t`. -/
structure Reads (t : TimeInternal) (n : ℤ) : Prop where
  canonical : Canonical t
  nonneg : 0 ≤ t.seconds.toInt
  value : t.toNs = n

/-- One call of the estimator, with its times and correction fields. The follow-up of a two-step
PDelayResp comes with the times `t2` and `t3` of the peer. -/
inductive Sample
  | offset (ingress origin : TimeInternal) (field : Int64) (followUp : Option Int64)
  | delay (egress receive : TimeInternal) (field : Int64)
  | peerDelay (t1 t4 : TimeInternal) (field : Int64)
      (twoStep : Option (TimeInternal × TimeInternal × Int64))

/-- The call on the clock. -/
def Sample.apply (c : PtpClock) : Sample → PtpClock
  | offset ingress origin field followUp =>
    updateOffset ingress origin (corrections field followUp) c
  | delay egress receive field => updateDelay egress receive (corrections field none) c
  | peerDelay t1 t4 field none =>
    updatePeerDelay (corrections field none) false { c with pdelayT1 := t1, pdelayT4 := t4 }
  | peerDelay t1 t4 field (some (t2, t3, followUp)) =>
    updatePeerDelay (corrections field (some followUp)) true
      { c with pdelayT1 := t1, pdelayT2 := t2, pdelayT3 := t3, pdelayT4 := t4 }

/-- The sample is of an exchange where the slave clock reads `theta` more than the master clock and
the path delay is `d`. Sent at `m`, a message with the residence time `r` arrives at `m + d + r`. -/
def Sample.IsOf (theta d : ℤ) (mechanism : DelayMechanism) : Sample → Prop
  | offset ingress origin field followUp =>
    ∃ m r, Reports field followUp r ∧ Reads origin m ∧ Reads ingress (m + d + r + theta)
  | delay egress receive field =>
    mechanism = .e2e ∧
      ∃ m r, Reports field none r ∧ Reads egress (m + theta) ∧ Reads receive (m + d + r)
  | peerDelay t1 t4 field none =>
    mechanism = .p2p ∧
      ∃ m r, Reports field none r ∧ Reads t1 (m + theta) ∧ Reads t4 (m + d + r + d + theta)
  | peerDelay t1 t4 field (some (t2, t3, followUp)) =>
    mechanism = .p2p ∧
      ∃ m r m' r', 0 ≤ r ∧ 0 ≤ r' ∧ Reports field (some followUp) (r + r') ∧
        Reads t1 (m + theta) ∧ Reads t2 (m + d + r) ∧
        Reads t3 m' ∧ Reads t4 (m' + d + r' + theta)

/-- The clock after some samples from `initClock` on, the newest first. -/
def estimate (s : System) : List Sample → PtpClock
  | [] => (initClock s).ptpClock
  | x :: older => x.apply (estimate s older)

/-- The call on the clock is a delay update, and not refused. -/
def Sample.Updates (c : PtpClock) : Sample → Prop
  | offset _ _ _ _ => False
  | delay _ _ _ => c.ofmFilt.n ≠ 0
  | peerDelay _ _ _ _ => True

/-- What a call leaves, after older ones, is exact: the offset after a delay update, and the path
delay by an update that is not refused. -/
def Exact (theta d : ℤ) (s : System) (x : Sample) (older : List Sample) : Prop :=
  match x with
  | .offset _ _ _ _ =>
    (∃ y oldest, y :: oldest <:+ older ∧ y.Updates (estimate s oldest)) →
      (estimate s (x :: older)).currentDS.offsetFromMaster = ⟨0, Int32.ofInt theta⟩
  | .delay _ _ _ =>
    (estimate s older).ofmFilt.n ≠ 0 →
      (estimate s (x :: older)).currentDS.meanPathDelay = ⟨0, Int32.ofInt d⟩
  | .peerDelay _ _ _ _ =>
    (estimate s (x :: older)).portDS.peerMeanPathDelay = ⟨0, Int32.ofInt d⟩

theorem corrections_reported {field : Int64} {followUp : Option Int64} {r : ℤ}
    (h : Reports field followUp r) :
    Canonical (corrections field followUp) ∧ (corrections field followUp).toNs = r ∧ 0 ≤ r ∧
      r < 2 ^ 48 := by
  cases followUp with
  | none =>
    obtain ⟨hc, hns⟩ := toNs_scaled h
    have hlt := WholeNs.lt h
    exact ⟨hc, hns, WholeNs.nonneg h, by omega⟩
  -- the corrections of the two messages are added
  | some followUp =>
    obtain ⟨r₁, r₂, h₁, h₂, rfl⟩ := h
    obtain ⟨hc₁, hns₁⟩ := toNs_scaled h₁
    obtain ⟨hc₂, hns₂⟩ := toNs_scaled h₂
    have hlt₁ := h₁.lt
    have hlt₂ := h₂.lt
    have hge₁ := h₁.nonneg
    have hge₂ := h₂.nonneg
    refine ⟨addTime_canonical _ _, ?_, by omega, by omega⟩
    rw [corrections, toNs_addTime hc₂ hc₁ ⟨by omega, by omega⟩, hns₁, hns₂, add_comm]

/-! ## The estimator on exchanges -/

section Exchange

variable {theta d : ℤ} {mechanism : DelayMechanism} {c : PtpClock}

/-- The time between two readings. -/
theorem Reads.toNs_subTime {x y : TimeInternal} {a b : ℤ} (hx : Reads x a) (hy : Reads y b)
    (h : Moderate (a - b)) : (subTime x y).toNs = a - b := by
  rw [Ptpd.toNs_subTime hx.canonical hy.canonical (by rw [hx.value, hy.value]; exact h), hx.value,
    hy.value]

/-- A difference of readings less the residence time. -/
theorem toNs_corrected {t : TimeInternal} {field : Int64} {followUp : Option Int64} {n r : ℤ}
    (hr : Reports field followUp r) (hc : Canonical t) (ht : t.toNs = n + r) (h : Moderate n) :
    (subTime t (corrections field followUp)).toNs = n := by
  obtain ⟨hcc, hcr, -, -⟩ := corrections_reported hr
  have hdiff : t.toNs - (corrections field followUp).toNs = n := by omega
  rw [Ptpd.toNs_subTime hc hcc (by rw [hdiff]; exact h), hdiff]

/-- What the estimator knows in the course of the exchanges. -/
structure Estimates (theta d : ℤ) (mechanism : DelayMechanism) (c : PtpClock) : Prop where
  mechanism : c.portDS.delayMechanism = mechanism
  offsets : c.ofmFilt.Follows
  delays : c.owdFilt.Constant (Int32.ofInt d)
  order : 0 ≤ c.owdFilt.s.toInt ∧ c.owdFilt.s.toInt ≤ 30
  Tms : c.ofmFilt.n ≠ 0 → c.Tms = ⟨0, Int32.ofInt (theta + d)⟩

/-- The path delay has been measured. -/
def DelayKnown (d : ℤ) (c : PtpClock) : Prop :=
  match c.portDS.delayMechanism with
  | .e2e => c.currentDS.meanPathDelay = ⟨0, Int32.ofInt d⟩
  | .p2p => c.portDS.peerMeanPathDelay = ⟨0, Int32.ofInt d⟩
  | .other => False

theorem DelayKnown.of_e2e (hm : c.portDS.delayMechanism = .e2e)
    (h : c.currentDS.meanPathDelay = ⟨0, Int32.ofInt d⟩) : DelayKnown d c := by
  unfold DelayKnown
  rw [hm]
  exact h

theorem DelayKnown.of_p2p (hm : c.portDS.delayMechanism = .p2p)
    (h : c.portDS.peerMeanPathDelay = ⟨0, Int32.ofInt d⟩) : DelayKnown d c := by
  unfold DelayKnown
  rw [hm]
  exact h

/-- The estimator after `initClock`. -/
theorem estimates_initClock {s : System} (ho : s.ptpClock.servo.sOffset = 0)
    (hs : 0 ≤ s.ptpClock.servo.sDelay.toInt ∧ s.ptpClock.servo.sDelay.toInt ≤ 30) :
    Estimates theta d s.ptpClock.portDS.delayMechanism (initClock s).ptpClock := by
  obtain ⟨_, _, heq, -⟩ := initClock_eq s
  rw [heq]
  exact ⟨rfl, ⟨ho, .inl rfl⟩, .inl rfl, hs, fun hn => absurd rfl hn⟩

/-- `|theta| + d` is less than a second. -/
structure LessThanSecond (theta d : ℤ) : Prop where
  nonneg : 0 ≤ d
  add_lt : theta + d < 1000000000
  sub_lt : d - theta < 1000000000

theorem LessThanSecond.of_abs (hd : 0 ≤ d) (h : |theta| + d < 1000000000) :
    LessThanSecond theta d := by
  have hle := le_abs_self theta
  have hneg := neg_abs_le theta
  exact ⟨hd, by omega, by omega⟩

theorem toNs_nanoseconds {n : ℤ} (hlo : -1000000000 < n) (hhi : n < 1000000000) :
    Canonical ⟨0, Int32.ofInt n⟩ ∧ (⟨0, Int32.ofInt n⟩ : TimeInternal).toNs = n := by
  have hzero : (0 : Int32).toInt = 0 := rfl
  have hn : (Int32.ofInt n).toInt = n := toInt_ofInt_of_fits ⟨by omega, by omega⟩
  simp only [Canonical, TimeInternal.toNs, hzero, hn]
  omega

variable (hb : LessThanSecond theta d)

include hb

theorem LessThanSecond.toInt_delay : (Int32.ofInt d).toInt = d := by
  obtain ⟨hd, hadd, hsub⟩ := hb
  exact toInt_ofInt_of_fits ⟨by omega, by omega⟩

/-- `Tms` after the exchange of a Sync. -/
theorem Tms_of_exchange {ingress origin : TimeInternal} {field : Int64} {followUp : Option Int64}
    (h : (Sample.offset ingress origin field followUp).IsOf theta d mechanism) :
    subTime (subTime ingress origin) (corrections field followUp) =
      ⟨0, Int32.ofInt (theta + d)⟩ := by
  obtain ⟨hd, hadd, hsub⟩ := hb
  obtain ⟨m, r, hr, ho, hi⟩ := h
  obtain ⟨-, -, hr0, hr48⟩ := corrections_reported hr
  have hns := hi.toNs_subTime ho ⟨by omega, by omega⟩
  refine (subTime_canonical _ _).eq_nanoseconds (toNs_corrected hr (subTime_canonical _ _) ?_ ?_)
    (by omega) (by omega)
  · omega
  · exact ⟨by omega, by omega⟩

/-- Half of twice the path delay. -/
theorem div2Time_twice {t : TimeInternal} (ht : Canonical t) (h : t.toNs = 2 * d) :
    div2Time t = ⟨0, Int32.ofInt d⟩ := by
  obtain ⟨hd, hadd, hsub⟩ := hb
  exact (div2Time_canonical t).eq_nanoseconds (toNs_div2Time ht h hd (by omega)) (by omega)
    (by omega)

/-- The delay in both directions is twice the path delay. -/
theorem delay_of_exchange {egress receive : TimeInternal} {field : Int64}
    (h : (Sample.delay egress receive field).IsOf theta d mechanism) :
    div2Time (addTime ⟨0, Int32.ofInt (theta + d)⟩
      (subTime (subTime receive egress) (corrections field none))) = ⟨0, Int32.ofInt d⟩ := by
  obtain ⟨-, m, r, hr, he, hrec⟩ := h
  obtain ⟨-, -, hr0, hr48⟩ := corrections_reported hr
  have hd := hb.nonneg
  have hadd := hb.add_lt
  have hsub := hb.sub_lt
  have hns := hrec.toNs_subTime he ⟨by omega, by omega⟩
  -- the way back takes the delay less the offset, the way there the delay and the offset
  have hTsm := toNs_corrected (n := d - theta) hr (subTime_canonical receive egress) (by omega)
    ⟨by omega, by omega⟩
  obtain ⟨hTms, hTms'⟩ := toNs_nanoseconds (n := theta + d) (by omega) hadd
  have hsum := toNs_addTime hTms
    (subTime_canonical (subTime receive egress) (corrections field none))
    (by rw [hTms', hTsm]; exact ⟨by omega, by omega⟩)
  rw [hTms', hTsm] at hsum
  exact div2Time_twice hb (addTime_canonical _ _) (by omega)

/-- The one-step round trip less the residence time is twice the path delay. -/
theorem oneStep_of_exchange {t1 t4 : TimeInternal} {field : Int64}
    (h : (Sample.peerDelay t1 t4 field none).IsOf theta d mechanism) :
    div2Time (subTime (subTime t4 t1) (corrections field none)) = ⟨0, Int32.ofInt d⟩ := by
  obtain ⟨-, m, r, hr, h1, h4⟩ := h
  obtain ⟨-, -, hr0, hr48⟩ := corrections_reported hr
  have hd := hb.nonneg
  have hadd := hb.add_lt
  have hsub := hb.sub_lt
  have hns := h4.toNs_subTime h1 ⟨by omega, by omega⟩
  refine div2Time_twice hb (subTime_canonical _ _) ?_
  exact toNs_corrected hr (subTime_canonical _ _) (by omega) ⟨by omega, by omega⟩

/-- The two-step round trip less the residence times is twice the path delay. -/
theorem twoStep_of_exchange {t1 t2 t3 t4 : TimeInternal} {field followUp : Int64}
    (h : (Sample.peerDelay t1 t4 field (some (t2, t3, followUp))).IsOf theta d mechanism) :
    div2Time (subTime (addTime (subTime t2 t1) (subTime t4 t3))
      (corrections field (some followUp))) = ⟨0, Int32.ofInt d⟩ := by
  obtain ⟨-, m, r, m', r', hr0, hr0', hr, h1, h2, h3, h4⟩ := h
  obtain ⟨-, -, -, hr48⟩ := corrections_reported hr
  have hd := hb.nonneg
  have hadd := hb.add_lt
  have hsub := hb.sub_lt
  have hab := h2.toNs_subTime h1 ⟨by omega, by omega⟩
  have hba := h4.toNs_subTime h3 ⟨by omega, by omega⟩
  -- the offset cancels in the sum of the two ways
  have hsum := toNs_addTime (subTime_canonical t2 t1) (subTime_canonical t4 t3)
    (by rw [hab, hba]; exact ⟨by omega, by omega⟩)
  refine div2Time_twice hb (subTime_canonical _ _) ?_
  exact toNs_corrected hr (addTime_canonical _ _) (by omega) ⟨by omega, by omega⟩

/-! ### The calls -/

omit hb in
/-- What `updateOffset` subtracts the path delay from is canonical without the delay and with it. -/
theorem subPathDelay_canonical {t : TimeInternal} (ht : Canonical t) :
    Canonical (subPathDelay c t) := by
  unfold subPathDelay
  split
  · exact subTime_canonical _ _
  · exact subTime_canonical _ _
  · exact ht

/-- The offset less a known path delay. -/
theorem subPathDelay_known (hk : DelayKnown d c) :
    subPathDelay c ⟨0, Int32.ofInt (theta + d)⟩ = ⟨0, Int32.ofInt theta⟩ := by
  obtain ⟨hd, hadd, hsub⟩ := hb
  obtain ⟨hc, hns⟩ := toNs_nanoseconds (n := theta + d) (by omega) hadd
  obtain ⟨hc', hns'⟩ := toNs_nanoseconds (n := d) (by omega) (by omega)
  have hoffset : subTime ⟨0, Int32.ofInt (theta + d)⟩ ⟨0, Int32.ofInt d⟩ =
      ⟨0, Int32.ofInt theta⟩ := by
    refine (subTime_canonical _ _).eq_nanoseconds ?_ (by omega) (by omega)
    rw [toNs_subTime hc hc' (by rw [hns, hns']; exact ⟨by omega, by omega⟩), hns, hns']
    omega
  unfold subPathDelay
  unfold DelayKnown at hk
  -- the mechanism decides which of the two delays is subtracted
  cases hm : c.portDS.delayMechanism with
  | e2e =>
    rw [hm] at hk
    dsimp only at hk ⊢
    rw [hk, hoffset]
  | p2p =>
    rw [hm] at hk
    dsimp only at hk ⊢
    rw [hk, hoffset]
  | other =>
    rw [hm] at hk
    exact hk.elim

/-- A call of `updateOffset`: the offset is exact once the path delay is known. -/
theorem Estimates.updateOffset (h : Estimates theta d mechanism c) {ingress origin : TimeInternal}
    {correction : TimeInternal}
    (hTms : subTime (subTime ingress origin) correction = ⟨0, Int32.ofInt (theta + d)⟩) :
    Estimates theta d mechanism (updateOffset ingress origin correction c) ∧
      (DelayKnown d c →
        DelayKnown d (Ptpd.updateOffset ingress origin correction c) ∧
          (Ptpd.updateOffset ingress origin correction c).currentDS.offsetFromMaster =
            ⟨0, Int32.ofInt theta⟩) := by
  have hd := hb.nonneg
  have hadd := hb.add_lt
  have hsub := hb.sub_lt
  have hzero : (0 : Int32).toInt = 0 := rfl
  unfold Ptpd.updateOffset
  dsimp only
  rw [hTms]
  -- an offset with seconds cannot occur once the delay is known
  split
  · rename_i hsec
    refine ⟨⟨h.mechanism, h.offsets, h.delays, h.order, fun _ => rfl⟩, fun hk => ?_⟩
    rw [subPathDelay_known hb hk] at hsec
    exact absurd rfl hsec
  · rename_i hsec
    obtain ⟨hlo, hhi, -, -⟩ :=
      subPathDelay_canonical (c := c) (toNs_nanoseconds (n := theta + d) (by omega) (by omega)).1
    obtain ⟨hout, hoffsets, -⟩ := filter_follows h.offsets hlo hhi
    refine ⟨⟨h.mechanism, hoffsets, h.delays, h.order, fun _ => rfl⟩, fun hk => ⟨hk, ?_⟩⟩
    rw [hout, subPathDelay_known hb hk]

/-- The filter of the delays. -/
theorem Estimates.filter (h : Estimates theta d mechanism c) :
    ∃ filt : Filter, filter (Int32.ofInt d) c.owdFilt = (Int32.ofInt d, filt) ∧
      filt.Constant (Int32.ofInt d) ∧ 0 ≤ filt.s.toInt ∧ filt.s.toInt ≤ 30 := by
  have hvalue := hb.toInt_delay
  obtain ⟨hd, hadd, hsub⟩ := hb
  obtain ⟨hout, hdelays, hs⟩ := filter_constant h.delays h.order (by omega) (by omega)
  exact ⟨_, Prod.ext hout rfl, hdelays, by rw [hs]; exact h.order⟩

/-- A call of `updateDelay` that is not refused. -/
theorem Estimates.updateDelay (h : Estimates theta d mechanism c) {egress receive : TimeInternal}
    {correction : TimeInternal} (hn : c.ofmFilt.n ≠ 0)
    (hdelay : div2Time (addTime ⟨0, Int32.ofInt (theta + d)⟩
      (subTime (subTime receive egress) correction)) = ⟨0, Int32.ofInt d⟩) :
    Estimates theta d mechanism (updateDelay egress receive correction c) ∧
      (Ptpd.updateDelay egress receive correction c).currentDS.meanPathDelay =
        ⟨0, Int32.ofInt d⟩ := by
  obtain ⟨filt, hfilter, hdelays, horder⟩ := h.filter hb
  have hsec : ¬(0 : Int32) ≠ 0 := by decide
  -- the estimator adds the time from master to slave of the last offset
  rw [← h.Tms hn] at hdelay
  have heq : Ptpd.updateDelay egress receive correction c =
      { c with
        Tsm := subTime (subTime receive egress) correction
        currentDS := { c.currentDS with meanPathDelay := ⟨0, Int32.ofInt d⟩ }
        owdFilt := filt } := by
    simp only [Ptpd.updateDelay, if_neg hn, hdelay, if_neg hsec, hfilter]
  rw [heq]
  exact ⟨⟨h.mechanism, h.offsets, hdelays, horder, h.Tms⟩, rfl⟩

/-- A call of `updatePeerDelay`. -/
theorem Estimates.updatePeerDelay (h : Estimates theta d mechanism c) {correction : TimeInternal}
    {twoStep : Bool}
    (hdelay : div2Time (subTime (peerRoundTrip twoStep c) correction) = ⟨0, Int32.ofInt d⟩) :
    Estimates theta d mechanism (updatePeerDelay correction twoStep c) ∧
      (Ptpd.updatePeerDelay correction twoStep c).portDS.peerMeanPathDelay =
        ⟨0, Int32.ofInt d⟩ := by
  obtain ⟨filt, hfilter, hdelays, horder⟩ := h.filter hb
  have hsec : ¬(0 : Int32) ≠ 0 := by decide
  have heq : Ptpd.updatePeerDelay correction twoStep c =
      { c with
        portDS := { c.portDS with peerMeanPathDelay := ⟨0, Int32.ofInt d⟩ }
        owdFilt := filt } := by
    simp only [Ptpd.updatePeerDelay, hdelay, if_neg hsec, hfilter]
  rw [heq]
  exact ⟨⟨h.mechanism, h.offsets, hdelays, horder, h.Tms⟩, rfl⟩

/-- A two-step or one-step delay measurement of the peer. -/
theorem Estimates.peerDelay (h : Estimates theta d mechanism c) {t1 t4 : TimeInternal}
    {field : Int64} {twoStep : Option (TimeInternal × TimeInternal × Int64)}
    (hx : (Sample.peerDelay t1 t4 field twoStep).IsOf theta d mechanism) :
    Estimates theta d mechanism ((Sample.peerDelay t1 t4 field twoStep).apply c) ∧
      ((Sample.peerDelay t1 t4 field twoStep).apply c).portDS.peerMeanPathDelay =
        ⟨0, Int32.ofInt d⟩ := by
  cases twoStep with
  | none =>
    have hc : Estimates theta d mechanism { c with pdelayT1 := t1, pdelayT4 := t4 } :=
      ⟨h.mechanism, h.offsets, h.delays, h.order, h.Tms⟩
    exact hc.updatePeerDelay hb (oneStep_of_exchange hb hx)
  | some times =>
    obtain ⟨t2, t3, followUp⟩ := times
    have hc : Estimates theta d mechanism
        { c with pdelayT1 := t1, pdelayT2 := t2, pdelayT3 := t3, pdelayT4 := t4 } :=
      ⟨h.mechanism, h.offsets, h.delays, h.order, h.Tms⟩
    exact hc.updatePeerDelay hb (twoStep_of_exchange hb hx)

/-- **One call** keeps what the estimator knows, and a path delay known before or measured by it. -/
theorem Estimates.apply (h : Estimates theta d mechanism c) {x : Sample}
    (hx : x.IsOf theta d mechanism) :
    Estimates theta d mechanism (x.apply c) ∧
      (DelayKnown d c ∨ x.Updates c → DelayKnown d (x.apply c)) := by
  cases x with
  -- an offset keeps the delay as it is known
  | offset ingress origin field followUp =>
    obtain ⟨hafter, hknown⟩ := h.updateOffset hb (Tms_of_exchange hb hx)
    refine ⟨hafter, fun hk => ?_⟩
    rcases hk with hk | hk
    · exact (hknown hk).1
    · exact hk.elim
  | delay egress receive field =>
    have hm : mechanism = .e2e := hx.1
    by_cases hn : c.ofmFilt.n = 0
    · -- refused
      have hsame : (Sample.delay egress receive field).apply c = c := if_pos hn
      rw [hsame]
      exact ⟨h, fun hk => hk.resolve_right fun hu => hu hn⟩
    · obtain ⟨hafter, hvalue⟩ := h.updateDelay hb hn (delay_of_exchange hb hx)
      exact ⟨hafter, fun _ => .of_e2e (hafter.mechanism.trans hm) hvalue⟩
  | peerDelay t1 t4 field twoStep =>
    -- a peer delay is known from the first sample on
    have hm : mechanism = .p2p := by
      cases twoStep with
      | none => exact hx.1
      | some _ => exact hx.1
    obtain ⟨hafter, hvalue⟩ := h.peerDelay hb hx
    exact ⟨hafter, fun _ => .of_p2p (hafter.mechanism.trans hm) hvalue⟩

end Exchange

/-- **All calls** keep what the estimator knows, and the path delay once it has been measured. -/
theorem estimates_run {theta d : ℤ} (hb : LessThanSecond theta d) {s : System}
    (ho : s.ptpClock.servo.sOffset = 0)
    (hs : 0 ≤ s.ptpClock.servo.sDelay.toInt ∧ s.ptpClock.servo.sDelay.toInt ≤ 30)
    {samples : List Sample} (h : ∀ x ∈ samples, x.IsOf theta d s.ptpClock.portDS.delayMechanism) :
    Estimates theta d s.ptpClock.portDS.delayMechanism (estimate s samples) ∧
      ((∃ y oldest, y :: oldest <:+ samples ∧ y.Updates (estimate s oldest)) →
        DelayKnown d (estimate s samples)) := by
  induction samples with
  | nil =>
    refine ⟨estimates_initClock ho hs, ?_⟩
    rintro ⟨y, oldest, hsuffix, -⟩
    simp at hsuffix
  | cons x older ih =>
    obtain ⟨hbefore, hknown⟩ := ih fun y hy => h y (List.mem_cons_of_mem x hy)
    obtain ⟨hafter, hkept⟩ := hbefore.apply hb (h x List.mem_cons_self)
    refine ⟨hafter, ?_⟩
    rintro ⟨y, oldest, hsuffix, hy⟩
    -- the update is the newest sample, or an older one whose delay is kept
    rcases List.suffix_cons_iff.mp hsuffix with heq | hsuffix
    · obtain ⟨rfl, rfl⟩ := List.cons.inj heq
      exact hkept (.inr hy)
    · exact hkept (.inl (hknown ⟨y, oldest, hsuffix, hy⟩))

/-- **The estimator is exact** on the exchanges of a slave with a constant offset and path delay,
for any number of samples and any order of the delay filter. -/
theorem estimator_exact {theta d : ℤ} (hd : 0 ≤ d) (hlt : |theta| + d < 1000000000) {s : System}
    (ho : s.ptpClock.servo.sOffset = 0)
    (hs : 0 ≤ s.ptpClock.servo.sDelay.toInt ∧ s.ptpClock.servo.sDelay.toInt ≤ 30)
    {samples : List Sample} (h : ∀ x ∈ samples, x.IsOf theta d s.ptpClock.portDS.delayMechanism) :
    History.Every (Exact theta d s) samples := by
  have hb : LessThanSecond theta d := .of_abs hd hlt
  intro x older hsuffix
  have hx : x.IsOf theta d s.ptpClock.portDS.delayMechanism := h x (hsuffix.mem List.mem_cons_self)
  have holder : ∀ y ∈ older, y.IsOf theta d s.ptpClock.portDS.delayMechanism :=
    fun y hy => h y (hsuffix.mem (List.mem_cons_of_mem x hy))
  -- the estimates before the sample decide whether its result is exact
  obtain ⟨hbefore, hknown⟩ := estimates_run hb ho hs holder
  cases x with
  | offset ingress origin field followUp =>
    intro hupdated
    exact ((hbefore.updateOffset hb (Tms_of_exchange hb hx)).2 (hknown hupdated)).2
  | delay egress receive field =>
    intro hn
    exact (hbefore.updateDelay hb hn (delay_of_exchange hb hx)).2
  | peerDelay t1 t4 field twoStep => exact (hbefore.peerDelay hb hx).2

/-! ## A slave 250 ns behind, at a distance of 100 ns -/

/-- The slave before any exchange. -/
def unsynchronised : System := { (default : System) with ptpClock := station 2 ptpdOpts }

/-- A Sync with its Follow_Up, each with 7 ns of residence, and a DelayReq with its DelayResp,
across a second, and one more Sync. The newest sample is the first. -/
def behind : List Sample :=
  [.offset ⟨6, 999999850⟩ ⟨7, 0⟩ 0 none,
    .delay ⟨5, 999999750⟩ ⟨6, 107⟩ 458752,
    .offset ⟨5, 999999800⟩ ⟨5, 999999936⟩ 458752 (some 458752)]

example : (estimate unsynchronised behind).currentDS.offsetFromMaster = ⟨0, -250⟩ ∧
    (estimate unsynchronised behind).currentDS.meanPathDelay = ⟨0, 100⟩ := by
  decide +kernel

theorem estimator_exact_behind : History.Every (Exact (-250) 100 unsynchronised) behind := by
  refine estimator_exact (by decide) (by decide) (by decide +kernel) (by decide +kernel) ?_
  have hm : unsynchronised.ptpClock.portDS.delayMechanism = .e2e := by decide +kernel
  have hreads (t : TimeInternal) (hc : Canonical t) (hn : 0 ≤ t.seconds.toInt) :
      Reads t t.toNs := ⟨hc, hn, rfl⟩
  have hwhole : WholeNs 458752 7 := ⟨by decide, by decide⟩
  rw [hm]
  intro x hx
  simp only [behind, List.mem_cons, List.not_mem_nil, or_false] at hx
  rcases hx with rfl | rfl | rfl
  · exact ⟨7000000000, 0, ⟨by decide, by decide⟩, hreads _ (by decide) (by decide),
      hreads _ (by decide) (by decide)⟩
  · exact ⟨rfl, 6000000000, 7, hwhole, hreads _ (by decide) (by decide),
      hreads _ (by decide) (by decide)⟩
  · exact ⟨5999999936, 14, ⟨7, 7, hwhole, hwhole, rfl⟩, hreads _ (by decide) (by decide),
      hreads _ (by decide) (by decide)⟩

end Ptpd

import DiscoPtp.Model.System

/-!
# Clock servo

The functions of `servo.c`: the smoothing filter, the offset and delay estimators and the PI
controller. Parent statistics are compiled out (`DEFAULT_PARENTS_STATS` is `FALSE`).

## Main definitions

* `initClock`: reset of the servo
* `filter`: exponential smoothing in integers
* `updateOffset`, `updateDelay`, `updatePeerDelay`: the estimators
* `updateClock`: the clock step and the PI controller
-/

namespace Ptpd

/-- `initClock`, on the `PtpClock`. -/
def clearServo (c : PtpClock) : PtpClock :=
  { c with
    Tms := ⟨0, 0⟩
    observedDrift := 0
    -- the filters are emptied by their counts; the sums are left as they are
    owdFilt := { c.owdFilt with n := 0, s := c.servo.sDelay }
    ofmFilt := { c.ofmFilt with n := 0, s := c.servo.sOffset }
    waitingForFollowUp := false
    waitingForPDelayRespFollowUp := false
    -- the times of the peer delay are cleared, those of DelayReq and Sync are not
    pdelayT1 := ⟨0, 0⟩
    pdelayT2 := ⟨0, 0⟩
    pdelayT3 := ⟨0, 0⟩
    pdelayT4 := ⟨0, 0⟩
    parentDS :=
      { c.parentDS with
        parentStats := false
        observedParentClockPhaseChangeRate := 0
        observedParentOffsetScaledLogVariance := 0 } }

/-- `initClock`. -/
def initClock (s : System) : System :=
  let s := (s.modify clearServo).log .clockInit
  -- level clock
  let s := if s.ptpClock.servo.noAdjust then s else adjTime 0 s
  -- event messages received before are dropped, general ones are kept
  s.modify fun c => { c with netPath := netEmptyEventQ c.netPath }

/-! ## The filter -/

/-- `abs` on `int32_t`. -/
def abs32 (x : Int32) : Int32 := if x < 0 then -x else x

/-- `order`. -/
def order (n : Int32) : Int :=
  let n := if n < 0 then -n else n
  if n = 0 then 0 else floorLog2 n.toUInt32

/-- The state `filter` works on: the first sample initialises it. -/
def filterStart (nsec : Int32) (filt : Filter) : Filter :=
  -- the first sample is its own previous output
  if filt.n + 1 = 1 then { filt with n := 1, yPrev := nsec, ySum := nsec, sPrev := 0 }
  else { filt with n := filt.n + 1 }

/-- The order `filter` uses: the configured one, less while there are few samples, and less where
the sum would overflow. -/
def filterOrder (nsec : Int32) (filt : Filter) : Int :=
  -- while there are few samples, their logarithm
  let s := if shl 1 filt.s.toInt.toNat > filt.n then order filt.n else filt.s.toInt
  -- a limit taken from the larger value, not the one of larger magnitude
  min s (30 - order (if filt.yPrev > nsec then filt.yPrev else nsec))

/-- The sample count `filter` keeps, at most `2 ^ s`. -/
def filterCount (filt : Filter) : Int32 :=
  if shl 1 filt.s.toInt.toNat > filt.n then filt.n else shl 1 filt.s.toInt.toNat

/-- The sum rescaled from the previous order to the order `s`. -/
def filterRescale (filt : Filter) (s : Int) : Int32 :=
  if filt.sPrev.toInt > s then sar filt.ySum (filt.sPrev.toInt - s).toNat
  else if filt.sPrev.toInt < s then shl filt.ySum (s - filt.sPrev.toInt).toNat
  else filt.ySum

/-- `filter`: the smoothed value and the new state. -/
def filter (nsec : Int32) (filt : Filter) : Int32 × Filter :=
  let filt := filterStart nsec filt
  let s := filterOrder nsec filt
  -- the previous output stands in for the sample that leaves the sum
  let ySum := filterRescale filt s + (nsec - filt.yPrev)
  let yPrev := sar ySum s.toNat
  (yPrev, { yPrev, ySum, s := filt.s, sPrev := Int16.ofInt s, n := filterCount filt })

/-! ## The estimators -/

/-- The events `updateOffset` raises when the offset cannot be filtered. -/
def secondsOffsetEvents (c : PtpClock) : Events :=
  if c.portDS.portState = .slave then { c.events with synchronizationFault := true } else c.events

/-- The events `updateOffset` raises for a filtered offset. -/
def filteredOffsetEvents (c : PtpClock) (offset : Int32) : Events :=
  if abs32 offset < defaultCalibratedOffsetNs then
    if c.portDS.portState = .uncalibrated then { c.events with masterClockSelected := true }
    else c.events
  else if abs32 offset > defaultUncalibratedOffsetNs then
    if c.portDS.portState = .slave then { c.events with synchronizationFault := true }
    else c.events
  else c.events

/-- The path delay `updateOffset` subtracts. -/
def subPathDelay (c : PtpClock) (t : TimeInternal) : TimeInternal :=
  match c.portDS.delayMechanism with
  | .e2e => subTime t c.currentDS.meanPathDelay
  | .p2p => subTime t c.portDS.peerMeanPathDelay
  | .other => t

/-- `updateOffset` (11.2). -/
def updateOffset (ingress origin correction : TimeInternal) (c : PtpClock) : PtpClock :=
  let Tms := subTime (subTime ingress origin) correction
  let offset := subPathDelay c Tms
  -- an offset with seconds is stored as it is, and the filter is left alone
  if offset.seconds ≠ 0 then
    { c with
      Tms, currentDS := { c.currentDS with offsetFromMaster := offset }
      events := secondsOffsetEvents c }
  else
    let r := filter offset.nanoseconds c.ofmFilt
    { c with
      Tms, currentDS := { c.currentDS with offsetFromMaster := { offset with nanoseconds := r.1 } }
      ofmFilt := r.2
      events := filteredOffsetEvents c r.1 }

/-- `updateDelay` (11.3). -/
def updateDelay (egress receive correction : TimeInternal) (c : PtpClock) : PtpClock :=
  -- without an offset there is no time from master to slave to add
  if c.ofmFilt.n = 0 then c
  else
    let Tsm := subTime (subTime receive egress) correction
    let delay := div2Time (addTime c.Tms Tsm)
    if delay.seconds ≠ 0 then
      -- the sum was computed in place, in the data set
      { c with Tsm, currentDS := { c.currentDS with meanPathDelay := delay } }
    else
      let r := filter delay.nanoseconds c.owdFilt
      { c with
        Tsm, currentDS := { c.currentDS with meanPathDelay := { delay with nanoseconds := r.1 } }
        owdFilt := r.2 }

/-- The round trip `updatePeerDelay` halves, before the correction. -/
def peerRoundTrip (twoStep : Bool) (c : PtpClock) : TimeInternal :=
  if twoStep then addTime (subTime c.pdelayT2 c.pdelayT1) (subTime c.pdelayT4 c.pdelayT3)
  else subTime c.pdelayT4 c.pdelayT1

/-- `updatePeerDelay`. -/
def updatePeerDelay (correction : TimeInternal) (twoStep : Bool) (c : PtpClock) : PtpClock :=
  let delay := div2Time (subTime (peerRoundTrip twoStep c) correction)
  -- here too the data set has been written before the seconds are looked at
  if delay.seconds ≠ 0 then { c with portDS := { c.portDS with peerMeanPathDelay := delay } }
  else
    let r := filter delay.nanoseconds c.owdFilt
    { c with
      portDS := { c.portDS with peerMeanPathDelay := { delay with nanoseconds := r.1 } }
      owdFilt := r.2 }

/-! ## The controller -/

/-- The exponent of the binade of a nonzero rational. -/
def binaryExponent (q : ℚ) : ℤ :=
  let e : ℤ := (Nat.log2 q.num.natAbs : ℤ) - Nat.log2 q.den
  if |q| < 2 ^ e then e - 1 else e

/-- Rounding to single precision: the nearest multiple of the last place, ties to even. -/
def roundToFloat (q : ℚ) : ℚ :=
  if q = 0 then 0
  else
    let ulp : ℚ := 2 ^ (binaryExponent q - 23)
    let r := q / ulp
    let lo := r.floor
    let d := r - lo
    if d < 1 / 2 then lo * ulp
    else if 1 / 2 < d then (lo + 1) * ulp
    else if lo % 2 = 0 then lo * ulp else (lo + 1) * ulp

/-- `(int32_t)((float)x * (float)gain)`; the conversion truncates, and saturates on the target. -/
def scaleByGain (x : Int32) (gain : ℚ) : Int32 :=
  let q := roundToFloat (roundToFloat x.toInt * gain)
  let n := if 0 ≤ q then q.floor else q.ceil
  Int32.ofInt (max (-2147483648) (min 2147483647 n))

/-- The offset normalised to a sync interval of one second. -/
def offsetNorm (c : PtpClock) : Int32 :=
  let offset := c.currentDS.offsetFromMaster.nanoseconds
  let interval := c.portDS.logSyncInterval.toInt
  if interval > 0 then sar offset interval.toNat
  else if interval < 0 then shl offset (-interval).toNat
  else offset

/-- The drift accumulator after one more offset, clamped. -/
def accumulateDrift (c : PtpClock) : Int32 :=
  let drift := c.observedDrift + scaleByGain (offsetNorm c) c.servo.ai
  if drift > adjFreqMax then adjFreqMax else if drift < -adjFreqMax then -adjFreqMax else drift

/-- The clock step of `updateClock`. -/
def stepClock (s : System) : System :=
  initClock (setTime (subTime (getTime s) s.ptpClock.currentDS.offsetFromMaster) s)

/-- Whether the offset is too large for the controller. -/
def offsetTooLarge (c : PtpClock) : Bool :=
  c.currentDS.offsetFromMaster.seconds ≠ 0 ||
    abs32 c.currentDS.offsetFromMaster.nanoseconds > maxAdjOffsetNs

/-- `updateClock`. -/
def updateClock (s : System) : System :=
  if offsetTooLarge s.ptpClock then
    if s.ptpClock.servo.noAdjust then s
    else if s.ptpClock.servo.noResetClock then
      -- the frequency is adjusted as far as it goes; the source negates what it has chosen
      adjTime
        (if s.ptpClock.currentDS.offsetFromMaster.nanoseconds > 0 then -adjFreqMax
          else - -adjFreqMax) s
    else stepClock s
  else
    let offset := offsetNorm s.ptpClock
    let s := s.modify fun c => { c with observedDrift := accumulateDrift c }
    if s.ptpClock.servo.noAdjust then s
    else
      adjTime (-(scaleByGain offset s.ptpClock.servo.ap + s.ptpClock.observedDrift)) s

end Ptpd

import DiscoPtp.Properties.FilterRange
import DiscoPtp.Properties.PathDelay
import DiscoPtp.Properties.Promises

/-!
# Timestamps of messages

A wire timestamp has 48 bits of seconds and 32 bits of nanoseconds, a `TimeInternal` two signed
words. `toInternalTime` has no result to report a timestamp that does not fit; it looks only at the
lower word of the seconds and takes the nanoseconds as they are.

## Main definitions

* `Timestamp.Representable`, `Timestamp.Accepted`: the timestamps that fit, and those that are
  converted exactly
* `CanonicalTimes`: the times of a `PtpClock` are canonical
* `Entry.InRange`, `Entry.Exact`: a message with an accepted timestamp, and its use with exactly
  this time
* `Uses`, `Respects`: the use of a message, and what is promised for it

## Main results

* `Filter.Usable.filter`: the output of the filter is less than a second, also where it overflows
* `uses_respect_iff`: the timestamps for which every use keeps the promise
* `times_exact`: in every run with accepted timestamps only, every message is used with its exact
  time, and every time of the `PtpClock` stays canonical
-/

namespace Ptpd

open SignedWord Smoothing History

/-! ## Wire timestamps -/

/-- The 48-bit seconds field. -/
def Timestamp.seconds (t : Timestamp) : ℕ := t.secondsMsb.toNat * 2 ^ 32 + t.secondsLsb.toNat

/-- A timestamp that fits a `TimeInternal`. -/
def Timestamp.Representable (t : Timestamp) : Prop :=
  t.seconds ≤ 2147483647 ∧ t.nanosecondsField.toNat < 1000000000

/-- A timestamp that is converted exactly: the largest number of seconds is refused. -/
def Timestamp.Accepted (t : Timestamp) : Prop :=
  t.seconds < 2147483647 ∧ t.nanosecondsField.toNat < 1000000000

instance (t : Timestamp) : Decidable t.Accepted := inferInstanceAs (Decidable (_ ∧ _))

instance (t : Timestamp) : Decidable t.Representable := inferInstanceAs (Decidable (_ ∧ _))

theorem Timestamp.Accepted.representable {t : Timestamp} (h : t.Accepted) : t.Representable :=
  ⟨h.1.le, h.2⟩

theorem toInt_toInt32_of_lt {x : UInt32} (h : x.toNat < 2 ^ 31) : x.toInt32.toInt = x.toNat := by
  have hint : x.toInt32.toInt = (x.toNat : ℤ).bmod (2 ^ 32) :=
    BitVec.toInt_eq_toNat_bmod x.toBitVec
  rw [hint, bmod_of_fits ⟨by omega, by omega⟩]

/-- An accepted timestamp is converted exactly, whatever was there before. -/
theorem Timestamp.Accepted.is {t : Timestamp} (h : t.Accepted) (internal : TimeInternal) :
    t.Is (toInternalTime internal t) := by
  obtain ⟨hseconds, hns⟩ := h
  unfold Timestamp.seconds at hseconds
  have hlimit : (2147483647 : UInt32).toNat = 2147483647 := by decide
  unfold toInternalTime
  rw [if_pos (by rw [UInt32.lt_iff_toNat_lt, hlimit]; omega)]
  refine ⟨?_, ?_⟩
  · rw [toInt_toInt32_of_lt (by omega)]
    omega
  · exact (toInt_toInt32_of_lt (by omega)).symm

theorem Timestamp.Is.canonical {t : Timestamp} {x : TimeInternal} (h : t.Is x)
    (hns : t.nanosecondsField.toNat < 1000000000) : Canonical x := by
  have hseconds := h.seconds
  have hnanoseconds := h.nanoseconds
  unfold Canonical
  omega

theorem Timestamp.Accepted.canonical {t : Timestamp} (h : t.Accepted) (internal : TimeInternal) :
    Canonical (toInternalTime internal t) :=
  (h.is internal).canonical h.2

/-! ## The nanoseconds of a correction field -/

theorem toInt_sign_mul {sign y : Int64} (hsign : sign = 1 ∨ sign = -1)
    (hlo : -2147483647 ≤ y.toInt) (hhi : y.toInt ≤ 2147483647) :
    (sign * y).toInt32.toInt = sign.toInt * y.toInt := by
  have hsign' : sign.toInt = 1 ∨ sign.toInt = -1 := by
    rcases hsign with rfl | rfl
    · exact .inl (by decide)
    · exact .inr (by decide)
  rw [Int64.toInt_toInt32, Int64.toInt_mul]
  generalize sign.toInt = n at hsign'
  have hinner : (n * y.toInt).bmod (2 ^ 64) = n * y.toInt := by
    rcases hsign' with rfl | rfl <;> exact Int.bmod_eq_of_le (by omega) (by omega)
  rw [hinner]
  rcases hsign' with rfl | rfl <;> exact Int.bmod_eq_of_le (by omega) (by omega)

/-- A 64-bit number of nanoseconds in seconds and nanoseconds, with a sign. -/
theorem canonical_signed {sign x : Int64} (hsign : sign = 1 ∨ sign = -1)
    (hlo : -140737488355328 ≤ x.toInt) (hhi : x.toInt ≤ 140737488355328) :
    Canonical ⟨(sign * (x / 1000000000)).toInt32, (sign * (x % 1000000000)).toInt32⟩ := by
  have hbillion : (1000000000 : Int64).toInt = 1000000000 := by decide
  obtain ⟨hqr, hbounds⟩ : x.toInt.tdiv 1000000000 * 1000000000 + x.toInt.tmod 1000000000 = x.toInt ∧
      (0 ≤ x.toInt.tmod 1000000000 ∧ x.toInt.tmod 1000000000 < 1000000000 ∧
          0 ≤ x.toInt.tdiv 1000000000 ∨
        x.toInt.tmod 1000000000 ≤ 0 ∧ -1000000000 < x.toInt.tmod 1000000000 ∧
          x.toInt.tdiv 1000000000 ≤ 0) := by
    refine ⟨by rw [mul_comm]; exact Int.mul_tdiv_add_tmod _ _, ?_⟩
    rcases le_total 0 x.toInt with hx | hx
    · left
      have := remainder_of_nonneg (d := 1000000000) (by norm_num) hx
      have hdiv := Int.tdiv_nonneg hx (by norm_num : (0 : ℤ) ≤ 1000000000)
      have hmod := Int.mul_tdiv_add_tmod x.toInt 1000000000
      omega
    · right
      have := remainder_of_nonpos (d := 1000000000) (by norm_num) hx
      have hmod := Int.mul_tdiv_add_tmod x.toInt 1000000000
      omega
  have hdiv : (x / 1000000000).toInt = x.toInt.tdiv 1000000000 := by
    rw [Int64.toInt_div, hbillion, Int.bmod_eq_of_le (by omega) (by omega)]
  have hmod : (x % 1000000000).toInt = x.toInt.tmod 1000000000 := by
    rw [Int64.toInt_mod, hbillion]
  have hseconds := toInt_sign_mul hsign (y := x / 1000000000) (by omega) (by omega)
  have hnanoseconds := toInt_sign_mul hsign (y := x % 1000000000) (by omega) (by omega)
  simp only [Canonical, hseconds, hnanoseconds, hdiv, hmod]
  rcases hsign with rfl | rfl
  · have hone : (1 : Int64).toInt = 1 := by decide
    rw [hone]
    omega
  · have hone : (-1 : Int64).toInt = -1 := by decide
    rw [hone]
    omega

theorem scaledNanosecondsToInternalTime_canonical (x : Int64) :
    Canonical (scaledNanosecondsToInternalTime x) := by
  unfold scaledNanosecondsToInternalTime
  dsimp only
  have hshift (y : Int64) : -140737488355328 ≤ (y >>> 16).toInt ∧
      (y >>> 16).toInt ≤ 140737488355328 := by
    have hlo := Int64.le_toInt y
    have hhi := Int64.toInt_lt y
    rw [toInt_shiftRight_sixteen]
    omega
  split
  · exact canonical_signed (.inr rfl) (hshift _).1 (hshift _).2
  · exact canonical_signed (.inl rfl) (hshift _).1 (hshift _).2

/-! ## The output of the filter -/

/-- A filter that has seen nothing, or the value of whose sum is its previous output. -/
structure Filter.Usable (filt : Filter) : Prop where
  configured : 0 ≤ filt.s.toInt ∧ filt.s.toInt ≤ 30
  kept : filt.n = 0 ∨ filt.Kept

section FilterOutput

variable {filt : Filter} {x : Int32}

/-- At the orders zero and one the limit suits every sample. -/
theorem Filter.Ready.limit_of_low (h : filt.Ready) (hlo : -1000000000 < x.toInt)
    (hhi : x.toInt < 1000000000) (hlow : filterOrder x filt ≤ 1) :
    ∀ v ∈ [filt.yPrev, x],
      wantedOrder filt ≤ 30 - Ptpd.order v ∨
        Ptpd.order v ≤ Ptpd.order (signedMax filt.yPrev x) := by
  intro v hv
  have hrange : -1000000000 < v.toInt ∧ v.toInt < 1000000000 := by
    simp only [List.mem_cons, List.not_mem_nil, or_false] at hv
    rcases hv with rfl | rfl
    · exact h.range
    · exact ⟨hlo, hhi⟩
  obtain ⟨l, hl, hlle, -⟩ := order_spec hrange.1 hrange.2
  rw [filterOrder_eq] at hlow
  omega

/-- **The output of the filter is less than a second**, also where a sum overflows: from order two
on the shift makes it small, and below that no sum overflows. -/
theorem Filter.Usable.filter (h : filt.Usable) (hlo : -1000000000 < x.toInt)
    (hhi : x.toInt < 1000000000) :
    (Ptpd.filter x filt).2.Usable ∧ -1000000000 < (Ptpd.filter x filt).1.toInt ∧
      (Ptpd.filter x filt).1.toInt < 1000000000 := by
  obtain ⟨hready, hsame, -, -⟩ := filterStart_ready h.configured hlo hhi h.kept
  obtain ⟨k, hk, hk30⟩ := hready.exists_order hlo hhi
  let sum := filterRescale (filterStart x filt) k + (x - (filterStart x filt).yPrev)
  have hsum := fits_toInt sum
  have hdiv : Fits (sum.toInt / 2 ^ k) := by
    have hpos : (0 : ℤ) < 2 ^ k := by positivity
    exact ⟨Int.le_ediv_of_mul_le hpos (by nlinarith [hsum.1]), Int.ediv_lt_of_lt_mul hpos
      (by nlinarith [hsum.2])⟩
  have hout : (Ptpd.filter x filt).1.toInt = sum.toInt / 2 ^ k := by
    show (sar (filterRescale (filterStart x filt) (filterOrder x (filterStart x filt)) +
      (x - (filterStart x filt).yPrev)) (filterOrder x (filterStart x filt)).toNat).toInt = _
    rw [hk, sar, Int.toNat_natCast]
    exact toInt_ofInt_of_fits hdiv
  have hbound : -1000000000 < (Ptpd.filter x filt).1.toInt ∧
      (Ptpd.filter x filt).1.toInt < 1000000000 := by
    rw [hout]
    rcases Nat.lt_or_ge 1 k with hhigh | hlow
    · have hpow : (2 : ℤ) ^ 2 ≤ 2 ^ k := pow_le_pow_right₀ (by decide) hhigh
      have hpos : (0 : ℤ) < 2 ^ k := by positivity
      constructor
      · have := Int.le_ediv_of_mul_le (a := -536870912) (b := sum.toInt) hpos
          (by nlinarith [hsum.1])
        omega
      · have := Int.ediv_lt_of_lt_mul (a := sum.toInt) (b := 536870913) hpos
          (by nlinarith [hsum.2])
        omega
    · obtain ⟨k', hk', -, -, -, hexact⟩ :=
        hready.sum_eq hlo hhi (hready.limit_of_low hlo hhi (by omega))
      obtain rfl : k' = k := by exact_mod_cast hk'.symm.trans hk
      have hbetween := ((filterStart x filt).average.rescale k').value_add_between x.toInt
      have hvalue : ((filterStart x filt).average.rescale k').value =
          (filterStart x filt).yPrev.toInt := by
        rw [Average.value_rescale, hready.value]
      have hrange := hready.range
      have hsumvalue : sum.toInt / 2 ^ k' =
          (((filterStart x filt).average.rescale k').add x.toInt).value := by
        rw [hexact]
        rfl
      rw [hvalue] at hbetween
      omega
  have hcount : 1 ≤ (filterCount (filterStart x filt)).toInt ∧ _ :=
    filterCount_bounds hready.configured hready.count.1
  have horder : (Ptpd.filter x filt).2.sPrev.toInt = k := by
    show (Int16.ofInt (filterOrder x (filterStart x filt))).toInt = k
    rw [hk, toInt_ofInt16 (by omega) (by omega)]
  refine ⟨⟨hsame ▸ h.configured, .inr ⟨⟨hsame ▸ h.configured, ?_, ?_, ?_, hbound⟩, hcount.2⟩⟩,
    hbound⟩
  · exact ⟨hcount.1, hcount.2.trans (by decide)⟩
  · rw [horder]
    omega
  · rw [Filter.average, horder]
    show (Ptpd.filter x filt).1.toInt = (Ptpd.filter x filt).2.ySum.toInt / 2 ^ (k : ℤ).toNat
    rw [hout, Int.toNat_natCast]
    show _ = (filterRescale (filterStart x filt) (filterOrder x (filterStart x filt)) +
      (x - (filterStart x filt).yPrev)).toInt / _
    rw [hk]

end FilterOutput

/-! ## The times of a port -/

/-- **Every time that a `PtpClock` holds is canonical.** -/
structure CanonicalTimes (c : PtpClock) : Prop where
  Tms : Canonical c.Tms
  Tsm : Canonical c.Tsm
  pdelayT1 : Canonical c.pdelayT1
  pdelayT2 : Canonical c.pdelayT2
  pdelayT3 : Canonical c.pdelayT3
  pdelayT4 : Canonical c.pdelayT4
  timestampSyncRecieve : Canonical c.timestampSyncRecieve
  timestampDelayReqSend : Canonical c.timestampDelayReqSend
  timestampDelayReqRecieve : Canonical c.timestampDelayReqRecieve
  correctionFieldSync : Canonical c.correctionFieldSync
  correctionFieldPDelayResp : Canonical c.correctionFieldPDelayResp
  offsetFromMaster : Canonical c.currentDS.offsetFromMaster
  meanPathDelay : Canonical c.currentDS.meanPathDelay
  peerMeanPathDelay : Canonical c.portDS.peerMeanPathDelay
  inboundLatency : Canonical c.inboundLatency
  outboundLatency : Canonical c.outboundLatency

/-- Orders of the two filters that a signed word has room for. -/
structure Servo.SoundOrders (servo : Servo) : Prop where
  sDelay : 0 ≤ servo.sDelay.toInt ∧ servo.sDelay.toInt ≤ 30
  sOffset : 0 ≤ servo.sOffset.toInt ∧ servo.sOffset.toInt ≤ 30

/-- Options like those of `ptpd_thread`, with canonical latencies and orders that fit. -/
structure RunTimeOpts.Sound (rtOpts : RunTimeOpts) : Prop where
  inboundLatency : Canonical rtOpts.inboundLatency
  outboundLatency : Canonical rtOpts.outboundLatency
  orders : rtOpts.servo.SoundOrders

/-- The invariant of the times, with what they are computed from. -/
structure TimesInv (s : System) : Prop where
  times : CanonicalTimes s.ptpClock
  owdFilt : s.ptpClock.owdFilt.Usable
  ofmFilt : s.ptpClock.ofmFilt.Usable
  slot : 0 ≤ s.rxTimeStamp.time.seconds
  orders : s.ptpClock.servo.SoundOrders
  opts : s.ptpClock.rtOpts.Sound

section Estimators

variable {c : PtpClock} {s : System}

theorem canonical_of_seconds_zero {t : TimeInternal} (hseconds : t.seconds = 0)
    (hlo : -1000000000 < t.nanoseconds.toInt) (hhi : t.nanoseconds.toInt < 1000000000) :
    Canonical t := by
  have hzero : t.seconds.toInt = 0 := by
    rw [hseconds]
    rfl
  unfold Canonical
  omega

/-- A canonical time without seconds, filtered. -/
theorem Filter.Usable.filtered {filt : Filter} (h : filt.Usable) {t : TimeInternal}
    (ht : Canonical t) (hseconds : t.seconds = 0) :
    (Ptpd.filter t.nanoseconds filt).2.Usable ∧
      Canonical { t with nanoseconds := (Ptpd.filter t.nanoseconds filt).1 } := by
  obtain ⟨husable, hlo, hhi⟩ := h.filter ht.1 ht.2.1
  exact ⟨husable, canonical_of_seconds_zero hseconds hlo hhi⟩

theorem CanonicalTimes.updateOffset (h : CanonicalTimes c) (hofm : c.ofmFilt.Usable)
    (ingress origin correction : TimeInternal) :
    CanonicalTimes (updateOffset ingress origin correction c) ∧
      (Ptpd.updateOffset ingress origin correction c).ofmFilt.Usable := by
  have hTms : Canonical (subTime (subTime ingress origin) correction) := subTime_canonical _ _
  have hoffset := subPathDelay_canonical (c := c) hTms
  unfold Ptpd.updateOffset
  dsimp only
  generalize subPathDelay c _ = offset at hoffset ⊢
  generalize subTime (subTime ingress origin) correction = Tms at hTms ⊢
  split
  case isTrue => exact ⟨{ h with Tms := hTms, offsetFromMaster := hoffset }, hofm⟩
  case isFalse hseconds =>
    obtain ⟨husable, hfiltered⟩ := hofm.filtered hoffset (not_not.mp hseconds)
    generalize Ptpd.filter _ _ = r at husable hfiltered ⊢
    exact ⟨{ h with Tms := hTms, offsetFromMaster := hfiltered }, husable⟩

theorem CanonicalTimes.storeDelay (h : CanonicalTimes c) (howd : c.owdFilt.Usable)
    {Tsm delay : TimeInternal} (hTsm : Canonical Tsm) (hdelay : Canonical delay) :
    CanonicalTimes (storeDelay Tsm delay c) ∧ (Ptpd.storeDelay Tsm delay c).owdFilt.Usable := by
  unfold Ptpd.storeDelay
  split
  case isTrue => exact ⟨{ h with Tsm := hTsm, meanPathDelay := hdelay }, howd⟩
  case isFalse hseconds =>
    obtain ⟨husable, hfiltered⟩ := howd.filtered hdelay (not_not.mp hseconds)
    exact ⟨{ h with Tsm := hTsm, meanPathDelay := hfiltered }, husable⟩

theorem CanonicalTimes.storePeerDelay (h : CanonicalTimes c) (howd : c.owdFilt.Usable)
    {delay : TimeInternal} (hdelay : Canonical delay) :
    CanonicalTimes (storePeerDelay delay c) ∧ (Ptpd.storePeerDelay delay c).owdFilt.Usable := by
  unfold Ptpd.storePeerDelay
  split
  case isTrue => exact ⟨{ h with peerMeanPathDelay := hdelay }, howd⟩
  case isFalse hseconds =>
    obtain ⟨husable, hfiltered⟩ := howd.filtered hdelay (not_not.mp hseconds)
    exact ⟨{ h with peerMeanPathDelay := hfiltered }, husable⟩

theorem CanonicalTimes.updateDelay (h : CanonicalTimes c) (howd : c.owdFilt.Usable)
    (egress receive correction : TimeInternal) :
    CanonicalTimes (updateDelay egress receive correction c) ∧
      (Ptpd.updateDelay egress receive correction c).owdFilt.Usable := by
  by_cases hn : c.ofmFilt.n = 0
  · rw [Ptpd.updateDelay, if_pos hn]
    exact ⟨h, howd⟩
  · rw [updateDelay_store hn]
    exact h.storeDelay howd (subTime_canonical _ _) (div2Time_canonical _)

theorem CanonicalTimes.updatePeerDelay (h : CanonicalTimes c) (howd : c.owdFilt.Usable)
    (correction : TimeInternal) (twoStep : Bool) :
    CanonicalTimes (updatePeerDelay correction twoStep c) ∧
      (Ptpd.updatePeerDelay correction twoStep c).owdFilt.Usable := by
  rw [updatePeerDelay_store]
  exact h.storePeerDelay howd (div2Time_canonical _)

/-- The receive time that `handle` passes on. -/
theorem TimesInv.ingressTime (h : TimesInv s) : Canonical (ingressTime s) := by
  unfold Ptpd.ingressTime inboundTime
  split
  · exact subTime_canonical _ _
  · exact s.rxTimeStamp.canonical h.slot

end Estimators

/-! ## The messages of a run -/

/-- A frame received before 2038, or a message with an accepted timestamp. -/
def Entry.InRange : Entry → Prop
  | .frameRead stamp => 0 ≤ stamp.time.seconds
  | .offset _ stamp _ _ _ => stamp.Accepted
  | .delay _ stamp _ _ _ => stamp.Accepted
  | .pdelayStored _ stamp _ _ => stamp.Accepted
  | .peerDelay _ _ _ (some (stamp, _)) => stamp.Accepted
  | _ => True

/-- The time used for a message is exactly that of its timestamp. -/
def Entry.Exact : Entry → Prop
  | .offset _ stamp _ origin _ => stamp.Is origin
  | .delay _ stamp _ receive _ => stamp.Is receive
  | .pdelayStored _ stamp t2 _ => stamp.Is t2
  | .peerDelay _ _ _ (some (stamp, t3)) => stamp.Is t3
  | _ => True

theorem preserves_exact :
    Transition.Preserves LedgerStep fun l => ∀ e ∈ l.history, e.InRange → e.Exact := by
  intro l l' h hl
  cases h
  case initData | resetDelayReqInterval => exact hl
  case other e he =>
    refine List.forall_mem_cons.mpr ⟨fun _ => ?_, hl⟩
    cases e <;> first | exact trivial | exact he.elim
  case syncOffset | followUpOffset | delay | pdelayStored =>
    exact List.forall_mem_cons.mpr ⟨fun hin => hin.is _, hl⟩
  case peerDelay header correction t3 h hw ht =>
    refine List.forall_mem_cons.mpr ⟨fun hin => ?_, hl⟩
    cases t3 with
    | none => exact trivial
    | some x =>
      obtain ⟨stamp, time⟩ := x
      obtain ⟨old, rfl⟩ := ht stamp time rfl
      exact hin.is old
  all_goals exact List.forall_mem_cons.mpr ⟨fun _ => trivial, hl⟩

section Runs

variable {P : PtpState → Prop} {s t : System}

theorem TimesInv.sentPacket (hs : TimesInv s) (env : Env) (type : MessageType) (length : Int)
    (pack : PtpClock → Buf) : TimesInv (sentPacket env type length pack s) :=
  ⟨{ hs.times with }, hs.owdFilt, hs.ofmFilt, hs.slot, hs.orders, hs.opts⟩

theorem TimesInv.stampDelayReq (hs : TimesInv s) (egress : TimeInternal) :
    TimesInv (s.modify fun c =>
      { c with
        sentDelayReqSequenceId := c.sentDelayReqSequenceId + 1
        timestampDelayReqSend :=
          if egress.seconds ≠ 0 then addTime egress c.outboundLatency
          else c.timestampDelayReqSend }) := by
  have hstamp : Canonical (if egress.seconds ≠ 0 then addTime egress s.ptpClock.outboundLatency
      else s.ptpClock.timestampDelayReqSend) := by
    split
    · exact addTime_canonical _ _
    · exact hs.times.timestampDelayReqSend
  exact ⟨{ hs.times with timestampDelayReqSend := hstamp }, hs.owdFilt, hs.ofmFilt, hs.slot,
    hs.orders, hs.opts⟩

theorem TimesInv.stampPDelayReq (hs : TimesInv s) (egress : TimeInternal) :
    TimesInv (s.modify fun c =>
      { c with
        sentPDelayReqSequenceId := c.sentPDelayReqSequenceId + 1
        pdelayT1 :=
          if egress.seconds ≠ 0 then addTime egress c.outboundLatency else c.pdelayT1 }) := by
  have hstamp : Canonical (if egress.seconds ≠ 0 then addTime egress s.ptpClock.outboundLatency
      else s.ptpClock.pdelayT1) := by
    split
    · exact addTime_canonical _ _
    · exact hs.times.pdelayT1
  exact ⟨{ hs.times with pdelayT1 := hstamp }, hs.owdFilt, hs.ofmFilt, hs.slot, hs.orders,
    hs.opts⟩

theorem TimesInv.storeSync (hs : TimesInv s) : TimesInv (storeSync (Ptpd.ingressTime s) s) := by
  have hcorrection :=
    scaledNanosecondsToInternalTime_canonical s.ptpClock.msgTmpHeader.correctionfield
  exact ⟨{ hs.times with
      timestampSyncRecieve := hs.ingressTime, correctionFieldSync := hcorrection },
    hs.owdFilt, hs.ofmFilt, hs.slot, hs.orders, hs.opts⟩

/-- An update of the `PtpClock` that keeps the options. -/
theorem TimesInv.modify (hs : TimesInv s) {f : PtpClock → PtpClock}
    (htimes : CanonicalTimes (f s.ptpClock)) (howd : (f s.ptpClock).owdFilt.Usable)
    (hofm : (f s.ptpClock).ofmFilt.Usable) (hservo : (f s.ptpClock).servo = s.ptpClock.servo)
    (hopts : (f s.ptpClock).rtOpts = s.ptpClock.rtOpts) : TimesInv (s.modify f) :=
  ⟨htimes, howd, hofm, hs.slot, hservo ▸ hs.orders, hopts ▸ hs.opts⟩

theorem TimesInv.log (hs : TimesInv s) (e : Entry) : TimesInv (s.log e) :=
  ⟨hs.times, hs.owdFilt, hs.ofmFilt, hs.slot, hs.orders, hs.opts⟩

theorem TimesInv.updateOffset (hs : TimesInv s) (ingress origin correction : TimeInternal) :
    TimesInv (s.modify (updateOffset ingress origin correction)) := by
  obtain ⟨htimes, hofm⟩ := hs.times.updateOffset hs.ofmFilt ingress origin correction
  obtain ⟨Tms, offset, filt, events, heq⟩ := updateOffset_eq ingress origin correction s.ptpClock
  refine hs.modify htimes ?_ hofm ?_ ?_
  · rw [heq]
    exact hs.owdFilt
  · rw [heq]
  · rw [heq]

theorem TimesInv.updateDelay (hs : TimesInv s) (egress receive correction : TimeInternal) :
    TimesInv (s.modify (updateDelay egress receive correction)) := by
  obtain ⟨htimes, howd⟩ := hs.times.updateDelay hs.owdFilt egress receive correction
  obtain ⟨Tsm, delay, filt, heq⟩ := updateDelay_eq egress receive correction s.ptpClock
  refine hs.modify htimes howd ?_ ?_ ?_
  · rw [heq]
    exact hs.ofmFilt
  · rw [heq]
  · rw [heq]

theorem TimesInv.updatePeerDelay (hs : TimesInv s) (correction : TimeInternal) (twoStep : Bool) :
    TimesInv (s.modify (updatePeerDelay correction twoStep)) := by
  obtain ⟨htimes, howd⟩ := hs.times.updatePeerDelay hs.owdFilt correction twoStep
  obtain ⟨delay, filt, heq⟩ := updatePeerDelay_eq correction twoStep s.ptpClock
  refine hs.modify htimes howd ?_ ?_ ?_
  · rw [heq]
    exact hs.ofmFilt
  · rw [heq]
  · rw [heq]

theorem TimesInv.syncOffset (hs : TimesInv s) (env : Env) :
    TimesInv (syncOffset env (Ptpd.ingressTime s) s) := by
  have hstored : TimesInv (s.modify fun c =>
      { c with timestampSyncRecieve := Ptpd.ingressTime s, waitingForFollowUp := false }) :=
    hs.modify { hs.times with timestampSyncRecieve := hs.ingressTime } hs.owdFilt hs.ofmFilt rfl rfl
  exact (hstored.updateOffset _ _ _).log _

theorem TimesInv.followUpOffset (hs : TimesInv s) (env : Env) :
    TimesInv (followUpOffset env s) := by
  have hreleased : TimesInv (s.modify fun c => { c with waitingForFollowUp := false }) :=
    hs.modify { hs.times with } hs.owdFilt hs.ofmFilt rfl rfl
  exact (hreleased.updateOffset _ _ _).log _

theorem TimesInv.useDelayResp (hs : TimesInv s)
    (h : (msgUnpackDelayResp s.ptpClock.msgIbuf).timestamp.Accepted) :
    TimesInv (useDelayResp s) := by
  have hreceive := h.canonical s.ptpClock.timestampDelayReqRecieve
  unfold Ptpd.useDelayResp
  dsimp only
  generalize toInternalTime _ _ = receive at hreceive ⊢
  have hstored : TimesInv (s.modify fun c => { c with timestampDelayReqRecieve := receive }) :=
    hs.modify { hs.times with timestampDelayReqRecieve := hreceive } hs.owdFilt hs.ofmFilt rfl rfl
  have hupdated := (hstored.log (.delay s.ptpClock.msgTmpHeader
    (msgUnpackDelayResp s.ptpClock.msgIbuf).timestamp s.ptpClock.timestampDelayReqSend receive
    (scaledNanosecondsToInternalTime s.ptpClock.msgTmpHeader.correctionfield))).updateDelay
      s.ptpClock.timestampDelayReqSend receive
      (scaledNanosecondsToInternalTime s.ptpClock.msgTmpHeader.correctionfield)
  exact hupdated.modify { hupdated.times with } hupdated.owdFilt hupdated.ofmFilt rfl rfl

theorem TimesInv.storePDelayResp (hs : TimesInv s) (env : Env)
    (h : (msgUnpackPDelayResp s.ptpClock.msgIbuf).timestamp.Accepted) :
    TimesInv (storePDelayResp env (Ptpd.ingressTime s) s) := by
  have ht2 := h.canonical env.localTime
  have ht4 := hs.ingressTime
  have hcorrection :=
    scaledNanosecondsToInternalTime_canonical s.ptpClock.msgTmpHeader.correctionfield
  unfold Ptpd.storePDelayResp
  dsimp only
  generalize toInternalTime _ _ = t2 at ht2 ⊢
  generalize scaledNanosecondsToInternalTime _ = correction at hcorrection ⊢
  generalize Ptpd.ingressTime s = t4 at ht4 ⊢
  refine TimesInv.log (hs.modify ?_ hs.owdFilt hs.ofmFilt rfl rfl) _
  exact { hs.times with pdelayT4 := ht4, pdelayT2 := ht2, correctionFieldPDelayResp := hcorrection }

theorem TimesInv.usePDelayResp (hs : TimesInv s) :
    TimesInv (usePDelayResp (Ptpd.ingressTime s) s) := by
  have hstored : TimesInv (s.modify fun c =>
      { c with waitingForPDelayRespFollowUp := false, pdelayT4 := Ptpd.ingressTime s }) :=
    hs.modify { hs.times with pdelayT4 := hs.ingressTime } hs.owdFilt hs.ofmFilt rfl rfl
  exact (hstored.updatePeerDelay _ _).log _

theorem TimesInv.releasePDelayResp (hs : TimesInv s) :
    TimesInv (s.modify fun c => { c with waitingForPDelayRespFollowUp := false }) :=
  hs.modify { hs.times with } hs.owdFilt hs.ofmFilt rfl rfl

theorem TimesInv.usePDelayRespFollowUp (hs : TimesInv s) (env : Env)
    (h : (msgUnpackPDelayRespFollowUp s.ptpClock.msgIbuf).timestamp.Accepted) :
    TimesInv (usePDelayRespFollowUp env s) := by
  have ht3 := h.canonical env.localTime
  have hstored : TimesInv (s.modify fun c =>
      { c with
        pdelayT3 :=
          toInternalTime env.localTime
            (msgUnpackPDelayRespFollowUp s.ptpClock.msgIbuf).timestamp }) :=
    hs.modify { hs.times with pdelayT3 := ht3 } hs.owdFilt hs.ofmFilt rfl rfl
  exact ((hstored.updatePeerDelay _ _).log _).releasePDelayResp

/-- **What an action does to the times**, when its message has an accepted timestamp. -/
theorem Action.timesInv (h : Action P s t) (hin : ∀ e ∈ t.history, e.InRange) (hs : TimesInv s) :
    TimesInv t := by
  have hzero := canonical_zero
  cases h
  case messageActivity | portState | recommendedState | events | timerExpired | initTimer |
      emptyEventQ | netInit | packHeader | netQGetEvent | netQGetGeneral | copyDatagram |
      msgIbufLength | unpackHeader | takeAnnounce | addForeign | accumulateDrift |
      resetForeign | resetDelayReqInterval | timerStop | timerStart | startDelayReqInterval |
      doInit | eventMessage | followParent | setTime =>
    exact ⟨{ hs.times with }, hs.owdFilt, hs.ofmFilt, hs.slot, hs.orders, hs.opts⟩
  case adjTime adj =>
    obtain ⟨_, heq⟩ := adjTime_eq adj s
    rw [heq]
    exact ⟨{ hs.times with }, hs.owdFilt, hs.ofmFilt, hs.slot, hs.orders, hs.opts⟩
  case issueAnnounce env =>
    rw [issueAnnounce_eq]
    have hsent := hs.sentPacket env .announce announceLength fun c => msgPackAnnounce c c.msgObuf
    exact ⟨{ hsent.times with }, hsent.owdFilt, hsent.ofmFilt, hsent.slot, hsent.orders, hsent.opts⟩
  case sentSync env =>
    have hsent := hs.sentPacket env .sync syncLength
      fun c => msgPackSync c c.msgObuf (originNow env s)
    exact ⟨{ hsent.times with }, hsent.owdFilt, hsent.ofmFilt, hsent.slot, hsent.orders, hsent.opts⟩
  case issueFollowup env time => exact hs.sentPacket env _ _ _
  case issueDelayResp env time => exact hs.sentPacket env _ _ _
  case issuePDelayResp env time =>
    rw [issuePDelayResp_eq]
    exact hs.sentPacket env _ _ _
  case issuePDelayRespFollowUp env time => exact hs.sentPacket env _ _ _
  case issueDelayReq env =>
    have hsent := hs.sentPacket env .delayReq delayReqLength
      fun c => msgPackDelayReq c c.msgObuf (originNow env s)
    rw [issueDelayReq_eq]
    generalize egressTime env .delayReq (getTime s) = egress
    generalize Ptpd.sentPacket env _ _ _ s = u at hsent ⊢
    exact hsent.stampDelayReq egress
  case issuePDelayReq env =>
    have hsent := hs.sentPacket env .pdelayReq pdelayReqLength
      fun c => msgPackPDelayReq c c.msgObuf (originNow env s)
    rw [issuePDelayReq_eq]
    generalize egressTime env .pdelayReq (getTime s) = egress
    generalize Ptpd.sentPacket env _ _ _ s = u at hsent ⊢
    exact hsent.stampPDelayReq egress
  case clearServo =>
    have horders := hs.orders
    exact ⟨{ hs.times with
        Tms := hzero, pdelayT1 := hzero, pdelayT2 := hzero, pdelayT3 := hzero, pdelayT4 := hzero },
      ⟨horders.sDelay, .inl rfl⟩, ⟨horders.sOffset, .inl rfl⟩, hs.slot, horders, hs.opts⟩
  case m1 =>
    exact ⟨{ hs.times with offsetFromMaster := hzero, meanPathDelay := hzero }, hs.owdFilt,
      hs.ofmFilt, hs.slot, hs.orders, hs.opts⟩
  case initData =>
    exact ⟨{ hs.times with
        peerMeanPathDelay := hzero
        inboundLatency := hs.opts.inboundLatency
        outboundLatency := hs.opts.outboundLatency },
      hs.owdFilt, hs.ofmFilt, hs.slot, hs.opts.orders, hs.opts⟩
  case storeSync h hp => exact hs.storeSync
  case syncOffset env h => exact hs.syncOffset env
  case followUpOffset env h hm => exact hs.followUpOffset env
  case useDelayResp h => exact hs.useDelayResp (hin _ List.mem_cons_self)
  case storePDelayResp env h => exact hs.storePDelayResp env (hin _ List.mem_cons_self)
  case usePDelayResp h => exact hs.usePDelayResp
  case usePDelayRespFollowUp env hm h =>
    exact hs.usePDelayRespFollowUp env (hin _ List.mem_cons_self)
  case decideState =>
    have hcurrent := decideState_currentDS s
    obtain ⟨currentDS, _, _, _, _, _, _, _, heq⟩ := decideState_eq s
    rw [heq] at hcurrent ⊢
    have hoffset : Canonical currentDS.offsetFromMaster := by
      rcases hcurrent with ⟨h, -⟩ | ⟨h, -⟩
      · exact h ▸ hs.times.offsetFromMaster
      · exact h ▸ hzero
    have hdelay : Canonical currentDS.meanPathDelay := by
      rcases hcurrent with ⟨-, h⟩ | ⟨-, h⟩
      · exact h ▸ hs.times.meanPathDelay
      · exact h ▸ hzero
    exact ⟨{ hs.times with offsetFromMaster := hoffset, meanPathDelay := hdelay }, hs.owdFilt,
      hs.ofmFilt, hs.slot, hs.orders, hs.opts⟩
  case interrupt i =>
    cases i with
    | frame p =>
      have hslot : 0 ≤ p.stamp.time.seconds := hin (.frameRead p.stamp) List.mem_cons_self
      exact ⟨{ hs.times with }, hs.owdFilt, hs.ofmFilt, hslot, hs.orders, hs.opts⟩
    | recvEvent n =>
      simp only [Ptpd.interrupt, netRecvEventCallback]
      split
      · exact hs
      · exact ⟨{ hs.times with }, hs.owdFilt, hs.ofmFilt, hs.slot, hs.orders, hs.opts⟩
    | recvGeneral n =>
      simp only [Ptpd.interrupt, netRecvGeneralCallback]
      split
      · exact hs
      · exact ⟨{ hs.times with }, hs.owdFilt, hs.ofmFilt, hs.slot, hs.orders, hs.opts⟩
    | discard n => exact ⟨hs.times, hs.owdFilt, hs.ofmFilt, hs.slot, hs.orders, hs.opts⟩
    | timerCallback timer => exact ⟨hs.times, hs.owdFilt, hs.ofmFilt, hs.slot, hs.orders, hs.opts⟩
    | tick time => exact ⟨hs.times, hs.owdFilt, hs.ofmFilt, hs.slot, hs.orders, hs.opts⟩

/-- The invariant holds as long as every message so far was in range. -/
theorem preserves_timesInv :
    Transition.Preserves (Action P) fun s => (∀ e ∈ s.history, e.InRange) → TimesInv s := by
  intro s t h hs hin
  have hsuffix : s.history <:+ t.history := actions_history_suffix (.single h)
  exact h.timesInv hin (hs fun e he => hin e (hsuffix.subset he))

theorem boot_timesInv {rtOpts : RunTimeOpts} (h : rtOpts.Sound) : TimesInv (boot rtOpts) := by
  have hzero := canonical_zero
  have hfilter : (default : Filter).Usable := ⟨by decide, .inl rfl⟩
  obtain ⟨opts, hboot, hopts⟩ : ∃ opts : RunTimeOpts,
      boot rtOpts =
        { (default : System) with
          ptpClock := { (default : PtpClock) with rtOpts := opts, messageActivity := true }
          addend := adjFreqBaseAddend } ∧ opts.Sound := by
    unfold boot ptpdStartup
    dsimp only
    split
    · exact ⟨_, rfl, h.inboundLatency, h.outboundLatency, h.orders.sDelay, h.orders.sOffset⟩
    · exact ⟨_, rfl, h.inboundLatency, h.outboundLatency, h.orders.sDelay, h.orders.sOffset⟩
  rw [hboot]
  have hslot : 0 ≤ (default : HwTime).time.seconds := by decide
  have horders : (default : Servo).SoundOrders := ⟨by decide, by decide⟩
  refine ⟨?_, hfilter, hfilter, hslot, horders, hopts⟩
  exact ⟨hzero, hzero, hzero, hzero, hzero, hzero, hzero, hzero, hzero, hzero, hzero, hzero, hzero,
    hzero, hzero, hzero⟩

/-- **The times of a run** in which every message is in range. -/
theorem Visited.times {rtOpts : RunTimeOpts} (h : rtOpts.Sound) (hs : Visited rtOpts s)
    (hin : ∀ e ∈ s.history, e.InRange) :
    (∀ e ∈ s.history, e.Exact) ∧ CanonicalTimes s.ptpClock := by
  have htimes := hs.of_action preserves_timesInv fun _ => boot_timesInv h
  have hexact : ∀ e ∈ s.history, e.InRange → e.Exact := by
    refine hs.of_ledger preserves_exact ?_
    obtain ⟨_, hboot, _⟩ := boot_eq rtOpts
    rw [hboot]
    exact fun e he => absurd he List.not_mem_nil
  exact ⟨fun e he => hexact e he (hin e he), (htimes hin).times⟩

end Runs

/-! ## The use of one message -/

/-- The data of the servo and the clock. -/
structure ServoData where
  Tms : TimeInternal
  Tsm : TimeInternal
  offsetFromMaster : TimeInternal
  meanPathDelay : TimeInternal
  peerMeanPathDelay : TimeInternal
  observedDrift : Int32
  time : TimeInternal
  addend : UInt32

/-- The servo data of a state. -/
def System.servoData (s : System) : ServoData :=
  { Tms := s.ptpClock.Tms
    Tsm := s.ptpClock.Tsm
    offsetFromMaster := s.ptpClock.currentDS.offsetFromMaster
    meanPathDelay := s.ptpClock.currentDS.meanPathDelay
    peerMeanPathDelay := s.ptpClock.portDS.peerMeanPathDelay
    observedDrift := s.ptpClock.observedDrift
    time := s.time
    addend := s.addend }

/-- **The uses of a message** that a handler has accepted: its type, its timestamp, the time used
for it, if any, and the state afterwards. A one-step PDelayResp is used without its timestamp. -/
inductive Uses (env : Env) (s : System) :
    MessageType → Timestamp → Option TimeInternal → System → Prop
  | sync (time : TimeInternal) (hp : isFromCurrentParent s.ptpClock) :
      Uses env s .sync (msgUnpackSync s.ptpClock.msgIbuf)
        (some (toInternalTime env.localTime (msgUnpackSync s.ptpClock.msgIbuf)))
        (useSync env time s)
  | followUp (hm : followUpMatches s.ptpClock) :
      Uses env s .followUp (msgUnpackFollowUp s.ptpClock.msgIbuf)
        (some (toInternalTime env.localTime (msgUnpackFollowUp s.ptpClock.msgIbuf)))
        (useFollowUp env s)
  | delayResp (hm : delayRespMatches s.ptpClock) :
      Uses env s .delayResp (msgUnpackDelayResp s.ptpClock.msgIbuf).timestamp
        (some (toInternalTime s.ptpClock.timestampDelayReqRecieve
          (msgUnpackDelayResp s.ptpClock.msgIbuf).timestamp)) (useDelayResp s)
  | twoStepPDelayResp (time : TimeInternal) (hm : pdelayRespMatches s.ptpClock) :
      Uses env s .pdelayResp (msgUnpackPDelayResp s.ptpClock.msgIbuf).timestamp
        (some (toInternalTime env.localTime (msgUnpackPDelayResp s.ptpClock.msgIbuf).timestamp))
        (storePDelayResp env time s)
  | oneStepPDelayResp (time : TimeInternal) (hm : pdelayRespMatches s.ptpClock) :
      Uses env s .pdelayResp (msgUnpackPDelayResp s.ptpClock.msgIbuf).timestamp none
        (usePDelayResp time s)
  | pdelayRespFollowUp (hm : pdelayFollowUpMatches s.ptpClock) :
      Uses env s .pdelayRespFollowUp (msgUnpackPDelayRespFollowUp s.ptpClock.msgIbuf).timestamp
        (some (toInternalTime env.localTime
          (msgUnpackPDelayRespFollowUp s.ptpClock.msgIbuf).timestamp))
        (usePDelayRespFollowUp env s)

/-- **What is promised for the use of a message**: a timestamp that fits is used exactly, and any
other one changes nothing. -/
def Respects (stamp : Timestamp) (used : Option TimeInternal) (s s' : System) : Prop :=
  (stamp.Representable → ∀ x ∈ used, stamp.Is x) ∧
    (¬stamp.Representable → s'.servoData = s.servoData)

/-- The messages with a timestamp for the servo. -/
def MessageType.IsStamped (type : MessageType) : Prop :=
  type ∈ [MessageType.sync, .followUp, .delayResp, .pdelayResp, .pdelayRespFollowUp]

theorem Uses.respects {env : Env} {s s' : System} {type : MessageType} {stamp : Timestamp}
    {used : Option TimeInternal} (h : Uses env s type stamp used s') (hstamp : stamp.Accepted) :
    Respects stamp used s s' := by
  refine ⟨fun _ x hx => ?_, fun hn => absurd hstamp.representable hn⟩
  cases h with
  | oneStepPDelayResp time hm => cases hx
  | _ =>
    obtain rfl := Option.mem_some_iff.mp hx
    exact hstamp.is _

section Changes

variable {env : Env} {s : System} {stamp : Timestamp}

theorem updateOffset_Tms (ingress origin correction : TimeInternal) (c : PtpClock) :
    (updateOffset ingress origin correction c).Tms =
      subTime (subTime ingress origin) correction := by
  unfold updateOffset
  dsimp only
  split <;> rfl

/-- A servo that does not adjust the clock keeps the measurement. -/
theorem updateClock_Tms (h : s.ptpClock.servo.noAdjust = true) :
    (updateClock s).ptpClock.Tms = s.ptpClock.Tms := by
  unfold updateClock
  simp only [System.modify_ptpClock, h, if_true]
  split <;> rfl

theorem measureOffset_Tms (stamp : Timestamp) (origin correction : TimeInternal)
    (h : s.ptpClock.servo.noAdjust = true) :
    (updateClock (measureOffset stamp origin correction s)).ptpClock.Tms =
      subTime (subTime s.ptpClock.timestampSyncRecieve origin) correction := by
  rw [updateClock_Tms]
  · exact updateOffset_Tms _ _ _ _
  · obtain ⟨_, _, _, _, heq⟩ :=
      updateOffset_eq s.ptpClock.timestampSyncRecieve origin correction s.ptpClock
    show (updateOffset _ _ _ _).servo.noAdjust = true
    rw [heq]
    exact h

theorem storeDelay_Tsm (Tsm delay : TimeInternal) (c : PtpClock) :
    (storeDelay Tsm delay c).Tsm = Tsm := by
  unfold storeDelay
  split <;> rfl

/-- A port that accepts a message with the timestamp `stamp` in its buffer, of whatever type, and
whose measurements are all `t`. -/
def stamped (stamp : Timestamp) (t : TimeInternal) : System :=
  (default : System).modify fun c =>
    { c with
      msgIbuf := msgPackTimestamp (fun _ => 0) stamp
      sentDelayReqSequenceId := 1
      sentPDelayReqSequenceId := 1
      waitingForFollowUp := true
      waitingForPDelayRespFollowUp := true
      ofmFilt := { c.ofmFilt with n := 1 }
      servo := { c.servo with noAdjust := true }
      Tms := t
      Tsm := t
      portDS := { c.portDS with peerMeanPathDelay := t } }

theorem stamped_timestamp (t : TimeInternal) :
    msgUnpackTimestamp (stamped stamp t).ptpClock.msgIbuf = stamp :=
  msgUnpackTimestamp_msgPackTimestamp _ _

theorem stamped_requesting (t : TimeInternal) :
    loadPortIdentity (stamped stamp t).ptpClock.msgIbuf 44 = default := by
  have hzero : loadPortIdentity (fun _ => 0) 44 = default := by decide
  rw [← hzero]
  refine loadPortIdentity_congr fun i hi _ => ?_
  show msgPackTimestamp (fun _ => 0) stamp i = 0
  rw [msgPackTimestamp, store32_of_ne _ _ (by omega), store32_of_ne _ _ (by omega),
    store16_of_ne _ _ (by omega) (by omega)]

theorem stamped_parent (t : TimeInternal) : isFromCurrentParent (stamped stamp t).ptpClock := by
  show isSamePortIdentity default default = true
  decide

theorem stamped_delayRespMatches (t : TimeInternal) :
    delayRespMatches (stamped stamp t).ptpClock := by
  have hrequesting :
      (msgUnpackDelayResp (stamped stamp t).ptpClock.msgIbuf).requestingPortIdentity = default :=
    stamped_requesting t
  rw [delayRespMatches, hrequesting, stamped_parent]
  show (isLastSent 1 0 && isSamePortIdentity default default && true) = true
  decide

theorem stamped_pdelayRespMatches (t : TimeInternal) :
    pdelayRespMatches (stamped stamp t).ptpClock := by
  have hrequesting :
      (msgUnpackPDelayResp (stamped stamp t).ptpClock.msgIbuf).requestingPortIdentity = default :=
    stamped_requesting t
  rw [pdelayRespMatches, hrequesting]
  show (isLastSent 1 0 && isSamePortIdentity default default) = true
  decide

theorem stamped_followUpMatches (t : TimeInternal) :
    followUpMatches (stamped stamp t).ptpClock := by
  rw [followUpMatches, stamped_parent]
  rfl

theorem updateDelay_Tsm {c : PtpClock} (h : c.ofmFilt.n ≠ 0)
    (egress receive correction : TimeInternal) :
    (updateDelay egress receive correction c).Tsm =
      subTime (subTime receive egress) correction := by
  rw [updateDelay_store h]
  exact storeDelay_Tsm _ _ _

theorem useSync_Tms (h : s.ptpClock.servo.noAdjust = true) (time : TimeInternal) :
    (useSync env time s).ptpClock.Tms =
      subTime (subTime time (toInternalTime env.localTime (msgUnpackSync s.ptpClock.msgIbuf)))
        (scaledNanosecondsToInternalTime s.ptpClock.msgTmpHeader.correctionfield) :=
  measureOffset_Tms (s := s.modify fun c =>
    { c with timestampSyncRecieve := time, waitingForFollowUp := false }) _ _ _ h

theorem useFollowUp_Tms (h : s.ptpClock.servo.noAdjust = true) :
    (useFollowUp env s).ptpClock.Tms =
      subTime (subTime s.ptpClock.timestampSyncRecieve
        (toInternalTime env.localTime (msgUnpackFollowUp s.ptpClock.msgIbuf)))
        (followUpCorrection s.ptpClock) :=
  measureOffset_Tms (s := s.modify fun c => { c with waitingForFollowUp := false }) _ _ _ h

theorem useDelayResp_Tsm (h : s.ptpClock.ofmFilt.n ≠ 0) :
    (useDelayResp s).ptpClock.Tsm =
      subTime (subTime (toInternalTime s.ptpClock.timestampDelayReqRecieve
        (msgUnpackDelayResp s.ptpClock.msgIbuf).timestamp) s.ptpClock.timestampDelayReqSend)
        (scaledNanosecondsToInternalTime s.ptpClock.msgTmpHeader.correctionfield) := by
  have hstored (receive : TimeInternal) :
      (s.modify fun c => { c with timestampDelayReqRecieve := receive }).ptpClock.ofmFilt.n ≠ 0 := h
  exact updateDelay_Tsm (hstored _) _ _ _

/-! The fields that the uses read are the same whatever the measurements are. -/

@[simp] theorem stamped_msgIbuf (t : TimeInternal) :
    (stamped stamp t).ptpClock.msgIbuf = msgPackTimestamp (fun _ => 0) stamp := rfl
@[simp] theorem stamped_msgTmpHeader (t : TimeInternal) :
    (stamped stamp t).ptpClock.msgTmpHeader = default := rfl
@[simp] theorem stamped_timestampSyncRecieve (t : TimeInternal) :
    (stamped stamp t).ptpClock.timestampSyncRecieve = default := rfl
@[simp] theorem stamped_correctionFieldSync (t : TimeInternal) :
    (stamped stamp t).ptpClock.correctionFieldSync = default := rfl
@[simp] theorem stamped_timestampDelayReqRecieve (t : TimeInternal) :
    (stamped stamp t).ptpClock.timestampDelayReqRecieve = default := rfl
@[simp] theorem stamped_timestampDelayReqSend (t : TimeInternal) :
    (stamped stamp t).ptpClock.timestampDelayReqSend = default := rfl

/-- Two states that differ in the measurements only. -/
theorem stamped_useSync (t t' : TimeInternal) :
    (useSync default ⟨0, 0⟩ (stamped stamp t)).ptpClock.Tms =
      (useSync default ⟨0, 0⟩ (stamped stamp t')).ptpClock.Tms := by
  rw [useSync_Tms rfl, useSync_Tms rfl]
  simp only [stamped_msgIbuf, stamped_msgTmpHeader]

theorem stamped_useFollowUp (t t' : TimeInternal) :
    (useFollowUp default (stamped stamp t)).ptpClock.Tms =
      (useFollowUp default (stamped stamp t')).ptpClock.Tms := by
  rw [useFollowUp_Tms rfl, useFollowUp_Tms rfl]
  simp only [followUpCorrection, stamped_msgIbuf, stamped_msgTmpHeader,
    stamped_timestampSyncRecieve, stamped_correctionFieldSync]

theorem stamped_useDelayResp (t t' : TimeInternal) :
    (useDelayResp (stamped stamp t)).ptpClock.Tsm =
      (useDelayResp (stamped stamp t')).ptpClock.Tsm := by
  have hn (t : TimeInternal) : (stamped stamp t).ptpClock.ofmFilt.n ≠ 0 := by
    show (1 : Int32) ≠ 0
    decide
  rw [useDelayResp_Tsm (hn t), useDelayResp_Tsm (hn t')]
  simp only [stamped_msgIbuf, stamped_msgTmpHeader, stamped_timestampDelayReqRecieve,
    stamped_timestampDelayReqSend]

@[simp] theorem stamped_pdelayT1 (t : TimeInternal) :
    (stamped stamp t).ptpClock.pdelayT1 = default := rfl
@[simp] theorem stamped_pdelayT2 (t : TimeInternal) :
    (stamped stamp t).ptpClock.pdelayT2 = default := rfl
@[simp] theorem stamped_pdelayT4 (t : TimeInternal) :
    (stamped stamp t).ptpClock.pdelayT4 = default := rfl
@[simp] theorem stamped_correctionFieldPDelayResp (t : TimeInternal) :
    (stamped stamp t).ptpClock.correctionFieldPDelayResp = default := rfl

theorem stamped_usePDelayResp (t t' : TimeInternal) :
    (usePDelayResp ⟨0, 0⟩ (stamped stamp t)).ptpClock.portDS.peerMeanPathDelay.seconds =
      (usePDelayResp ⟨0, 0⟩ (stamped stamp t')).ptpClock.portDS.peerMeanPathDelay.seconds := by
  rw [usePDelayResp_peerMeanPathDelay, usePDelayResp_peerMeanPathDelay]
  simp only [storedDelay_seconds, pdelayRespSample, peerDelaySample, peerRoundTrip,
    Bool.false_eq_true, if_false, stamped_msgTmpHeader, stamped_pdelayT1]

theorem stamped_usePDelayRespFollowUp (t t' : TimeInternal) :
    (usePDelayRespFollowUp default
        (stamped stamp t)).ptpClock.portDS.peerMeanPathDelay.seconds =
      (usePDelayRespFollowUp default
        (stamped stamp t')).ptpClock.portDS.peerMeanPathDelay.seconds := by
  rw [usePDelayRespFollowUp_peerMeanPathDelay, usePDelayRespFollowUp_peerMeanPathDelay]
  simp only [storedDelay_seconds, pdelayRespFollowUpSample, peerDelaySample, peerRoundTrip,
    if_true, stamped_msgIbuf, stamped_msgTmpHeader, stamped_pdelayT1, stamped_pdelayT2,
    stamped_pdelayT4, stamped_correctionFieldPDelayResp]

/-- The uses of a message with the timestamp `stamp`, in a state that accepts each of them. -/
theorem uses_of_timestamp {env : Env} {s : System} {stamp : Timestamp}
    (hstamp : msgUnpackTimestamp s.ptpClock.msgIbuf = stamp)
    (hparent : isFromCurrentParent s.ptpClock) (hfollow : followUpMatches s.ptpClock)
    (hdelay : delayRespMatches s.ptpClock) (hpdelay : pdelayRespMatches s.ptpClock)
    (hpfollow : pdelayFollowUpMatches s.ptpClock) (time : TimeInternal) :
    let used := some (toInternalTime env.localTime stamp)
    Uses env s .sync stamp used (useSync env time s) ∧
      Uses env s .followUp stamp used (useFollowUp env s) ∧
      Uses env s .delayResp stamp
        (some (toInternalTime s.ptpClock.timestampDelayReqRecieve stamp)) (useDelayResp s) ∧
      Uses env s .pdelayResp stamp used (storePDelayResp env time s) ∧
      Uses env s .pdelayResp stamp none (usePDelayResp time s) ∧
      Uses env s .pdelayRespFollowUp stamp used (usePDelayRespFollowUp env s) := by
  subst hstamp
  exact ⟨.sync time hparent, .followUp hfollow, .delayResp hdelay, .twoStepPDelayResp time hpdelay,
    .oneStepPDelayResp time hpdelay, .pdelayRespFollowUp hpfollow⟩

theorem stamped_uses (stamp : Timestamp) (t : TimeInternal) :
    let s := stamped stamp t
    let used := some (toInternalTime ⟨0, 0⟩ stamp)
    Uses default s .sync stamp used (useSync default ⟨0, 0⟩ s) ∧
      Uses default s .followUp stamp used (useFollowUp default s) ∧
      Uses default s .delayResp stamp used (useDelayResp s) ∧
      Uses default s .pdelayResp stamp used (storePDelayResp default ⟨0, 0⟩ s) ∧
      Uses default s .pdelayResp stamp none (usePDelayResp ⟨0, 0⟩ s) ∧
      Uses default s .pdelayRespFollowUp stamp used (usePDelayRespFollowUp default s) :=
  uses_of_timestamp (stamped_timestamp t) (stamped_parent t) (stamped_followUpMatches t)
    (stamped_delayRespMatches t) (stamped_pdelayRespMatches t) rfl ⟨0, 0⟩

/-- A time with other seconds than `t`. -/
def differing (t : TimeInternal) : TimeInternal := ⟨t.seconds + 1, 0⟩

theorem differing_seconds_ne (t : TimeInternal) : (differing t).seconds ≠ t.seconds := by
  intro h
  simp [differing] at h

/-- A measurement that does not depend on what was there changes a state with another one. -/
theorem exists_differing (stamp : Timestamp) (use : System → System) (field : System → TimeInternal)
    (hdata : ∀ s s' : System, s'.servoData = s.servoData → field s' = field s)
    (hfield : ∀ t, field (stamped stamp t) = t)
    (huse : ∀ t t', (field (use (stamped stamp t))).seconds =
      (field (use (stamped stamp t'))).seconds) :
    ∃ t, (use (stamped stamp t)).servoData ≠ (stamped stamp t).servoData := by
  let x := field (use (stamped stamp ⟨0, 0⟩))
  refine ⟨differing x, fun heq => differing_seconds_ne x ?_⟩
  have hsame := huse (differing x) ⟨0, 0⟩
  rw [hdata _ _ heq, hfield] at hsame
  exact hsame

theorem exists_Tms (stamp : Timestamp) (use : System → System)
    (huse : ∀ t t', (use (stamped stamp t)).ptpClock.Tms = (use (stamped stamp t')).ptpClock.Tms) :
    ∃ t, (use (stamped stamp t)).servoData ≠ (stamped stamp t).servoData :=
  exists_differing stamp use (fun s => s.ptpClock.Tms) (fun _ _ h => congrArg ServoData.Tms h)
    (fun _ => rfl) fun t t' => congrArg TimeInternal.seconds (huse t t')

theorem exists_Tsm (stamp : Timestamp) (use : System → System)
    (huse : ∀ t t', (use (stamped stamp t)).ptpClock.Tsm = (use (stamped stamp t')).ptpClock.Tsm) :
    ∃ t, (use (stamped stamp t)).servoData ≠ (stamped stamp t).servoData :=
  exists_differing stamp use (fun s => s.ptpClock.Tsm) (fun _ _ h => congrArg ServoData.Tsm h)
    (fun _ => rfl) fun t t' => congrArg TimeInternal.seconds (huse t t')

theorem exists_peerMeanPathDelay (stamp : Timestamp) (use : System → System)
    (huse : ∀ t t', (use (stamped stamp t)).ptpClock.portDS.peerMeanPathDelay.seconds =
      (use (stamped stamp t')).ptpClock.portDS.peerMeanPathDelay.seconds) :
    ∃ t, (use (stamped stamp t)).servoData ≠ (stamped stamp t).servoData :=
  exists_differing stamp use (fun s => s.ptpClock.portDS.peerMeanPathDelay)
    (fun _ _ h => congrArg ServoData.peerMeanPathDelay h) (fun _ => rfl) huse

/-- Every timestamp comes in a message whose use changes the servo data. -/
theorem exists_change (stamp : Timestamp) {type : MessageType} (h : type.IsStamped) :
    ∃ s used s', Uses default s type stamp used s' ∧ s'.servoData ≠ s.servoData := by
  simp only [MessageType.IsStamped, List.mem_cons, List.not_mem_nil, or_false] at h
  rcases h with rfl | rfl | rfl | rfl | rfl
  · obtain ⟨t, hne⟩ := exists_Tms stamp (useSync default ⟨0, 0⟩) stamped_useSync
    obtain ⟨huse, -⟩ := stamped_uses stamp t
    exact ⟨_, _, _, huse, hne⟩
  · obtain ⟨t, hne⟩ := exists_Tms stamp (useFollowUp default) stamped_useFollowUp
    obtain ⟨-, huse, -⟩ := stamped_uses stamp t
    exact ⟨_, _, _, huse, hne⟩
  · obtain ⟨t, hne⟩ := exists_Tsm stamp useDelayResp stamped_useDelayResp
    obtain ⟨-, -, huse, -⟩ := stamped_uses stamp t
    exact ⟨_, _, _, huse, hne⟩
  · obtain ⟨t, hne⟩ :=
      exists_peerMeanPathDelay stamp (usePDelayResp ⟨0, 0⟩) stamped_usePDelayResp
    obtain ⟨-, -, -, -, huse, -⟩ := stamped_uses stamp t
    exact ⟨_, _, _, huse, hne⟩
  · obtain ⟨t, hne⟩ :=
      exists_peerMeanPathDelay stamp (usePDelayRespFollowUp default) stamped_usePDelayRespFollowUp
    obtain ⟨-, -, -, -, -, huse⟩ := stamped_uses stamp t
    exact ⟨_, _, _, huse, hne⟩

/-- The largest number of seconds that fits leaves the time that was there before. -/
theorem exists_inexact {stamp : Timestamp} (h : stamp.seconds = 2147483647) {type : MessageType}
    (ht : type.IsStamped) :
    ∃ s x s', Uses default s type stamp (some x) s' ∧ ¬stamp.Is x := by
  have hlsb : ¬stamp.secondsLsb < 2147483647 := by
    have hlimit : (2147483647 : UInt32).toNat = 2147483647 := by decide
    unfold Timestamp.seconds at h
    have := stamp.secondsLsb.toNat_lt
    rw [UInt32.lt_iff_toNat_lt, hlimit]
    omega
  have hkept : toInternalTime ⟨0, 0⟩ stamp = ⟨0, 0⟩ := if_neg hlsb
  have hnot : ¬stamp.Is ⟨0, 0⟩ := by
    intro his
    have hseconds := his.seconds
    have hzero : ((⟨0, 0⟩ : TimeInternal).seconds).toInt = 0 := rfl
    unfold Timestamp.seconds at h
    omega
  have huses := stamped_uses stamp ⟨0, 0⟩
  rw [hkept] at huses
  obtain ⟨hsync, hfollow, hdelay, hpdelay, -, hpfollow⟩ := huses
  simp only [MessageType.IsStamped, List.mem_cons, List.not_mem_nil, or_false] at ht
  rcases ht with rfl | rfl | rfl | rfl | rfl
  · exact ⟨_, _, _, hsync, hnot⟩
  · exact ⟨_, _, _, hfollow, hnot⟩
  · exact ⟨_, _, _, hdelay, hnot⟩
  · exact ⟨_, _, _, hpdelay, hnot⟩
  · exact ⟨_, _, _, hpfollow, hnot⟩

/-- The promise is kept in every use of a message if and only if its timestamp is accepted. -/
theorem uses_respect_iff {type : MessageType} (h : type.IsStamped) (stamp : Timestamp) :
    (∀ env s used s', Uses env s type stamp used s' → Respects stamp used s s') ↔
      stamp.Accepted := by
  refine ⟨fun hall => ?_, fun hstamp env s used s' huse => huse.respects hstamp⟩
  by_contra hnot
  by_cases hrep : stamp.Representable
  · have hseconds : stamp.seconds = 2147483647 := by
      have hle := hrep.1
      have hge : ¬stamp.seconds < 2147483647 := fun hlt => hnot ⟨hlt, hrep.2⟩
      omega
    obtain ⟨s, x, s', huse, hx⟩ := exists_inexact hseconds h
    exact hx ((hall _ _ _ _ huse).1 hrep x rfl)
  · obtain ⟨s, used, s', huse, hne⟩ := exists_change stamp h
    exact hne ((hall _ _ _ _ huse).2 hrep)

end Changes

/-! ## Runs with accepted timestamps -/

instance : DecidablePred Entry.InRange
  | .frameRead stamp => inferInstanceAs (Decidable (0 ≤ stamp.time.seconds))
  | .offset _ stamp _ _ _ => inferInstanceAs (Decidable stamp.Accepted)
  | .delay _ stamp _ _ _ => inferInstanceAs (Decidable stamp.Accepted)
  | .pdelayStored _ stamp _ _ => inferInstanceAs (Decidable stamp.Accepted)
  | .peerDelay _ _ _ (some (stamp, _)) => inferInstanceAs (Decidable stamp.Accepted)
  | .peerDelay _ _ _ none | .eventMessage _ _ | .parentIs _ | .syncStored _ _ | .send _ _ _
  | .clockInit | .setTime _ | .adjFreq _ | .timerStart _ _ | .timerStop _ | .doInit _ =>
    .isTrue trivial

/-- **Timestamps of messages are used exactly and keep the times canonical** as long as they are
accepted: the promise is kept in every use of a message if and only if its timestamp is accepted;
and in every run in which all of them are, every message has been used with exactly its time and
every time of the `PtpClock` is canonical. -/
theorem times_exact {type : MessageType} (h : type.IsStamped) (stamp : Timestamp) :
    ((∀ env s used s', Uses env s type stamp used s' → Respects stamp used s s') ↔
      stamp.Accepted) ∧
      ∀ {rtOpts : RunTimeOpts} {s : System}, rtOpts.Sound → Visited rtOpts s →
        (∀ e ∈ s.history, e.InRange) →
          (∀ e ∈ s.history, e.Exact) ∧ CanonicalTimes s.ptpClock :=
  ⟨uses_respect_iff h stamp, fun hopts hs hin => hs.times hopts hin⟩

theorem ptpdOpts_sound : ptpdOpts.Sound := ⟨canonical_zero, canonical_zero, by decide, by decide⟩

theorem times_exact_calibratedSlave :
    ((∀ env s used s', Uses env s .followUp ⟨1, 9, 0⟩ used s' →
        Respects ⟨1, 9, 0⟩ used s s') ↔ Timestamp.Accepted ⟨1, 9, 0⟩) ∧
      (∀ e ∈ calibratedSlave.history, e.Exact) ∧ CanonicalTimes calibratedSlave.ptpClock := by
  have hstamped : MessageType.followUp.IsStamped := by
    unfold MessageType.IsStamped
    decide
  obtain ⟨huses, hruns⟩ := times_exact hstamped ⟨1, 9, 0⟩
  exact ⟨huses, hruns ptpdOpts_sound calibratedSlave_reachable.visited (by decide +kernel)⟩

/-- A slave that waits for the Follow_Up of its second Sync. -/
def waitingSlave : System :=
  calibratedSlave.after
    (eventArrival (syncOf (station 1 { ptpdOpts with priority1 := 100 }) 6 ⟨0, 6, 0⟩)
      (atSecond 6) ++ [.doState plainEnv])

theorem waitingSlave_reachable : Reachable ptpdOpts waitingSlave :=
  calibratedSlave_reachable.after _

/-- The Follow_Up with a seconds field of `2 ^ 32 + 9`. -/
def wrappedFollowUp : List UInt8 :=
  followUpOf (station 1 { ptpdOpts with priority1 := 100 }) 6 ⟨1, 9, 0⟩

theorem wrappedFollowUp_matches :
    followUpMatches (waitingSlave.holding (headerIn wrappedFollowUp) (octetsOf wrappedFollowUp)
      followUpLength).ptpClock = true := by
  decide +kernel

theorem System.servoData_seconds {s s' : System} (h : s'.servoData = s.servoData) :
    s'.time.seconds = s.time.seconds :=
  congrArg (fun d => d.time.seconds) h

/-- The clock is set back by three seconds. -/
theorem wrappedFollowUp_sets :
    (useFollowUp plainEnv (waitingSlave.holding (headerIn wrappedFollowUp)
      (octetsOf wrappedFollowUp) followUpLength)).time.seconds ≠
      (waitingSlave.holding (headerIn wrappedFollowUp) (octetsOf wrappedFollowUp)
        followUpLength).time.seconds := by
  decide +kernel

theorem wrappedFollowUp_not_representable :
    ¬(msgUnpackFollowUp (waitingSlave.holding (headerIn wrappedFollowUp)
      (octetsOf wrappedFollowUp) followUpLength).ptpClock.msgIbuf).Representable := by
  decide +kernel

/-- It is used as if its seconds field were 9. -/
theorem wrapped_timestamp_used :
    ¬∀ (rtOpts : RunTimeOpts) (s : System), Visited rtOpts s →
      ∀ (header : MsgHeader) (buf : Buf) (length : Int) env type stamp used s',
        Uses env (s.holding header buf length) type stamp used s' →
          Respects stamp used (s.holding header buf length) s' := by
  intro h
  obtain ⟨-, hunchanged⟩ := h ptpdOpts waitingSlave waitingSlave_reachable.visited
    (headerIn wrappedFollowUp) (octetsOf wrappedFollowUp) followUpLength plainEnv _ _ _ _
    (.followUp wrappedFollowUp_matches)
  have hdata := hunchanged wrappedFollowUp_not_representable
  exact wrappedFollowUp_sets (System.servoData_seconds hdata)

end Ptpd

import DiscoPtp.Properties.Intervals
import DiscoPtp.Properties.TimeArith

/-!
# Path delays that cannot be filtered

`updateDelay` and `updatePeerDelay` compute the new delay in the data set and look at its seconds
only afterwards: a delay of a second or more replaces the filtered one.

## Main definitions

* `delaySample`, `peerDelaySample`: the delays the two functions compute
* `delayRespSample`, `pdelayRespSample`, `pdelayRespFollowUpSample`: those of the message at hand
* `pathDelay`: the delay that the next `updateOffset` subtracts
* `FilterableAction`: the actions of a port that make no delay sample with a seconds part

## Main results

* `FilterableAction.delayInv`: the delay in use stays below a second, and filtered
* `bad_delay_contained_iff`: when a delay that cannot be filtered changes nothing
-/

namespace Ptpd

open Relation (ReflTransGen)

/-- The one-way delay `updateDelay` computes. -/
def delaySample (egress receive correction : TimeInternal) (c : PtpClock) : TimeInternal :=
  div2Time (addTime c.Tms (subTime (subTime receive egress) correction))

/-- The one-way delay `updatePeerDelay` computes. -/
def peerDelaySample (correction : TimeInternal) (twoStep : Bool) (c : PtpClock) : TimeInternal :=
  div2Time (subTime (peerRoundTrip twoStep c) correction)

theorem filter_yPrev (x : Int32) (filt : Filter) : (filter x filt).1 = (filter x filt).2.yPrev := by
  unfold filter
  rfl

/-- The delay that is stored for a computed one: with a seconds part as it is, otherwise
filtered. -/
def storedDelay (delay : TimeInternal) (filt : Filter) : TimeInternal :=
  if delay.seconds ≠ 0 then delay
  else { delay with nanoseconds := (filter delay.nanoseconds filt).1 }

@[simp] theorem storedDelay_seconds (delay : TimeInternal) (filt : Filter) :
    (storedDelay delay filt).seconds = delay.seconds := by
  unfold storedDelay
  split <;> rfl

/-- What `updateDelay` stores, by the delay it has computed. -/
def storeDelay (Tsm delay : TimeInternal) (c : PtpClock) : PtpClock :=
  if delay.seconds ≠ 0 then { c with Tsm, currentDS := { c.currentDS with meanPathDelay := delay } }
  else
    let r := filter delay.nanoseconds c.owdFilt
    { c with
      Tsm, currentDS := { c.currentDS with meanPathDelay := { delay with nanoseconds := r.1 } }
      owdFilt := r.2 }

/-- What `updatePeerDelay` stores, by the delay it has computed. -/
def storePeerDelay (delay : TimeInternal) (c : PtpClock) : PtpClock :=
  if delay.seconds ≠ 0 then { c with portDS := { c.portDS with peerMeanPathDelay := delay } }
  else
    let r := filter delay.nanoseconds c.owdFilt
    { c with
      portDS := { c.portDS with peerMeanPathDelay := { delay with nanoseconds := r.1 } }
      owdFilt := r.2 }

section Delay

variable {egress receive correction : TimeInternal} {twoStep : Bool} {c : PtpClock}

theorem updateDelay_store (hn : c.ofmFilt.n ≠ 0) :
    updateDelay egress receive correction c =
      storeDelay (subTime (subTime receive egress) correction)
        (delaySample egress receive correction c) c :=
  if_neg hn

theorem updatePeerDelay_store :
    updatePeerDelay correction twoStep c =
      storePeerDelay (peerDelaySample correction twoStep c) c := rfl

@[simp] theorem storePeerDelay_peerMeanPathDelay (delay : TimeInternal) :
    (storePeerDelay delay c).portDS.peerMeanPathDelay = storedDelay delay c.owdFilt := by
  unfold storePeerDelay storedDelay
  split <;> rfl

/-- A delay of a second or more goes into the data set. -/
theorem storeDelay_of_seconds {delay : TimeInternal} (h : delay.seconds ≠ 0) (Tsm : TimeInternal) :
    (storeDelay Tsm delay c).currentDS.meanPathDelay = delay ∧
      (storeDelay Tsm delay c).owdFilt = c.owdFilt := by
  rw [storeDelay, if_pos h]
  exact ⟨rfl, rfl⟩

theorem storeDelay_of_subSecond {delay : TimeInternal} (h : delay.seconds = 0)
    (Tsm : TimeInternal) :
    (storeDelay Tsm delay c).currentDS.meanPathDelay.seconds = 0 ∧
      (storeDelay Tsm delay c).currentDS.meanPathDelay.nanoseconds =
        (storeDelay Tsm delay c).owdFilt.yPrev := by
  rw [storeDelay, if_neg (not_not.mpr h)]
  exact ⟨h, filter_yPrev _ _⟩

theorem storePeerDelay_of_seconds {delay : TimeInternal} (h : delay.seconds ≠ 0) :
    (storePeerDelay delay c).portDS.peerMeanPathDelay = delay ∧
      (storePeerDelay delay c).owdFilt = c.owdFilt := by
  rw [storePeerDelay, if_pos h]
  exact ⟨rfl, rfl⟩

theorem storePeerDelay_of_subSecond {delay : TimeInternal} (h : delay.seconds = 0) :
    (storePeerDelay delay c).portDS.peerMeanPathDelay.seconds = 0 ∧
      (storePeerDelay delay c).portDS.peerMeanPathDelay.nanoseconds =
        (storePeerDelay delay c).owdFilt.yPrev := by
  rw [storePeerDelay, if_neg (not_not.mpr h)]
  exact ⟨h, filter_yPrev _ _⟩

end Delay

/-- The data set with another delay in it. -/
def PtpClock.withMeanPathDelay (c : PtpClock) (delay : TimeInternal) : PtpClock :=
  { c with currentDS := { c.currentDS with meanPathDelay := delay } }

/-- The data set with another peer delay in it. -/
def PtpClock.withPeerMeanPathDelay (c : PtpClock) (delay : TimeInternal) : PtpClock :=
  { c with portDS := { c.portDS with peerMeanPathDelay := delay } }

/-! ## The samples of the messages -/

/-- The delay that `handleDelayResp` has computed for the message at hand. -/
def delayRespSample (s : System) : TimeInternal :=
  delaySample s.ptpClock.timestampDelayReqSend
    (toInternalTime s.ptpClock.timestampDelayReqRecieve
      (msgUnpackDelayResp s.ptpClock.msgIbuf).timestamp)
    (scaledNanosecondsToInternalTime s.ptpClock.msgTmpHeader.correctionfield) s.ptpClock

/-- The delay that `handlePDelayResp` has computed for the one-step message at hand, received at
`time`. -/
def pdelayRespSample (time : TimeInternal) (s : System) : TimeInternal :=
  peerDelaySample (scaledNanosecondsToInternalTime s.ptpClock.msgTmpHeader.correctionfield) false
    { s.ptpClock with pdelayT4 := time }

/-- The delay that `handlePDelayRespFollowUp` has computed for the message at hand. -/
def pdelayRespFollowUpSample (env : Env) (s : System) : TimeInternal :=
  peerDelaySample
    (addTime (scaledNanosecondsToInternalTime s.ptpClock.msgTmpHeader.correctionfield)
      s.ptpClock.correctionFieldPDelayResp) true
    { s.ptpClock with
      pdelayT3 :=
        toInternalTime env.localTime (msgUnpackPDelayRespFollowUp s.ptpClock.msgIbuf).timestamp }

section Samples

variable {egress receive correction : TimeInternal} {twoStep : Bool} {c c' : PtpClock} (s : System)

/-- A delay sample depends on the last offset measurement only. -/
theorem delaySample_congr (h : c.Tms = c'.Tms) :
    delaySample egress receive correction c = delaySample egress receive correction c' := by
  rw [delaySample, delaySample, h]

theorem peerDelaySample_congr (h1 : c.pdelayT1 = c'.pdelayT1) (h2 : c.pdelayT2 = c'.pdelayT2)
    (h3 : c.pdelayT3 = c'.pdelayT3) (h4 : c.pdelayT4 = c'.pdelayT4) :
    peerDelaySample correction twoStep c = peerDelaySample correction twoStep c' := by
  rw [peerDelaySample, peerDelaySample, peerRoundTrip, peerRoundTrip, h1, h2, h3, h4]

/-! The uses of the messages, with the values they compute as variables. -/

theorem useDelayResp_sample :
    ∃ stamp receive correction,
      delayRespSample s =
        delaySample s.ptpClock.timestampDelayReqSend receive correction s.ptpClock ∧
      useDelayResp s =
        (((s.modify fun c => { c with timestampDelayReqRecieve := receive }).log
            (.delay s.ptpClock.msgTmpHeader stamp s.ptpClock.timestampDelayReqSend receive
              correction)).modify
          (updateDelay s.ptpClock.timestampDelayReqSend receive correction)).modify fun c =>
            { c with portDS :=
                { c.portDS with logMinDelayReqInterval := c.msgTmpHeader.logMessageInterval } } :=
  ⟨_, _, _, rfl, rfl⟩

theorem usePDelayResp_sample (time : TimeInternal) :
    ∃ correction,
      pdelayRespSample time s =
        peerDelaySample correction false { s.ptpClock with pdelayT4 := time } ∧
      usePDelayResp time s =
        measurePeerDelay correction none
          (s.modify fun c => { c with waitingForPDelayRespFollowUp := false, pdelayT4 := time }) :=
  ⟨_, rfl, rfl⟩

theorem usePDelayRespFollowUp_sample (env : Env) :
    ∃ stamp t3 correction,
      pdelayRespFollowUpSample env s =
        peerDelaySample correction true { s.ptpClock with pdelayT3 := t3 } ∧
      usePDelayRespFollowUp env s =
        (measurePeerDelay correction (some (stamp, t3))
          (s.modify fun c => { c with pdelayT3 := t3 })).modify
            fun c => { c with waitingForPDelayRespFollowUp := false } :=
  ⟨_, _, _, rfl, rfl⟩

theorem measurePeerDelay_peerMeanPathDelay (correction : TimeInternal)
    (t3 : Option (Timestamp × TimeInternal)) :
    (measurePeerDelay correction t3 s).ptpClock.portDS.peerMeanPathDelay =
      storedDelay (peerDelaySample correction t3.isSome s.ptpClock) s.ptpClock.owdFilt := by
  rw [measurePeerDelay, System.log_ptpClock, System.modify_ptpClock, updatePeerDelay_store,
    storePeerDelay_peerMeanPathDelay]

theorem usePDelayResp_peerMeanPathDelay (time : TimeInternal) :
    (usePDelayResp time s).ptpClock.portDS.peerMeanPathDelay =
      storedDelay (pdelayRespSample time s) s.ptpClock.owdFilt := by
  obtain ⟨correction, hsample, heq⟩ := usePDelayResp_sample s time
  rw [heq, hsample, measurePeerDelay_peerMeanPathDelay]
  exact congrArg (storedDelay · _) (peerDelaySample_congr rfl rfl rfl rfl)

theorem releasePDelayResp_portDS :
    (s.modify fun c => { c with waitingForPDelayRespFollowUp := false }).ptpClock.portDS =
      s.ptpClock.portDS := rfl

theorem usePDelayRespFollowUp_peerMeanPathDelay (env : Env) :
    (usePDelayRespFollowUp env s).ptpClock.portDS.peerMeanPathDelay =
      storedDelay (pdelayRespFollowUpSample env s) s.ptpClock.owdFilt := by
  obtain ⟨stamp, t3, correction, hsample, heq⟩ := usePDelayRespFollowUp_sample s env
  rw [heq, hsample, releasePDelayResp_portDS, measurePeerDelay_peerMeanPathDelay,
    System.modify_ptpClock, Option.isSome_some]

end Samples

/-! ## The delay in use -/

/-- The path delay that the next `updateOffset` subtracts. -/
def pathDelay (c : PtpClock) : TimeInternal :=
  match c.portDS.delayMechanism with
  | .p2p => c.portDS.peerMeanPathDelay
  | _ => c.currentDS.meanPathDelay

theorem subPathDelay_eq {c : PtpClock} (h : c.portDS.delayMechanism ≠ .other) (t : TimeInternal) :
    subPathDelay c t = subTime t (pathDelay c) := by
  unfold subPathDelay pathDelay
  cases hm : c.portDS.delayMechanism with
  | e2e => rfl
  | p2p => rfl
  | other => exact absurd hm h

/-- The delay in use is below a second, and the output of the filter or the reset value. -/
def Filtered (c : PtpClock) : Prop :=
  (pathDelay c).seconds = 0 ∧
    (pathDelay c = ⟨0, 0⟩ ∨ (pathDelay c).nanoseconds = c.owdFilt.yPrev)

/-- An action of a port that makes no delay sample with a seconds part. -/
structure FilterableAction (s t : System) : Prop where
  action : AnyAction s t
  delayResp : t = useDelayResp s → s.ptpClock.ofmFilt.n = 0 ∨ (delayRespSample s).seconds = 0
  pdelayResp : t = usePDelayResp (ingressTime s) s →
    (pdelayRespSample (ingressTime s) s).seconds = 0
  pdelayRespFollowUp : ∀ env, t = usePDelayRespFollowUp env s →
    (pdelayRespFollowUpSample env s).seconds = 0

/-- What a port keeps of the delays. The mechanism is the one of the options from the first
initialisation on, and before there is no delay. -/
structure DelayInv (s : System) : Prop where
  filtered : Filtered s.ptpClock
  mechanism : s.delayMechanism = s.ptpClock.rtOpts.delayMechanism ∨
    s.delayMechanism = .other ∧ s.ptpClock.currentDS.meanPathDelay = ⟨0, 0⟩

theorem filtered_of_e2e {c : PtpClock} (hm : c.portDS.delayMechanism = .e2e)
    (hsec : c.currentDS.meanPathDelay.seconds = 0)
    (hns : c.currentDS.meanPathDelay.nanoseconds = c.owdFilt.yPrev) : Filtered c := by
  unfold Filtered pathDelay
  rw [hm]
  exact ⟨hsec, .inr hns⟩

theorem filtered_of_p2p {c : PtpClock} (hm : c.portDS.delayMechanism = .p2p)
    (hsec : c.portDS.peerMeanPathDelay.seconds = 0)
    (hns : c.portDS.peerMeanPathDelay.nanoseconds = c.owdFilt.yPrev) : Filtered c := by
  unfold Filtered pathDelay
  rw [hm]
  exact ⟨hsec, .inr hns⟩

/-- The state decision keeps the offset and the delay or resets them. -/
theorem decideState_currentDS (s : System) :
    ((decideState s).ptpClock.currentDS.offsetFromMaster = s.ptpClock.currentDS.offsetFromMaster ∧
        (decideState s).ptpClock.currentDS.meanPathDelay = s.ptpClock.currentDS.meanPathDelay) ∨
      ((decideState s).ptpClock.currentDS.offsetFromMaster = ⟨0, 0⟩ ∧
        (decideState s).ptpClock.currentDS.meanPathDelay = ⟨0, 0⟩) := by
  have hbmc (c : PtpClock) :
      ((bmc c).2.currentDS.offsetFromMaster = c.currentDS.offsetFromMaster ∧
          (bmc c).2.currentDS.meanPathDelay = c.currentDS.meanPathDelay) ∨
        ((bmc c).2.currentDS.offsetFromMaster = ⟨0, 0⟩ ∧
          (bmc c).2.currentDS.meanPathDelay = ⟨0, 0⟩) := by
    unfold bmc bmcStateDecision
    dsimp only
    split
    · exact .inl ⟨rfl, rfl⟩
    split
    · split
      · exact .inr ⟨rfl, rfl⟩
      · exact .inl ⟨rfl, rfl⟩
    · split
      · exact .inr ⟨rfl, rfl⟩
      · exact .inl ⟨rfl, rfl⟩
  unfold decideState
  dsimp only
  split <;> exact hbmc _

section DelayInv

variable {s t : System} {correction : TimeInternal}

/-- The delay in use and its filter are the same. -/
theorem DelayInv.congr (h : DelayInv s)
    (hm : t.ptpClock.portDS.delayMechanism = s.ptpClock.portDS.delayMechanism)
    (hpeer : t.ptpClock.portDS.peerMeanPathDelay = s.ptpClock.portDS.peerMeanPathDelay)
    (hmean : t.ptpClock.currentDS.meanPathDelay = s.ptpClock.currentDS.meanPathDelay)
    (hfilt : t.ptpClock.owdFilt.yPrev = s.ptpClock.owdFilt.yPrev)
    (hopts : t.ptpClock.rtOpts = s.ptpClock.rtOpts) : DelayInv t := by
  obtain ⟨hfiltered, hmechanism⟩ := h
  rw [System.delayMechanism, ← hm, ← hmean, ← hopts] at hmechanism
  unfold Filtered pathDelay at hfiltered
  rw [← hm, ← hpeer, ← hmean, ← hfilt] at hfiltered
  exact ⟨hfiltered, hmechanism⟩

/-- A mechanism in use is the one of the options. -/
theorem DelayInv.mechanism_eq (h : DelayInv s) (hm : s.delayMechanism ≠ .other) :
    s.delayMechanism = s.ptpClock.rtOpts.delayMechanism :=
  h.mechanism.resolve_right fun hother => hm hother.1

/-- A delay sample below a second is filtered. -/
theorem DelayInv.updateDelay {egress receive : TimeInternal} (h : DelayInv s)
    (hm : s.delayMechanism = .e2e) (hsample : s.ptpClock.ofmFilt.n = 0 ∨
      (delaySample egress receive correction s.ptpClock).seconds = 0) :
    DelayInv (s.modify (updateDelay egress receive correction)) := by
  by_cases hn : s.ptpClock.ofmFilt.n = 0
  · have hsame : s.modify (Ptpd.updateDelay egress receive correction) = s :=
      congrArg (fun c => { s with ptpClock := c }) (if_pos hn)
    rw [hsame]
    exact h
  · obtain ⟨hsec, hns⟩ := storeDelay_of_subSecond (c := s.ptpClock) (hsample.resolve_left hn)
      (subTime (subTime receive egress) correction)
    rw [← updateDelay_store hn] at hsec hns
    have hopts := h.mechanism_eq (by rw [hm]; decide)
    obtain ⟨Tsm, delay, filt, heq⟩ := updateDelay_eq egress receive correction s.ptpClock
    rw [heq] at hsec hns
    rw [System.modify, heq]
    exact ⟨filtered_of_e2e hm hsec hns, .inl hopts⟩

theorem DelayInv.measurePeerDelay (h : DelayInv s) (hm : s.delayMechanism = .p2p)
    {t3 : Option (Timestamp × TimeInternal)}
    (hsample : (peerDelaySample correction t3.isSome s.ptpClock).seconds = 0) :
    DelayInv (measurePeerDelay correction t3 s) := by
  obtain ⟨hsec, hns⟩ := storePeerDelay_of_subSecond (c := s.ptpClock) hsample
  rw [← updatePeerDelay_store] at hsec hns
  have hopts := h.mechanism_eq (by rw [hm]; decide)
  obtain ⟨delay, filt, heq⟩ := updatePeerDelay_eq correction t3.isSome s.ptpClock
  rw [heq] at hsec hns
  rw [Ptpd.measurePeerDelay, System.modify, heq]
  exact ⟨filtered_of_p2p hm hsec hns, .inl hopts⟩

/-- The sample of a DelayResp, whose receive time is stored before it is logged. -/
theorem DelayInv.measureDelay (h : DelayInv s) (hm : s.delayMechanism = .e2e) (e : Entry)
    {egress receive : TimeInternal} (hsample : s.ptpClock.ofmFilt.n = 0 ∨
      (delaySample egress receive correction s.ptpClock).seconds = 0) :
    DelayInv (((s.modify fun c => { c with timestampDelayReqRecieve := receive }).log e).modify
      (Ptpd.updateDelay egress receive correction)) := by
  let stored := (s.modify fun c => { c with timestampDelayReqRecieve := receive }).log e
  have hstored : DelayInv stored := h.congr rfl rfl rfl rfl rfl
  have hsame : delaySample egress receive correction stored.ptpClock =
      delaySample egress receive correction s.ptpClock := delaySample_congr rfl
  rw [← hsame] at hsample
  exact hstored.updateDelay hm hsample

theorem DelayInv.setDelayReqInterval (h : DelayInv s) :
    DelayInv (s.modify fun c =>
      { c with portDS :=
          { c.portDS with logMinDelayReqInterval := c.msgTmpHeader.logMessageInterval } }) :=
  h.congr rfl rfl rfl rfl rfl

theorem DelayInv.releasePDelayResp (h : DelayInv s) :
    DelayInv (s.modify fun c => { c with waitingForPDelayRespFollowUp := false }) :=
  h.congr rfl rfl rfl rfl rfl

theorem DelayInv.useDelayResp (h : DelayInv s) (hm : s.delayMechanism = .e2e)
    (hsample : s.ptpClock.ofmFilt.n = 0 ∨ (delayRespSample s).seconds = 0) :
    DelayInv (useDelayResp s) := by
  obtain ⟨stamp, receive, correction, hdelay, heq⟩ := useDelayResp_sample s
  rw [hdelay] at hsample
  rw [heq]
  exact (h.measureDelay hm _ hsample).setDelayReqInterval

theorem DelayInv.usePDelayResp (h : DelayInv s) (hm : s.delayMechanism = .p2p)
    {time : TimeInternal} (hsample : (pdelayRespSample time s).seconds = 0) :
    DelayInv (usePDelayResp time s) := by
  obtain ⟨correction, hdelay, heq⟩ := usePDelayResp_sample s time
  let stored := s.modify fun c =>
    { c with waitingForPDelayRespFollowUp := false, pdelayT4 := time }
  have hstored : DelayInv stored := h.congr rfl rfl rfl rfl rfl
  have hsame : peerDelaySample correction false stored.ptpClock =
      peerDelaySample correction false { s.ptpClock with pdelayT4 := time } :=
    peerDelaySample_congr rfl rfl rfl rfl
  rw [hdelay, ← hsame] at hsample
  rw [heq]
  exact hstored.measurePeerDelay hm hsample

theorem DelayInv.usePDelayRespFollowUp (h : DelayInv s) (hm : s.delayMechanism = .p2p)
    {env : Env} (hsample : (pdelayRespFollowUpSample env s).seconds = 0) :
    DelayInv (usePDelayRespFollowUp env s) := by
  obtain ⟨stamp, t3, correction, hdelay, heq⟩ := usePDelayRespFollowUp_sample s env
  have hstored : DelayInv (s.modify fun c => { c with pdelayT3 := t3 }) :=
    h.congr rfl rfl rfl rfl rfl
  rw [hdelay] at hsample
  rw [heq]
  refine (hstored.measurePeerDelay hm ?_).releasePDelayResp
  rw [Option.isSome_some, System.modify_ptpClock]
  exact hsample

/-- The delay is reset to zero with the rest of the data set. -/
theorem DelayInv.reset (h : DelayInv s) (hmean : t.ptpClock.currentDS.meanPathDelay = ⟨0, 0⟩)
    (hport : t.ptpClock.portDS = s.ptpClock.portDS)
    (hfilt : t.ptpClock.owdFilt = s.ptpClock.owdFilt)
    (hopts : t.ptpClock.rtOpts = s.ptpClock.rtOpts) : DelayInv t := by
  obtain ⟨hfiltered, hmechanism⟩ := h
  rw [System.delayMechanism, ← hport, ← hopts] at hmechanism
  refine ⟨?_, hmechanism.imp_right fun hother => ⟨hother.1, hmean⟩⟩
  unfold Filtered pathDelay at hfiltered ⊢
  rw [← hport, ← hfilt] at hfiltered
  split
  next hm =>
    rw [hm] at hfiltered
    exact hfiltered
  next hm =>
    rw [hmean]
    exact ⟨rfl, .inl rfl⟩

/-- Initialisation clears the peer delay and sets the mechanism of the options. -/
theorem DelayInv.initData (h : DelayInv s) : DelayInv (s.modify initData) := by
  obtain ⟨hfiltered, hmechanism⟩ := h
  refine ⟨?_, .inl rfl⟩
  have hport : (Ptpd.initData s.ptpClock).portDS.delayMechanism =
      s.ptpClock.rtOpts.delayMechanism := rfl
  have hpeer : (Ptpd.initData s.ptpClock).portDS.peerMeanPathDelay = ⟨0, 0⟩ := rfl
  have hmean : (Ptpd.initData s.ptpClock).currentDS.meanPathDelay =
      s.ptpClock.currentDS.meanPathDelay := rfl
  have hfilt : (Ptpd.initData s.ptpClock).owdFilt = s.ptpClock.owdFilt := rfl
  unfold Filtered pathDelay at hfiltered ⊢
  rw [System.modify_ptpClock, hport, hpeer, hmean, hfilt]
  split
  next hm => exact ⟨rfl, .inl rfl⟩
  next hm =>
    rcases hmechanism with hsame | ⟨hother, hzero⟩
    · rw [show s.ptpClock.portDS.delayMechanism = _ from hsame] at hfiltered
      split at hfiltered
      · exact absurd ‹_› hm
      · exact hfiltered
    · rw [hzero]
      exact ⟨rfl, .inl rfl⟩

/-- **The delay in use stays filtered**, as long as every delay sample can be filtered. -/
theorem FilterableAction.delayInv (h : FilterableAction s t) (hs : DelayInv s) : DelayInv t := by
  obtain ⟨haction, hdelayResp, hpdelayResp, hfollowUp⟩ := h
  cases haction
  case messageActivity | portState | recommendedState | events | timerExpired | initTimer |
      emptyEventQ | netInit | packHeader | netQGetEvent | netQGetGeneral | copyDatagram |
      msgIbufLength | unpackHeader | takeAnnounce | addForeign | accumulateDrift |
      resetForeign | resetDelayReqInterval | timerStop | timerStart | startDelayReqInterval |
      doInit | eventMessage | followParent | setTime | clearServo =>
    exact hs.congr rfl rfl rfl rfl rfl
  case issueAnnounce | sentSync | issueFollowup | issueDelayResp | issuePDelayRespFollowUp =>
    exact hs.congr rfl rfl rfl rfl rfl
  case issueDelayReq env =>
    rw [issueDelayReq_eq]
    exact hs.congr rfl rfl rfl rfl rfl
  case issuePDelayReq env =>
    rw [issuePDelayReq_eq]
    exact hs.congr rfl rfl rfl rfl rfl
  case issuePDelayResp env time =>
    rw [issuePDelayResp_eq]
    exact hs.congr rfl rfl rfl rfl rfl
  case m1 => exact hs.reset rfl rfl rfl rfl
  case initData => exact hs.initData
  case adjTime adj =>
    obtain ⟨_, heq⟩ := adjTime_eq adj s
    rw [heq]
    exact hs.congr rfl rfl rfl rfl rfl
  case storeSync h hp =>
    obtain ⟨_, _, heq⟩ := storeSync_eq (ingressTime s) s
    rw [heq]
    exact hs.congr rfl rfl rfl rfl rfl
  case syncOffset env h =>
    obtain ⟨_, _, _, _, _, _, _, _, heq⟩ := syncOffset_eq env (ingressTime s) s
    rw [heq]
    exact hs.congr rfl rfl rfl rfl rfl
  case followUpOffset env h hm =>
    obtain ⟨_, _, _, _, _, _, _, heq⟩ := followUpOffset_eq env s
    rw [heq]
    exact hs.congr rfl rfl rfl rfl rfl
  case storePDelayResp env h =>
    obtain ⟨_, _, _, _, heq⟩ := storePDelayResp_eq env (ingressTime s) s
    rw [heq]
    exact hs.congr rfl rfl rfl rfl rfl
  case useDelayResp hm h => exact hs.useDelayResp hm (hdelayResp rfl)
  case usePDelayResp hm h => exact hs.usePDelayResp hm (hpdelayResp rfl)
  case usePDelayRespFollowUp env hm h => exact hs.usePDelayRespFollowUp hm (hfollowUp env rfl)
  case decideState =>
    have hcurrent := decideState_currentDS s
    obtain ⟨currentDS, _, _, _, _, _, _, _, heq⟩ := decideState_eq s
    rw [heq] at hcurrent ⊢
    rcases hcurrent with ⟨-, hmean⟩ | ⟨-, hmean⟩
    · exact hs.congr rfl rfl hmean rfl rfl
    · exact hs.reset hmean rfl rfl rfl
  case interrupt i =>
    cases i with
    | recvEvent n =>
      simp only [Ptpd.interrupt, netRecvEventCallback]
      split
      · exact hs
      · exact hs.congr rfl rfl rfl rfl rfl
    | recvGeneral n =>
      simp only [Ptpd.interrupt, netRecvGeneralCallback]
      split
      · exact hs
      · exact hs.congr rfl rfl rfl rfl rfl
    | _ => exact hs.congr rfl rfl rfl rfl rfl

/-- The sample of a DelayResp is logged as such. -/
theorem FilterableAction.of_delayResp (hm : s.delayMechanism = .e2e)
    (h : delayRespMatches s.ptpClock)
    (hsample : s.ptpClock.ofmFilt.n = 0 ∨ (delayRespSample s).seconds = 0) :
    FilterableAction s (useDelayResp s) := by
  refine ⟨.useDelayResp s hm h, fun _ => hsample, ?_, ?_⟩
  · intro heq
    exact nomatch (List.cons.inj (congrArg System.history heq)).1
  · intro env heq
    exact nomatch (List.cons.inj (congrArg System.history heq)).1

theorem boot_delayInv (rtOpts : RunTimeOpts) : DelayInv (boot rtOpts) := by
  obtain ⟨opts, heq, -⟩ := boot_eq rtOpts
  rw [heq]
  exact ⟨⟨rfl, .inl rfl⟩, .inr ⟨rfl, rfl⟩⟩

/-- The entries of delay samples. -/
def Entry.isDelaySample : Entry → Bool
  | .delay _ _ _ _ _ | .peerDelay _ _ _ _ => true
  | _ => false

/-- A run without delay samples. -/
theorem filterable_of_no_sample {rtOpts : RunTimeOpts} (hs : Visited rtOpts s)
    (hnone : ∀ e ∈ s.history, e.isDelaySample = false) :
    ReflTransGen FilterableAction (boot rtOpts) s := by
  induction hs with
  | refl => exact .refl
  | @tail t u _ haction ih =>
    have hsuffix : t.history <:+ u.history := actions_history_suffix (.single haction)
    refine .tail (ih fun e he => hnone e (hsuffix.subset he)) ⟨haction, ?_, ?_, ?_⟩
    · rintro rfl
      exact nomatch hnone _ List.mem_cons_self
    · rintro rfl
      exact nomatch hnone _ List.mem_cons_self
    · rintro env rfl
      exact nomatch hnone _ List.mem_cons_self

end DelayInv

/-- The data set after a delay with a seconds part, whatever was in it. -/
theorem updateDelay_of_seconds {egress receive correction : TimeInternal} {c : PtpClock}
    (hn : c.ofmFilt.n ≠ 0) (hsec : (delaySample egress receive correction c).seconds ≠ 0)
    (stored : TimeInternal) :
    (updateDelay egress receive correction
      (c.withMeanPathDelay stored)).currentDS.meanPathDelay =
        delaySample egress receive correction c := by
  have hsame : delaySample egress receive correction (c.withMeanPathDelay stored) =
      delaySample egress receive correction c := delaySample_congr rfl
  rw [updateDelay_store (c := c.withMeanPathDelay stored) hn, hsame,
    (storeDelay_of_seconds hsec _).1]

theorem updatePeerDelay_of_seconds {correction : TimeInternal} {twoStep : Bool} {c : PtpClock}
    (hsec : (peerDelaySample correction twoStep c).seconds ≠ 0) (stored : TimeInternal) :
    (updatePeerDelay correction twoStep
      (c.withPeerMeanPathDelay stored)).portDS.peerMeanPathDelay =
        peerDelaySample correction twoStep c := by
  have hsame : peerDelaySample correction twoStep (c.withPeerMeanPathDelay stored) =
      peerDelaySample correction twoStep c := peerDelaySample_congr rfl rfl rfl rfl
  rw [updatePeerDelay_store, hsame, (storePeerDelay_of_seconds hsec).1]

/-- A delay with a seconds part leaves the data set, whatever is in it, and the filter alone if and
only if there was no offset to compute it with. In runs whose delay samples have no seconds part, or
are not computed, the delay that an offset is corrected by is below a second and filtered. -/
theorem bad_delay_contained_iff (egress receive correction : TimeInternal) (twoStep : Bool)
    (c : PtpClock) :
    ((∀ stored, (delaySample egress receive correction c).seconds ≠ 0 →
        (updateDelay egress receive correction
            (c.withMeanPathDelay stored)).currentDS.meanPathDelay = stored ∧
          (updateDelay egress receive correction (c.withMeanPathDelay stored)).owdFilt =
            c.owdFilt) ↔
      c.ofmFilt.n = 0 ∨ (delaySample egress receive correction c).seconds = 0) ∧
    ((∀ stored, (peerDelaySample correction twoStep c).seconds ≠ 0 →
        (updatePeerDelay correction twoStep
            (c.withPeerMeanPathDelay stored)).portDS.peerMeanPathDelay = stored ∧
          (updatePeerDelay correction twoStep (c.withPeerMeanPathDelay stored)).owdFilt =
            c.owdFilt) ↔
      (peerDelaySample correction twoStep c).seconds = 0) ∧
    ∀ rtOpts s, ReflTransGen FilterableAction (boot rtOpts) s →
      Filtered s.ptpClock ∧ (s.delayMechanism ≠ .other →
        ∀ t, subPathDelay s.ptpClock t = subTime t (pathDelay s.ptpClock)) := by
  refine ⟨?_, ?_, fun rtOpts s hrun => ?_⟩
  · constructor
    · intro h
      by_contra hnot
      obtain ⟨hn, hsec⟩ := not_or.mp hnot
      -- a stored delay without seconds is replaced by the sample, which has some
      have hstored := (h ⟨0, 0⟩ hsec).1
      rw [updateDelay_of_seconds hn hsec] at hstored
      exact hsec (congrArg TimeInternal.seconds hstored)
    · rintro (hn | hzero) stored hsec
      · have hsame : updateDelay egress receive correction (c.withMeanPathDelay stored) =
            c.withMeanPathDelay stored := if_pos hn
        rw [hsame]
        exact ⟨rfl, rfl⟩
      · exact absurd hzero hsec
  · constructor
    · intro h
      by_contra hsec
      have hstored := (h ⟨0, 0⟩ hsec).1
      rw [updatePeerDelay_of_seconds hsec] at hstored
      exact hsec (congrArg TimeInternal.seconds hstored)
    · intro hzero stored hsec
      exact absurd hzero hsec
  · have hpreserves : Transition.Preserves FilterableAction DelayInv := fun _ _ h => h.delayInv
    exact ⟨(hpreserves.run hrun (boot_delayInv rtOpts)).filtered, fun hm => subPathDelay_eq hm⟩

/-! ## A slave that measures the delay -/

theorem calibratedSlave_delays :
    calibratedSlave.ptpClock.ofmFilt.n ≠ 0 ∧ calibratedSlave.ptpClock.Tms = ⟨0, 0⟩ ∧
      calibratedSlave.ptpClock.currentDS.meanPathDelay = ⟨0, 0⟩ := by
  decide +kernel

/-- The slave has sent a request at 5 s and holds its answer, which says that the request was
received at 6 s. -/
def answeredSlave : System :=
  unpackHeader (copyDatagram (datagram (firstDelayResp 0) (atSecond 7))
    (issueDelayReq { plainEnv with send := fun _ => .sent (atSecond 5) } calibratedSlave))

theorem answeredSlave_visited : Visited ptpdOpts answeredSlave :=
  calibratedSlave_reachable.visited.run
    (.tail (.tail (.single (.issueDelayReq _ _)) (.copyDatagram _ _)) (.unpackHeader _))

/-- Half a second of delay is taken over, and filtered. -/
theorem bad_delay_contained_answeredSlave :
    (useDelayResp answeredSlave).ptpClock.currentDS.meanPathDelay = ⟨0, 500000000⟩ ∧
      Filtered (useDelayResp answeredSlave).ptpClock := by
  have hnone : ∀ e ∈ answeredSlave.history, e.isDelaySample = false := by decide +kernel
  have hrun := filterable_of_no_sample answeredSlave_visited hnone
  have hm : answeredSlave.delayMechanism = .e2e := by decide +kernel
  have hmatches : delayRespMatches answeredSlave.ptpClock := by decide +kernel
  have hsample : (delayRespSample answeredSlave).seconds = 0 := by decide +kernel
  have hlast : FilterableAction answeredSlave (useDelayResp answeredSlave) :=
    .of_delayResp hm hmatches (.inr hsample)
  obtain ⟨-, -, hruns⟩ := bad_delay_contained_iff ⟨0, 0⟩ ⟨0, 0⟩ ⟨0, 0⟩ false
    calibratedSlave.ptpClock
  exact ⟨by decide +kernel, (hruns _ _ (hrun.tail hlast)).1⟩

/-- A calibrated slave takes a delay of five seconds over into its data set. -/
theorem bad_delay_taken :
    (delaySample ⟨0, 0⟩ ⟨10, 0⟩ ⟨0, 0⟩ calibratedSlave.ptpClock).seconds = 5 ∧
    calibratedSlave.ptpClock.currentDS.meanPathDelay = ⟨0, 0⟩ ∧
    (updateDelay ⟨0, 0⟩ ⟨10, 0⟩ ⟨0, 0⟩ calibratedSlave.ptpClock).currentDS.meanPathDelay =
      ⟨5, 0⟩ := by
  obtain ⟨hn, hTms, hd⟩ := calibratedSlave_delays
  have hsample : delaySample ⟨0, 0⟩ ⟨10, 0⟩ ⟨0, 0⟩ calibratedSlave.ptpClock = ⟨5, 0⟩ := by
    rw [delaySample, hTms]
    decide +kernel
  have hseconds : (delaySample ⟨0, 0⟩ ⟨10, 0⟩ ⟨0, 0⟩ calibratedSlave.ptpClock).seconds ≠ 0 := by
    rw [hsample]
    decide
  refine ⟨by rw [hsample], hd, ?_⟩
  rw [updateDelay_store hn, (storeDelay_of_seconds hseconds _).1, hsample]

end Ptpd

import DiscoPtp.Model.Run

/-!
# What the functions change

Each function of the program that branches over the whole state, once as a single update of the
fields it writes. The proofs about runs rewrite with these and never unfold the functions.

## Main results

* `updateOffset_eq`, `updateDelay_eq`, `updatePeerDelay_eq`: the estimators
* `bmc_eq`, `decideState_eq`: the state decision
* `issueAnnounce_eq`, `issueSync_eq`, `issueDelayReq_eq`, ...: the senders. `netSend` never returns
  zero, so they have no failing branch.
-/

namespace Ptpd

/-! ## The estimators -/

theorem updateOffset_eq (ingress origin correction : TimeInternal) (c : PtpClock) :
    ∃ Tms offset filt events, updateOffset ingress origin correction c =
      { c with
        Tms
        currentDS := { c.currentDS with offsetFromMaster := offset }
        ofmFilt := filt
        events } := by
  unfold updateOffset
  dsimp only
  split
  · exact ⟨_, _, c.ofmFilt, _, rfl⟩
  · exact ⟨_, _, _, _, rfl⟩

theorem updateDelay_eq (egress receive correction : TimeInternal) (c : PtpClock) :
    ∃ Tsm delay filt, updateDelay egress receive correction c =
      { c with
        Tsm
        currentDS := { c.currentDS with meanPathDelay := delay }
        owdFilt := filt } := by
  unfold updateDelay
  dsimp only
  split
  · exact ⟨c.Tsm, c.currentDS.meanPathDelay, c.owdFilt, rfl⟩
  split
  · exact ⟨_, _, c.owdFilt, rfl⟩
  · exact ⟨_, _, _, rfl⟩

theorem updatePeerDelay_eq (correction : TimeInternal) (twoStep : Bool) (c : PtpClock) :
    ∃ delay filt, updatePeerDelay correction twoStep c =
      { c with portDS := { c.portDS with peerMeanPathDelay := delay }, owdFilt := filt } := by
  unfold updatePeerDelay
  dsimp only
  split
  · exact ⟨_, c.owdFilt, rfl⟩
  · exact ⟨_, _, rfl⟩

/-! ## The state decision -/

theorem bmc_eq (c : PtpClock) :
    ∃ currentDS parentDS timePropertiesDS header announce events best, (bmc c).2 =
      { c with
        currentDS, parentDS, timePropertiesDS, events
        msgTmpHeader := header
        msgTmpAnnounce := announce
        foreignMasterDS := { c.foreignMasterDS with best } } := by
  unfold bmc bmcStateDecision
  dsimp only
  -- no record while listening, then the two halves of the state decision
  split
  · exact ⟨c.currentDS, c.parentDS, c.timePropertiesDS, c.msgTmpHeader, c.msgTmpAnnounce, c.events,
      _, rfl⟩
  split
  · split
    · exact ⟨_, _, _, _, _, c.events, _, rfl⟩
    · exact ⟨c.currentDS, c.parentDS, c.timePropertiesDS, _, _, c.events, _, rfl⟩
  · split
    · exact ⟨_, _, _, _, _, c.events, _, rfl⟩
    · exact ⟨_, _, _, _, _, _, _, rfl⟩

theorem bmc_recommends (c : PtpClock) :
    (bmc c).1 ∈ [PtpState.listening, .master, .passive, .slave] := by
  unfold bmc bmcStateDecision
  dsimp only
  split
  · simp
  split
  · split <;> simp
  · split <;> simp

theorem decideState_recommends (s : System) :
    (decideState s).recommendedState ∈ [PtpState.listening, .master, .passive, .slave] := by
  unfold decideState
  dsimp only
  split
  · exact List.mem_cons_self
  · exact bmc_recommends _

theorem decideState_eq (s : System) :
    ∃ currentDS parentDS timePropertiesDS header announce events best recommended,
      decideState s =
        { s with
          ptpClock :=
            { s.ptpClock with
              currentDS, parentDS, timePropertiesDS, events
              msgTmpHeader := header
              msgTmpAnnounce := announce
              foreignMasterDS := { s.ptpClock.foreignMasterDS with best }
              recommendedState := recommended }
          history := .parentIs parentDS.parentPortIdentity :: s.history } := by
  let f (c : PtpClock) : PtpClock :=
    { c with events := { c.events with stateDecisionEvent := false } }
  obtain ⟨currentDS, parentDS, timePropertiesDS, header, announce, events, best, h⟩ :=
    bmc_eq (s.modify f).ptpClock
  unfold decideState
  dsimp only
  rw [h]
  -- the override of a slave-only clock touches the recommendation only
  split
  · exact ⟨_, _, _, _, _, _, _, _, rfl⟩
  · exact ⟨_, _, _, _, _, _, _, _, rfl⟩

/-! ## The senders -/

/-- The state after `netSend` of what `pack` leaves in the output buffer. -/
def sentPacket (env : Env) (type : MessageType) (length : Int) (pack : PtpClock → Buf)
    (s : System) : System :=
  (s.modify fun c => { c with msgObuf := pack c }).log
    (.send type (packetOf (pack s.ptpClock) length) (env.send type))

/-- `getTime` as the origin timestamp of a message. -/
def originNow (env : Env) (s : System) : Timestamp :=
  fromInternalTime (getTime s) env.localTimestamp

/-- The egress time of a message sent at `time`. -/
def egressTime (env : Env) (type : MessageType) (time : TimeInternal) : TimeInternal :=
  match env.send type with
  | .sent stamp => stamp.time
  | _ => time

theorem issueAnnounce_eq (env : Env) (s : System) :
    issueAnnounce env s =
      (sentPacket env .announce announceLength (fun c => msgPackAnnounce c c.msgObuf) s).modify
        fun c => { c with sentAnnounceSequenceId := c.sentAnnounceSequenceId + 1 } := rfl

theorem issueFollowup_eq (env : Env) (time : TimeInternal) (s : System) :
    issueFollowup env time s =
      sentPacket env .followUp followUpLength
        (fun c => msgPackFollowUp c c.msgObuf (fromInternalTime time env.localTimestamp)) s := rfl

/-- The state of `issueSync` after the Sync itself. -/
def sentSync (env : Env) (s : System) : System :=
  (sentPacket env .sync syncLength (fun c => msgPackSync c c.msgObuf (originNow env s)) s).modify
    fun c => { c with sentSyncSequenceId := c.sentSyncSequenceId + 1 }

theorem issueSync_eq (env : Env) (s : System) :
    issueSync env s =
      if (egressTime env .sync (getTime s)).seconds ≠ 0 ∧ s.ptpClock.defaultDS.twoStepFlag then
        issueFollowup env
          (addTime (egressTime env .sync (getTime s)) s.ptpClock.outboundLatency) (sentSync env s)
      else sentSync env s := rfl

theorem issueDelayReq_eq (env : Env) (s : System) :
    issueDelayReq env s =
      (sentPacket env .delayReq delayReqLength
        (fun c => msgPackDelayReq c c.msgObuf (originNow env s)) s).modify fun c =>
          { c with
            sentDelayReqSequenceId := c.sentDelayReqSequenceId + 1
            timestampDelayReqSend :=
              if (egressTime env .delayReq (getTime s)).seconds ≠ 0 then
                addTime (egressTime env .delayReq (getTime s)) c.outboundLatency
              else c.timestampDelayReqSend } := by
  by_cases h : (egressTime env .delayReq (getTime s)).seconds ≠ 0
  · simp only [if_pos h]
    exact if_pos h
  · simp only [if_neg h]
    exact if_neg h

theorem issuePDelayReq_eq (env : Env) (s : System) :
    issuePDelayReq env s =
      (sentPacket env .pdelayReq pdelayReqLength
        (fun c => msgPackPDelayReq c c.msgObuf (originNow env s)) s).modify fun c =>
          { c with
            sentPDelayReqSequenceId := c.sentPDelayReqSequenceId + 1
            pdelayT1 :=
              if (egressTime env .pdelayReq (getTime s)).seconds ≠ 0 then
                addTime (egressTime env .pdelayReq (getTime s)) c.outboundLatency
              else c.pdelayT1 } := by
  by_cases h : (egressTime env .pdelayReq (getTime s)).seconds ≠ 0
  · simp only [if_pos h]
    exact if_pos h
  · simp only [if_neg h]
    exact if_neg h

theorem issueDelayResp_eq (env : Env) (time : TimeInternal) (s : System) :
    issueDelayResp env time s =
      sentPacket env .delayResp pdelayRespLength
        (fun c => msgPackDelayResp c c.msgObuf c.msgTmpHeader
          (fromInternalTime time env.localTimestamp)) s := rfl

theorem issuePDelayResp_eq (env : Env) (time : TimeInternal) (s : System) :
    (issuePDelayResp env time s).2 =
      sentPacket env .pdelayResp pdelayRespLength
        (fun c => msgPackPDelayResp c.msgObuf c.msgTmpHeader
          (fromInternalTime time env.localTimestamp)) s := by
  by_cases h : (egressTime env .pdelayResp time).seconds ≠ 0
  · exact congrArg Prod.snd (if_pos h)
  · exact congrArg Prod.snd (if_neg h)

/-- The egress time that `issuePDelayResp` hands back, corrected when there is one. -/
theorem issuePDelayResp_time (env : Env) (time : TimeInternal) (s : System) :
    (issuePDelayResp env time s).1 =
      if (egressTime env .pdelayResp time).seconds ≠ 0 then
        addTime (egressTime env .pdelayResp time) s.ptpClock.outboundLatency
      else egressTime env .pdelayResp time := by
  by_cases h : (egressTime env .pdelayResp time).seconds ≠ 0
  · rw [if_pos h]
    exact congrArg Prod.fst (if_pos h)
  · rw [if_neg h]
    exact congrArg Prod.fst (if_neg h)

theorem issuePDelayRespFollowUp_eq (env : Env) (time : TimeInternal) (s : System) :
    issuePDelayRespFollowUp env time s =
      sentPacket env .pdelayRespFollowUp pdelayRespFollowUpLength
        (fun c => msgPackPDelayRespFollowUp c.msgObuf c.msgTmpHeader
          (fromInternalTime time env.localTimestamp)) s := rfl

/-! ## Interrupts -/

/-- What happens outside the PTP task changes nothing in the `PtpClock` but the queues. -/
theorem interrupt_ptpClock (s : System) (i : Interrupt) :
    ∃ netPath, (interrupt s i).ptpClock = { s.ptpClock with netPath } := by
  -- the two callbacks reach the queues; nothing else of the clock is touched from outside
  cases i with
  | recvEvent n =>
    simp only [interrupt, netRecvEventCallback]
    split
    · exact ⟨s.ptpClock.netPath, rfl⟩
    · exact ⟨_, rfl⟩
  | recvGeneral n =>
    simp only [interrupt, netRecvGeneralCallback]
    split
    · exact ⟨s.ptpClock.netPath, rfl⟩
    · exact ⟨_, rfl⟩
  | frame p => exact ⟨s.ptpClock.netPath, rfl⟩
  | discard n => exact ⟨s.ptpClock.netPath, rfl⟩
  | timerCallback timer => exact ⟨s.ptpClock.netPath, rfl⟩
  | tick time => exact ⟨s.ptpClock.netPath, rfl⟩

theorem interrupts_ptpClock (is : List Interrupt) (s : System) :
    ∃ netPath, (is.foldl interrupt s).ptpClock = { s.ptpClock with netPath } := by
  induction is generalizing s with
  | nil => exact ⟨s.ptpClock.netPath, rfl⟩
  | cons i is ih =>
    obtain ⟨netPath, h⟩ := interrupt_ptpClock s i
    obtain ⟨netPath', h'⟩ := ih (interrupt s i)
    rw [h] at h'
    exact ⟨netPath', h'⟩

theorem pause_ptpClock (env : Env) (point : Pause) (s : System) :
    ∃ netPath, (pause env point s).ptpClock = { s.ptpClock with netPath } :=
  interrupts_ptpClock (env.interrupts point) s

theorem interrupt_history (s : System) (i : Interrupt) :
    (interrupt s i).history = s.history ∨
      ∃ stamp, (interrupt s i).history = .frameRead stamp :: s.history := by
  -- only the reading of a frame is logged
  cases i with
  | frame p => exact .inr ⟨p.stamp, rfl⟩
  | recvEvent n =>
    left
    simp only [interrupt, netRecvEventCallback]
    split <;> rfl
  | recvGeneral n =>
    left
    simp only [interrupt, netRecvGeneralCallback]
    split <;> rfl
  | discard n => exact .inl rfl
  | timerCallback timer => exact .inl rfl
  | tick time => exact .inl rfl

/-! ## Reception -/

theorem readFrames_ptpClock (frames : List Pbuf) (s : System) :
    (frames.foldl readFrame s).ptpClock = s.ptpClock := by
  induction frames generalizing s with
  | nil => rfl
  | cons p frames ih => exact ih (readFrame s p)

theorem netRecv_netPath (env : Env) (p : Pbuf) (time : TimeInternal) (s : System) :
    (netRecv env p time s).2.2.ptpClock.netPath = s.ptpClock.netPath := by
  unfold netRecv
  split
  · rfl
  split
  · rfl
  · show (env.lateFrames.foldl readFrame s).ptpClock.netPath = s.ptpClock.netPath
    rw [readFrames_ptpClock]

/-! ## The reset of the servo -/

theorem adjTime_eq (adj : Int32) (s : System) :
    ∃ addend, adjTime adj s = { s with addend }.log (.adjFreq addend) := ⟨_, rfl⟩

theorem initClock_eq (s : System) :
    ∃ addend adjusted, initClock s =
      { s with
        ptpClock :=
          { clearServo s.ptpClock with netPath := netEmptyEventQ s.ptpClock.netPath }
        addend
        history := adjusted ++ .clockInit :: s.history } ∧
      (adjusted = [] ∨ ∃ a, adjusted = [.adjFreq a]) := by
  unfold initClock
  dsimp only
  split
  · exact ⟨s.addend, [], rfl, .inl rfl⟩
  · obtain ⟨addend, h⟩ := adjTime_eq 0 ((s.modify clearServo).log .clockInit)
    rw [h]
    exact ⟨addend, [.adjFreq addend], rfl, .inr ⟨addend, rfl⟩⟩

/-! ## The uses of a message -/

theorem storeSync_eq (time : TimeInternal) (s : System) :
    ∃ correction,
      correction = scaledNanosecondsToInternalTime s.ptpClock.msgTmpHeader.correctionfield ∧
      storeSync time s =
        (s.modify fun c =>
          { c with
            timestampSyncRecieve := time
            waitingForFollowUp := true
            recvSyncSequenceId := s.ptpClock.msgTmpHeader.sequenceId
            correctionFieldSync := correction }).log
        (.syncStored s.ptpClock.msgTmpHeader time) := ⟨_, rfl, rfl⟩

theorem modify_updateOffset_eq (ingress origin correction : TimeInternal) (s : System) :
    ∃ Tms offset filt events, s.modify (updateOffset ingress origin correction) =
      s.modify fun c =>
        { c with
          Tms
          currentDS := { c.currentDS with offsetFromMaster := offset }
          ofmFilt := filt
          events } := by
  obtain ⟨Tms, offset, filt, events, h⟩ := updateOffset_eq ingress origin correction s.ptpClock
  refine ⟨Tms, offset, filt, events, ?_⟩
  simp only [System.modify, h]

theorem syncOffset_eq (env : Env) (time : TimeInternal) (s : System) :
    ∃ stamp origin correction Tms offset filt events,
      origin = toInternalTime env.localTime stamp ∧
      syncOffset env time s =
        (s.modify fun c =>
          { c with
            timestampSyncRecieve := time
            waitingForFollowUp := false
            Tms
            currentDS := { c.currentDS with offsetFromMaster := offset }
            ofmFilt := filt
            events }).log (.offset s.ptpClock.msgTmpHeader stamp time origin correction) := by
  unfold syncOffset measureOffset
  simp only [System.modify_ptpClock]
  -- the measured values are abstracted before the estimator is opened
  generalize msgUnpackSync _ = stamp
  generalize horigin : toInternalTime _ _ = origin
  generalize scaledNanosecondsToInternalTime _ = correction
  obtain ⟨Tms, offset, filt, events, h⟩ := modify_updateOffset_eq time origin correction
    (s.modify fun c => { c with timestampSyncRecieve := time, waitingForFollowUp := false })
  exact ⟨stamp, origin, correction, Tms, offset, filt, events, horigin.symm,
    congrArg (System.log · _) h⟩

/-- The correction `handleFollowUp` computes: those of the two messages together. -/
def followUpCorrection (c : PtpClock) : TimeInternal :=
  addTime (scaledNanosecondsToInternalTime c.msgTmpHeader.correctionfield) c.correctionFieldSync

theorem followUpOffset_eq (env : Env) (s : System) :
    ∃ stamp origin Tms offset filt events,
      origin = toInternalTime env.localTime stamp ∧
      followUpOffset env s =
        (s.modify fun c =>
          { c with
            waitingForFollowUp := false
            Tms
            currentDS := { c.currentDS with offsetFromMaster := offset }
            ofmFilt := filt
            events }).log
          (.offset s.ptpClock.msgTmpHeader stamp s.ptpClock.timestampSyncRecieve origin
            (followUpCorrection s.ptpClock)) := by
  unfold followUpOffset measureOffset followUpCorrection
  simp only [System.modify_ptpClock]
  generalize msgUnpackFollowUp _ = stamp
  generalize horigin : toInternalTime _ _ = origin
  generalize addTime _ _ = correction
  obtain ⟨Tms, offset, filt, events, h⟩ :=
    modify_updateOffset_eq s.ptpClock.timestampSyncRecieve origin correction
      (s.modify fun c => { c with waitingForFollowUp := false })
  rw [h]
  exact ⟨stamp, origin, Tms, offset, filt, events, horigin.symm, rfl⟩

theorem modify_updateDelay_eq (egress receive correction : TimeInternal) (s : System) :
    ∃ Tsm delay filt, s.modify (updateDelay egress receive correction) =
      s.modify fun c =>
        { c with
          Tsm, currentDS := { c.currentDS with meanPathDelay := delay }, owdFilt := filt } := by
  obtain ⟨Tsm, delay, filt, h⟩ := updateDelay_eq egress receive correction s.ptpClock
  refine ⟨Tsm, delay, filt, ?_⟩
  simp only [System.modify, h]

/-- `useDelayResp` with the values it computes as variables. -/
theorem useDelayResp_open (s : System) :
    ∃ stamp receive correction,
      receive = toInternalTime s.ptpClock.timestampDelayReqRecieve stamp ∧
      useDelayResp s =
        (((s.modify fun c => { c with timestampDelayReqRecieve := receive }).log
            (.delay s.ptpClock.msgTmpHeader stamp s.ptpClock.timestampDelayReqSend receive
              correction)).modify
          (updateDelay s.ptpClock.timestampDelayReqSend receive correction)).modify fun c =>
            { c with portDS :=
                { c.portDS with logMinDelayReqInterval := c.msgTmpHeader.logMessageInterval } } :=
  ⟨_, _, _, rfl, rfl⟩

theorem useDelayResp_eq (s : System) :
    ∃ stamp receive correction Tsm delay filt,
      receive = toInternalTime s.ptpClock.timestampDelayReqRecieve stamp ∧
      useDelayResp s =
        (s.modify fun c =>
          { c with
            timestampDelayReqRecieve := receive
            Tsm
            currentDS := { c.currentDS with meanPathDelay := delay }
            owdFilt := filt
            portDS :=
              { c.portDS with logMinDelayReqInterval := c.msgTmpHeader.logMessageInterval } }).log
          (.delay s.ptpClock.msgTmpHeader stamp s.ptpClock.timestampDelayReqSend receive
            correction) := by
  -- the estimator runs between the store of the receive time and the one of the interval
  obtain ⟨stamp, receive, correction, hreceive, hopen⟩ := useDelayResp_open s
  obtain ⟨Tsm, delay, filt, h⟩ := modify_updateDelay_eq s.ptpClock.timestampDelayReqSend receive
    correction ((s.modify fun c => { c with timestampDelayReqRecieve := receive }).log
      (.delay s.ptpClock.msgTmpHeader stamp s.ptpClock.timestampDelayReqSend receive correction))
  rw [hopen, h]
  exact ⟨stamp, receive, correction, Tsm, delay, filt, hreceive, rfl⟩

theorem modify_updatePeerDelay_eq (correction : TimeInternal) (twoStep : Bool) (s : System) :
    ∃ delay filt, s.modify (updatePeerDelay correction twoStep) =
      s.modify fun c =>
        { c with
          portDS := { c.portDS with peerMeanPathDelay := delay }, owdFilt := filt } := by
  obtain ⟨delay, filt, h⟩ := updatePeerDelay_eq correction twoStep s.ptpClock
  refine ⟨delay, filt, ?_⟩
  simp only [System.modify, h]

theorem storePDelayResp_eq (env : Env) (time : TimeInternal) (s : System) :
    ∃ stamp t2 correction,
      t2 = toInternalTime env.localTime stamp ∧
      storePDelayResp env time s =
        (s.modify fun c =>
          { c with
            waitingForPDelayRespFollowUp := true
            pdelayT4 := time
            pdelayT2 := t2
            correctionFieldPDelayResp := correction }).log
          (.pdelayStored s.ptpClock.msgTmpHeader stamp t2 time) := ⟨_, _, _, rfl, rfl⟩

theorem usePDelayResp_eq (time : TimeInternal) (s : System) :
    ∃ correction delay filt, usePDelayResp time s =
      (s.modify fun c =>
        { c with
          waitingForPDelayRespFollowUp := false
          pdelayT4 := time
          portDS := { c.portDS with peerMeanPathDelay := delay }
          owdFilt := filt }).log
        (.peerDelay s.ptpClock.msgTmpHeader s.ptpClock.pdelayT1 correction none) := by
  unfold usePDelayResp measurePeerDelay
  simp only [System.modify_ptpClock]
  generalize scaledNanosecondsToInternalTime _ = correction
  obtain ⟨delay, filt, h⟩ := modify_updatePeerDelay_eq correction false
    (s.modify fun c => { c with waitingForPDelayRespFollowUp := false, pdelayT4 := time })
  exact ⟨correction, delay, filt, congrArg (System.log · _) h⟩


/-- `usePDelayRespFollowUp` with the values it computes as variables. -/
theorem usePDelayRespFollowUp_open (env : Env) (s : System) :
    ∃ stamp t3 correction,
      t3 = toInternalTime env.localTime stamp ∧
      usePDelayRespFollowUp env s =
        (measurePeerDelay correction (some (stamp, t3))
          (s.modify fun c => { c with pdelayT3 := t3 })).modify
            fun c => { c with waitingForPDelayRespFollowUp := false } :=
  ⟨_, _, _, rfl, rfl⟩

theorem usePDelayRespFollowUp_eq (env : Env) (s : System) :
    ∃ stamp t3 correction delay filt,
      t3 = toInternalTime env.localTime stamp ∧
      usePDelayRespFollowUp env s =
        (s.modify fun c =>
          { c with
            waitingForPDelayRespFollowUp := false
            pdelayT3 := t3
            portDS := { c.portDS with peerMeanPathDelay := delay }
            owdFilt := filt }).log
          (.peerDelay s.ptpClock.msgTmpHeader s.ptpClock.pdelayT1 correction
            (some (stamp, t3))) := by
  obtain ⟨stamp, t3, correction, ht3, hopen⟩ := usePDelayRespFollowUp_open env s
  obtain ⟨delay, filt, h⟩ := modify_updatePeerDelay_eq correction true
    (s.modify fun c => { c with pdelayT3 := t3 })
  unfold measurePeerDelay at hopen
  rw [Option.isSome_some, h] at hopen
  exact ⟨stamp, t3, correction, delay, filt, ht3, hopen⟩

end Ptpd

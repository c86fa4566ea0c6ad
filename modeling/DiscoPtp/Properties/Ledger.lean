import DiscoPtp.Properties.Action
import DiscoPtp.Properties.Wire

/-!
# The ledger of a port

What a port remembers between two messages, and the history. The ledger forgets the queues, the
data sets, the timers and the servo; its steps are the events that the pairing of messages, the
matching of responses and the receive times depend on.

## Main definitions

* `Ledger`, `System.ledger`: the ledger, and the ledger of a state
* `LedgerStep`: the events

## Main results

* `action_simulates`: every action of a port is an event of its ledger, or leaves it as it is
* `Visited.of_ledger`: an invariant of the events holds in every visited state
-/

namespace Ptpd

/-- The ledger of a port. -/
structure Ledger where
  parentPortIdentity : PortIdentity
  waitingForFollowUp : Bool
  recvSyncSequenceId : Int16
  timestampSyncRecieve : TimeInternal
  correctionFieldSync : TimeInternal
  sentDelayReqSequenceId : Int16
  timestampDelayReqSend : TimeInternal
  sentPDelayReqSequenceId : Int16
  pdelayT1 : TimeInternal
  waitingForPDelayRespFollowUp : Bool
  logMinDelayReqInterval : Int8
  inboundLatency : TimeInternal
  outboundLatency : TimeInternal
  rtOpts : RunTimeOpts
  rxTimeStamp : HwTime
  history : List Entry

/-- The ledger of a state. -/
def System.ledger (s : System) : Ledger :=
  { parentPortIdentity := s.ptpClock.parentDS.parentPortIdentity
    waitingForFollowUp := s.ptpClock.waitingForFollowUp
    recvSyncSequenceId := s.ptpClock.recvSyncSequenceId
    timestampSyncRecieve := s.ptpClock.timestampSyncRecieve
    correctionFieldSync := s.ptpClock.correctionFieldSync
    sentDelayReqSequenceId := s.ptpClock.sentDelayReqSequenceId
    timestampDelayReqSend := s.ptpClock.timestampDelayReqSend
    sentPDelayReqSequenceId := s.ptpClock.sentPDelayReqSequenceId
    pdelayT1 := s.ptpClock.pdelayT1
    waitingForPDelayRespFollowUp := s.ptpClock.waitingForPDelayRespFollowUp
    logMinDelayReqInterval := s.ptpClock.portDS.logMinDelayReqInterval
    inboundLatency := s.ptpClock.inboundLatency
    outboundLatency := s.ptpClock.outboundLatency
    rtOpts := s.ptpClock.rtOpts
    rxTimeStamp := s.rxTimeStamp
    history := s.history }

/-- The entries that no event of the ledger is about. -/
def Entry.IsOther : Entry → Prop
  | .send type _ _ => type ≠ .delayReq ∧ type ≠ .pdelayReq
  | .timerStart timer _ => timer ≠ .delayReqInterval
  | .adjFreq _ | .timerStop _ | .doInit _ => True
  | _ => False

/-- The time a request leaves at, as `netSend` reports it: the transmit timestamp, or the reading
`now` of the clock. -/
def SendOutcome.egress (outcome : SendOutcome) (now : TimeInternal) : TimeInternal :=
  match outcome with
  | .sent stamp => stamp.time
  | _ => now

/-- The request timestamp after a request, `old` before. -/
def requestStamp (outcome : SendOutcome) (now latency old : TimeInternal) : TimeInternal :=
  if (outcome.egress now).seconds ≠ 0 then addTime (outcome.egress now) latency else old

/-- The arrival time of a datagram, by the driver's slot. -/
def Ledger.arrival (l : Ledger) (fromSelf : Bool) : TimeInternal :=
  if !fromSelf && 0 < l.rxTimeStamp.time.seconds then
    subTime l.rxTimeStamp.time l.inboundLatency
  else l.rxTimeStamp.time

/-- **The events of a ledger.** -/
inductive LedgerStep (l : Ledger) : Ledger → Prop
  | other (e : Entry) (h : e.IsOther) : LedgerStep l { l with history := e :: l.history }
  | frameRead (stamp : HwTime) :
      LedgerStep l { l with rxTimeStamp := stamp, history := .frameRead stamp :: l.history }
  | eventMessage (frame : HwTime) (fromSelf : Bool) :
      LedgerStep l { l with history := .eventMessage frame (l.arrival fromSelf) :: l.history }
  | parentIs (p : PortIdentity) :
      LedgerStep l { l with parentPortIdentity := p, history := .parentIs p :: l.history }
  | syncStored (sync : MsgHeader) (time : TimeInternal) (h : isTwoStepSync sync)
      (hp : isSamePortIdentity l.parentPortIdentity sync.sourcePortIdentity) :
      LedgerStep l
        { l with
          waitingForFollowUp := true
          recvSyncSequenceId := sync.sequenceId
          timestampSyncRecieve := time
          correctionFieldSync := scaledNanosecondsToInternalTime sync.correctionfield
          history := .syncStored sync time :: l.history }
  | syncOffset (sync : MsgHeader) (stamp : Timestamp) (time old correction : TimeInternal)
      (h : MessageType.ofCode sync.messageType = some .sync) :
      LedgerStep l
        { l with
          waitingForFollowUp := false
          timestampSyncRecieve := time
          history := .offset sync stamp time (toInternalTime old stamp) correction :: l.history }
  | followUpOffset (followUp : MsgHeader) (stamp : Timestamp) (old : TimeInternal)
      (h : MessageType.ofCode followUp.messageType = some .followUp)
      (hw : l.waitingForFollowUp)
      (hp : isSamePortIdentity l.parentPortIdentity followUp.sourcePortIdentity)
      (hs : l.recvSyncSequenceId = followUp.sequenceId) :
      LedgerStep l
        { l with
          waitingForFollowUp := false
          history :=
            .offset followUp stamp l.timestampSyncRecieve (toInternalTime old stamp)
              (addTime (scaledNanosecondsToInternalTime followUp.correctionfield)
                l.correctionFieldSync) :: l.history }
  | clearServo :
      LedgerStep l
        { l with
          waitingForFollowUp := false
          waitingForPDelayRespFollowUp := false
          pdelayT1 := ⟨0, 0⟩
          history := .clockInit :: l.history }
  | initData :
      LedgerStep l
        { l with
          logMinDelayReqInterval := defaultDelayReqInterval
          inboundLatency := l.rtOpts.inboundLatency
          outboundLatency := l.rtOpts.outboundLatency }
  | resetDelayReqInterval :
      LedgerStep l { l with logMinDelayReqInterval := defaultDelayReqInterval }
  | startDelayReqInterval (env : Env) :
      LedgerStep l
        { l with
          history :=
            .timerStart .delayReqInterval (delayReqInterval env l.logMinDelayReqInterval) ::
              l.history }
  | delayReq (packet : List UInt8) (outcome : SendOutcome) (now : TimeInternal)
      (h : sequenceIdOf packet = l.sentDelayReqSequenceId) :
      LedgerStep l
        { l with
          sentDelayReqSequenceId := l.sentDelayReqSequenceId + 1
          timestampDelayReqSend :=
            requestStamp outcome now l.outboundLatency l.timestampDelayReqSend
          history := .send .delayReq packet outcome :: l.history }
  | pdelayReq (packet : List UInt8) (outcome : SendOutcome) (now : TimeInternal)
      (h : sequenceIdOf packet = l.sentPDelayReqSequenceId) :
      LedgerStep l
        { l with
          sentPDelayReqSequenceId := l.sentPDelayReqSequenceId + 1
          pdelayT1 := requestStamp outcome now l.outboundLatency l.pdelayT1
          history := .send .pdelayReq packet outcome :: l.history }
  | delay (resp : MsgHeader) (stamp : Timestamp) (old correction : TimeInternal)
      (h : isLastSent l.sentDelayReqSequenceId resp.sequenceId) :
      LedgerStep l
        { l with
          logMinDelayReqInterval := resp.logMessageInterval
          history :=
            .delay resp stamp l.timestampDelayReqSend (toInternalTime old stamp) correction ::
              l.history }
  | pdelayStored (resp : MsgHeader) (stamp : Timestamp) (old t4 : TimeInternal)
      (h : isLastSent l.sentPDelayReqSequenceId resp.sequenceId) :
      LedgerStep l
        { l with
          waitingForPDelayRespFollowUp := true
          history := .pdelayStored resp stamp (toInternalTime old stamp) t4 :: l.history }
  | peerDelay (header : MsgHeader) (correction : TimeInternal)
      (t3 : Option (Timestamp × TimeInternal))
      (h : isLastSent l.sentPDelayReqSequenceId header.sequenceId)
      (hw : t3.isSome → l.waitingForPDelayRespFollowUp)
      (ht : ∀ stamp time, t3 = some (stamp, time) → ∃ old, time = toInternalTime old stamp) :
      LedgerStep l
        { l with
          waitingForPDelayRespFollowUp := false
          history := .peerDelay header l.pdelayT1 correction t3 :: l.history }
  | setTime (time : TimeInternal) :
      LedgerStep l { l with history := .setTime time :: l.history }

/-! ## The simulation -/

section Simulation

variable {s t : System}

/-- An action that logs an entry of no event and changes nothing else in the ledger. -/
theorem LedgerStep.of_other (e : Entry) (he : e.IsOther)
    (h : t.ledger = { s.ledger with history := e :: s.ledger.history }) :
    LedgerStep s.ledger t.ledger := by
  rw [h]
  exact .other e he

/-- A transmission other than a request. -/
theorem sentPacket_ledger (env : Env) (type : MessageType) (length : Int)
    (pack : PtpClock → Buf) (s : System) (h : type ≠ .delayReq ∧ type ≠ .pdelayReq) :
    LedgerStep s.ledger (sentPacket env type length pack s).ledger :=
  .of_other (.send type (packetOf (pack s.ptpClock) length) (env.send type)) h rfl

theorem interrupt_ledger (i : Interrupt) (s : System) :
    (interrupt s i).ledger = s.ledger ∨ LedgerStep s.ledger (interrupt s i).ledger := by
  cases i with
  | frame p => exact .inr (.frameRead p.stamp)
  | recvEvent n =>
    left
    simp only [interrupt, netRecvEventCallback]
    split <;> rfl
  | recvGeneral n =>
    left
    simp only [interrupt, netRecvGeneralCallback]
    split <;> rfl
  | discard n => exact .inl rfl
  | timerCallback timer => exact .inl rfl
  | tick time => exact .inl rfl

theorem issueDelayReq_ledger (env : Env) (s : System) :
    LedgerStep s.ledger (issueDelayReq env s).ledger := by
  rw [issueDelayReq_eq]
  exact .delayReq _ (env.send .delayReq) (getTime s)
    (sequenceIdOf_msgPackDelayReq s.ptpClock s.ptpClock.msgObuf (originNow env s))

theorem issuePDelayReq_ledger (env : Env) (s : System) :
    LedgerStep s.ledger (issuePDelayReq env s).ledger := by
  rw [issuePDelayReq_eq]
  exact .pdelayReq _ (env.send .pdelayReq) (getTime s)
    (sequenceIdOf_msgPackPDelayReq s.ptpClock s.ptpClock.msgObuf (originNow env s))

theorem storeSync_ledger (time : TimeInternal) (s : System)
    (h : isTwoStepSync s.ptpClock.msgTmpHeader) (hp : isFromCurrentParent s.ptpClock) :
    LedgerStep s.ledger (storeSync time s).ledger := by
  obtain ⟨correction, hcorr, heq⟩ := storeSync_eq time s
  rw [heq, hcorr]
  exact .syncStored s.ptpClock.msgTmpHeader time h hp

theorem syncOffset_ledger (env : Env) (time : TimeInternal) (s : System)
    (h : messageType s.ptpClock = some .sync) :
    LedgerStep s.ledger (syncOffset env time s).ledger := by
  obtain ⟨stamp, origin, correction, _, _, _, _, horigin, heq⟩ := syncOffset_eq env time s
  rw [heq, horigin]
  exact .syncOffset s.ptpClock.msgTmpHeader stamp time env.localTime correction h

theorem followUpOffset_ledger (env : Env) (s : System)
    (h : messageType s.ptpClock = some .followUp) (hm : followUpMatches s.ptpClock) :
    LedgerStep s.ledger (followUpOffset env s).ledger := by
  obtain ⟨stamp, origin, _, _, _, _, horigin, heq⟩ := followUpOffset_eq env s
  simp only [followUpMatches, Bool.and_eq_true, beq_iff_eq] at hm
  rw [heq, horigin]
  exact .followUpOffset s.ptpClock.msgTmpHeader stamp env.localTime h hm.1.1 hm.1.2 hm.2

theorem useDelayResp_ledger (s : System) (h : delayRespMatches s.ptpClock) :
    LedgerStep s.ledger (useDelayResp s).ledger := by
  obtain ⟨stamp, receive, correction, _, _, _, hreceive, heq⟩ := useDelayResp_eq s
  simp only [delayRespMatches, Bool.and_eq_true] at h
  rw [heq, hreceive]
  exact .delay s.ptpClock.msgTmpHeader stamp _ correction h.1.1

theorem storePDelayResp_ledger (env : Env) (time : TimeInternal) (s : System)
    (h : pdelayRespMatches s.ptpClock) :
    LedgerStep s.ledger (storePDelayResp env time s).ledger := by
  obtain ⟨stamp, t2, correction, ht2, heq⟩ := storePDelayResp_eq env time s
  simp only [pdelayRespMatches, Bool.and_eq_true] at h
  rw [heq, ht2]
  exact .pdelayStored s.ptpClock.msgTmpHeader stamp env.localTime time h.1

theorem usePDelayResp_ledger (time : TimeInternal) (s : System)
    (h : pdelayRespMatches s.ptpClock) :
    LedgerStep s.ledger (usePDelayResp time s).ledger := by
  obtain ⟨correction, _, _, heq⟩ := usePDelayResp_eq time s
  simp only [pdelayRespMatches, Bool.and_eq_true] at h
  rw [heq]
  exact .peerDelay s.ptpClock.msgTmpHeader correction none h.1 (by simp) (by simp)

theorem usePDelayRespFollowUp_ledger (env : Env) (s : System)
    (h : pdelayFollowUpMatches s.ptpClock) :
    LedgerStep s.ledger (usePDelayRespFollowUp env s).ledger := by
  obtain ⟨stamp, t3, correction, _, _, ht3, heq⟩ := usePDelayRespFollowUp_eq env s
  simp only [pdelayFollowUpMatches, Bool.and_eq_true] at h
  rw [heq]
  refine .peerDelay s.ptpClock.msgTmpHeader correction (some (stamp, t3)) h.2 (fun _ => h.1) ?_
  rintro _ _ ⟨⟩
  exact ⟨env.localTime, ht3⟩

theorem decideState_ledger (s : System) : LedgerStep s.ledger (decideState s).ledger := by
  obtain ⟨_, parentDS, _, _, _, _, _, _, heq⟩ := decideState_eq s
  rw [heq]
  exact .parentIs parentDS.parentPortIdentity

theorem adjTime_ledger (adj : Int32) (s : System) :
    LedgerStep s.ledger (adjTime adj s).ledger := by
  obtain ⟨addend, heq⟩ := adjTime_eq adj s
  rw [heq]
  exact .of_other (.adjFreq addend) trivial rfl

/-- **Every action is an event** of the ledger, or leaves the ledger as it is. -/
theorem action_simulates {P : PtpState → Prop} :
    Transition.Simulates System.ledger (Action P) LedgerStep := by
  intro s t h
  cases h
  case messageActivity | portState | recommendedState | events | timerExpired | initTimer |
      emptyEventQ | netInit | packHeader | netQGetEvent | netQGetGeneral | copyDatagram |
      msgIbufLength | unpackHeader | takeAnnounce | addForeign | accumulateDrift |
      resetForeign =>
    exact .inl rfl
  case timerStop timer => exact .inr (.of_other (.timerStop timer) trivial rfl)
  case timerStart timer interval h => exact .inr (.of_other (.timerStart timer interval) h rfl)
  case startDelayReqInterval env => exact .inr (.startDelayReqInterval env)
  case clearServo => exact .inr .clearServo
  case resetDelayReqInterval => exact .inr .resetDelayReqInterval
  case m1 => exact .inr (.parentIs _)
  case initData => exact .inr .initData
  case doInit result => exact .inr (.of_other (.doInit result) trivial rfl)
  case issueAnnounce env =>
    exact .inr (sentPacket_ledger env .announce announceLength
      (fun c => msgPackAnnounce c c.msgObuf) s (by decide))
  case sentSync env =>
    exact .inr (sentPacket_ledger env .sync syncLength
      (fun c => msgPackSync c c.msgObuf (originNow env s)) s (by decide))
  case issueFollowup env time => exact .inr (sentPacket_ledger env _ _ _ s (by decide))
  case issueDelayReq env => exact .inr (issueDelayReq_ledger env s)
  case issuePDelayReq env => exact .inr (issuePDelayReq_ledger env s)
  case issueDelayResp env time => exact .inr (sentPacket_ledger env _ _ _ s (by decide))
  case issuePDelayResp env time =>
    rw [issuePDelayResp_eq]
    exact .inr (sentPacket_ledger env _ _ _ s (by decide))
  case issuePDelayRespFollowUp env time => exact .inr (sentPacket_ledger env _ _ _ s (by decide))
  case eventMessage => exact .inr (.eventMessage s.frameStamp (isFromSelf s.ptpClock))
  case followParent h => exact .inr (.parentIs _)
  case storeSync h hp => exact .inr (storeSync_ledger _ s h hp)
  case syncOffset env h => exact .inr (syncOffset_ledger env _ s h)
  case followUpOffset env h hm => exact .inr (followUpOffset_ledger env s h hm)
  case setTime => exact .inr (.setTime _)
  case adjTime adj => exact .inr (adjTime_ledger adj s)
  case useDelayResp h => exact .inr (useDelayResp_ledger s h)
  case storePDelayResp env h => exact .inr (storePDelayResp_ledger env _ s h)
  case usePDelayResp h => exact .inr (usePDelayResp_ledger _ s h)
  case usePDelayRespFollowUp env hm h => exact .inr (usePDelayRespFollowUp_ledger env s h)
  case decideState => exact .inr (decideState_ledger s)
  case interrupt i => exact interrupt_ledger i s

end Simulation

/-- An invariant of the events of the ledger holds of the ledger of every visited state. -/
theorem Visited.of_ledger {rtOpts : RunTimeOpts} {P : Ledger → Prop}
    (hP : Transition.Preserves LedgerStep P) (hboot : P (boot rtOpts).ledger) {s : System}
    (hs : Visited rtOpts s) : P s.ledger :=
  hs.of_action (hP.of_simulates action_simulates) hboot

/-! ## The history grows -/

theorem LedgerStep.history_suffix {l l' : Ledger} (h : LedgerStep l l') :
    l.history <:+ l'.history := by
  cases h
  case initData | resetDelayReqInterval => exact List.suffix_refl _
  all_goals exact List.suffix_cons _ _

theorem actions_history_suffix {P : PtpState → Prop} {s t : System} (h : Actions P s t) :
    s.history <:+ t.history := by
  have hstep : Transition.Preserves (Action P) fun u => s.history <:+ u.history :=
    Transition.Preserves.of_simulates (P := fun l : Ledger => s.history <:+ l.history)
      action_simulates fun _ _ h hs => hs.trans h.history_suffix
  exact hstep.run h (List.suffix_refl _)

theorem history_suffix {s t : System} (h : Relation.ReflTransGen Step s t) :
    s.history <:+ t.history :=
  actions_history_suffix ((daemon_runsOf_action default).run h)

end Ptpd

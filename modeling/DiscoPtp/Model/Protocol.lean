import DiscoPtp.Model.Servo

/-!
# Protocol engine

The functions of `protocol.c`: the state transitions, the message handlers, the senders and
`doState`.

## Main definitions

* `toState`, `doInit`: state transitions and initialisation
* `issueSync`, `issueDelayReq`, ...: the senders
* `handleAnnounce`, `handleSync`, ..., `handle`: reception
* `doState`: one call of the engine
-/

namespace Ptpd

/-! ## State transitions -/

/-- The tasks of `toState` on leaving `PTP_UNCALIBRATED` or `PTP_SLAVE`. -/
def leaveFollower (s : System) : System :=
  let s := timerStop .announceReceipt s
  let s :=
    match s.delayMechanism with
    | .e2e => timerStop .delayReqInterval s
    | .p2p => timerStop .pdelayReqInterval s
    | .other => s
  initClock s

/-- The tasks of `toState` on leaving the present state for `state`. -/
def leaveState (state : PtpState) (s : System) : System :=
  match s.portState with
  | .master =>
    timerStop .pdelayReqInterval
      (timerStop .announceInterval (timerStop .syncInterval (initClock s)))
  | .uncalibrated | .slave =>
    -- between these two states nothing is stopped and the servo is kept
    if state = .uncalibrated ∨ state = .slave then s else leaveFollower s
  | .passive => timerStop .announceReceipt (timerStop .pdelayReqInterval (initClock s))
  | .listening => timerStop .announceReceipt (initClock s)
  | .preMaster => timerStop .qualificationTimeout (initClock s)
  -- the other states have no tasks on leaving
  | _ => s

/-- The tasks of `toState` on entering `PTP_MASTER`; entering `PTP_PRE_MASTER` falls through to
them. -/
def enterMaster (env : Env) (s : System) : System :=
  let s := s.modify fun c =>
    { c with portDS := { c.portDS with logMinDelayReqInterval := defaultDelayReqInterval } }
  let c := s.ptpClock
  let s := timerStart .syncInterval
    ((pow2ms c.portDS.logSyncInterval.toInt).map UInt32.ofInt) s
  let s := timerStart .announceInterval
    ((pow2ms c.portDS.logAnnounceInterval.toInt).map UInt32.ofInt) s
  let s :=
    match s.delayMechanism with
    | .p2p =>
      timerStart .pdelayReqInterval
        (getRand env.rand ((pow2ms c.portDS.logMinPdelayReqInterval.toInt).map (· + 1))) s
    -- a master has no timer for DelayReq
    | _ => s
  s.setPortState .master

/-- The tasks of `toState` on entering `PTP_PASSIVE`. -/
def enterPassive (env : Env) (s : System) : System :=
  let s := timerStart .announceReceipt (announceReceiptInterval s.ptpClock) s
  let s :=
    if s.delayMechanism = .p2p then
      timerStart .pdelayReqInterval
        (pdelayReqInterval env s.ptpClock.portDS.logMinPdelayReqInterval) s
    else s
  s.setPortState .passive

/-- The tasks of `toState` on entering `PTP_UNCALIBRATED`. -/
def enterUncalibrated (env : Env) (s : System) : System :=
  let s := timerStart .announceReceipt (announceReceiptInterval s.ptpClock) s
  let s :=
    match s.delayMechanism with
    | .e2e =>
      timerStart .delayReqInterval (delayReqInterval env s.ptpClock.portDS.logMinDelayReqInterval) s
    | .p2p =>
      timerStart .pdelayReqInterval
        (pdelayReqInterval env s.ptpClock.portDS.logMinPdelayReqInterval) s
    | .other => s
  s.setPortState .uncalibrated

/-- The tasks of `toState` on entering `state`. -/
def enterState (env : Env) (state : PtpState) (s : System) : System :=
  match state with
  | .initializing => (s.setPortState .initializing).setRecommendedState .initializing
  | .faulty => s.setPortState .faulty
  | .disabled => s.setPortState .disabled
  | .listening =>
    ((timerStart .announceReceipt (announceReceiptInterval s.ptpClock) s).setPortState
      .listening).setRecommendedState .listening
  | .preMaster | .master => enterMaster env s
  | .passive => enterPassive env s
  | .uncalibrated => enterUncalibrated env s
  | .slave => s.setPortState .slave

/-- `toState`. -/
def toState (env : Env) (state : PtpState) (s : System) : System :=
  enterState env state (leaveState state (s.setMessageActivity true))

/-- `m1` on the whole state. -/
def System.m1 (s : System) : System :=
  (s.modify Ptpd.m1).log (.parentIs (Ptpd.m1 s.ptpClock).parentDS.parentPortIdentity)

/-- `s1` on the whole state. -/
def System.s1 (s : System) (header : MsgHeader) (announce : MsgAnnounce) : System :=
  (s.modify fun c => Ptpd.s1 c header announce).log (.parentIs header.sourcePortIdentity)

/-- `netInit`: the queues are initialised and the hardware address is copied first, also when the
rest fails. -/
def netInit (env : Env) (s : System) : Bool × System :=
  (env.netInit, s.modify fun c =>
    { c with
      netPath := { eventQ := netQInit c.netPath.eventQ, generalQ := netQInit c.netPath.generalQ }
      portUuidField := env.hwaddr })

/-- `doInit`. -/
def doInit (env : Env) (s : System) : Bool × System :=
  let r := netInit env s
  if r.1 then
    -- `netInit` has set the hardware address that `initData` reads
    let s := (initClock (initTimer (r.2.modify initData))).m1
    (true, (s.modify fun c => { c with msgObuf := msgPackHeader c c.msgObuf }).log (.doInit true))
  else (false, r.2.log (.doInit false))

/-! ## Senders -/

/-- `issueAnnounce`. -/
def issueAnnounce (env : Env) (s : System) : System :=
  let s := s.modify fun c => { c with msgObuf := msgPackAnnounce c c.msgObuf }
  let r := netSend env .announce announceLength ⟨0, 0⟩ s
  -- never taken, here and in the other senders: the length is returned on every path
  if r.1 = 0 then toState env .faulty r.2.2
  else r.2.2.modify fun c => { c with sentAnnounceSequenceId := c.sentAnnounceSequenceId + 1 }

/-- `issueFollowup`. -/
def issueFollowup (env : Env) (time : TimeInternal) (s : System) : System :=
  let preciseOriginTimestamp := fromInternalTime time env.localTimestamp
  let s := s.modify fun c =>
    { c with msgObuf := msgPackFollowUp c c.msgObuf preciseOriginTimestamp }
  let r := netSend env .followUp followUpLength ⟨0, 0⟩ s
  if r.1 = 0 then toState env .faulty r.2.2 else r.2.2

/-- `issueSync`. -/
def issueSync (env : Env) (s : System) : System :=
  -- the reading stays the time of the Sync if the transmission fails
  let internalTime := getTime s
  let originTimestamp := fromInternalTime internalTime env.localTimestamp
  let s := s.modify fun c => { c with msgObuf := msgPackSync c c.msgObuf originTimestamp }
  let r := netSend env .sync syncLength internalTime s
  if r.1 = 0 then toState env .faulty r.2.2
  else
    let s := r.2.2.modify fun c => { c with sentSyncSequenceId := c.sentSyncSequenceId + 1 }
    -- zero seconds stand for a missing transmit timestamp
    if r.2.1.seconds ≠ 0 ∧ s.ptpClock.defaultDS.twoStepFlag then
      issueFollowup env (addTime r.2.1 s.ptpClock.outboundLatency) s
    else s

/-- `issueDelayReq`. -/
def issueDelayReq (env : Env) (s : System) : System :=
  let internalTime := getTime s
  let originTimestamp := fromInternalTime internalTime env.localTimestamp
  let s := s.modify fun c => { c with msgObuf := msgPackDelayReq c c.msgObuf originTimestamp }
  let r := netSend env .delayReq delayReqLength internalTime s
  if r.1 = 0 then toState env .faulty r.2.2
  else
    let s := r.2.2.modify fun c =>
      { c with sentDelayReqSequenceId := c.sentDelayReqSequenceId + 1 }
    -- without a valid timestamp the one of an older request stays in place
    if r.2.1.seconds ≠ 0 then
      s.modify fun c => { c with timestampDelayReqSend := addTime r.2.1 c.outboundLatency }
    else s

/-- `issuePDelayReq`. -/
def issuePDelayReq (env : Env) (s : System) : System :=
  let internalTime := getTime s
  let originTimestamp := fromInternalTime internalTime env.localTimestamp
  let s := s.modify fun c => { c with msgObuf := msgPackPDelayReq c c.msgObuf originTimestamp }
  let r := netSend env .pdelayReq pdelayReqLength internalTime s
  if r.1 = 0 then toState env .faulty r.2.2
  else
    let s := r.2.2.modify fun c =>
      { c with sentPDelayReqSequenceId := c.sentPDelayReqSequenceId + 1 }
    if r.2.1.seconds ≠ 0 then
      s.modify fun c => { c with pdelayT1 := addTime r.2.1 c.outboundLatency }
    else s

/-- `issuePDelayResp`: the state and `*time` afterwards. -/
def issuePDelayResp (env : Env) (time : TimeInternal) (s : System) : TimeInternal × System :=
  let requestReceiptTimestamp := fromInternalTime time env.localTimestamp
  let s := s.modify fun c =>
    { c with msgObuf := msgPackPDelayResp c.msgObuf c.msgTmpHeader requestReceiptTimestamp }
  let r := netSend env .pdelayResp pdelayRespLength time s
  if r.1 = 0 then (r.2.1, toState env .faulty r.2.2)
  else if r.2.1.seconds ≠ 0 then (addTime r.2.1 s.ptpClock.outboundLatency, r.2.2)
  else (r.2.1, r.2.2)

/-- `issueDelayResp`. -/
def issueDelayResp (env : Env) (time : TimeInternal) (s : System) : System :=
  let requestReceiptTimestamp := fromInternalTime time env.localTimestamp
  let s := s.modify fun c =>
    { c with msgObuf := msgPackDelayResp c c.msgObuf c.msgTmpHeader requestReceiptTimestamp }
  -- the source gives the length of a PDelayResp, which is the same
  let r := netSend env .delayResp pdelayRespLength ⟨0, 0⟩ s
  if r.1 = 0 then toState env .faulty r.2.2 else r.2.2

/-- `issuePDelayRespFollowUp`. -/
def issuePDelayRespFollowUp (env : Env) (time : TimeInternal) (s : System) : System :=
  let responseOriginTimestamp := fromInternalTime time env.localTimestamp
  let s := s.modify fun c =>
    { c with
      msgObuf := msgPackPDelayRespFollowUp c.msgObuf c.msgTmpHeader responseOriginTimestamp }
  let r := netSend env .pdelayRespFollowUp pdelayRespFollowUpLength ⟨0, 0⟩ s
  if r.1 = 0 then toState env .faulty r.2.2 else r.2.2

/-- `issueDelayReqTimerExpired`. -/
def issueDelayReqTimerExpired (env : Env) (s : System) : System :=
  match s.delayMechanism with
  | .e2e =>
    -- the flag of the timer is kept until the port is a slave
    if s.portState ≠ .slave then s
    else
      let r := timerExpired .delayReqInterval s
      if r.1 then
        issueDelayReq env
          (timerStart .delayReqInterval
            (delayReqInterval env s.ptpClock.portDS.logMinDelayReqInterval) r.2)
      else r.2
  | .p2p =>
    -- peers measure the delay in every state that calls this
    let r := timerExpired .pdelayReqInterval s
    if r.1 then
      issuePDelayReq env
        (timerStart .pdelayReqInterval
          (pdelayReqInterval env s.ptpClock.portDS.logMinPdelayReqInterval) r.2)
    else r.2
  | .other => s

/-! ## Handlers -/

/-- Whether the message at hand comes from the present parent. -/
def isFromCurrentParent (c : PtpClock) : Bool :=
  isSamePortIdentity c.parentDS.parentPortIdentity c.msgTmpHeader.sourcePortIdentity

/-- `setFlag(events, STATE_DECISION_EVENT)` and `msgUnpackAnnounce`. -/
def takeAnnounce (s : System) : System :=
  s.modify fun c =>
    { c with
      events := { c.events with stateDecisionEvent := true }
      msgTmpAnnounce := msgUnpackAnnounce c.msgIbuf }

/-- `handleAnnounce` in the states `PTP_UNCALIBRATED` and `PTP_SLAVE`. -/
def followAnnounce (s : System) : System :=
  let s := takeAnnounce s
  if isFromCurrentParent s.ptpClock then
    -- the parent is followed at once and is not put into the foreign master store
    let s := s.s1 s.ptpClock.msgTmpHeader s.ptpClock.msgTmpAnnounce
    timerStart .announceReceipt (announceReceiptInterval s.ptpClock) s
  else s.modify fun c => addForeign c c.msgTmpHeader c.msgTmpAnnounce

/-- `handleAnnounce` (9.5.3). -/
def handleAnnounce (env : Env) (isFromSelf : Bool) (s : System) : System :=
  if s.ptpClock.msgIbufLength < announceLength then toState env .faulty s
  else if isFromSelf then s
  else
    match s.portState with
    | .initializing | .faulty | .disabled => s
    | .uncalibrated | .slave => followAnnounce s
    | state =>
      -- of these states only `PTP_PASSIVE` restarts its timeout
      let s :=
        if state = .passive then
          timerStart .announceReceipt (announceReceiptInterval s.ptpClock) s
        else s
      (takeAnnounce s).modify fun c => addForeign c c.msgTmpHeader c.msgTmpAnnounce

/-- A two-step Sync of the parent is stored. -/
def storeSync (time : TimeInternal) (s : System) : System :=
  let header := s.ptpClock.msgTmpHeader
  let correction := scaledNanosecondsToInternalTime header.correctionfield
  (s.modify fun c =>
    { c with
      timestampSyncRecieve := time
      waitingForFollowUp := true
      recvSyncSequenceId := header.sequenceId
      correctionFieldSync := correction }).log (.syncStored header time)

/-- `updateOffset`, for the message at hand with the timestamp `stamp`. -/
def measureOffset (stamp : Timestamp) (origin correction : TimeInternal) (s : System) : System :=
  let ingress := s.ptpClock.timestampSyncRecieve
  (s.modify (updateOffset ingress origin correction)).log
    (.offset s.ptpClock.msgTmpHeader stamp ingress origin correction)

/-- The offset of a one-step Sync of the parent. -/
def syncOffset (env : Env) (time : TimeInternal) (s : System) : System :=
  let stamp := msgUnpackSync s.ptpClock.msgIbuf
  let origin := toInternalTime env.localTime stamp
  let correction := scaledNanosecondsToInternalTime s.ptpClock.msgTmpHeader.correctionfield
  measureOffset stamp origin correction
    (s.modify fun c => { c with timestampSyncRecieve := time, waitingForFollowUp := false })

/-- A one-step Sync of the parent is used. -/
def useSync (env : Env) (time : TimeInternal) (s : System) : System :=
  updateClock (syncOffset env time s)

/-- `handleSync` in the states `PTP_UNCALIBRATED` and `PTP_SLAVE`. -/
def followSync (env : Env) (time : TimeInternal) (isFromSelf : Bool) (s : System) : System :=
  if isFromSelf then s
  else if !isFromCurrentParent s.ptpClock then s
  else if getFlag s.ptpClock.msgTmpHeader.flagField0 flag0TwoStep then storeSync time s
  else issueDelayReqTimerExpired env (useSync env time s)

/-- `handleSync`. -/
def handleSync (env : Env) (time : TimeInternal) (isFromSelf : Bool) (s : System) : System :=
  if s.ptpClock.msgIbufLength < syncLength then toState env .faulty s
  else
    match s.portState with
    | .uncalibrated | .slave => followSync env time isFromSelf s
    -- a passive port takes the Sync as an occasion to measure the delay to its peer
    | .passive => issueDelayReqTimerExpired env s
    | _ => s

/-- The offset of the stored Sync, by its Follow_Up. -/
def followUpOffset (env : Env) (s : System) : System :=
  let stamp := msgUnpackFollowUp s.ptpClock.msgIbuf
  let origin := toInternalTime env.localTime stamp
  let correction := scaledNanosecondsToInternalTime s.ptpClock.msgTmpHeader.correctionfield
  measureOffset stamp origin (addTime correction s.ptpClock.correctionFieldSync)
    (s.modify fun c => { c with waitingForFollowUp := false })

/-- The Follow_Up of the stored Sync is used. -/
def useFollowUp (env : Env) (s : System) : System := updateClock (followUpOffset env s)

/-- The checks of `handleFollowUp` on the message at hand. -/
def followUpMatches (c : PtpClock) : Bool :=
  c.waitingForFollowUp && isFromCurrentParent c &&
    c.recvSyncSequenceId == c.msgTmpHeader.sequenceId

/-- `handleFollowUp` in the states `PTP_UNCALIBRATED` and `PTP_SLAVE`. -/
def takeFollowUp (env : Env) (s : System) : System :=
  if followUpMatches s.ptpClock then issueDelayReqTimerExpired env (useFollowUp env s) else s

/-- `handleFollowUp`. -/
def handleFollowUp (env : Env) (isFromSelf : Bool) (s : System) : System :=
  if s.ptpClock.msgIbufLength < followUpLength then toState env .faulty s
  else if isFromSelf then s
  else
    match s.portState with
    | .uncalibrated | .slave => takeFollowUp env s
    | .passive => issueDelayReqTimerExpired env s
    | _ => s

/-- `handleDelayReq`. -/
def handleDelayReq (env : Env) (time : TimeInternal) (s : System) : System :=
  match s.delayMechanism with
  | .e2e =>
    if s.ptpClock.msgIbufLength < delayReqLength then toState env .faulty s
    else if s.portState = .master then issueDelayResp env time s
    else s
  | _ => s

/-- The comparison `counter - 1 == sequenceId` of the handlers, made on `int`s. -/
def isLastSent (counter sequenceId : Int16) : Bool := counter.toInt - 1 == sequenceId.toInt

/-- The checks of `handleDelayResp` on the message at hand. -/
def delayRespMatches (c : PtpClock) : Bool :=
  isLastSent c.sentDelayReqSequenceId c.msgTmpHeader.sequenceId &&
    isSamePortIdentity c.portDS.portIdentity
      (msgUnpackDelayResp c.msgIbuf).requestingPortIdentity &&
    isFromCurrentParent c

/-- The matching DelayResp is used. -/
def useDelayResp (s : System) : System :=
  let c := s.ptpClock
  let stamp := (msgUnpackDelayResp c.msgIbuf).timestamp
  let receive := toInternalTime c.timestampDelayReqRecieve stamp
  let correction := scaledNanosecondsToInternalTime c.msgTmpHeader.correctionfield
  let s := (s.modify fun c => { c with timestampDelayReqRecieve := receive }).log
    (.delay c.msgTmpHeader stamp c.timestampDelayReqSend receive correction)
  let s := s.modify (updateDelay c.timestampDelayReqSend receive correction)
  s.modify fun c =>
    { c with portDS :=
        { c.portDS with logMinDelayReqInterval := c.msgTmpHeader.logMessageInterval } }

/-- `handleDelayResp` in the states `PTP_UNCALIBRATED` and `PTP_SLAVE`. -/
def takeDelayResp (s : System) : System :=
  if delayRespMatches s.ptpClock then useDelayResp s else s

/-- `handleDelayResp`. -/
def handleDelayResp (env : Env) (s : System) : System :=
  match s.delayMechanism with
  | .e2e =>
    if s.ptpClock.msgIbufLength < delayRespLength then toState env .faulty s
    else
      match s.portState with
      | .uncalibrated | .slave => takeDelayResp s
      | _ => s
  | _ => s

/-- `handlePDelayReq` in the states that answer. -/
def answerPDelayReq (env : Env) (time : TimeInternal) (isFromSelf : Bool) (s : System) : System :=
  if isFromSelf then s
  else
    let r := issuePDelayResp env time s
    -- the flag is that of the request at hand
    if r.1.seconds ≠ 0 ∧ getFlag r.2.ptpClock.msgTmpHeader.flagField0 flag0TwoStep then
      issuePDelayRespFollowUp env r.1 r.2
    else r.2

/-- `handlePDelayReq`. -/
def handlePDelayReq (env : Env) (time : TimeInternal) (isFromSelf : Bool) (s : System) : System :=
  match s.delayMechanism with
  | .p2p =>
    if s.ptpClock.msgIbufLength < pdelayReqLength then toState env .faulty s
    else
      match s.portState with
      | .passive | .slave | .master => answerPDelayReq env time isFromSelf s
      | _ => s
  | _ => s

/-- The checks of `handlePDelayResp` on the message at hand. -/
def pdelayRespMatches (c : PtpClock) : Bool :=
  isLastSent c.sentPDelayReqSequenceId c.msgTmpHeader.sequenceId &&
    isSamePortIdentity c.portDS.portIdentity
      (msgUnpackPDelayResp c.msgIbuf).requestingPortIdentity

/-- A two-step PDelayResp is stored. -/
def storePDelayResp (env : Env) (time : TimeInternal) (s : System) : System :=
  let header := s.ptpClock.msgTmpHeader
  let stamp := (msgUnpackPDelayResp s.ptpClock.msgIbuf).timestamp
  let t2 := toInternalTime env.localTime stamp
  let correction := scaledNanosecondsToInternalTime header.correctionfield
  (s.modify fun c =>
    { c with
      waitingForPDelayRespFollowUp := true
      pdelayT4 := time
      pdelayT2 := t2
      correctionFieldPDelayResp := correction }).log (.pdelayStored header stamp t2 time)

/-- `updatePeerDelay`, for the message at hand: a two-step measurement has a time `t3`. -/
def measurePeerDelay (correction : TimeInternal) (t3 : Option (Timestamp × TimeInternal))
    (s : System) : System :=
  (s.modify (updatePeerDelay correction t3.isSome)).log
    (.peerDelay s.ptpClock.msgTmpHeader s.ptpClock.pdelayT1 correction t3)

/-- A one-step PDelayResp is used. -/
def usePDelayResp (time : TimeInternal) (s : System) : System :=
  let correction := scaledNanosecondsToInternalTime s.ptpClock.msgTmpHeader.correctionfield
  measurePeerDelay correction none
    (s.modify fun c => { c with waitingForPDelayRespFollowUp := false, pdelayT4 := time })

/-- `handlePDelayResp` in the states `PTP_SLAVE` and `PTP_MASTER`. -/
def takePDelayResp (env : Env) (time : TimeInternal) (isFromSelf : Bool) (s : System) : System :=
  if isFromSelf then s
  else if pdelayRespMatches s.ptpClock then
    -- a two-step response waits for its follow-up, a one-step one is used at once
    if getFlag s.ptpClock.msgTmpHeader.flagField0 flag0TwoStep then storePDelayResp env time s
    else usePDelayResp time s
  else s

/-- `handlePDelayResp`. -/
def handlePDelayResp (env : Env) (time : TimeInternal) (isFromSelf : Bool) (s : System) :
    System :=
  match s.delayMechanism with
  | .p2p =>
    if s.ptpClock.msgIbufLength < pdelayRespLength then toState env .faulty s
    else
      match s.portState with
      | .master | .slave => takePDelayResp env time isFromSelf s
      | _ => s
  | _ => s

/-- The checks of `handlePDelayRespFollowUp` on the message at hand. -/
def pdelayFollowUpMatches (c : PtpClock) : Bool :=
  c.waitingForPDelayRespFollowUp && isLastSent c.sentPDelayReqSequenceId c.msgTmpHeader.sequenceId

/-- The follow-up of the stored PDelayResp is used. -/
def usePDelayRespFollowUp (env : Env) (s : System) : System :=
  let stamp := (msgUnpackPDelayRespFollowUp s.ptpClock.msgIbuf).timestamp
  let t3 := toInternalTime env.localTime stamp
  let correction := scaledNanosecondsToInternalTime s.ptpClock.msgTmpHeader.correctionfield
  let s := measurePeerDelay (addTime correction s.ptpClock.correctionFieldPDelayResp)
    (some (stamp, t3)) (s.modify fun c => { c with pdelayT3 := t3 })
  -- the flag is cleared after the measurement
  s.modify fun c => { c with waitingForPDelayRespFollowUp := false }

/-- `handlePDelayRespFollowUp` in the states `PTP_SLAVE` and `PTP_MASTER`. -/
def takePDelayRespFollowUp (env : Env) (s : System) : System :=
  if pdelayFollowUpMatches s.ptpClock then usePDelayRespFollowUp env s else s

/-- `handlePDelayRespFollowUp`. -/
def handlePDelayRespFollowUp (env : Env) (s : System) : System :=
  match s.delayMechanism with
  | .p2p =>
    if s.ptpClock.msgIbufLength < pdelayRespFollowUpLength then toState env .faulty s
    else
      match s.portState with
      | .slave | .master => takePDelayRespFollowUp env s
      | _ => s
  | _ => s

/-- The dispatch of `handle`. Management and signaling messages are not implemented. -/
def dispatch (env : Env) (time : TimeInternal) (isFromSelf : Bool) (s : System) : System :=
  match MessageType.ofCode s.ptpClock.msgTmpHeader.messageType with
  | some .announce => handleAnnounce env isFromSelf s
  | some .sync => handleSync env time isFromSelf (s.log (.eventMessage s.frameStamp time))
  | some .followUp => handleFollowUp env isFromSelf s
  | some .delayReq => handleDelayReq env time (s.log (.eventMessage s.frameStamp time))
  | some .pdelayReq =>
    handlePDelayReq env time isFromSelf (s.log (.eventMessage s.frameStamp time))
  | some .delayResp => handleDelayResp env s
  | some .pdelayResp =>
    handlePDelayResp env time isFromSelf (s.log (.eventMessage s.frameStamp time))
  | some .pdelayRespFollowUp => handlePDelayRespFollowUp env s
  | some .management | some .signaling | none => s

/-- Whether the message at hand was sent by the port itself (9.5.2.2). -/
def isFromSelf (c : PtpClock) : Bool :=
  isSamePortIdentity c.portDS.portIdentity c.msgTmpHeader.sourcePortIdentity

/-- The receive time less the inbound latency, if it is not a loop back and seems reasonable. -/
def inboundTime (c : PtpClock) (time : TimeInternal) : TimeInternal :=
  if !isFromSelf c && 0 < time.seconds then subTime time c.inboundLatency else time

/-- `handle` from the reception of a message on. -/
def process (env : Env) (time : TimeInternal) (s : System) : System :=
  let s := s.setMessageActivity true
  -- a datagram without a whole header is a fault of the port
  if s.ptpClock.msgIbufLength < headerLength then toState env .faulty s
  else
    let s := s.modify fun c => { c with msgTmpHeader := msgUnpackHeader c.msgIbuf }
    let c := s.ptpClock
    -- another version or domain is ignored
    if c.msgTmpHeader.versionPTP ≠ c.portDS.versionNumber then s
    else if c.msgTmpHeader.domainNumber ≠ c.defaultDS.domainNumber then s
    else dispatch env (inboundTime c time) (isFromSelf c) s

/-- The reception of `handle`: an event datagram, or else a general one, with its time. The length
in `msgIbufLength` is negative after a failure and zero after no reception. -/
def receive (env : Env) (s : System) : TimeInternal × System :=
  let r := netRecvEvent env ⟨0, 0⟩ s
  let s := r.2.2.modify fun c => { c with msgIbufLength := r.1 }
  -- event datagrams come first; one that is too long counts as none
  if r.1 ≠ 0 then (r.2.1, s)
  else
    let r := netRecvGeneral env r.2.1 s
    (r.2.1, r.2.2.modify fun c => { c with msgIbufLength := r.1 })

/-- `handle`. -/
def handle (env : Env) (s : System) : System :=
  let ret := netSelect s.ptpClock.netPath
  if s.ptpClock.messageActivity = false ∧ ret < 0 then toState env .faulty s
  -- with message activity the port reads on without a look at `ret`
  else if s.ptpClock.messageActivity = false ∧ ret = 0 then s
  else
    let r := receive env s
    if r.2.ptpClock.msgIbufLength < 0 then toState env .faulty r.2
    else if r.2.ptpClock.msgIbufLength = 0 then r.2
    else process env r.1 r.2

/-! ## The engine -/

/-- `slaveOnly || clockClass == 255`. -/
def isSlaveOnly (c : PtpClock) : Bool :=
  c.defaultDS.slaveOnly || c.defaultDS.clockQuality.clockClass == 255

/-- `bmc` on the whole state, with the override of a slave-only clock. -/
def decideState (s : System) : System :=
  let s := s.modify fun c => { c with events := { c.events with stateDecisionEvent := false } }
  let r := bmc s.ptpClock
  let s := (s.modify fun _ => r.2).log (.parentIs r.2.parentDS.parentPortIdentity)
  -- a slave-only clock listens instead of becoming master
  if (r.1 = .master ∨ r.1 = .passive) ∧ isSlaveOnly s.ptpClock then
    s.setRecommendedState .listening
  else s.setRecommendedState r.1

/-- The first switch of `doState`: the state decision event. -/
def stateDecision (s : System) : System :=
  match s.portState with
  | .listening | .uncalibrated | .slave | .preMaster | .master | .passive =>
    if s.ptpClock.events.stateDecisionEvent then decideState s else s
  | _ => s

/-- The event `MASTER_CLOCK_SELECTED` in state `PTP_UNCALIBRATED`. -/
def onMasterClockSelected (env : Env) (s : System) : System :=
  if s.ptpClock.events.masterClockSelected then
    toState env .slave
      (s.modify fun c => { c with events := { c.events with masterClockSelected := false } })
  else s

/-- The event `SYNCHRONIZATION_FAULT` in state `PTP_SLAVE`. -/
def onSynchronizationFault (env : Env) (s : System) : System :=
  if s.ptpClock.events.synchronizationFault then
    toState env .uncalibrated
      (s.modify fun c => { c with events := { c.events with synchronizationFault := false } })
  else s

/-- `clearFlag(events, MASTER_CLOCK_CHANGED)`. -/
def clearMasterClockChanged (s : System) : System :=
  s.modify fun c => { c with events := { c.events with masterClockChanged := false } }

/-- The second switch of `doState` for the recommendation `PTP_SLAVE` in state
`PTP_UNCALIBRATED`. -/
def followSlaveUncalibrated (env : Env) (s : System) : System :=
  -- the second event is looked at in the state the first one has led to
  let s := onMasterClockSelected env s
  if s.ptpClock.events.masterClockChanged then clearMasterClockChanged s else s

/-- The second switch of `doState` for the recommendation `PTP_SLAVE` in state `PTP_SLAVE`. -/
def followSlaveSlave (env : Env) (s : System) : System :=
  let s := onSynchronizationFault env s
  if s.ptpClock.events.masterClockChanged then
    toState env .uncalibrated (clearMasterClockChanged s)
  else s

/-- The second switch of `doState`: the port state follows the recommended state. -/
def followRecommendation (env : Env) (s : System) : System :=
  match s.ptpClock.recommendedState with
  | .master =>
    match s.portState with
    | .preMaster =>
      let r := timerExpired .qualificationTimeout s
      if r.1 then toState env .master r.2 else r.2
    -- a master stays one
    | .master => s
    -- the port is a master at once: the case of `PTP_PRE_MASTER` in `toState` falls through
    | _ => toState env .preMaster s
  | .passive => if s.portState ≠ .passive then toState env .passive s else s
  | .slave =>
    match s.portState with
    | .uncalibrated => followSlaveUncalibrated env s
    | .slave => followSlaveSlave env s
    | _ => toState env .uncalibrated s
  | .listening => if s.portState ≠ .listening then toState env .listening s else s
  | _ => s

/-- The announce receipt timeout of `doState`. -/
def announceTimeout (env : Env) (s : System) : System :=
  let s := s.modify fun c =>
    { c with foreignMasterDS := { c.foreignMasterDS with count := 0, i := 0 } }
  -- without a parent a clock that may be master becomes one, without a qualification timeout
  if !isSlaveOnly s.ptpClock then toState env .master (s.m1.setRecommendedState .master)
  else if s.portState ≠ .listening then toState env .listening s
  else s

/-- The Sync timer of a master. -/
def syncTimerActions (env : Env) (s : System) : System :=
  let r := timerExpired .syncInterval s
  if r.1 then issueSync env r.2 else r.2

/-- The Announce timer of a master. -/
def announceTimerActions (env : Env) (s : System) : System :=
  let r := timerExpired .announceInterval s
  if r.1 then issueAnnounce env r.2 else r.2

/-- The third switch of `doState` in state `PTP_MASTER`. -/
def masterActions (env : Env) (s : System) : System :=
  let s := syncTimerActions env s
  let s := announceTimerActions env (pause env .announceTimer s)
  let s := handle env (pause env .handling s)
  -- a fault does not keep the request timer from being looked at
  issueDelayReqTimerExpired env (pause env .requestTimer s)

/-- The third switch of `doState` in the states that wait for Announce messages. -/
def awaitAnnounce (env : Env) (s : System) : System :=
  let r := timerExpired .announceReceipt s
  if r.1 then announceTimeout env r.2 else handle env (pause env .handling r.2)

/-- The third switch of `doState`: the actions of the port state. -/
def portActions (env : Env) (s : System) : System :=
  match s.portState with
  | .initializing =>
    let r := doInit env s
    if r.1 then toState env .listening r.2 else toState env .faulty r.2
  -- a fault is answered with a new initialisation
  | .faulty => toState env .initializing s
  | .disabled => handle env s
  | .listening | .uncalibrated | .slave | .passive => awaitAnnounce env s
  | .master => masterActions env s
  | .preMaster => s

/-- `doState`. -/
def doState (env : Env) (s : System) : System :=
  -- the first two switches run before the outside is heard of
  let s := followRecommendation env (stateDecision (s.setMessageActivity false))
  portActions env (pause env .actions s)

end Ptpd

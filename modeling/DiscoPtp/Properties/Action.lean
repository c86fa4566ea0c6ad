import DiscoPtp.Properties.Effects

/-!
# The actions of a port

Every run of the daemon is a run of small actions: single assignments, timer calls, transmissions
and the uses of one received message, each with the checks the program has made before it. An
invariant of all runs is proved on the actions.

## Main definitions

* `ingressTime`: the receive time `handle` passes on
* `Action`, `Actions`: the actions and their runs
* `Visited`: the states that runs pass

## Main results

* `doState_actions`: one call of `doState` is a run of actions
* `daemon_runsOf_action`: every run of the daemon is a run of actions
* `Visited.of_action`: the invariant rule
-/

namespace Ptpd

open Relation (ReflTransGen)

/-- The receive time of the message at hand, less the inbound latency. -/
def ingressTime (s : System) : TimeInternal := inboundTime s.ptpClock s.rxTimeStamp.time

/-- The message type of the message at hand. -/
def messageType (c : PtpClock) : Option MessageType := MessageType.ofCode c.msgTmpHeader.messageType

/-- A Sync whose timestamp follows in a Follow_Up. -/
def isTwoStepSync (header : MsgHeader) : Bool :=
  MessageType.ofCode header.messageType = some .sync && getFlag header.flagField0 flag0TwoStep

/-- The states that `recommendedState` is set to. -/
def PtpState.Recommendable (state : PtpState) : Prop :=
  state ∈ [.initializing, .listening, .master, .passive, .slave]

instance (state : PtpState) : Decidable state.Recommendable :=
  inferInstanceAs (Decidable (_ ∈ _))

/-- The port state in which `toState` ends: the tasks of `PTP_PRE_MASTER` fall through to those of
`PTP_MASTER`. -/
def PtpState.entered : PtpState → PtpState
  | .preMaster => .master
  | state => state

/-- `msgUnpackHeader` into `msgTmpHeader`. -/
def unpackHeader (s : System) : System :=
  s.modify fun c => { c with msgTmpHeader := msgUnpackHeader c.msgIbuf }

/-- The copy of a datagram into `msgIbuf`. -/
def copyDatagram (p : Pbuf) (s : System) : System :=
  { s with frameStamp := p.stamp }.modify fun c =>
    { c with msgIbuf := copyPbuf p.totLen c.msgIbuf 0 0 p.chain }

/-- **The actions of a port** that enter only port states allowed by `P`. -/
inductive Action (P : PtpState → Prop) : System → System → Prop
  | messageActivity (b : Bool) (s : System) : Action P s (s.setMessageActivity b)
  | portState (state : PtpState) (s : System) (h : P state) : Action P s (s.setPortState state)
  | recommendedState (state : PtpState) (s : System) (h : state.Recommendable) :
      Action P s (s.setRecommendedState state)
  | events (f : Events → Events) (s : System) :
      Action P s (s.modify fun c => { c with events := f c.events })
  | timerStop (timer : Timer) (s : System) : Action P s (timerStop timer s)
  | timerStart (timer : Timer) (interval : Option UInt32) (s : System)
      (h : timer ≠ .delayReqInterval) : Action P s (timerStart timer interval s)
  | startDelayReqInterval (env : Env) (s : System) :
      Action P s (Ptpd.timerStart .delayReqInterval
        (delayReqInterval env s.ptpClock.portDS.logMinDelayReqInterval) s)
  | timerExpired (timer : Timer) (s : System) : Action P s (timerExpired timer s).2
  | initTimer (s : System) : Action P s (initTimer s)
  | clearServo (s : System) : Action P s ((s.modify clearServo).log .clockInit)
  | emptyEventQ (s : System) :
      Action P s (s.modify fun c => { c with netPath := netEmptyEventQ c.netPath })
  | resetDelayReqInterval (s : System) : Action P s (s.modify fun c =>
      { c with portDS := { c.portDS with logMinDelayReqInterval := defaultDelayReqInterval } })
  | m1 (s : System) : Action P s s.m1
  | netInit (env : Env) (s : System) : Action P s (netInit env s).2
  | initData (s : System) : Action P s (s.modify initData)
  | packHeader (s : System) :
      Action P s (s.modify fun c => { c with msgObuf := msgPackHeader c c.msgObuf })
  | doInit (result : Bool) (s : System) : Action P s (s.log (.doInit result))
  | issueAnnounce (env : Env) (s : System) : Action P s (issueAnnounce env s)
  | sentSync (env : Env) (s : System) : Action P s (sentSync env s)
  | issueFollowup (env : Env) (time : TimeInternal) (s : System) :
      Action P s (issueFollowup env time s)
  | issueDelayReq (env : Env) (s : System) : Action P s (issueDelayReq env s)
  | issuePDelayReq (env : Env) (s : System) : Action P s (issuePDelayReq env s)
  | issueDelayResp (env : Env) (time : TimeInternal) (s : System) :
      Action P s (issueDelayResp env time s)
  | issuePDelayResp (env : Env) (time : TimeInternal) (s : System) :
      Action P s (issuePDelayResp env time s).2
  | issuePDelayRespFollowUp (env : Env) (time : TimeInternal) (s : System) :
      Action P s (issuePDelayRespFollowUp env time s)
  | netQGetEvent (s : System) : Action P s (s.modify fun c =>
      { c with netPath := { c.netPath with eventQ := (netQGet c.netPath.eventQ).2 } })
  | netQGetGeneral (s : System) : Action P s (s.modify fun c =>
      { c with netPath := { c.netPath with generalQ := (netQGet c.netPath.generalQ).2 } })
  | copyDatagram (p : Pbuf) (s : System) : Action P s (copyDatagram p s)
  | msgIbufLength (n : Int) (s : System) :
      Action P s (s.modify fun c => { c with msgIbufLength := n })
  | unpackHeader (s : System) : Action P s (unpackHeader s)
  | eventMessage (s : System) : Action P s (s.log (.eventMessage s.frameStamp (ingressTime s)))
  | takeAnnounce (s : System) : Action P s (takeAnnounce s)
  | followParent (s : System) (h : isFromCurrentParent s.ptpClock) :
      Action P s (s.s1 s.ptpClock.msgTmpHeader s.ptpClock.msgTmpAnnounce)
  | addForeign (s : System) :
      Action P s (s.modify fun c => addForeign c c.msgTmpHeader c.msgTmpAnnounce)
  | storeSync (s : System) (h : isTwoStepSync s.ptpClock.msgTmpHeader)
      (hp : isFromCurrentParent s.ptpClock) : Action P s (storeSync (ingressTime s) s)
  | syncOffset (env : Env) (s : System) (h : messageType s.ptpClock = some .sync) :
      Action P s (syncOffset env (ingressTime s) s)
  | followUpOffset (env : Env) (s : System) (h : messageType s.ptpClock = some .followUp)
      (hm : followUpMatches s.ptpClock) : Action P s (followUpOffset env s)
  | setTime (s : System) :
      Action P s (setTime (subTime (getTime s) s.ptpClock.currentDS.offsetFromMaster) s)
  | accumulateDrift (s : System) :
      Action P s (s.modify fun c => { c with observedDrift := accumulateDrift c })
  | adjTime (adj : Int32) (s : System) : Action P s (adjTime adj s)
  | useDelayResp (s : System) (hm : s.delayMechanism = .e2e)
      (h : delayRespMatches s.ptpClock) : Action P s (useDelayResp s)
  | storePDelayResp (env : Env) (s : System) (h : pdelayRespMatches s.ptpClock) :
      Action P s (storePDelayResp env (ingressTime s) s)
  | usePDelayResp (s : System) (hm : s.delayMechanism = .p2p)
      (h : pdelayRespMatches s.ptpClock) : Action P s (usePDelayResp (ingressTime s) s)
  | usePDelayRespFollowUp (env : Env) (s : System) (hm : s.delayMechanism = .p2p)
      (h : pdelayFollowUpMatches s.ptpClock) :
      Action P s (usePDelayRespFollowUp env s)
  | decideState (s : System) : Action P s (decideState s)
  | resetForeign (s : System) : Action P s (s.modify fun c =>
      { c with foreignMasterDS := { c.foreignMasterDS with count := 0, i := 0 } })
  | interrupt (i : Interrupt) (s : System) : Action P s (interrupt s i)

/-- A run of actions. -/
abbrev Actions (P : PtpState → Prop) : System → System → Prop := ReflTransGen (Action P)

variable {P : PtpState → Prop}

/-! ## State transitions -/

theorem initClock_actions (s : System) : Actions P s (initClock s) := by
  refine .trans (.single (.clearServo s)) ?_
  unfold initClock
  dsimp only
  split
  · exact .single (.emptyEventQ _)
  · exact .tail (.single (.adjTime 0 _)) (.emptyEventQ _)

theorem leaveFollower_actions (s : System) : Actions P s (leaveFollower s) := by
  unfold leaveFollower
  dsimp only
  split
  · exact .trans (.tail (.single (.timerStop _ s)) (.timerStop _ _)) (initClock_actions _)
  · exact .trans (.tail (.single (.timerStop _ s)) (.timerStop _ _)) (initClock_actions _)
  · exact .trans (.single (.timerStop _ s)) (initClock_actions _)

theorem leaveState_actions (state : PtpState) (s : System) : Actions P s (leaveState state s) := by
  -- the two following states have the same tasks
  have hstay : Actions P s
      (if state = .uncalibrated ∨ state = .slave then s else leaveFollower s) := by
    split
    · exact .refl
    · exact leaveFollower_actions s
  unfold leaveState
  split
  · exact .tail (.tail (.tail (initClock_actions s) (.timerStop _ _)) (.timerStop _ _))
      (.timerStop _ _)
  · exact hstay
  · exact hstay
  · exact .tail (.tail (initClock_actions s) (.timerStop _ _)) (.timerStop _ _)
  · exact .tail (initClock_actions s) (.timerStop _ _)
  · exact .tail (initClock_actions s) (.timerStop _ _)
  · exact .refl

theorem enterMaster_actions (env : Env) (s : System) (h : P .master) :
    Actions P s (enterMaster env s) := by
  unfold enterMaster
  dsimp only
  split
  · exact .tail (.tail (.tail (.tail (.single (.resetDelayReqInterval s))
      (.timerStart _ _ _ (by decide))) (.timerStart _ _ _ (by decide)))
      (.timerStart _ _ _ (by decide))) (.portState _ _ h)
  · exact .tail (.tail (.tail (.single (.resetDelayReqInterval s))
      (.timerStart _ _ _ (by decide))) (.timerStart _ _ _ (by decide))) (.portState _ _ h)

theorem enterPassive_actions (env : Env) (s : System) (h : P .passive) :
    Actions P s (enterPassive env s) := by
  unfold enterPassive
  dsimp only
  split
  · exact .tail (.tail (.single (.timerStart _ _ s (by decide)))
      (.timerStart _ _ _ (by decide))) (.portState _ _ h)
  · exact .tail (.single (.timerStart _ _ s (by decide))) (.portState _ _ h)

theorem enterUncalibrated_actions (env : Env) (s : System) (h : P .uncalibrated) :
    Actions P s (enterUncalibrated env s) := by
  unfold enterUncalibrated
  dsimp only
  split
  · exact .tail (.tail (.single (.timerStart _ _ s (by decide)))
      (.startDelayReqInterval _ _)) (.portState _ _ h)
  · exact .tail (.tail (.single (.timerStart _ _ s (by decide)))
      (.timerStart _ _ _ (by decide))) (.portState _ _ h)
  · exact .tail (.single (.timerStart _ _ s (by decide))) (.portState _ _ h)

theorem enterState_actions (env : Env) (state : PtpState) (s : System) (h : P state.entered) :
    Actions P s (enterState env state s) := by
  cases state with
  | initializing => exact .tail (.single (.portState _ _ h)) (.recommendedState _ _ (by decide))
  | faulty => exact .single (.portState _ _ h)
  | disabled => exact .single (.portState _ _ h)
  | listening =>
    exact .tail (.tail (.single (.timerStart _ _ _ (by decide))) (.portState _ _ h))
      (.recommendedState _ _ (by decide))
  | preMaster => exact enterMaster_actions env s h
  | master => exact enterMaster_actions env s h
  | passive => exact enterPassive_actions env s h
  | uncalibrated => exact enterUncalibrated_actions env s h
  | slave => exact .single (.portState _ _ h)

theorem toState_actions (env : Env) (state : PtpState) (s : System) (h : P state.entered) :
    Actions P s (toState env state s) :=
  .trans (.trans (.single (.messageActivity true s)) (leaveState_actions state _))
    (enterState_actions env state _ h)

theorem doInit_actions (env : Env) (s : System) : Actions P s (doInit env s).2 := by
  unfold doInit
  dsimp only
  split
  · exact .tail (.tail (.tail (.trans (.tail (.tail (.single (.netInit env s)) (.initData _))
      (.initTimer _)) (initClock_actions _)) (.m1 _)) (.packHeader _)) (.doInit true _)
  · exact .tail (.single (.netInit env s)) (.doInit false _)

/-! ## Reception -/

theorem issueDelayReqTimerExpired_actions (env : Env) (s : System) :
    Actions P s (issueDelayReqTimerExpired env s) := by
  unfold issueDelayReqTimerExpired
  split
  · split
    · exact .refl
    · dsimp only
      split
      · -- the timer is restarted before the request is sent
        exact .tail (.tail (.single (.timerExpired _ s)) (.startDelayReqInterval env _))
          (.issueDelayReq env _)
      · exact .single (.timerExpired _ s)
  · dsimp only
    split
    · exact .tail (.tail (.single (.timerExpired _ s)) (.timerStart _ _ _ (by decide)))
        (.issuePDelayReq env _)
    · exact .single (.timerExpired _ s)
  · exact .refl

theorem followAnnounce_actions (s : System) : Actions P s (followAnnounce s) := by
  unfold followAnnounce
  dsimp only
  split
  · exact .tail (.tail (.single (.takeAnnounce s)) (.followParent _ ‹_›))
      (.timerStart _ _ _ (by decide))
  · exact .tail (.single (.takeAnnounce s)) (.addForeign _)

theorem handleAnnounce_actions (env : Env) (isFromSelf : Bool) (s : System) (hf : P .faulty) :
    Actions P s (handleAnnounce env isFromSelf s) := by
  unfold handleAnnounce
  -- a short datagram, then one of the port itself, then the port states
  split
  · exact toState_actions env _ s hf
  split
  · exact .refl
  split
  · exact .refl
  · exact .refl
  · exact .refl
  · exact followAnnounce_actions s
  · exact followAnnounce_actions s
  · refine .tail (.tail ?_ (.takeAnnounce _)) (.addForeign _)
    split
    · exact .single (.timerStart _ _ _ (by decide))
    · exact .refl

theorem updateClock_actions (s : System) : Actions P s (updateClock s) := by
  unfold updateClock
  split
  · split
    · exact .refl
    · split
      · exact .single (.adjTime _ s)
      · exact .trans (.single (.setTime s)) (initClock_actions _)
  · dsimp only
    split
    · exact .single (.accumulateDrift s)
    · exact .tail (.single (.accumulateDrift s)) (.adjTime _ _)

theorem followSync_actions (env : Env) (isFromSelf : Bool) (s : System)
    (h : messageType s.ptpClock = some .sync) :
    Actions P s (followSync env (ingressTime s) isFromSelf s) := by
  unfold followSync
  split
  · exact .refl
  split
  · exact .refl
  next hparent =>
  split
  · -- the action of storing asks for a two-step Sync of the parent
    refine .single (.storeSync s ?_ (by simpa using hparent))
    rw [isTwoStepSync, Bool.and_eq_true]
    exact ⟨decide_eq_true h, ‹_›⟩
  · exact .trans (.trans (.single (.syncOffset env s h)) (updateClock_actions _))
      (issueDelayReqTimerExpired_actions env _)

theorem handleSync_actions (env : Env) (isFromSelf : Bool) (s : System)
    (h : messageType s.ptpClock = some .sync) (hf : P .faulty) :
    Actions P s (handleSync env (ingressTime s) isFromSelf s) := by
  unfold handleSync
  split
  · exact toState_actions env _ s hf
  split
  · exact followSync_actions env isFromSelf s h
  · exact followSync_actions env isFromSelf s h
  · exact issueDelayReqTimerExpired_actions env s
  · exact .refl

theorem takeFollowUp_actions (env : Env) (s : System)
    (h : messageType s.ptpClock = some .followUp) : Actions P s (takeFollowUp env s) := by
  unfold takeFollowUp
  split
  · exact .trans (.trans (.single (.followUpOffset env s h ‹_›)) (updateClock_actions _))
      (issueDelayReqTimerExpired_actions env _)
  · exact .refl

theorem handleFollowUp_actions (env : Env) (isFromSelf : Bool) (s : System)
    (h : messageType s.ptpClock = some .followUp) (hf : P .faulty) :
    Actions P s (handleFollowUp env isFromSelf s) := by
  unfold handleFollowUp
  split
  · exact toState_actions env _ s hf
  split
  · exact .refl
  split
  · exact takeFollowUp_actions env s h
  · exact takeFollowUp_actions env s h
  · exact issueDelayReqTimerExpired_actions env s
  · exact .refl

theorem handleDelayReq_actions (env : Env) (time : TimeInternal) (s : System) (hf : P .faulty) :
    Actions P s (handleDelayReq env time s) := by
  unfold handleDelayReq
  split
  · split
    · exact toState_actions env _ s hf
    split
    · exact .single (.issueDelayResp env time s)
    · exact .refl
  · exact .refl

theorem takeDelayResp_actions (s : System) (hm : s.delayMechanism = .e2e) :
    Actions P s (takeDelayResp s) := by
  unfold takeDelayResp
  split
  · exact .single (.useDelayResp s hm ‹_›)
  · exact .refl

theorem handleDelayResp_actions (env : Env) (s : System) (hf : P .faulty) :
    Actions P s (handleDelayResp env s) := by
  unfold handleDelayResp
  split
  · split
    · exact toState_actions env _ s hf
    split
    · exact takeDelayResp_actions s ‹_›
    · exact takeDelayResp_actions s ‹_›
    · exact .refl
  · exact .refl

theorem answerPDelayReq_actions (env : Env) (time : TimeInternal) (isFromSelf : Bool)
    (s : System) : Actions P s (answerPDelayReq env time isFromSelf s) := by
  unfold answerPDelayReq
  split
  · exact .refl
  dsimp only
  split
  · exact .tail (.single (.issuePDelayResp env time s)) (.issuePDelayRespFollowUp env _ _)
  · exact .single (.issuePDelayResp env time s)

theorem handlePDelayReq_actions (env : Env) (time : TimeInternal) (isFromSelf : Bool)
    (s : System) (hf : P .faulty) : Actions P s (handlePDelayReq env time isFromSelf s) := by
  unfold handlePDelayReq
  split
  · split
    · exact toState_actions env _ s hf
    split
    · exact answerPDelayReq_actions env time isFromSelf s
    · exact answerPDelayReq_actions env time isFromSelf s
    · exact answerPDelayReq_actions env time isFromSelf s
    · exact .refl
  · exact .refl

theorem takePDelayResp_actions (env : Env) (isFromSelf : Bool) (s : System)
    (hm : s.delayMechanism = .p2p) :
    Actions P s (takePDelayResp env (ingressTime s) isFromSelf s) := by
  unfold takePDelayResp
  split
  · exact .refl
  split
  · split
    · exact .single (.storePDelayResp env s ‹_›)
    · exact .single (.usePDelayResp s hm ‹_›)
  · exact .refl

theorem handlePDelayResp_actions (env : Env) (isFromSelf : Bool) (s : System) (hf : P .faulty) :
    Actions P s (handlePDelayResp env (ingressTime s) isFromSelf s) := by
  unfold handlePDelayResp
  split
  · split
    · exact toState_actions env _ s hf
    split
    · exact takePDelayResp_actions env isFromSelf s ‹_›
    · exact takePDelayResp_actions env isFromSelf s ‹_›
    · exact .refl
  · exact .refl

theorem takePDelayRespFollowUp_actions (env : Env) (s : System)
    (hm : s.delayMechanism = .p2p) : Actions P s (takePDelayRespFollowUp env s) := by
  unfold takePDelayRespFollowUp
  split
  · exact .single (.usePDelayRespFollowUp env s hm ‹_›)
  · exact .refl

theorem handlePDelayRespFollowUp_actions (env : Env) (s : System) (hf : P .faulty) :
    Actions P s (handlePDelayRespFollowUp env s) := by
  unfold handlePDelayRespFollowUp
  split
  · split
    · exact toState_actions env _ s hf
    split
    · exact takePDelayRespFollowUp_actions env s ‹_›
    · exact takePDelayRespFollowUp_actions env s ‹_›
    · exact .refl
  · exact .refl

theorem dispatch_actions (env : Env) (isFromSelf : Bool) (s : System) (hf : P .faulty) :
    Actions P s (dispatch env (ingressTime s) isFromSelf s) := by
  -- event messages are logged with their time before they are handled
  have hevent : Actions P s (s.log (.eventMessage s.frameStamp (ingressTime s))) :=
    .single (.eventMessage s)
  unfold dispatch
  split
  · exact handleAnnounce_actions env isFromSelf s hf
  · exact hevent.trans (handleSync_actions env isFromSelf _ ‹_› hf)
  · exact handleFollowUp_actions env isFromSelf s ‹_› hf
  · exact hevent.trans (handleDelayReq_actions env _ _ hf)
  · exact hevent.trans (handlePDelayReq_actions env _ isFromSelf _ hf)
  · exact handleDelayResp_actions env s hf
  · exact hevent.trans (handlePDelayResp_actions env isFromSelf _ hf)
  · exact handlePDelayRespFollowUp_actions env s hf
  · exact .refl
  · exact .refl
  · exact .refl

theorem process_actions (env : Env) (s : System) (hf : P .faulty) :
    Actions P s (process env s.rxTimeStamp.time s) := by
  refine .trans (.single (.messageActivity true s)) ?_
  unfold process
  dsimp only
  split
  · exact toState_actions env _ _ hf
  refine .trans (.single (.unpackHeader _)) ?_
  split
  · exact .refl
  split
  · exact .refl
  · exact dispatch_actions env _ _ hf

/-- The time `netRecv` returns with a datagram is the time in the driver's slot. -/
theorem netRecv_time (env : Env) (p : Pbuf) (time : TimeInternal) (s : System)
    (h : (netRecv env p time s).1 ≠ 0) :
    (netRecv env p time s).2.1 = (netRecv env p time s).2.2.rxTimeStamp.time := by
  unfold netRecv at h ⊢
  split at h
  · exact absurd rfl h
  split at h
  · exact absurd rfl h
  · rw [if_neg ‹_›, if_neg ‹_›]

theorem netRecvEvent_time (env : Env) (time : TimeInternal) (s : System)
    (h : (netRecvEvent env time s).1 ≠ 0) :
    (netRecvEvent env time s).2.1 = (netRecvEvent env time s).2.2.rxTimeStamp.time := by
  unfold netRecvEvent at h ⊢
  dsimp only at h ⊢
  split at h
  · exact absurd rfl h
  · exact netRecv_time env _ time _ h

theorem netRecvGeneral_time (env : Env) (time : TimeInternal) (s : System)
    (h : (netRecvGeneral env time s).1 ≠ 0) :
    (netRecvGeneral env time s).2.1 = (netRecvGeneral env time s).2.2.rxTimeStamp.time := by
  unfold netRecvGeneral at h ⊢
  dsimp only at h ⊢
  split at h
  · exact absurd rfl h
  · exact netRecv_time env _ time _ h

theorem receive_time (env : Env) (s : System) (h : (receive env s).2.ptpClock.msgIbufLength ≠ 0) :
    (receive env s).1 = (receive env s).2.rxTimeStamp.time := by
  unfold receive at h ⊢
  dsimp only at h ⊢
  split at h
  · rw [if_pos ‹_›]
    exact netRecvEvent_time env _ s ‹_›
  · rw [if_neg ‹_›]
    exact netRecvGeneral_time env _ _ h

theorem readFrames_actions (frames : List Pbuf) (s : System) :
    Actions P s (frames.foldl readFrame s) := by
  induction frames generalizing s with
  | nil => exact .refl
  | cons p frames ih => exact .trans (.single (.interrupt (.frame p) s)) (ih _)

theorem netRecv_actions (env : Env) (p : Pbuf) (time : TimeInternal) (s : System) :
    Actions P s (netRecv env p time s).2.2 := by
  unfold netRecv
  split
  · exact .refl
  split
  · exact .refl
  · exact .tail (readFrames_actions env.lateFrames s) (.copyDatagram p _)

theorem netRecvEvent_actions (env : Env) (time : TimeInternal) (s : System) :
    Actions P s (netRecvEvent env time s).2.2 := by
  refine .trans (.single (.netQGetEvent s)) ?_
  unfold netRecvEvent
  dsimp only
  split
  · exact .refl
  · exact netRecv_actions env _ time _

theorem netRecvGeneral_actions (env : Env) (time : TimeInternal) (s : System) :
    Actions P s (netRecvGeneral env time s).2.2 := by
  refine .trans (.single (.netQGetGeneral s)) ?_
  unfold netRecvGeneral
  dsimp only
  split
  · exact .refl
  · exact netRecv_actions env _ time _

theorem receive_actions (env : Env) (s : System) : Actions P s (receive env s).2 := by
  refine .trans (.tail (netRecvEvent_actions env ⟨0, 0⟩ s)
    (.msgIbufLength (netRecvEvent env ⟨0, 0⟩ s).1 _)) ?_
  unfold receive
  dsimp only
  split
  · exact .refl
  · exact .tail (netRecvGeneral_actions env _ _) (.msgIbufLength _ _)

theorem handle_actions (env : Env) (s : System) (hf : P .faulty) : Actions P s (handle env s) := by
  unfold handle
  dsimp only
  split
  · exact toState_actions env _ s hf
  split
  · exact .refl
  refine .trans (receive_actions env s) ?_
  split
  · exact toState_actions env _ _ hf
  split
  · exact .refl
  · -- the time that `process` gets is the receive time of the frame at hand
    rw [receive_time env s ‹_›]
    exact process_actions env _ hf

/-! ## The engine -/

theorem stateDecision_eq (s : System) :
    stateDecision s = s ∨ stateDecision s = decideState s := by
  unfold stateDecision
  split
  case h_7 => exact .inl rfl
  all_goals
    split
    · exact .inr rfl
    · exact .inl rfl

theorem stateDecision_actions (s : System) : Actions P s (stateDecision s) := by
  rcases stateDecision_eq s with h | h
  · rw [h]
  · rw [h]
    exact .single (.decideState s)

theorem onMasterClockSelected_actions (env : Env) (s : System)
    (hP : ∀ state ≠ .initializing, P state) :
    Actions P s (onMasterClockSelected env s) := by
  unfold onMasterClockSelected
  split
  · exact .trans (.single (.events (fun e => { e with masterClockSelected := false }) s))
      (toState_actions env _ _ (hP _ (by decide)))
  · exact .refl

theorem onSynchronizationFault_actions (env : Env) (s : System)
    (hP : ∀ state ≠ .initializing, P state) :
    Actions P s (onSynchronizationFault env s) := by
  unfold onSynchronizationFault
  split
  · exact .trans (.single (.events (fun e => { e with synchronizationFault := false }) s))
      (toState_actions env _ _ (hP _ (by decide)))
  · exact .refl

theorem clearMasterClockChanged_actions (s : System) : Actions P s (clearMasterClockChanged s) :=
  .single (.events (fun e => { e with masterClockChanged := false }) s)

theorem followSlaveUncalibrated_actions (env : Env) (s : System)
    (hP : ∀ state ≠ .initializing, P state) :
    Actions P s (followSlaveUncalibrated env s) := by
  refine .trans (onMasterClockSelected_actions env s hP) ?_
  unfold followSlaveUncalibrated
  dsimp only
  split
  · exact clearMasterClockChanged_actions _
  · exact .refl

theorem followSlaveSlave_actions (env : Env) (s : System)
    (hP : ∀ state ≠ .initializing, P state) :
    Actions P s (followSlaveSlave env s) := by
  refine .trans (onSynchronizationFault_actions env s hP) ?_
  unfold followSlaveSlave
  dsimp only
  split
  · exact .trans (clearMasterClockChanged_actions _) (toState_actions env _ _ (hP _ (by decide)))
  · exact .refl

theorem followRecommendation_actions (env : Env) (s : System)
    (hP : ∀ state ≠ .initializing, P state) :
    Actions P s (followRecommendation env s) := by
  unfold followRecommendation
  -- the recommendations in the order of the switch; none of them leads to `PTP_INITIALIZING`
  split
  · split
    · dsimp only
      split
      · exact .trans (.single (.timerExpired _ s)) (toState_actions env _ _ (hP _ (by decide)))
      · exact .single (.timerExpired _ s)
    · exact .refl
    · exact toState_actions env _ s (hP _ (by decide))
  · split
    · exact toState_actions env _ s (hP _ (by decide))
    · exact .refl
  · split
    · exact followSlaveUncalibrated_actions env s hP
    · exact followSlaveSlave_actions env s hP
    · exact toState_actions env _ s (hP _ (by decide))
  · split
    · exact toState_actions env _ s (hP _ (by decide))
    · exact .refl
  · exact .refl

theorem announceTimeout_actions (env : Env) (s : System)
    (hP : ∀ state ≠ .initializing, P state) :
    Actions P s (announceTimeout env s) := by
  refine .trans (.single (.resetForeign s)) ?_
  unfold announceTimeout
  dsimp only
  split
  · exact .trans (.tail (.single (.m1 _)) (.recommendedState _ _ (by decide)))
      (toState_actions env _ _ (hP _ (by decide)))
  split
  · exact toState_actions env _ _ (hP _ (by decide))
  · exact .refl

theorem issueSync_actions (env : Env) (s : System) : Actions P s (issueSync env s) := by
  rw [issueSync_eq]
  split
  · exact .tail (.single (.sentSync env s)) (.issueFollowup env _ _)
  · exact .single (.sentSync env s)

theorem syncTimerActions_actions (env : Env) (s : System) :
    Actions P s (syncTimerActions env s) := by
  unfold syncTimerActions
  dsimp only
  split
  · exact .trans (.single (.timerExpired _ s)) (issueSync_actions env _)
  · exact .single (.timerExpired _ s)

theorem announceTimerActions_actions (env : Env) (s : System) :
    Actions P s (announceTimerActions env s) := by
  unfold announceTimerActions
  dsimp only
  split
  · exact .tail (.single (.timerExpired _ s)) (.issueAnnounce env _)
  · exact .single (.timerExpired _ s)

theorem interrupts_actions (is : List Interrupt) (s : System) :
    Actions P s (is.foldl interrupt s) := by
  induction is generalizing s with
  | nil => exact .refl
  | cons i is ih => exact .trans (.single (.interrupt i s)) (ih _)

theorem pause_actions (env : Env) (point : Pause) (s : System) :
    Actions P s (pause env point s) :=
  interrupts_actions (env.interrupts point) s

theorem masterActions_actions (env : Env) (s : System) (hf : P .faulty) :
    Actions P s (masterActions env s) := by
  refine .trans (.trans (syncTimerActions_actions env s) (pause_actions env .announceTimer _)) ?_
  refine .trans (.trans (announceTimerActions_actions env _) (pause_actions env .handling _)) ?_
  refine .trans (.trans (handle_actions env _ hf) (pause_actions env .requestTimer _)) ?_
  exact issueDelayReqTimerExpired_actions env _

theorem awaitAnnounce_actions (env : Env) (s : System)
    (hP : ∀ state ≠ .initializing, P state) :
    Actions P s (awaitAnnounce env s) := by
  refine .trans (.single (.timerExpired .announceReceipt s)) ?_
  unfold awaitAnnounce
  dsimp only
  split
  · exact announceTimeout_actions env _ hP
  · exact .trans (pause_actions env .handling _) (handle_actions env _ (hP _ (by decide)))

theorem portActions_actions (env : Env) (s : System) (hP : ∀ state, P state) :
    Actions P s (portActions env s) := by
  unfold portActions
  split
  · dsimp only
    split
    · exact (doInit_actions env s).trans (toState_actions env _ _ (hP _))
    · exact (doInit_actions env s).trans (toState_actions env _ _ (hP _))
  · exact toState_actions env _ s (hP _)
  · exact handle_actions env s (hP _)
  · exact awaitAnnounce_actions env s fun state _ => hP state
  · exact awaitAnnounce_actions env s fun state _ => hP state
  · exact awaitAnnounce_actions env s fun state _ => hP state
  · exact awaitAnnounce_actions env s fun state _ => hP state
  · exact masterActions_actions env s (hP _)
  · exact .refl

/-- **One call of `doState`** is a run of actions. -/
theorem doState_actions (env : Env) (s : System) (hP : ∀ state, P state) :
    Actions P s (doState env s) := by
  refine .trans (.single (.messageActivity false s)) ?_
  refine .trans (stateDecision_actions _) ?_
  refine .trans (followRecommendation_actions env _ fun state _ => hP state) ?_
  exact .trans (pause_actions env .actions _) (portActions_actions env _ hP)

/-- A run of actions, whatever port states it enters. -/
abbrev AnyAction : System → System → Prop := Action fun _ => True

/-- Every run of the daemon is a run of actions. -/
theorem daemon_runsOf_action (rtOpts : RunTimeOpts) : (daemon rtOpts).RunsOf AnyAction := by
  intro s t h
  cases h with
  | doState env => exact doState_actions env s fun _ => trivial
  | interrupt i => exact .single (.interrupt i s)

/-- A state that some run passes, between two calls of `doState` or inside of one. -/
def Visited (rtOpts : RunTimeOpts) (s : System) : Prop :=
  Actions (fun _ => True) (boot rtOpts) s

theorem Reachable.visited {rtOpts : RunTimeOpts} {s : System} (hs : Reachable rtOpts s) :
    Visited rtOpts s := by
  obtain ⟨_, rfl, hr⟩ := hs
  exact (daemon_runsOf_action rtOpts).run hr

theorem Visited.run {rtOpts : RunTimeOpts} {s t : System} (hs : Visited rtOpts s)
    (hr : Actions (fun _ => True) s t) : Visited rtOpts t :=
  ReflTransGen.trans hs hr

/-- **The invariant rule** for the daemon. -/
theorem Visited.of_action {rtOpts : RunTimeOpts} {Q : System → Prop}
    (hQ : Transition.Preserves AnyAction Q) (hboot : Q (boot rtOpts)) {s : System}
    (hs : Visited rtOpts s) : Q s :=
  hQ.run hs hboot

end Ptpd

import DiscoPtp.Properties.Effects
import DiscoPtp.Properties.Wire

/-!
# What a handler reads

All datagrams are received into one buffer, and the octets of longer ones remain in it. The
handlers look at the length of the datagram before they unpack it, so that nothing is read that has
not been received: a call of `handle` does the same with any other octets past the datagram.

## Main definitions

* `PtpClock.withIbuf`, `System.withIbuf`: the same state with another input buffer

## Main results

* `toState_withIbuf`, `updateClock_withIbuf`, `issueDelayReqTimerExpired_withIbuf`, ...: most
  functions do not look at the input buffer
* `dispatch_withIbuf`: the handlers read what has been received
* `handle_withIbuf`: so does `handle`
-/

namespace Ptpd

/-- The clock with another input buffer. -/
def PtpClock.withIbuf (c : PtpClock) (buf : Buf) : PtpClock := { c with msgIbuf := buf }

/-- The system with another input buffer. -/
def System.withIbuf (s : System) (buf : Buf) : System := s.modify fun c => c.withIbuf buf

section Ignored

variable (c : PtpClock) (s : System) (b : Buf)

/-! ## The fields -/

@[simp] theorem PtpClock.withIbuf_self : c.withIbuf c.msgIbuf = c := rfl
@[simp] theorem withIbuf_defaultDS : (c.withIbuf b).defaultDS = c.defaultDS := rfl
@[simp] theorem withIbuf_currentDS : (c.withIbuf b).currentDS = c.currentDS := rfl
@[simp] theorem withIbuf_parentDS : (c.withIbuf b).parentDS = c.parentDS := rfl
@[simp] theorem withIbuf_portDS : (c.withIbuf b).portDS = c.portDS := rfl
@[simp] theorem withIbuf_msgTmpHeader : (c.withIbuf b).msgTmpHeader = c.msgTmpHeader := rfl
@[simp] theorem withIbuf_msgIbuf : (c.withIbuf b).msgIbuf = b := rfl
@[simp] theorem withIbuf_msgIbufLength : (c.withIbuf b).msgIbufLength = c.msgIbufLength := rfl
@[simp] theorem withIbuf_servo : (c.withIbuf b).servo = c.servo := rfl
@[simp] theorem withIbuf_netPath : (c.withIbuf b).netPath = c.netPath := rfl

@[simp] theorem withIbuf_ptpClock : (s.withIbuf b).ptpClock = s.ptpClock.withIbuf b := rfl
@[simp] theorem withIbuf_portState : (s.withIbuf b).portState = s.portState := rfl
@[simp] theorem withIbuf_delayMechanism :
    (s.withIbuf b).delayMechanism = s.delayMechanism := rfl
@[simp] theorem withIbuf_log (e : Entry) : (s.withIbuf b).log e = (s.log e).withIbuf b := rfl
@[simp] theorem withIbuf_withIbuf (b' : Buf) : (s.withIbuf b).withIbuf b' = s.withIbuf b' := rfl

/-- A change of the clock that leaves the input buffer alone. -/
theorem modify_withIbuf {f : PtpClock → PtpClock}
    (h : f (s.ptpClock.withIbuf b) = (f s.ptpClock).withIbuf b) :
    (s.withIbuf b).modify f = (s.modify f).withIbuf b := by
  unfold System.withIbuf System.modify
  exact congrArg (fun c => { s with ptpClock := c }) h

/-- Branches on a condition that does not depend on the input buffer. -/
theorem ite_withIbuf {p q : Prop} [Decidable p] [Decidable q] (hp : p ↔ q)
    {x y x' y' : System} (hx : x = x'.withIbuf b) (hy : y = y'.withIbuf b) :
    (if p then x else y) = (if q then x' else y').withIbuf b := by
  by_cases h : q
  · rw [if_pos (hp.mpr h), if_pos h, hx]
  · rw [if_neg (mt hp.mp h), if_neg h, hy]

/-! ## State transitions -/

@[simp] theorem timerStart_withIbuf (timer : Timer) (interval : Option UInt32) :
    timerStart timer interval (s.withIbuf b) = (timerStart timer interval s).withIbuf b := rfl

@[simp] theorem timerStop_withIbuf (timer : Timer) :
    timerStop timer (s.withIbuf b) = (timerStop timer s).withIbuf b := rfl

@[simp] theorem timerExpired_withIbuf (timer : Timer) :
    timerExpired timer (s.withIbuf b) =
      ((timerExpired timer s).1, (timerExpired timer s).2.withIbuf b) := rfl

@[simp] theorem setPortState_withIbuf (state : PtpState) :
    (s.withIbuf b).setPortState state = (s.setPortState state).withIbuf b := rfl

@[simp] theorem setRecommendedState_withIbuf (state : PtpState) :
    (s.withIbuf b).setRecommendedState state = (s.setRecommendedState state).withIbuf b := rfl

@[simp] theorem setMessageActivity_withIbuf (a : Bool) :
    (s.withIbuf b).setMessageActivity a = (s.setMessageActivity a).withIbuf b := rfl

@[simp] theorem announceReceiptInterval_withIbuf :
    announceReceiptInterval (c.withIbuf b) = announceReceiptInterval c := rfl

@[simp] theorem adjTime_withIbuf (adj : Int32) :
    adjTime adj (s.withIbuf b) = (adjTime adj s).withIbuf b := rfl

@[simp] theorem setTime_withIbuf (time : TimeInternal) :
    setTime time (s.withIbuf b) = (setTime time s).withIbuf b := rfl

@[simp] theorem initClock_withIbuf : initClock (s.withIbuf b) = (initClock s).withIbuf b := by
  have hclear : (s.withIbuf b).modify clearServo = (s.modify clearServo).withIbuf b :=
    modify_withIbuf s b rfl
  have hlevel (t : System) :
      (if (t.withIbuf b).ptpClock.servo.noAdjust then t.withIbuf b else adjTime 0 (t.withIbuf b)) =
        (if t.ptpClock.servo.noAdjust then t else adjTime 0 t).withIbuf b :=
    ite_withIbuf b Iff.rfl rfl rfl
  unfold initClock
  simp only [hclear, withIbuf_log, hlevel]
  exact modify_withIbuf _ b rfl

@[simp] theorem leaveFollower_withIbuf :
    leaveFollower (s.withIbuf b) = (leaveFollower s).withIbuf b := by
  unfold leaveFollower
  cases h : (timerStop .announceReceipt s).delayMechanism <;> simp [h]

@[simp] theorem leaveState_withIbuf (state : PtpState) :
    leaveState state (s.withIbuf b) = (leaveState state s).withIbuf b := by
  unfold leaveState
  cases h : s.portState <;> simp [h] <;> split <;> rfl

@[simp] theorem enterMaster_withIbuf (env : Env) :
    enterMaster env (s.withIbuf b) = (enterMaster env s).withIbuf b := by
  have hinterval := modify_withIbuf s b (f := fun c =>
    { c with portDS := { c.portDS with logMinDelayReqInterval := defaultDelayReqInterval } }) rfl
  unfold enterMaster
  rw [hinterval]
  simp only [withIbuf_ptpClock, withIbuf_portDS, withIbuf_delayMechanism, timerStart_withIbuf]
  split <;> rfl

@[simp] theorem enterPassive_withIbuf (env : Env) :
    enterPassive env (s.withIbuf b) = (enterPassive env s).withIbuf b := by
  unfold enterPassive
  dsimp only
  rw [← setPortState_withIbuf]
  refine congrArg (fun t => System.setPortState t .passive) ?_
  exact ite_withIbuf b Iff.rfl rfl rfl

@[simp] theorem enterUncalibrated_withIbuf (env : Env) :
    enterUncalibrated env (s.withIbuf b) = (enterUncalibrated env s).withIbuf b := by
  unfold enterUncalibrated
  simp only [withIbuf_ptpClock, withIbuf_portDS, withIbuf_delayMechanism,
    announceReceiptInterval_withIbuf, timerStart_withIbuf]
  split <;> rfl

@[simp] theorem enterState_withIbuf (env : Env) (state : PtpState) :
    enterState env state (s.withIbuf b) = (enterState env state s).withIbuf b := by
  cases state <;> simp [enterState]

@[simp] theorem toState_withIbuf (env : Env) (state : PtpState) :
    toState env state (s.withIbuf b) = (toState env state s).withIbuf b := by
  simp [toState]

/-! ## Senders -/

@[simp] theorem netSend_withIbuf (env : Env) (type : MessageType) (length : Int)
    (time : TimeInternal) :
    netSend env type length time (s.withIbuf b) =
      ((netSend env type length time s).1, (netSend env type length time s).2.1,
        (netSend env type length time s).2.2.withIbuf b) := rfl

@[simp] theorem sentPacket_withIbuf (env : Env) (type : MessageType) (length : Int)
    {pack : PtpClock → Buf} (h : pack (s.ptpClock.withIbuf b) = pack s.ptpClock) :
    sentPacket env type length pack (s.withIbuf b) =
      (sentPacket env type length pack s).withIbuf b := by
  unfold sentPacket
  rw [withIbuf_ptpClock, h, modify_withIbuf s b (by rw [h]; rfl)]
  rfl

@[simp] theorem issueDelayReq_withIbuf (env : Env) :
    issueDelayReq env (s.withIbuf b) = (issueDelayReq env s).withIbuf b := by
  rw [issueDelayReq_eq, issueDelayReq_eq]
  rfl

@[simp] theorem issuePDelayReq_withIbuf (env : Env) :
    issuePDelayReq env (s.withIbuf b) = (issuePDelayReq env s).withIbuf b := by
  rw [issuePDelayReq_eq, issuePDelayReq_eq]
  rfl

@[simp] theorem issueDelayResp_withIbuf (env : Env) (time : TimeInternal) :
    issueDelayResp env time (s.withIbuf b) = (issueDelayResp env time s).withIbuf b := rfl

@[simp] theorem issuePDelayResp_withIbuf (env : Env) (time : TimeInternal) :
    issuePDelayResp env time (s.withIbuf b) =
      ((issuePDelayResp env time s).1, (issuePDelayResp env time s).2.withIbuf b) := by
  have hstate : (issuePDelayResp env time (s.withIbuf b)).2 =
      (issuePDelayResp env time s).2.withIbuf b := by
    rw [issuePDelayResp_eq, issuePDelayResp_eq]
    rfl
  have htime : (issuePDelayResp env time (s.withIbuf b)).1 = (issuePDelayResp env time s).1 := by
    rw [issuePDelayResp_time, issuePDelayResp_time]
    rfl
  exact Prod.ext htime hstate

@[simp] theorem issuePDelayRespFollowUp_withIbuf (env : Env) (time : TimeInternal) :
    issuePDelayRespFollowUp env time (s.withIbuf b) =
      (issuePDelayRespFollowUp env time s).withIbuf b := rfl

@[simp] theorem issueDelayReqTimerExpired_withIbuf (env : Env) :
    issueDelayReqTimerExpired env (s.withIbuf b) =
      (issueDelayReqTimerExpired env s).withIbuf b := by
  unfold issueDelayReqTimerExpired
  simp only [withIbuf_delayMechanism, withIbuf_portState, timerExpired_withIbuf,
    withIbuf_ptpClock, withIbuf_portDS, timerStart_withIbuf, issueDelayReq_withIbuf,
    issuePDelayReq_withIbuf]
  -- the mechanism, the state and the timer decide alike
  split
  · split
    · rfl
    · split <;> rfl
  · split <;> rfl
  · rfl

/-! ## The servo -/

theorem updateOffset_withIbuf (ingress origin correction : TimeInternal) :
    updateOffset ingress origin correction (c.withIbuf b) =
      (updateOffset ingress origin correction c).withIbuf b := by
  unfold updateOffset
  dsimp only
  have hpath (t : TimeInternal) : subPathDelay (c.withIbuf b) t = subPathDelay c t := rfl
  rw [hpath]
  split
  · rfl
  · rfl

theorem updateDelay_withIbuf (egress receive correction : TimeInternal) :
    updateDelay egress receive correction (c.withIbuf b) =
      (updateDelay egress receive correction c).withIbuf b := by
  unfold updateDelay
  dsimp only
  have hofm : (c.withIbuf b).ofmFilt = c.ofmFilt := rfl
  have howd : (c.withIbuf b).owdFilt = c.owdFilt := rfl
  have hTms : (c.withIbuf b).Tms = c.Tms := rfl
  rw [hofm, howd, hTms]
  split
  · rfl
  split
  · rfl
  · rfl

theorem updatePeerDelay_withIbuf (correction : TimeInternal) (twoStep : Bool) :
    updatePeerDelay correction twoStep (c.withIbuf b) =
      (updatePeerDelay correction twoStep c).withIbuf b := by
  have htrip : peerRoundTrip twoStep (c.withIbuf b) = peerRoundTrip twoStep c := rfl
  have howd : (c.withIbuf b).owdFilt = c.owdFilt := rfl
  unfold updatePeerDelay
  dsimp only
  rw [htrip, howd]
  split
  · rfl
  · rfl

@[simp] theorem stepClock_withIbuf : stepClock (s.withIbuf b) = (stepClock s).withIbuf b := by
  have hset := setTime_withIbuf s b (subTime (getTime s) s.ptpClock.currentDS.offsetFromMaster)
  exact (congrArg initClock hset).trans (initClock_withIbuf _ b)

@[simp] theorem updateClock_withIbuf : updateClock (s.withIbuf b) = (updateClock s).withIbuf b := by
  unfold updateClock
  refine ite_withIbuf b Iff.rfl ?_ ?_
  · refine ite_withIbuf b Iff.rfl rfl (ite_withIbuf b Iff.rfl rfl ?_)
    exact stepClock_withIbuf s b
  · exact ite_withIbuf b Iff.rfl rfl rfl

theorem measureOffset_withIbuf (stamp : Timestamp) (origin correction : TimeInternal) :
    measureOffset stamp origin correction (s.withIbuf b) =
      (measureOffset stamp origin correction s).withIbuf b := by
  have hingress :
      (s.withIbuf b).ptpClock.timestampSyncRecieve = s.ptpClock.timestampSyncRecieve := rfl
  have hheader : (s.withIbuf b).ptpClock.msgTmpHeader = s.ptpClock.msgTmpHeader := rfl
  unfold measureOffset
  dsimp only
  rw [hingress, hheader, modify_withIbuf s b (updateOffset_withIbuf _ b _ _ _), withIbuf_log]

theorem measurePeerDelay_withIbuf (correction : TimeInternal)
    (t3 : Option (Timestamp × TimeInternal)) :
    measurePeerDelay correction t3 (s.withIbuf b) =
      (measurePeerDelay correction t3 s).withIbuf b := by
  have ht1 : (s.withIbuf b).ptpClock.pdelayT1 = s.ptpClock.pdelayT1 := rfl
  have hheader : (s.withIbuf b).ptpClock.msgTmpHeader = s.ptpClock.msgTmpHeader := rfl
  unfold measurePeerDelay
  rw [ht1, hheader, modify_withIbuf s b (updatePeerDelay_withIbuf _ b _ _), withIbuf_log]

end Ignored

/-! ## The handlers -/

section Handlers

variable {s : System} {b : Buf}

/-- What has been received is the same in the other buffer. -/
def System.Received (s : System) (b : Buf) : Prop :=
  AgreeBelow s.ptpClock.msgIbufLength s.ptpClock.msgIbuf b

/-- The length check that the handlers make first. -/
theorem length_withIbuf (env : Env) (length : Int) {f g : System}
    (h : ¬s.ptpClock.msgIbufLength < length → f = g.withIbuf b) :
    (if (s.withIbuf b).ptpClock.msgIbufLength < length then toState env .faulty (s.withIbuf b)
      else f) =
      (if s.ptpClock.msgIbufLength < length then toState env .faulty s else g).withIbuf b := by
  rw [withIbuf_ptpClock, withIbuf_msgIbufLength]
  by_cases hlength : s.ptpClock.msgIbufLength < length
  · rw [if_pos hlength, if_pos hlength]
    exact toState_withIbuf s b env .faulty
  · rw [if_neg hlength, if_neg hlength]
    exact h hlength

/-- The Announce of a state whose first 64 octets have been received. -/
theorem takeAnnounce_withIbuf (h : msgUnpackAnnounce b = msgUnpackAnnounce s.ptpClock.msgIbuf) :
    takeAnnounce (s.withIbuf b) = (takeAnnounce s).withIbuf b := by
  refine modify_withIbuf s b ?_
  rw [withIbuf_msgIbuf, h]
  rfl

theorem followAnnounce_withIbuf (h : msgUnpackAnnounce b = msgUnpackAnnounce s.ptpClock.msgIbuf) :
    followAnnounce (s.withIbuf b) = (followAnnounce s).withIbuf b := by
  unfold followAnnounce
  dsimp only
  rw [takeAnnounce_withIbuf h]
  exact ite_withIbuf b Iff.rfl rfl rfl

theorem handleAnnounce_withIbuf (h : s.Received b) (env : Env) (isFromSelf : Bool) :
    handleAnnounce env isFromSelf (s.withIbuf b) =
      (handleAnnounce env isFromSelf s).withIbuf b := by
  unfold handleAnnounce
  refine length_withIbuf env announceLength fun hlength => ite_withIbuf b Iff.rfl rfl ?_
  have hread : msgUnpackAnnounce b = msgUnpackAnnounce s.ptpClock.msgIbuf :=
    (AgreeBelow.announce h (not_lt.mp hlength)).symm
  -- a PASSIVE port restarts its timer before it unpacks the message
  have hstart : ∀ t : System, t.ptpClock.msgIbuf = s.ptpClock.msgIbuf →
      (takeAnnounce (t.withIbuf b)).modify (fun c => addForeign c c.msgTmpHeader c.msgTmpAnnounce) =
        ((takeAnnounce t).modify fun c =>
          addForeign c c.msgTmpHeader c.msgTmpAnnounce).withIbuf b := by
    intro t ht
    rw [takeAnnounce_withIbuf (ht ▸ hread)]
    exact modify_withIbuf _ b rfl
  have hfollow := followAnnounce_withIbuf hread
  simp only [withIbuf_portState]
  cases s.portState with
  | initializing => rfl
  | faulty => rfl
  | disabled => rfl
  | uncalibrated => exact hfollow
  | slave => exact hfollow
  | listening => exact hstart s rfl
  | preMaster => exact hstart s rfl
  | master => exact hstart s rfl
  | passive => exact hstart (timerStart .announceReceipt (announceReceiptInterval s.ptpClock) s) rfl

theorem useSync_withIbuf (h : msgUnpackTimestamp b = msgUnpackTimestamp s.ptpClock.msgIbuf)
    (env : Env) (time : TimeInternal) :
    useSync env time (s.withIbuf b) = (useSync env time s).withIbuf b := by
  have hstamp : msgUnpackSync (s.withIbuf b).ptpClock.msgIbuf =
      msgUnpackSync s.ptpClock.msgIbuf := h
  have hheader : (s.withIbuf b).ptpClock.msgTmpHeader = s.ptpClock.msgTmpHeader := rfl
  have hstore : (s.withIbuf b).modify (fun c =>
        { c with timestampSyncRecieve := time, waitingForFollowUp := false }) =
      (s.modify fun c =>
        { c with timestampSyncRecieve := time, waitingForFollowUp := false }).withIbuf b :=
    modify_withIbuf s b rfl
  unfold useSync syncOffset
  dsimp only
  rw [hstamp, hheader, hstore, measureOffset_withIbuf, updateClock_withIbuf]

theorem handleSync_withIbuf (h : s.Received b) (env : Env) (time : TimeInternal)
    (isFromSelf : Bool) :
    handleSync env time isFromSelf (s.withIbuf b) =
      (handleSync env time isFromSelf s).withIbuf b := by
  unfold handleSync
  refine length_withIbuf env syncLength fun hlength => ?_
  have hread : msgUnpackTimestamp b = msgUnpackTimestamp s.ptpClock.msgIbuf :=
    (AgreeBelow.timestamp h (not_lt.mp hlength)).symm
  have hfollow : followSync env time isFromSelf (s.withIbuf b) =
      (followSync env time isFromSelf s).withIbuf b := by
    unfold followSync
    rw [useSync_withIbuf hread, issueDelayReqTimerExpired_withIbuf]
    exact ite_withIbuf b Iff.rfl rfl
      (ite_withIbuf b Iff.rfl rfl (ite_withIbuf b Iff.rfl rfl rfl))
  have hpassive := issueDelayReqTimerExpired_withIbuf s b env
  simp only [withIbuf_portState]
  cases s.portState with
  | uncalibrated => exact hfollow
  | slave => exact hfollow
  | passive => exact hpassive
  | _ => rfl

theorem useFollowUp_withIbuf (h : msgUnpackTimestamp b = msgUnpackTimestamp s.ptpClock.msgIbuf)
    (env : Env) : useFollowUp env (s.withIbuf b) = (useFollowUp env s).withIbuf b := by
  have hstamp : msgUnpackFollowUp (s.withIbuf b).ptpClock.msgIbuf =
      msgUnpackFollowUp s.ptpClock.msgIbuf := h
  have hheader : (s.withIbuf b).ptpClock.msgTmpHeader = s.ptpClock.msgTmpHeader := rfl
  have hcorrection :
      (s.withIbuf b).ptpClock.correctionFieldSync = s.ptpClock.correctionFieldSync := rfl
  have hstore : (s.withIbuf b).modify (fun c => { c with waitingForFollowUp := false }) =
      (s.modify fun c => { c with waitingForFollowUp := false }).withIbuf b :=
    modify_withIbuf s b rfl
  unfold useFollowUp followUpOffset
  dsimp only
  rw [hstamp, hheader, hcorrection, hstore, measureOffset_withIbuf, updateClock_withIbuf]

theorem handleFollowUp_withIbuf (h : s.Received b) (env : Env) (isFromSelf : Bool) :
    handleFollowUp env isFromSelf (s.withIbuf b) =
      (handleFollowUp env isFromSelf s).withIbuf b := by
  unfold handleFollowUp
  refine length_withIbuf env followUpLength fun hlength => ite_withIbuf b Iff.rfl rfl ?_
  have hread : msgUnpackTimestamp b = msgUnpackTimestamp s.ptpClock.msgIbuf :=
    (AgreeBelow.timestamp h (not_lt.mp hlength)).symm
  have htake : takeFollowUp env (s.withIbuf b) = (takeFollowUp env s).withIbuf b := by
    unfold takeFollowUp
    rw [useFollowUp_withIbuf hread, issueDelayReqTimerExpired_withIbuf]
    exact ite_withIbuf b Iff.rfl rfl rfl
  have hpassive := issueDelayReqTimerExpired_withIbuf s b env
  simp only [withIbuf_portState]
  cases s.portState with
  | uncalibrated => exact htake
  | slave => exact htake
  | passive => exact hpassive
  | _ => rfl

theorem handleDelayReq_withIbuf (env : Env) (time : TimeInternal) :
    handleDelayReq env time (s.withIbuf b) = (handleDelayReq env time s).withIbuf b := by
  unfold handleDelayReq
  simp only [withIbuf_delayMechanism]
  cases s.delayMechanism with
  | e2e =>
    exact length_withIbuf env delayReqLength fun _ =>
      ite_withIbuf b Iff.rfl (issueDelayResp_withIbuf s b env time) rfl
  | p2p => rfl
  | other => rfl

theorem useDelayResp_withIbuf (h : msgUnpackResponse b = msgUnpackResponse s.ptpClock.msgIbuf) :
    useDelayResp (s.withIbuf b) = (useDelayResp s).withIbuf b := by
  have hread : msgUnpackDelayResp (s.withIbuf b).ptpClock.msgIbuf =
      msgUnpackDelayResp s.ptpClock.msgIbuf := h
  have hheader : (s.withIbuf b).ptpClock.msgTmpHeader = s.ptpClock.msgTmpHeader := rfl
  have hegress :
      (s.withIbuf b).ptpClock.timestampDelayReqSend = s.ptpClock.timestampDelayReqSend := rfl
  have hreceive :
      (s.withIbuf b).ptpClock.timestampDelayReqRecieve = s.ptpClock.timestampDelayReqRecieve := rfl
  have hstore (time : TimeInternal) :
      (s.withIbuf b).modify (fun c => { c with timestampDelayReqRecieve := time }) =
        (s.modify fun c => { c with timestampDelayReqRecieve := time }).withIbuf b :=
    modify_withIbuf s b rfl
  unfold useDelayResp
  dsimp only
  rw [hread, hheader, hegress, hreceive, hstore, withIbuf_log,
    modify_withIbuf _ b (updateDelay_withIbuf _ b _ _ _)]
  exact modify_withIbuf _ b rfl

theorem handleDelayResp_withIbuf (h : s.Received b) (env : Env) :
    handleDelayResp env (s.withIbuf b) = (handleDelayResp env s).withIbuf b := by
  have htake (hread : msgUnpackResponse b = msgUnpackResponse s.ptpClock.msgIbuf) :
      takeDelayResp (s.withIbuf b) = (takeDelayResp s).withIbuf b := by
    have hmatches : delayRespMatches (s.withIbuf b).ptpClock = delayRespMatches s.ptpClock := by
      have hread' : msgUnpackDelayResp (s.ptpClock.withIbuf b).msgIbuf =
          msgUnpackDelayResp s.ptpClock.msgIbuf := hread
      unfold delayRespMatches
      rw [withIbuf_ptpClock, hread']
      rfl
    unfold takeDelayResp
    rw [hmatches]
    exact ite_withIbuf b Iff.rfl (useDelayResp_withIbuf hread) rfl
  unfold handleDelayResp
  simp only [withIbuf_delayMechanism]
  cases s.delayMechanism with
  | e2e =>
    refine length_withIbuf env delayRespLength fun hlength => ?_
    have hfollow := htake (AgreeBelow.response h (not_lt.mp hlength)).symm
    simp only [withIbuf_portState]
    cases s.portState with
    | uncalibrated => exact hfollow
    | slave => exact hfollow
    | _ => rfl
  | p2p => rfl
  | other => rfl

theorem answerPDelayReq_withIbuf (s : System) (b : Buf) (env : Env) (time : TimeInternal)
    (isFromSelf : Bool) :
    answerPDelayReq env time isFromSelf (s.withIbuf b) =
      (answerPDelayReq env time isFromSelf s).withIbuf b := by
  unfold answerPDelayReq
  rw [issuePDelayResp_withIbuf]
  exact ite_withIbuf b Iff.rfl rfl (ite_withIbuf b Iff.rfl rfl rfl)

theorem handlePDelayReq_withIbuf (env : Env) (time : TimeInternal) (isFromSelf : Bool) :
    handlePDelayReq env time isFromSelf (s.withIbuf b) =
      (handlePDelayReq env time isFromSelf s).withIbuf b := by
  have hanswer := answerPDelayReq_withIbuf s b env time isFromSelf
  unfold handlePDelayReq
  simp only [withIbuf_delayMechanism]
  cases s.delayMechanism with
  | p2p =>
    refine length_withIbuf env pdelayReqLength fun _ => ?_
    simp only [withIbuf_portState]
    cases s.portState with
    | passive => exact hanswer
    | slave => exact hanswer
    | master => exact hanswer
    | _ => rfl
  | e2e => rfl
  | other => rfl

theorem storePDelayResp_withIbuf (h : msgUnpackResponse b = msgUnpackResponse s.ptpClock.msgIbuf)
    (env : Env) (time : TimeInternal) :
    storePDelayResp env time (s.withIbuf b) = (storePDelayResp env time s).withIbuf b := by
  have hread : msgUnpackPDelayResp (s.withIbuf b).ptpClock.msgIbuf =
      msgUnpackPDelayResp s.ptpClock.msgIbuf := h
  unfold storePDelayResp
  dsimp only
  rw [hread, modify_withIbuf s b rfl, withIbuf_log]
  rfl

theorem usePDelayResp_withIbuf (s : System) (b : Buf) (time : TimeInternal) :
    usePDelayResp time (s.withIbuf b) = (usePDelayResp time s).withIbuf b := by
  have hheader : (s.withIbuf b).ptpClock.msgTmpHeader = s.ptpClock.msgTmpHeader := rfl
  have hstore : (s.withIbuf b).modify (fun c =>
        { c with waitingForPDelayRespFollowUp := false, pdelayT4 := time }) =
      (s.modify fun c =>
        { c with waitingForPDelayRespFollowUp := false, pdelayT4 := time }).withIbuf b :=
    modify_withIbuf s b rfl
  unfold usePDelayResp
  dsimp only
  rw [hheader, hstore, measurePeerDelay_withIbuf]

theorem handlePDelayResp_withIbuf (h : s.Received b) (env : Env) (time : TimeInternal)
    (isFromSelf : Bool) :
    handlePDelayResp env time isFromSelf (s.withIbuf b) =
      (handlePDelayResp env time isFromSelf s).withIbuf b := by
  have htake (hread : msgUnpackResponse b = msgUnpackResponse s.ptpClock.msgIbuf) :
      takePDelayResp env time isFromSelf (s.withIbuf b) =
        (takePDelayResp env time isFromSelf s).withIbuf b := by
    have hmatches : pdelayRespMatches (s.withIbuf b).ptpClock = pdelayRespMatches s.ptpClock := by
      have hread' : msgUnpackPDelayResp (s.ptpClock.withIbuf b).msgIbuf =
          msgUnpackPDelayResp s.ptpClock.msgIbuf := hread
      unfold pdelayRespMatches
      rw [withIbuf_ptpClock, hread']
      rfl
    unfold takePDelayResp
    rw [hmatches, storePDelayResp_withIbuf hread, usePDelayResp_withIbuf]
    exact ite_withIbuf b Iff.rfl rfl
      (ite_withIbuf b Iff.rfl (ite_withIbuf b Iff.rfl rfl rfl) rfl)
  unfold handlePDelayResp
  simp only [withIbuf_delayMechanism]
  cases s.delayMechanism with
  | p2p =>
    refine length_withIbuf env pdelayRespLength fun hlength => ?_
    have hfollow := htake (AgreeBelow.response h (not_lt.mp hlength)).symm
    simp only [withIbuf_portState]
    cases s.portState with
    | master => exact hfollow
    | slave => exact hfollow
    | _ => rfl
  | e2e => rfl
  | other => rfl

theorem usePDelayRespFollowUp_withIbuf
    (h : msgUnpackResponse b = msgUnpackResponse s.ptpClock.msgIbuf) (env : Env) :
    usePDelayRespFollowUp env (s.withIbuf b) = (usePDelayRespFollowUp env s).withIbuf b := by
  have hread : msgUnpackPDelayRespFollowUp (s.withIbuf b).ptpClock.msgIbuf =
      msgUnpackPDelayRespFollowUp s.ptpClock.msgIbuf := h
  have hheader : (s.withIbuf b).ptpClock.msgTmpHeader = s.ptpClock.msgTmpHeader := rfl
  have hcorrection : (s.withIbuf b).ptpClock.correctionFieldPDelayResp =
      s.ptpClock.correctionFieldPDelayResp := rfl
  have hstore (t3 : TimeInternal) :
      (s.withIbuf b).modify (fun c => { c with pdelayT3 := t3 }) =
        (s.modify fun c => { c with pdelayT3 := t3 }).withIbuf b :=
    modify_withIbuf s b rfl
  unfold usePDelayRespFollowUp
  dsimp only
  rw [hread, hheader, hcorrection, hstore, measurePeerDelay_withIbuf]
  exact modify_withIbuf _ b rfl

theorem handlePDelayRespFollowUp_withIbuf (h : s.Received b) (env : Env) :
    handlePDelayRespFollowUp env (s.withIbuf b) =
      (handlePDelayRespFollowUp env s).withIbuf b := by
  unfold handlePDelayRespFollowUp
  simp only [withIbuf_delayMechanism]
  cases s.delayMechanism with
  | p2p =>
    refine length_withIbuf env pdelayRespFollowUpLength fun hlength => ?_
    have hread := (AgreeBelow.response h (not_lt.mp hlength)).symm
    have htake : takePDelayRespFollowUp env (s.withIbuf b) =
        (takePDelayRespFollowUp env s).withIbuf b := by
      unfold takePDelayRespFollowUp
      exact ite_withIbuf b Iff.rfl (usePDelayRespFollowUp_withIbuf hread env) rfl
    simp only [withIbuf_portState]
    cases s.portState with
    | slave => exact htake
    | master => exact htake
    | _ => rfl
  | e2e => rfl
  | other => rfl

/-- **The handlers** read what has been received. -/
theorem dispatch_withIbuf (h : s.Received b) (env : Env) (time : TimeInternal)
    (isFromSelf : Bool) :
    dispatch env time isFromSelf (s.withIbuf b) = (dispatch env time isFromSelf s).withIbuf b := by
  have hannounce := handleAnnounce_withIbuf h env isFromSelf
  have hfollowUp := handleFollowUp_withIbuf h env isFromSelf
  have hdelayResp := handleDelayResp_withIbuf h env
  have hpdelayFollowUp := handlePDelayRespFollowUp_withIbuf h env
  -- an event message is recorded first
  let t := s.log (.eventMessage s.frameStamp time)
  have ht : t.Received b := h
  have hsync := handleSync_withIbuf ht env time isFromSelf
  have hdelayReq := handleDelayReq_withIbuf (s := t) (b := b) env time
  have hpdelayReq := handlePDelayReq_withIbuf (s := t) (b := b) env time isFromSelf
  have hpdelayResp := handlePDelayResp_withIbuf ht env time isFromSelf
  unfold dispatch
  rw [withIbuf_ptpClock, withIbuf_msgTmpHeader]
  cases MessageType.ofCode s.ptpClock.msgTmpHeader.messageType with
  | none => rfl
  | some type =>
    cases type with
    | announce => exact hannounce
    | sync => exact hsync
    | followUp => exact hfollowUp
    | delayReq => exact hdelayReq
    | pdelayReq => exact hpdelayReq
    | delayResp => exact hdelayResp
    | pdelayResp => exact hpdelayResp
    | pdelayRespFollowUp => exact hpdelayFollowUp
    | management => rfl
    | signaling => rfl

/-- So does everything after the reception of a datagram. -/
theorem process_withIbuf (h : s.Received b) (env : Env) (time : TimeInternal) :
    process env time (s.withIbuf b) = (process env time s).withIbuf b := by
  unfold process
  refine length_withIbuf env headerLength (s := s.setMessageActivity true) fun hlength => ?_
  have hread : msgUnpackHeader b = msgUnpackHeader s.ptpClock.msgIbuf :=
    (AgreeBelow.header h (not_lt.mp hlength)).symm
  have hheader : ((s.withIbuf b).setMessageActivity true).modify
        (fun c => { c with msgTmpHeader := msgUnpackHeader c.msgIbuf }) =
      ((s.setMessageActivity true).modify fun c =>
        { c with msgTmpHeader := msgUnpackHeader c.msgIbuf }).withIbuf b := by
    refine modify_withIbuf (s.setMessageActivity true) b ?_
    rw [withIbuf_msgIbuf, hread]
    rfl
  dsimp only
  rw [hheader]
  have hdispatch : ((s.setMessageActivity true).modify fun c =>
      { c with msgTmpHeader := msgUnpackHeader c.msgIbuf }).Received b := h
  exact ite_withIbuf b Iff.rfl rfl
    (ite_withIbuf b Iff.rfl rfl (dispatch_withIbuf hdispatch env _ _))

end Handlers

/-! ## Reception -/

/-- All octets of the datagram are in its chain. -/
def Pbuf.Whole (p : Pbuf) : Prop := p.totLen ≤ (p.chain.map PbufSegment.len).sum

/-- So it is for all datagrams in the queues. -/
def NetPath.Whole (netPath : NetPath) : Prop :=
  (∀ i, (netPath.eventQ.pbuf i).Whole) ∧ ∀ i, (netPath.generalQ.pbuf i).Whole

/-- The copy of `n` octets, from the octet `j` of the first segment on, writes the same octets into
any two buffers. A segment whose end has been passed is not left any more. -/
theorem copyPbuf_agree (n : ℕ) : ∀ {b b' : Buf} {i j : ℕ} {chain : List PbufSegment},
    (∀ k < i, b k = b' k) →
    (n = 0 ∨ ∃ head next, chain = head :: next ∧
      (head.len ≤ j ∨ n + j ≤ (chain.map PbufSegment.len).sum)) →
    ∀ k < i + n, copyPbuf n b i j chain k = copyPbuf n b' i j chain k := by
  induction n with
  | zero => exact fun h _ => h
  | succ n ih =>
    intro b b' i j chain h hwhole k hk
    obtain hzero | ⟨head, next, rfl, hlen⟩ := hwhole
    · omega
    -- the octet at `i` comes from the segment
    have hstored : ∀ k < i + 1, (fun k => if k = i then head.payload j else b k) k =
        (fun k => if k = i then head.payload j else b' k) k := by
      intro k hk
      by_cases hki : k = i
      · simp only [hki, if_true]
      · simp only [if_neg hki]
        exact h k (by omega)
    rw [List.map_cons, List.sum_cons] at hlen
    unfold copyPbuf
    dsimp only
    by_cases hend : j + 1 = head.len
    · rw [if_pos hend, if_pos hend]
      refine ih hstored ?_ k (by omega)
      cases next with
      | nil =>
        left
        rw [List.map_nil, List.sum_nil] at hlen
        omega
      | cons head' next' => exact .inr ⟨head', next', rfl, .inr (by omega)⟩
    · rw [if_neg hend, if_neg hend]
      refine ih hstored (.inr ⟨head, next, rfl, ?_⟩) k (by omega)
      rw [List.map_cons, List.sum_cons]
      omega

section Reception

variable (env : Env) (s : System) (b : Buf)

theorem lateFrames_withIbuf (frames : List Pbuf) :
    frames.foldl readFrame (s.withIbuf b) = (frames.foldl readFrame s).withIbuf b := by
  induction frames generalizing s with
  | nil => rfl
  | cons p frames ih => exact ih (readFrame s p)

/-- The reception of a datagram into another buffer: the octets of a whole datagram are the same. -/
theorem netRecv_withIbuf (p : Pbuf) (time : TimeInternal) :
    ∃ b', netRecv env p time (s.withIbuf b) =
        ((netRecv env p time s).1, (netRecv env p time s).2.1,
          (netRecv env p time s).2.2.withIbuf b') ∧
      (p.Whole → AgreeBelow (netRecv env p time s).1
        (netRecv env p time s).2.2.ptpClock.msgIbuf b') := by
  unfold netRecv
  by_cases hlong : p.totLen > packetSize
  · rw [if_pos hlong, if_pos hlong]
    exact ⟨b, rfl, fun _ i hi => absurd hi (by simp)⟩
  rw [if_neg hlong, if_neg hlong]
  by_cases hempty : p.totLen = 0
  · rw [if_pos hempty, if_pos hempty]
    exact ⟨b, rfl, fun _ i hi => absurd hi (by simp)⟩
  rw [if_neg hempty, if_neg hempty, lateFrames_withIbuf]
  refine ⟨copyPbuf p.totLen b 0 0 p.chain, rfl, fun hwhole i hi => ?_⟩
  have hi' : i < 0 + p.totLen := by
    have hlt : i < p.totLen := Int.ofNat_lt.mp hi
    omega
  refine copyPbuf_agree p.totLen (fun k hk => absurd hk (Nat.not_lt_zero k)) (.inr ?_) i hi'
  unfold Pbuf.Whole at hwhole
  cases hchain : p.chain with
  | nil =>
    rw [hchain, List.map_nil, List.sum_nil] at hwhole
    omega
  | cons head next =>
    rw [hchain] at hwhole
    exact ⟨head, next, rfl, .inr hwhole⟩

theorem netRecvEvent_generalQ (time : TimeInternal) :
    (netRecvEvent env time s).2.2.ptpClock.netPath.generalQ = s.ptpClock.netPath.generalQ := by
  unfold netRecvEvent
  dsimp only
  split
  · rfl
  · rw [netRecv_netPath]
    rfl

/-- A datagram that is taken from a queue is one of its slots. -/
theorem netQGet_slot {queue : BufQueue} {p : Pbuf} (h : (netQGet queue).1 = some p) :
    ∃ i, p = queue.pbuf i := by
  unfold netQGet at h
  split at h
  · exact ⟨_, (Option.some.inj h).symm⟩
  · cases h

theorem netRecvEvent_withIbuf (time : TimeInternal) :
    ∃ b', netRecvEvent env time (s.withIbuf b) =
        ((netRecvEvent env time s).1, (netRecvEvent env time s).2.1,
          (netRecvEvent env time s).2.2.withIbuf b') ∧
      ((∀ i, (s.ptpClock.netPath.eventQ.pbuf i).Whole) →
        AgreeBelow (netRecvEvent env time s).1
          (netRecvEvent env time s).2.2.ptpClock.msgIbuf b') := by
  have hget : ∀ queue : BufQueue, (s.withIbuf b).modify (fun c =>
        { c with netPath := { c.netPath with eventQ := queue } }) =
      (s.modify fun c => { c with netPath := { c.netPath with eventQ := queue } }).withIbuf b :=
    fun _ => modify_withIbuf s b rfl
  unfold netRecvEvent
  dsimp only
  rw [withIbuf_ptpClock, withIbuf_netPath, hget]
  cases hp : (netQGet s.ptpClock.netPath.eventQ).1 with
  | none => exact ⟨b, rfl, fun _ i hi => absurd hi (by simp)⟩
  | some p =>
    obtain ⟨i, rfl⟩ := netQGet_slot hp
    obtain ⟨b', heq, hagree⟩ := netRecv_withIbuf env (s.modify fun c =>
      { c with netPath := { c.netPath with
        eventQ := (netQGet s.ptpClock.netPath.eventQ).2 } }) b
      (s.ptpClock.netPath.eventQ.pbuf i) time
    exact ⟨b', heq, fun hwhole => hagree (hwhole i)⟩

theorem netRecvGeneral_withIbuf (time : TimeInternal) :
    ∃ b', netRecvGeneral env time (s.withIbuf b) =
        ((netRecvGeneral env time s).1, (netRecvGeneral env time s).2.1,
          (netRecvGeneral env time s).2.2.withIbuf b') ∧
      ((∀ i, (s.ptpClock.netPath.generalQ.pbuf i).Whole) →
        AgreeBelow (netRecvGeneral env time s).1
          (netRecvGeneral env time s).2.2.ptpClock.msgIbuf b') := by
  have hget : ∀ queue : BufQueue, (s.withIbuf b).modify (fun c =>
        { c with netPath := { c.netPath with generalQ := queue } }) =
      (s.modify fun c => { c with netPath := { c.netPath with generalQ := queue } }).withIbuf b :=
    fun _ => modify_withIbuf s b rfl
  unfold netRecvGeneral
  dsimp only
  rw [withIbuf_ptpClock, withIbuf_netPath, hget]
  cases hp : (netQGet s.ptpClock.netPath.generalQ).1 with
  | none => exact ⟨b, rfl, fun _ i hi => absurd hi (by simp)⟩
  | some p =>
    obtain ⟨i, rfl⟩ := netQGet_slot hp
    obtain ⟨b', heq, hagree⟩ := netRecv_withIbuf env (s.modify fun c =>
      { c with netPath := { c.netPath with
        generalQ := (netQGet s.ptpClock.netPath.generalQ).2 } }) b
      (s.ptpClock.netPath.generalQ.pbuf i) time
    exact ⟨b', heq, fun hwhole => hagree (hwhole i)⟩

theorem receive_withIbuf :
    ∃ b', receive env (s.withIbuf b) = ((receive env s).1, (receive env s).2.withIbuf b') ∧
      (s.ptpClock.netPath.Whole → (receive env s).2.Received b') := by
  obtain ⟨b₁, hevent, hagree₁⟩ := netRecvEvent_withIbuf env s b ⟨0, 0⟩
  unfold receive
  dsimp only
  rw [hevent]
  dsimp only
  have hlength (t : System) (b : Buf) (length : Int) :
      (t.withIbuf b).modify (fun c => { c with msgIbufLength := length }) =
        (t.modify fun c => { c with msgIbufLength := length }).withIbuf b :=
    modify_withIbuf t b rfl
  by_cases hempty : (netRecvEvent env ⟨0, 0⟩ s).1 ≠ 0
  · rw [if_pos hempty, if_pos hempty, hlength]
    exact ⟨b₁, rfl, fun hwhole => hagree₁ hwhole.1⟩
  rw [if_neg hempty, if_neg hempty, hlength]
  obtain ⟨b₂, hgeneral, hagree₂⟩ := netRecvGeneral_withIbuf env
    ((netRecvEvent env ⟨0, 0⟩ s).2.2.modify fun c =>
      { c with msgIbufLength := (netRecvEvent env ⟨0, 0⟩ s).1 }) b₁ (netRecvEvent env ⟨0, 0⟩ s).2.1
  rw [hgeneral]
  dsimp only
  rw [hlength]
  refine ⟨b₂, rfl, fun hwhole => hagree₂ ?_⟩
  -- the first reception has left the general queue alone
  intro i
  have hqueue := netRecvEvent_generalQ env s ⟨0, 0⟩
  rw [System.modify_ptpClock, hqueue]
  exact hwhole.2 i

/-- **A call of `handle` reads what has been received**: with another input buffer before, it does
the same as long as the octets of the datagram are the same after its reception, and they are when
its chain is whole. -/
theorem handle_withIbuf :
    ((receive env s).2.Received (receive env (s.withIbuf b)).2.ptpClock.msgIbuf →
      ∃ b', handle env (s.withIbuf b) = (handle env s).withIbuf b') ∧
    (s.ptpClock.netPath.Whole →
      (receive env s).2.Received (receive env (s.withIbuf b)).2.ptpClock.msgIbuf) := by
  obtain ⟨b', hreceive, hagree⟩ := receive_withIbuf env s b
  rw [hreceive]
  refine ⟨fun hreceived => ?_, hagree⟩
  unfold handle
  dsimp only
  rw [hreceive]
  by_cases hfails : s.ptpClock.messageActivity = false ∧ netSelect s.ptpClock.netPath < 0
  · have hfails' : (s.withIbuf b).ptpClock.messageActivity = false ∧
        netSelect (s.withIbuf b).ptpClock.netPath < 0 := hfails
    rw [if_pos hfails, if_pos hfails']
    exact ⟨b, toState_withIbuf s b env .faulty⟩
  have hfails' : ¬((s.withIbuf b).ptpClock.messageActivity = false ∧
      netSelect (s.withIbuf b).ptpClock.netPath < 0) := hfails
  rw [if_neg hfails, if_neg hfails']
  by_cases hquiet : s.ptpClock.messageActivity = false ∧ netSelect s.ptpClock.netPath = 0
  · have hquiet' : (s.withIbuf b).ptpClock.messageActivity = false ∧
        netSelect (s.withIbuf b).ptpClock.netPath = 0 := hquiet
    rw [if_pos hquiet, if_pos hquiet']
    exact ⟨b, rfl⟩
  have hquiet' : ¬((s.withIbuf b).ptpClock.messageActivity = false ∧
      netSelect (s.withIbuf b).ptpClock.netPath = 0) := hquiet
  rw [if_neg hquiet, if_neg hquiet']
  -- a datagram has been received, or none
  refine ⟨b', ite_withIbuf b' Iff.rfl (toState_withIbuf _ b' env .faulty) ?_⟩
  exact ite_withIbuf b' Iff.rfl rfl (process_withIbuf hreceived env _)

end Reception

/-- A port with a datagram in its queue that ends within an Announce. -/
def truncatedAnnounce : System :=
  (boot ptpdOpts).after
    (.doState plainEnv :: generalArrival ((announceOf (station 1 ptpdOpts)).take 40) (atSecond 1))

theorem handle_withIbuf_truncatedAnnounce :
    ∃ b', handle plainEnv (truncatedAnnounce.withIbuf fun _ => 0xFF) =
      (handle plainEnv truncatedAnnounce).withIbuf b' := by
  have hwhole : truncatedAnnounce.ptpClock.netPath.Whole := by
    unfold NetPath.Whole Pbuf.Whole
    decide +kernel
  obtain ⟨hsame, hreceived⟩ := handle_withIbuf plainEnv truncatedAnnounce fun _ => 0xFF
  exact hsame (hreceived hwhole)

end Ptpd

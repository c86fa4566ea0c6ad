import DiscoPtp.Properties.Matching

/-!
# Failed transmissions

`netSend` returns the length of the message on its failure paths too, so no sender ever sees a
failure: it counts the message, records a transmit time for it and lets the Follow_Up go out.

## Main definitions

* `Issue`, `Issue.run`: the calls of the senders
* `SequenceIds`, `Issue.count`: the counters, and the one a message has
* `ReportsFailure`, `SendsFaithfully`: what a failed transmission and a successful one must do

## Main results

* `run_sequenceIds`, `run_portState`: a sender counts the message and stays in its state, whatever
  becomes of the transmission
* `run_ptpClock_congr`: a failed transmission looks like one at the time of the call
* `send_faithful_iff`: a sender is faithful exactly when its transmission succeeds
-/

namespace Ptpd

/-! ## The senders -/

/-- A call of a sender. -/
inductive Issue
  | announce
  | sync
  | followup (time : TimeInternal)
  | delayReq
  | pdelayReq
  | delayResp (time : TimeInternal)
  | pdelayResp (time : TimeInternal)
  | pdelayRespFollowUp (time : TimeInternal)

namespace Issue

/-- The type of the message. -/
def type : Issue → MessageType
  | announce => .announce
  | sync => .sync
  | followup _ => .followUp
  | delayReq => .delayReq
  | pdelayReq => .pdelayReq
  | delayResp _ => .delayResp
  | pdelayResp _ => .pdelayResp
  | pdelayRespFollowUp _ => .pdelayRespFollowUp

/-- The length handed to `netSend`. -/
def length : Issue → Int
  | announce => announceLength
  | sync => syncLength
  | followup _ => followUpLength
  | delayReq => delayReqLength
  | pdelayReq => pdelayReqLength
  | delayResp _ => pdelayRespLength
  | pdelayResp _ => pdelayRespLength
  | pdelayRespFollowUp _ => pdelayRespFollowUpLength

/-- The call. -/
def run (env : Env) : Issue → System → System
  | announce => issueAnnounce env
  | sync => issueSync env
  | followup time => issueFollowup env time
  | delayReq => issueDelayReq env
  | pdelayReq => issuePDelayReq env
  | delayResp time => issueDelayResp env time
  | pdelayResp time => fun s => (issuePDelayResp env time s).2
  | pdelayRespFollowUp time => issuePDelayRespFollowUp env time

theorem length_ne_zero (i : Issue) : i.length ≠ 0 := by
  cases i <;> first
    | exact (by decide : (44 : Int) ≠ 0)
    | exact (by decide : (54 : Int) ≠ 0)
    | exact (by decide : (64 : Int) ≠ 0)

end Issue

/-- The counters of the messages that a port sends on its own. -/
structure SequenceIds where
  announce : Int16
  sync : Int16
  delayReq : Int16
  pdelayReq : Int16

/-- The counters of a state. -/
def System.sequenceIds (s : System) : SequenceIds :=
  { announce := s.ptpClock.sentAnnounceSequenceId
    sync := s.ptpClock.sentSyncSequenceId
    delayReq := s.ptpClock.sentDelayReqSequenceId
    pdelayReq := s.ptpClock.sentPDelayReqSequenceId }

/-- One message more. Follow-ups and responses take their sequence id from another message. -/
def Issue.count (ids : SequenceIds) : Issue → SequenceIds
  | announce => { ids with announce := ids.announce + 1 }
  | sync => { ids with sync := ids.sync + 1 }
  | delayReq => { ids with delayReq := ids.delayReq + 1 }
  | pdelayReq => { ids with pdelayReq := ids.pdelayReq + 1 }
  | _ => ids

/-- Whether the stack has taken the message. -/
def SendOutcome.Handed (outcome : SendOutcome) : Prop := ∃ stamp, outcome = .sent stamp

/-- **A failure is reported**: `netSend` returns zero, and the sender changes no counter and no
request timestamp, sends no Follow_Up for the message and takes the port to `PTP_FAULTY`. -/
structure ReportsFailure (env : Env) (i : Issue) (s : System) : Prop where
  returned : ∀ time u, (netSend env i.type i.length time u).1 = 0
  sequenceIds : (i.run env s).sequenceIds = s.sequenceIds
  delayReqSend : (i.run env s).ptpClock.timestampDelayReqSend = s.ptpClock.timestampDelayReqSend
  pdelayT1 : (i.run env s).ptpClock.pdelayT1 = s.ptpClock.pdelayT1
  followUp : i = .sync →
    requestCount .followUp (i.run env s).history = requestCount .followUp s.history
  faulty : (i.run env s).portState = .faulty

/-- **A sender is faithful**: it reports a failure, and it counts a message that the stack has
taken exactly once. -/
def SendsFaithfully (env : Env) (i : Issue) (s : System) : Prop :=
  (¬(env.send i.type).Handed → ReportsFailure env i s) ∧
    ((env.send i.type).Handed → (i.run env s).sequenceIds = i.count s.sequenceIds)

/-! ## What the senders do -/

section Senders

variable (env : Env) (s : System)

@[simp] theorem sentPacket_sequenceIds (type : MessageType) (length : Int)
    (pack : PtpClock → Buf) : (sentPacket env type length pack s).sequenceIds = s.sequenceIds := rfl

@[simp] theorem sentPacket_portState (type : MessageType) (length : Int) (pack : PtpClock → Buf) :
    (sentPacket env type length pack s).portState = s.portState := rfl

/-- The Follow_Up of a Sync changes no counter and no state of the port. -/
theorem issueSync_kept :
    (issueSync env s).sequenceIds = (sentSync env s).sequenceIds ∧
      (issueSync env s).portState = (sentSync env s).portState := by
  rw [issueSync_eq]
  split
  · rw [issueFollowup_eq, sentPacket_sequenceIds, sentPacket_portState]
    exact ⟨rfl, rfl⟩
  · exact ⟨rfl, rfl⟩

/-- **Every sender counts its message**, whatever becomes of the transmission. -/
theorem run_sequenceIds (i : Issue) : (i.run env s).sequenceIds = i.count s.sequenceIds := by
  cases i with
  | announce =>
    show (issueAnnounce env s).sequenceIds = _
    rw [issueAnnounce_eq]
    rfl
  | sync =>
    show (issueSync env s).sequenceIds = _
    rw [(issueSync_kept env s).1]
    rfl
  | delayReq =>
    show (issueDelayReq env s).sequenceIds = _
    rw [issueDelayReq_eq]
    rfl
  | pdelayReq =>
    show (issuePDelayReq env s).sequenceIds = _
    rw [issuePDelayReq_eq]
    rfl
  | pdelayResp time =>
    show (issuePDelayResp env time s).2.sequenceIds = _
    rw [issuePDelayResp_eq]
    rfl
  | followup time => rfl
  | delayResp time => rfl
  | pdelayRespFollowUp time => rfl

/-- No sender leaves the state of the port. -/
theorem run_portState (i : Issue) : (i.run env s).portState = s.portState := by
  cases i with
  | announce =>
    show (issueAnnounce env s).portState = _
    rw [issueAnnounce_eq]
    rfl
  | sync =>
    show (issueSync env s).portState = _
    rw [(issueSync_kept env s).2]
    rfl
  | delayReq =>
    show (issueDelayReq env s).portState = _
    rw [issueDelayReq_eq]
    rfl
  | pdelayReq =>
    show (issuePDelayReq env s).portState = _
    rw [issuePDelayReq_eq]
    rfl
  | pdelayResp time =>
    show (issuePDelayResp env time s).2.portState = _
    rw [issuePDelayResp_eq]
    rfl
  | followup time => rfl
  | delayResp time => rfl
  | pdelayRespFollowUp time => rfl

/-- The time that a sender hands to `netSend`: responses pass on the time they are given. -/
def Issue.timeBefore (s : System) : Issue → TimeInternal
  | pdelayResp time => time
  | _ => getTime s

/-- **A failed transmission looks like a successful one**: what a sender leaves in the `PtpClock`
depends on the outcome only by the transmit time, which after a failure is the time of the call. -/
theorem run_ptpClock_congr {env env' : Env} (i : Issue) (s : System)
    (hstamp : env.localTimestamp = env'.localTimestamp)
    (h : egressTime env i.type (i.timeBefore s) = egressTime env' i.type (i.timeBefore s)) :
    (i.run env s).ptpClock = (i.run env' s).ptpClock := by
  have horigin : originNow env s = originNow env' s := by rw [originNow, originNow, hstamp]
  cases i with
  | announce => rfl
  | sync =>
    have hsync : (sentSync env s).ptpClock = (sentSync env' s).ptpClock := by
      unfold sentSync sentPacket
      rw [horigin]
      rfl
    have htime : egressTime env .sync (getTime s) = egressTime env' .sync (getTime s) := h
    show (issueSync env s).ptpClock = (issueSync env' s).ptpClock
    rw [issueSync_eq, issueSync_eq, htime]
    split
    · rw [issueFollowup_eq, issueFollowup_eq, hstamp]
      unfold sentPacket
      rw [System.log_ptpClock, System.log_ptpClock, System.modify_ptpClock,
        System.modify_ptpClock, hsync]
    · exact hsync
  | delayReq =>
    have htime : egressTime env .delayReq (getTime s) = egressTime env' .delayReq (getTime s) := h
    show (issueDelayReq env s).ptpClock = (issueDelayReq env' s).ptpClock
    rw [issueDelayReq_eq, issueDelayReq_eq, htime, horigin]
    rfl
  | pdelayReq =>
    have htime : egressTime env .pdelayReq (getTime s) = egressTime env' .pdelayReq (getTime s) :=
      h
    show (issuePDelayReq env s).ptpClock = (issuePDelayReq env' s).ptpClock
    rw [issuePDelayReq_eq, issuePDelayReq_eq, htime, horigin]
    rfl
  | pdelayResp time =>
    show (issuePDelayResp env time s).2.ptpClock = (issuePDelayResp env' time s).2.ptpClock
    rw [issuePDelayResp_eq, issuePDelayResp_eq, hstamp]
    rfl
  | followup time =>
    show (issueFollowup env time s).ptpClock = (issueFollowup env' time s).ptpClock
    rw [issueFollowup_eq, issueFollowup_eq, hstamp]
    rfl
  | delayResp time =>
    show (issueDelayResp env time s).ptpClock = (issueDelayResp env' time s).ptpClock
    rw [issueDelayResp_eq, issueDelayResp_eq, hstamp]
    rfl
  | pdelayRespFollowUp time =>
    show (issuePDelayRespFollowUp env time s).ptpClock =
      (issuePDelayRespFollowUp env' time s).ptpClock
    rw [issuePDelayRespFollowUp_eq, issuePDelayRespFollowUp_eq, hstamp]
    rfl

end Senders

/-- **A sender is faithful** exactly when its transmission succeeds. -/
theorem send_faithful_iff (env : Env) (i : Issue) (s : System) :
    SendsFaithfully env i s ↔ (env.send i.type).Handed := by
  constructor
  · rintro ⟨hfailed, -⟩
    by_contra hnot
    -- `netSend` returns the length of the message
    exact i.length_ne_zero ((hfailed hnot).returned ⟨0, 0⟩ s)
  · intro hsent
    exact ⟨fun hnot => absurd hsent hnot, fun _ => run_sequenceIds env s i⟩

/-- A master whose Announce could not be sent has counted it and stays a master. -/
theorem send_failure_ignored :
    ¬∀ (rtOpts : RunTimeOpts) (s : System), Reachable rtOpts s →
      ∀ (env : Env) (i : Issue), SendsFaithfully env i s := by
  intro h
  have hfaithful := h peerOpts peerMaster ((boot_reachable peerOpts).after _) plainEnv .announce
  have hfailed : ¬(plainEnv.send (Issue.type .announce)).Handed := by
    rintro ⟨stamp, hsent⟩
    cases hsent
  have hfaulty := (hfaithful.1 hfailed).faulty
  rw [run_portState, peerMaster_idle.portState] at hfaulty
  cases hfaulty

end Ptpd

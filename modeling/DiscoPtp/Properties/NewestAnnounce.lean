import DiscoPtp.Properties.ForeignMasters
import DiscoPtp.Properties.Calibration

/-!
# The newest Announce of the parent

An Announce of the parent goes straight into the data sets, by `s1`; one of any other master goes
into the foreign master data set. The state decision that follows both reads only the foreign master
data set, and a parent that is kept is written into the data sets once more, from its record there.
So the newest Announce rules if and only if that record says the same.

## Main definitions

* `AnnouncedData`, `System.announced`: what the data sets take from an Announce
* `ForeignMasterDS.Says`: the records of a master say what an Announce of it says
* `parentAnnounceCall`: the Announce of the parent that a call of `doState` handles
* `System.KeepsParent`: the port is still recommended to follow a master

## Main results

* `doState_parentAnnounce`: a call that handles an Announce of the parent
* `kept_parent_announced`: the next call
-/

namespace Ptpd

open Relation (ReflTransGen)

/-! ## What an Announce says -/

/-- What the data sets take from an Announce. -/
structure AnnouncedData where
  stepsRemoved : Int16
  grandmasterIdentity : ClockIdentity
  grandmasterClockQuality : ClockQuality
  grandmasterPriority1 : UInt8
  grandmasterPriority2 : UInt8
  timePropertiesDS : TimePropertiesDS
  deriving DecidableEq

/-- What an Announce and the flags of its header say. -/
def announcedBy (header : MsgHeader) (announce : MsgAnnounce) : AnnouncedData :=
  { stepsRemoved := announce.stepsRemoved + 1
    grandmasterIdentity := announce.grandmasterIdentity
    grandmasterClockQuality := announce.grandmasterClockQuality
    grandmasterPriority1 := announce.grandmasterPriority1
    grandmasterPriority2 := announce.grandmasterPriority2
    timePropertiesDS :=
      { currentUtcOffset := announce.currentUtcOffset
        currentUtcOffsetValid := getFlag header.flagField1 flag1UtcOffsetValid
        leap59 := getFlag header.flagField1 flag1Leap59
        leap61 := getFlag header.flagField1 flag1Leap61
        timeTraceable := getFlag header.flagField1 flag1TimeTraceable
        frequencyTraceable := getFlag header.flagField1 flag1FrequencyTraceable
        ptpTimescale := getFlag header.flagField1 flag1PtpTimescale
        timeSource := announce.timeSource } }

/-- The parent, and what the data sets say about it. -/
def System.announced (s : System) : PortIdentity × AnnouncedData :=
  (s.ptpClock.parentDS.parentPortIdentity,
    { stepsRemoved := s.ptpClock.currentDS.stepsRemoved
      grandmasterIdentity := s.ptpClock.parentDS.grandmasterIdentity
      grandmasterClockQuality := s.ptpClock.parentDS.grandmasterClockQuality
      grandmasterPriority1 := s.ptpClock.parentDS.grandmasterPriority1
      grandmasterPriority2 := s.ptpClock.parentDS.grandmasterPriority2
      timePropertiesDS := s.ptpClock.timePropertiesDS })

/-- There is a record of the sender, and every record of the sender says what this Announce says. -/
def ForeignMasterDS.Says (ds : ForeignMasterDS) (header : MsgHeader) (announce : MsgAnnounce) :
    Prop :=
  (∃ j < ds.count, (ds.records j).header.sourcePortIdentity = header.sourcePortIdentity) ∧
    ∀ j < ds.count, (ds.records j).header.sourcePortIdentity = header.sourcePortIdentity →
      announcedBy (ds.records j).header (ds.records j).announce = announcedBy header announce

/-! ## What leaves the data sets alone -/

section Frame

variable (env : Env) (time : TimeInternal) (fromSelf : Bool) (s : System)

theorem initClock_announced : (initClock s).announced = s.announced := by
  obtain ⟨_, _, h, -⟩ := initClock_eq s
  rw [h]
  rfl

theorem leaveFollower_announced : (leaveFollower s).announced = s.announced := by
  unfold leaveFollower
  dsimp only
  rw [initClock_announced]
  split
  · rfl
  · rfl
  · rfl

theorem leaveState_announced (state : PtpState) :
    (leaveState state s).announced = s.announced := by
  have hstay : (if state = .uncalibrated ∨ state = .slave then s else leaveFollower s).announced =
      s.announced := by
    split
    · rfl
    · exact leaveFollower_announced s
  unfold leaveState
  split
  · exact initClock_announced s
  · exact hstay
  · exact hstay
  · exact initClock_announced s
  · exact initClock_announced s
  · exact initClock_announced s
  · rfl

theorem enterState_announced (state : PtpState) :
    (enterState env state s).announced = s.announced := by
  have hmaster : (enterMaster env s).announced = s.announced := by
    unfold enterMaster
    dsimp only
    split
    · rfl
    · rfl
  cases state with
  | preMaster => exact hmaster
  | master => exact hmaster
  | passive =>
    show (enterPassive env s).announced = s.announced
    unfold enterPassive
    dsimp only
    split
    · rfl
    · rfl
  | uncalibrated =>
    show (enterUncalibrated env s).announced = s.announced
    unfold enterUncalibrated
    dsimp only
    split
    · rfl
    · rfl
    · rfl
  | _ => rfl

theorem toState_announced (state : PtpState) : (toState env state s).announced = s.announced :=
  (enterState_announced env _ state).trans (leaveState_announced _ state)

/-- The second switch only changes the port state. -/
theorem followRecommendation_announced :
    (followRecommendation env s).announced = s.announced := by
  have hselected : (onMasterClockSelected env s).announced = s.announced := by
    unfold onMasterClockSelected
    split
    · exact toState_announced env _ .slave
    · rfl
  have hfault : (onSynchronizationFault env s).announced = s.announced := by
    unfold onSynchronizationFault
    split
    · exact toState_announced env _ .uncalibrated
    · rfl
  have huncalibrated : (followSlaveUncalibrated env s).announced = s.announced := by
    unfold followSlaveUncalibrated
    dsimp only
    split
    · exact hselected
    · exact hselected
  have hslave : (followSlaveSlave env s).announced = s.announced := by
    unfold followSlaveSlave
    dsimp only
    split
    · exact (toState_announced env _ .uncalibrated).trans hfault
    · exact hfault
  unfold followRecommendation
  split
  · split
    · dsimp only
      split
      · exact toState_announced env _ .master
      · rfl
    · rfl
    · exact toState_announced env s .preMaster
  · split
    · exact toState_announced env s .passive
    · rfl
  · split
    · exact huncalibrated
    · exact hslave
    · exact toState_announced env s .uncalibrated
  · split
    · exact toState_announced env s .listening
    · rfl
  · rfl

theorem interrupts_announced (is : List Interrupt) : (is.foldl interrupt s).announced =
    s.announced := by
  obtain ⟨_, h⟩ := interrupts_ptpClock is s
  unfold System.announced
  rw [h]

theorem switchCall_announced : (switchCall env s).announced =
    (stateDecision (s.setMessageActivity false)).announced :=
  (interrupts_announced _ _).trans (followRecommendation_announced env _)

theorem sentPacket_announced (type : MessageType) (length : Int) (pack : PtpClock → Buf) :
    (sentPacket env type length pack s).announced = s.announced := rfl

theorem issueDelayReqTimerExpired_announced :
    (issueDelayReqTimerExpired env s).announced = s.announced := by
  unfold issueDelayReqTimerExpired
  split
  · split
    · rfl
    dsimp only
    split
    · rw [issueDelayReq_eq]
      rfl
    · rfl
  · dsimp only
    split
    · rw [issuePDelayReq_eq]
      rfl
    · rfl
  · rfl

theorem adjTime_announced (adj : Int32) : (adjTime adj s).announced = s.announced := by
  obtain ⟨_, h⟩ := adjTime_eq adj s
  rw [h]
  rfl

theorem updateClock_announced : (updateClock s).announced = s.announced := by
  unfold updateClock
  split
  · split
    · rfl
    split
    · exact adjTime_announced s _
    · exact initClock_announced _
  · dsimp only
    split
    · rfl
    · exact adjTime_announced _ _

theorem useSync_announced : (useSync env time s).announced = s.announced := by
  obtain ⟨_, _, _, _, _, _, _, -, h⟩ := syncOffset_eq env time s
  refine (updateClock_announced _).trans ?_
  rw [h]
  rfl

theorem useFollowUp_announced : (useFollowUp env s).announced = s.announced := by
  obtain ⟨_, _, _, _, _, _, -, h⟩ := followUpOffset_eq env s
  refine (updateClock_announced _).trans ?_
  rw [h]
  rfl

theorem useDelayResp_announced : (useDelayResp s).announced = s.announced := by
  obtain ⟨_, _, _, _, _, _, -, h⟩ := useDelayResp_eq s
  rw [h]
  rfl

theorem answerPDelayReq_announced :
    (answerPDelayReq env time fromSelf s).announced = s.announced := by
  unfold answerPDelayReq
  dsimp only
  rw [issuePDelayResp_eq, issuePDelayRespFollowUp_eq]
  split
  · rfl
  split
  · rw [sentPacket_announced, sentPacket_announced]
  · rw [sentPacket_announced]


end Frame

/-! ## The handlers -/

/-- The Announce of the parent that `handleAnnounce` takes over, with its header. -/
def handleAnnounceOfParent (fromSelf : Bool) (s : System) : Option (MsgHeader × MsgAnnounce) :=
  if s.ptpClock.msgIbufLength < announceLength then none
  else if fromSelf then none
  else
    match s.portState with
    | .uncalibrated | .slave =>
      if isFromCurrentParent s.ptpClock then
        some (s.ptpClock.msgTmpHeader, msgUnpackAnnounce s.ptpClock.msgIbuf)
      else none
    | _ => none

/-- The Announce of the parent that `handle` takes over, from the reception of a message on. -/
def processAnnounceOfParent (s : System) : Option (MsgHeader × MsgAnnounce) :=
  let s := s.setMessageActivity true
  if s.ptpClock.msgIbufLength < headerLength then none
  else
    let s := unpackHeader s
    let c := s.ptpClock
    if c.msgTmpHeader.versionPTP ≠ c.portDS.versionNumber then none
    else if c.msgTmpHeader.domainNumber ≠ c.defaultDS.domainNumber then none
    else if MessageType.ofCode c.msgTmpHeader.messageType = some .announce then
      handleAnnounceOfParent (isFromSelf c) s
    else none

/-- The Announce of the parent that `handle` takes over. -/
def parentAnnounce (env : Env) (s : System) : Option (MsgHeader × MsgAnnounce) :=
  let ret := netSelect s.ptpClock.netPath
  if s.ptpClock.messageActivity = false ∧ ret < 0 then none
  else if s.ptpClock.messageActivity = false ∧ ret = 0 then none
  else
    let r := receive env s
    if r.2.ptpClock.msgIbufLength < 0 then none
    else if r.2.ptpClock.msgIbufLength = 0 then none
    else processAnnounceOfParent r.2

/-- The Announce of the parent that a call of `doState` handles: one of the right version, domain
and length, while the port follows a master. -/
def parentAnnounceCall (env : Env) (s : System) : Option (MsgHeader × MsgAnnounce) :=
  (handleCall env (switchCall env s)).bind (parentAnnounce env)

section Handlers

variable (env : Env) (time : TimeInternal) (fromSelf : Bool) (s : System)

theorem handleAnnounce_announced (h : handleAnnounceOfParent fromSelf s = none) :
    (handleAnnounce env fromSelf s).announced = s.announced := by
  have hfollow (hp : ¬isFromCurrentParent s.ptpClock) :
      (followAnnounce s).announced = s.announced := by
    have hother : ¬isFromCurrentParent (takeAnnounce s).ptpClock := hp
    unfold followAnnounce
    dsimp only
    rw [if_neg hother]
    rfl
  unfold handleAnnounceOfParent at h
  unfold handleAnnounce
  split
  · exact toState_announced env s .faulty
  next hlen =>
  rw [if_neg hlen] at h
  split
  · rfl
  next hself =>
  rw [if_neg hself] at h
  cases hstate : s.portState with
  | uncalibrated =>
    rw [hstate] at h
    exact hfollow fun hp => by simp [hp] at h
  | slave =>
    rw [hstate] at h
    exact hfollow fun hp => by simp [hp] at h
  | passive => rfl
  | _ => rfl

theorem handleSync_announced : (handleSync env time fromSelf s).announced = s.announced := by
  have hfollow : (followSync env time fromSelf s).announced = s.announced := by
    unfold followSync
    split
    · rfl
    split
    · rfl
    split
    · rfl
    · exact (issueDelayReqTimerExpired_announced env _).trans (useSync_announced env time s)
  unfold handleSync
  split
  · exact toState_announced env s .faulty
  split
  · exact hfollow
  · exact hfollow
  · exact issueDelayReqTimerExpired_announced env s
  · rfl

theorem handleFollowUp_announced : (handleFollowUp env fromSelf s).announced = s.announced := by
  have htake : (takeFollowUp env s).announced = s.announced := by
    unfold takeFollowUp
    split
    · exact (issueDelayReqTimerExpired_announced env _).trans (useFollowUp_announced env s)
    · rfl
  unfold handleFollowUp
  split
  · exact toState_announced env s .faulty
  split
  · rfl
  split
  · exact htake
  · exact htake
  · exact issueDelayReqTimerExpired_announced env s
  · rfl

theorem handleDelayReq_announced : (handleDelayReq env time s).announced = s.announced := by
  unfold handleDelayReq
  split
  · split
    · exact toState_announced env s .faulty
    split
    · rfl
    · rfl
  · rfl

theorem handleDelayResp_announced : (handleDelayResp env s).announced = s.announced := by
  have htake : (takeDelayResp s).announced = s.announced := by
    unfold takeDelayResp
    split
    · exact useDelayResp_announced s
    · rfl
  unfold handleDelayResp
  split
  · split
    · exact toState_announced env s .faulty
    split
    · exact htake
    · exact htake
    · rfl
  · rfl

theorem handlePDelayReq_announced :
    (handlePDelayReq env time fromSelf s).announced = s.announced := by
  have hanswer := answerPDelayReq_announced env time fromSelf s
  unfold handlePDelayReq
  split
  · split
    · exact toState_announced env s .faulty
    split
    · exact hanswer
    · exact hanswer
    · exact hanswer
    · rfl
  · rfl

theorem handlePDelayResp_announced :
    (handlePDelayResp env time fromSelf s).announced = s.announced := by
  have htake : (takePDelayResp env time fromSelf s).announced = s.announced := by
    unfold takePDelayResp
    split
    · rfl
    split
    · split
      · obtain ⟨_, _, _, -, h⟩ := storePDelayResp_eq env time s
        rw [h]
        rfl
      · obtain ⟨_, _, _, h⟩ := usePDelayResp_eq time s
        rw [h]
        rfl
    · rfl
  unfold handlePDelayResp
  split
  · split
    · exact toState_announced env s .faulty
    split
    · exact htake
    · exact htake
    · rfl
  · rfl

theorem handlePDelayRespFollowUp_announced :
    (handlePDelayRespFollowUp env s).announced = s.announced := by
  have htake : (takePDelayRespFollowUp env s).announced = s.announced := by
    unfold takePDelayRespFollowUp
    split
    · obtain ⟨_, _, _, _, _, -, h⟩ := usePDelayRespFollowUp_eq env s
      rw [h]
      rfl
    · rfl
  unfold handlePDelayRespFollowUp
  split
  · split
    · exact toState_announced env s .faulty
    split
    · exact htake
    · exact htake
    · rfl
  · rfl

/-- The messages that are no Announces leave the data sets as they are. -/
theorem dispatch_announced
    (h : MessageType.ofCode s.ptpClock.msgTmpHeader.messageType ≠ some .announce) :
    (dispatch env time fromSelf s).announced = s.announced := by
  unfold dispatch
  split
  next hann => exact absurd hann h
  · exact handleSync_announced env time fromSelf _
  · exact handleFollowUp_announced env fromSelf s
  · exact handleDelayReq_announced env time _
  · exact handlePDelayReq_announced env time fromSelf _
  · exact handleDelayResp_announced env s
  · exact handlePDelayResp_announced env time fromSelf _
  · exact handlePDelayRespFollowUp_announced env s
  · rfl
  · rfl
  · rfl

theorem process_announced (h : processAnnounceOfParent s = none) :
    (process env time s).announced = s.announced := by
  unfold processAnnounceOfParent unpackHeader at h
  unfold process
  dsimp only at h ⊢
  split
  · exact toState_announced env _ .faulty
  next hheader =>
  rw [if_neg hheader] at h
  split
  · rfl
  next hversion =>
  rw [if_neg hversion] at h
  split
  · rfl
  next hdomain =>
  rw [if_neg hdomain] at h
  split at h
  next hann =>
    unfold dispatch
    rw [show MessageType.ofCode _ = some MessageType.announce from hann]
    exact handleAnnounce_announced env _ _ h
  next hother => exact dispatch_announced env _ _ _ hother

/-- Without an Announce of the parent, `handle` leaves the data sets as they are. -/
theorem handle_announced (h : parentAnnounce env s = none) :
    (handle env s).announced = s.announced := by
  have hreceive : (receive env s).2.announced = s.announced := by
    obtain ⟨_, _, _, _, _, heq⟩ := (receive_receives env s).ptpClock
    unfold System.announced
    rw [heq]
  unfold parentAnnounce at h
  unfold handle
  dsimp only at h ⊢
  split
  · exact toState_announced env s .faulty
  next hfailed =>
  rw [if_neg hfailed] at h
  split
  · rfl
  next hempty =>
  rw [if_neg hempty] at h
  split
  · exact (toState_announced env _ .faulty).trans hreceive
  next hnegative =>
  rw [if_neg hnegative] at h
  split
  · exact hreceive
  next hzero =>
  rw [if_neg hzero] at h
  exact (process_announced env _ _ h).trans hreceive

end Handlers

/-! ## An Announce of the parent -/

section ParentAnnounce

variable {env : Env} {s : System} {header : MsgHeader} {announce : MsgAnnounce}

theorem handleAnnounceOfParent_spec (env : Env) {fromSelf : Bool}
    (h : handleAnnounceOfParent fromSelf s = some (header, announce)) :
    s.portState.Following ∧ isFromCurrentParent s.ptpClock ∧ s.ptpClock.msgTmpHeader = header ∧
      msgUnpackAnnounce s.ptpClock.msgIbuf = announce ∧
      handleAnnounce env fromSelf s = followAnnounce s := by
  have hparent (hp : (if isFromCurrentParent s.ptpClock then
      some (s.ptpClock.msgTmpHeader, msgUnpackAnnounce s.ptpClock.msgIbuf) else none) =
        some (header, announce)) :
      isFromCurrentParent s.ptpClock ∧ s.ptpClock.msgTmpHeader = header ∧
        msgUnpackAnnounce s.ptpClock.msgIbuf = announce := by
    split at hp
    next hfrom => exact ⟨hfrom, by simpa using hp⟩
    · cases hp
  unfold handleAnnounceOfParent at h
  unfold handleAnnounce
  split at h
  · cases h
  next hlen =>
  split at h
  · cases h
  next hself =>
  rw [if_neg hlen, if_neg hself]
  split at h
  next hstate =>
    obtain ⟨hp, hheader, hannounce⟩ := hparent h
    exact ⟨.inl hstate, hp, hheader, hannounce, by rw [hstate]⟩
  next hstate =>
    obtain ⟨hp, hheader, hannounce⟩ := hparent h
    exact ⟨.inr hstate, hp, hheader, hannounce, by rw [hstate]⟩
  · cases h

/-- What `handle` does with an Announce of the parent. -/
theorem parentAnnounce_spec (h : parentAnnounce env s = some (header, announce)) :
    ∃ u, Receives s u ∧ u.portState.Following ∧ isFromCurrentParent u.ptpClock ∧
      u.ptpClock.msgTmpHeader = header ∧ msgUnpackAnnounce u.ptpClock.msgIbuf = announce ∧
      handle env s = followAnnounce u := by
  unfold parentAnnounce at h
  dsimp only at h
  split at h
  · cases h
  next hfailed =>
  split at h
  · cases h
  next hempty =>
  split at h
  · cases h
  next hnegative =>
  split at h
  · cases h
  next hzero =>
  have hhandle : handle env s = process env (receive env s).1 (receive env s).2 := by
    unfold handle
    dsimp only
    rw [if_neg hfailed, if_neg hempty, if_neg hnegative, if_neg hzero]
  unfold processAnnounceOfParent at h
  dsimp only at h
  split at h
  · cases h
  next hheader =>
  split at h
  · cases h
  next hversion =>
  split at h
  · cases h
  next hdomain =>
  split at h
  next hann =>
    obtain ⟨hf, hp, hh, ha, htaken⟩ := handleAnnounceOfParent_spec env h
    refine ⟨_, (receive_receives env s).trans ((messageActivity_receives true _).trans
      (unpackHeader_receives _)), hf, hp, hh, ha, ?_⟩
    rw [hhandle, ← htaken]
    unfold process
    dsimp only
    rw [if_neg hheader]
    unfold unpackHeader at hversion hdomain hann ⊢
    rw [if_neg hversion, if_neg hdomain]
    unfold dispatch
    rw [hann]
  · cases h

end ParentAnnounce

/-! ## Two calls -/

section Runs

variable {rtOpts : RunTimeOpts} {env : Env} {s u : System} {header : MsgHeader}
  {announce : MsgAnnounce}

/-- The port is still recommended to be a slave of the sender of the Announce. -/
def System.KeepsParent (s : System) (header : MsgHeader) : Prop :=
  s.recommendedState = .slave ∧
    s.ptpClock.parentDS.parentPortIdentity = header.sourcePortIdentity

/-- The port state, the data sets and the recommendation are the same. -/
def System.Keeps (s u : System) : Prop :=
  u.portState = s.portState ∧ u.announced = s.announced ∧ u.recommendedState = s.recommendedState

theorem System.Keeps.trans {t : System} (h : s.Keeps t) (h' : t.Keeps u) : s.Keeps u :=
  ⟨h'.1.trans h.1, h'.2.1.trans h.2.1, h'.2.2.trans h.2.2⟩

theorem pause_kept (env : Env) (point : Pause) (s : System) : s.Keeps (pause env point s) := by
  obtain ⟨netPath, heq⟩ := pause_ptpClock env point s
  unfold System.Keeps System.portState System.announced System.recommendedState
  rw [heq]
  exact ⟨rfl, rfl, rfl⟩

theorem syncTimerActions_kept (env : Env) (s : System) : s.Keeps (syncTimerActions env s) := by
  unfold syncTimerActions
  dsimp only
  rw [issueSync_eq, issueFollowup_eq]
  split
  · split <;> exact ⟨rfl, rfl, rfl⟩
  · exact ⟨rfl, rfl, rfl⟩

theorem announceTimerActions_kept (env : Env) (s : System) :
    s.Keeps (announceTimerActions env s) := by
  unfold announceTimerActions
  dsimp only
  rw [issueAnnounce_eq]
  split <;> exact ⟨rfl, rfl, rfl⟩

/-- What precedes `handle` in the third switch changes neither the port state nor the data sets. -/
theorem handleCall_kept (h : handleCall env s = some u) : s.Keeps u := by
  unfold handleCall at h
  split at h
  · rw [← Option.some.inj h]
    exact ⟨rfl, rfl, rfl⟩
  case h_6 hs =>
    rw [← Option.some.inj h]
    have hsync := (syncTimerActions_kept env s).trans (pause_kept env .announceTimer _)
    exact (hsync.trans (announceTimerActions_kept env _)).trans (pause_kept env .handling _)
  case h_7 => cases h
  all_goals
    dsimp only at h
    split at h
    · cases h
    · rw [← Option.some.inj h]
      exact pause_kept env .handling (timerExpired .announceReceipt s).2

theorem followAnnounce_parent (hp : isFromCurrentParent s.ptpClock) :
    (followAnnounce s).announced = (s.ptpClock.msgTmpHeader.sourcePortIdentity,
        announcedBy s.ptpClock.msgTmpHeader (msgUnpackAnnounce s.ptpClock.msgIbuf)) ∧
      (followAnnounce s).portState = s.portState ∧
      (followAnnounce s).ptpClock.events.stateDecisionEvent = true ∧
      (followAnnounce s).ptpClock.foreignMasterDS = s.ptpClock.foreignMasterDS := by
  have hparent : isFromCurrentParent (takeAnnounce s).ptpClock := hp
  have hsame : isSamePortIdentity (takeAnnounce s).ptpClock.parentDS.parentPortIdentity
      (takeAnnounce s).ptpClock.msgTmpHeader.sourcePortIdentity = true := hp
  unfold followAnnounce
  dsimp only
  rw [if_pos hparent]
  refine ⟨rfl, rfl, ?_, rfl⟩
  -- the Announce of the parent is no change of the master clock
  show (if isSamePortIdentity _ _ then _ else _ : Events).stateDecisionEvent = true
  rw [if_pos hsame]
  rfl

/-- **A call that handles an Announce of the parent** takes it over into the data sets and asks for
a state decision; the foreign master data set keeps its records. -/
theorem doState_parentAnnounce (h : s.engine.Settled)
    (hcall : parentAnnounceCall env s = some (header, announce)) :
    (doState env s).portState.Following ∧
      (doState env s).ptpClock.events.stateDecisionEvent = true ∧
      (doState env s).announced = (header.sourcePortIdentity, announcedBy header announce) ∧
      (doState env s).ptpClock.foreignMasterDS.records = s.ptpClock.foreignMasterDS.records ∧
      (doState env s).ptpClock.foreignMasterDS.count = s.ptpClock.foreignMasterDS.count := by
  obtain ⟨v, hv, hann⟩ := Option.bind_eq_some_iff.mp hcall
  obtain ⟨u, hu, hf, hp, hh, ha, hhandle⟩ := parentAnnounce_spec hann
  -- the port waits for Announces, so the third switch ends with `handle`
  have hawait : (switchCall env s).portState.Awaiting := by
    rw [← (handleCall_kept hv).1, ← hu.portState]
    rcases hf with hf | hf <;> rw [hf] <;> decide
  have hdo : doState env s = followAnnounce u := by
    rw [doState_eq, (portActions_of_handleCall hawait hv).2, hhandle]
  have hstore : u.ptpClock.foreignMasterDS = (switchCall env s).ptpClock.foreignMasterDS := by
    obtain ⟨_, _, _, _, _, heq⟩ := hu.ptpClock
    rw [heq]
    exact handleCall_foreignMasterDS hv
  obtain ⟨hrecords, hcount⟩ := switchCall_foreignMasterDS env h
  obtain ⟨hannounced, hstate, hevent, hds⟩ := followAnnounce_parent hp
  rw [hdo, hds, hstore, hstate, hannounced, hh, ha]
  exact ⟨hf, hevent, rfl, hrecords, hcount⟩

/-- The state decision that recommends to follow takes over the best record. -/
theorem takeDecision_slave (hslave : (takeDecision (bmc u.ptpClock) u).recommendedState = .slave) :
    (takeDecision (bmc u.ptpClock) u).announced =
      ((bestRecord u.ptpClock).header.sourcePortIdentity,
        announcedBy (bestRecord u.ptpClock).header (bestRecord u.ptpClock).announce) := by
  have hnot {state : PtpState} {c : PtpClock} (hne : state ≠ .slave)
      (h : bmc u.ptpClock = (state, c)) : False := by
    rw [h] at hslave
    unfold takeDecision at hslave
    dsimp only at hslave
    split at hslave
    · cases hslave
    · exact hne hslave
  rcases bmc_cases u.ptpClock with ⟨-, -, h⟩ | h | ⟨-, h⟩ | ⟨-, h⟩
  · exact (hnot (by decide) h).elim
  · exact (hnot (by decide) h).elim
  · exact (hnot (by decide) h).elim
  · rw [h]
    unfold takeDecision
    dsimp only
    rw [if_neg (by rintro ⟨hm | hm, -⟩ <;> cases hm)]
    rfl

/-- The second switch keeps the recommendation. -/
theorem switchCall_recommendedState (env : Env) (h : s.engine.Settled) :
    (switchCall env s).recommendedState =
      (stateDecision (s.setMessageActivity false)).recommendedState := by
  have hdecided := h.decides (stateDecision_decides (s.setMessageActivity false))
  have hstate : (stateDecision (s.setMessageActivity false)).portState ≠ .preMaster := by
    intro heq
    have hworking := hdecided.working
    change (stateDecision (s.setMessageActivity false)).portState.Operating ∨
      (stateDecision (s.setMessageActivity false)).portState = .faulty at hworking
    rw [heq] at hworking
    exact absurd hworking (by decide)
  obtain ⟨_, _, _, _, _, _, _, hfollow⟩ :=
    Engine.follow_followed (stateDecision (s.setMessageActivity false)).engine
  have hswitch := followRecommendation_engine env hstate
  rw [hfollow] at hswitch
  have hinterrupts := interrupts_engine (env.interrupts .actions)
    (followRecommendation env (stateDecision (s.setMessageActivity false)))
  exact congrArg Engine.recommendedState (hinterrupts.trans hswitch)

/-- The third switch does not recommend to follow. -/
theorem acts_recommendedState {e e' : Engine} (ha : Engine.Acts e e')
    (hslave : e'.recommendedState = .slave) : e.recommendedState = .slave := by
  have houtcome {e e' : Engine} (ho : Engine.Outcome e e') :
      e'.recommendedState = e.recommendedState := by
    cases ho with
    | short => exact Engine.toState_recommendedState .faulty e
    | measure header e₁ _ hf hp hm hr =>
      obtain ⟨_, rfl⟩ := hr.eq
      obtain ⟨_, _, _, _, _, _, rfl⟩ := hm.eq
      rfl
    | requests _ hs hr =>
      obtain ⟨_, rfl⟩ := hr.eq
      rfl
    | _ => rfl
  cases ha with
  | timeout hawait =>
    unfold Engine.announceTimeout at hslave
    split at hslave
    · rw [Engine.toState_recommendedState] at hslave
      cases hslave
    split at hslave
    · rw [Engine.toState_recommendedState] at hslave
      cases hslave
    · exact hslave
  | await _ hawait ho =>
    rw [← houtcome ho]
    exact hslave
  | master e₁ e₂ _ hmaster hsends ho hr =>
    obtain ⟨_, rfl⟩ := hr.eq
    obtain ⟨_, _, heq⟩ := Engine.sends_eq hsends
    have hkept : e₁.recommendedState = e.recommendedState := by rw [heq]
    rw [← hkept, ← houtcome ho]
    exact hslave

/-- **A call that handles no Announce of the parent** and goes on following leaves the data sets as
the state decision has left them. -/
theorem doState_announced (h : s.engine.Settled) (hnone : parentAnnounceCall env s = none)
    (hslave : (doState env s).recommendedState = .slave) :
    (stateDecision (s.setMessageActivity false)).recommendedState = .slave ∧
      (doState env s).announced = (stateDecision (s.setMessageActivity false)).announced := by
  obtain ⟨e₁, -, hdecided, hswitch⟩ := switchCall_engine env h
  have hready := hdecided.follow
  rw [← hswitch] at hready
  have hoperating : (switchCall env s).portState.Operating := hready.agrees.operating
  have hrec : (switchCall env s).recommendedState = .slave :=
    acts_recommendedState (portActions_acts env hoperating) hslave
  refine ⟨(switchCall_recommendedState env h).symm.trans hrec, ?_⟩
  rw [← switchCall_announced env s]
  have hfollowing : (switchCall env s).portState.Following := by
    have hagrees := hready.agrees
    unfold Engine.Agrees at hagrees
    rw [show (switchCall env s).engine.recommendedState = .slave from hrec] at hagrees
    exact hagrees
  have hawait : (switchCall env s).portState.Awaiting := by
    rcases hfollowing with hf | hf <;> rw [hf] <;> decide
  cases hcall : handleCall env (switchCall env s) with
  | some v =>
    rw [doState_eq, (portActions_of_handleCall hawait hcall).2, ← (handleCall_kept hcall).2.1]
    unfold parentAnnounceCall at hnone
    rw [hcall] at hnone
    exact handle_announced env v hnone
  | none =>
    -- the timeout ends the recommendation to follow
    exfalso
    rw [doState_eq, portActions_of_timeout hawait hcall] at hslave
    have hengine := announceTimeout_engine env (timerExpired .announceReceipt (switchCall env s)).2
    have hrec' := congrArg Engine.recommendedState hengine
    change (announceTimeout env _).recommendedState = _ at hrec'
    rw [hslave] at hrec'
    unfold Engine.announceTimeout at hrec'
    split at hrec'
    · rw [Engine.toState_recommendedState] at hrec'
      cases hrec'
    split at hrec'
    · rw [Engine.toState_recommendedState] at hrec'
      cases hrec'
    next hl =>
      have hlistening : (switchCall env s).portState = .listening := not_not.mp hl
      rw [hlistening] at hfollowing
      exact absurd hfollowing (by decide)

/-- **A parent that is kept** by a call that makes a state decision and handles no Announce of the
parent is announced by its best record, not by its newest Announce. -/
theorem kept_parent_announced (h : s.engine.Settled) (hbmc : bmcCall s = some u)
    (hnone : parentAnnounceCall env s = none) (hkept : (doState env s).KeepsParent header) :
    (bestRecord u.ptpClock).header.sourcePortIdentity = header.sourcePortIdentity ∧
      (doState env s).announced = (header.sourcePortIdentity,
        announcedBy (bestRecord u.ptpClock).header (bestRecord u.ptpClock).announce) := by
  obtain ⟨hslave, hparent⟩ := hkept
  obtain ⟨hrec, hannounced⟩ := doState_announced h hnone hslave
  have hdecision := stateDecision_of_bmcCall s
  rw [hbmc] at hdecision
  dsimp only at hdecision
  rw [hdecision] at hrec hannounced
  rw [takeDecision_slave hrec] at hannounced
  have hsource : (doState env s).ptpClock.parentDS.parentPortIdentity =
      (bestRecord u.ptpClock).header.sourcePortIdentity := congrArg Prod.fst hannounced
  have hsame := hsource.symm.trans hparent
  exact ⟨hsame, by rw [hannounced, hsame]⟩

/-- Whatever happens between two calls, the second one finds what the first one has left. -/
theorem bmcCall_of_following (is : List Interrupt) (hf : s.portState.Following)
    (hevent : s.ptpClock.events.stateDecisionEvent = true) :
    ∃ v, bmcCall (is.foldl interrupt s) = some v ∧
      v.ptpClock.foreignMasterDS = s.ptpClock.foreignMasterDS := by
  obtain ⟨_, hclock⟩ := interrupts_ptpClock is s
  have hstate : (is.foldl interrupt s).portState = s.portState := by
    rw [System.portState, hclock]
  have hpending : (is.foldl interrupt s).ptpClock.events.stateDecisionEvent = true := by
    rw [hclock]
    exact hevent
  refine ⟨taken ((is.foldl interrupt s).setMessageActivity false), ?_, ?_⟩
  · unfold bmcCall
    rw [hstate, if_pos hpending]
    rcases hf with hf | hf <;> rw [hf]
  · show (is.foldl interrupt s).ptpClock.foreignMasterDS = s.ptpClock.foreignMasterDS
    rw [hclock]

/-- A call has handled an Announce of the parent. The state decision of the next call evaluates the
parent with the contents of that Announce, and the data sets of a parent that is kept show them
after that call, if and only if the foreign master data set already said the same before. -/
theorem newest_announce_rules_iff (hs : Reachable rtOpts s) (is : List Interrupt)
    (hcall : parentAnnounceCall env s = some (header, announce)) :
    ((∃ v, bmcCall (is.foldl interrupt (doState env s)) = some v ∧
        v.ptpClock.foreignMasterDS.Says header announce) ∧
      ∀ env', parentAnnounceCall env' (is.foldl interrupt (doState env s)) = none →
        (doState env' (is.foldl interrupt (doState env s))).KeepsParent header →
        (doState env' (is.foldl interrupt (doState env s))).announced =
          (header.sourcePortIdentity, announcedBy header announce)) ↔
      s.ptpClock.foreignMasterDS.Says header announce := by
  have hsettled : s.engine.Settled := by
    rcases hs.dormant_or_settled with hdormant | hsettled
    · -- a port that is not initialised handles no messages
      exfalso
      have hunready := (hdormant.switchCall env).unready.1
      unfold parentAnnounceCall handleCall at hcall
      rcases hunready with hu | hu <;> rw [hu] at hcall <;> cases hcall
    · exact hsettled
  obtain ⟨hf, hevent, -, hrecords, hcount⟩ := doState_parentAnnounce hsettled hcall
  have hsaid (ds : ForeignMasterDS) (hds : ds = (doState env s).ptpClock.foreignMasterDS) :
      ds.Says header announce ↔ s.ptpClock.foreignMasterDS.Says header announce := by
    unfold ForeignMasterDS.Says
    rw [hds, hrecords, hcount]
  obtain ⟨v, hbmc, hds⟩ := bmcCall_of_following is hf hevent
  constructor
  · rintro ⟨⟨v', hbmc', hsame⟩, -⟩
    obtain rfl := Option.some.inj (hbmc.symm.trans hbmc')
    exact (hsaid _ hds).mp hsame
  · intro hsame
    have hstored := (hsaid _ hds).mpr hsame
    refine ⟨⟨v, hbmc, hstored⟩, fun env' hnone hkept => ?_⟩
    have hnext : (is.foldl interrupt (doState env s)).engine.Settled := by
      rw [interrupts_engine]
      exact hsettled.call (doState_call env hsettled)
    obtain ⟨hsource, hannounced⟩ := kept_parent_announced hnext hbmc hnone hkept
    obtain ⟨⟨j, hj, -⟩, hall⟩ := hstored
    have hbest := selectBest_lt v.ptpClock (Nat.zero_lt_of_lt hj)
    rw [hannounced]
    exact congrArg _ (hall _ hbest hsource)

end Runs

/-! ## A parent that changes its priority -/

/-- A slave that has received an Announce of its parent with another priority. -/
def priorityChanged : System :=
  calibratedSlave.after
    (generalArrival (announceOf (station 1 { ptpdOpts with priority1 := 90 })) (atSecond 7))

/-- The Announce of its parent once more, as the port has stored it. -/
def announcedAgain : System :=
  calibratedSlave.after
    (generalArrival (announceOf (station 1 { ptpdOpts with priority1 := 100 })) (atSecond 7))

theorem announcedAgain_stored :
    ∃ m, parentAnnounceCall plainEnv announcedAgain = some m ∧
      announcedAgain.ptpClock.foreignMasterDS.Says m.1 m.2 := by
  have hcall : (parentAnnounceCall plainEnv announcedAgain).isSome := by decide +kernel
  have hcount : announcedAgain.ptpClock.foreignMasterDS.count = 1 := by decide +kernel
  -- the only record and the Announce have the same fields
  have hfields : (parentAnnounceCall plainEnv announcedAgain).all fun m =>
      let r := announcedAgain.ptpClock.foreignMasterDS.records 0
      isSamePortIdentity r.header.sourcePortIdentity m.1.sourcePortIdentity &&
        memcmp r.announce.grandmasterIdentity m.2.grandmasterIdentity == 0 &&
        r.header.flagField1 == m.1.flagField1 &&
        r.announce.stepsRemoved == m.2.stepsRemoved &&
        r.announce.grandmasterClockQuality.clockClass == m.2.grandmasterClockQuality.clockClass &&
        r.announce.grandmasterClockQuality.clockAccuracy ==
          m.2.grandmasterClockQuality.clockAccuracy &&
        r.announce.grandmasterClockQuality.offsetScaledLogVariance ==
          m.2.grandmasterClockQuality.offsetScaledLogVariance &&
        r.announce.grandmasterPriority1 == m.2.grandmasterPriority1 &&
        r.announce.grandmasterPriority2 == m.2.grandmasterPriority2 &&
        r.announce.currentUtcOffset == m.2.currentUtcOffset &&
        r.announce.timeSource == m.2.timeSource := by decide +kernel
  obtain ⟨⟨header, announce⟩, hm⟩ := Option.isSome_iff_exists.mp hcall
  refine ⟨(header, announce), hm, ?_⟩
  rw [hm] at hfields
  revert hfields hcount
  generalize announcedAgain.ptpClock.foreignMasterDS = ds
  intro hcount hfields
  simp only [Option.all_some, Bool.and_eq_true, beq_iff_eq, isSamePortIdentity_iff,
    memcmp_eq_zero_iff] at hfields
  obtain ⟨⟨⟨⟨⟨⟨⟨⟨⟨⟨hsource, hid⟩, hflags⟩, hsteps⟩, hclass⟩, haccuracy⟩, hvariance⟩, hp1⟩, hp2⟩,
    hutc⟩, htime⟩ := hfields
  have hquality : (ds.records 0).announce.grandmasterClockQuality =
      announce.grandmasterClockQuality := by
    revert hclass haccuracy hvariance
    generalize (ds.records 0).announce.grandmasterClockQuality = qa
    generalize announce.grandmasterClockQuality = qb
    intro hclass haccuracy hvariance
    obtain ⟨classA, accuracyA, varianceA⟩ := qa
    subst hclass haccuracy hvariance
    rfl
  refine ⟨⟨0, by omega, hsource⟩, fun j hj _ => ?_⟩
  obtain rfl : j = 0 := by omega
  unfold announcedBy
  rw [hflags, hsteps, hid, hquality, hp1, hp2, hutc, htime]

theorem newest_announce_rules_announcedAgain :
    ∃ (header : MsgHeader) (announce : MsgAnnounce) (v : System),
      bmcCall (doState plainEnv announcedAgain) = some v ∧
        v.ptpClock.foreignMasterDS.Says header announce := by
  obtain ⟨⟨header, announce⟩, hm, hsaid⟩ := announcedAgain_stored
  have hreach : Reachable ptpdOpts announcedAgain := calibratedSlave_reachable.after _
  obtain ⟨v, hbmc, hstored⟩ := ((newest_announce_rules_iff hreach [] hm).mpr hsaid).1
  rw [List.foldl_nil] at hbmc
  exact ⟨header, announce, v, hbmc, hstored⟩

/-- The parent announces the priority 90; the next call keeps the parent and the old priority. -/
theorem old_announce_rules :
    Reachable ptpdOpts priorityChanged ∧ priorityChanged.portState = .slave ∧
      ((parentAnnounceCall plainEnv priorityChanged).map fun m => m.2.grandmasterPriority1) =
        some 90 ∧
      (doState plainEnv priorityChanged).ptpClock.parentDS.grandmasterPriority1 = 90 ∧
      parentAnnounceCall plainEnv (doState plainEnv priorityChanged) = none ∧
      (doState plainEnv (doState plainEnv priorityChanged)).recommendedState = .slave ∧
      isSamePortIdentity
        (doState plainEnv (doState plainEnv priorityChanged)).ptpClock.parentDS.parentPortIdentity
        priorityChanged.ptpClock.parentDS.parentPortIdentity ∧
      (doState plainEnv (doState plainEnv priorityChanged)).ptpClock.parentDS.grandmasterPriority1 =
        100 := by
  have hnone : (parentAnnounceCall plainEnv (doState plainEnv priorityChanged)).isNone := by
    decide +kernel
  refine ⟨calibratedSlave_reachable.after _, ?_, ?_, ?_, Option.isNone_iff_eq_none.mp hnone,
    ?_, ?_, ?_⟩
  all_goals decide +kernel

end Ptpd

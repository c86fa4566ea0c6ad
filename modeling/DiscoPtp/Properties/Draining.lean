import DiscoPtp.Properties.Initialised

/-!
# The protocol loop

The loop of `ptpd_thread` calls `doState` as long as a queue holds a datagram. Not every call takes
one: the announce receipt timeout, a fault and the initialisation come first. While nothing arrives
and no timer expires, each call takes a datagram, or spends the timeout, or brings the port closer
to a state in which it takes one.

## Main definitions

* `BufQueue.count`, `System.queued`: the number of datagrams in the queues
* `Interrupt.Quiet`, `Round.Quiet`: no datagram arrives and no timer expires
* `Drains`: no datagram is added to the queues and no announce receipt timeout arises
* `System.rounds`: the measure of the loop

## Main results

* `handle_takes`: `handle` takes a datagram if there is one
* `doState_progress`: a call of `doState` empties the queues or lowers the measure
* `processState_drains`: the loop ends with empty queues
-/

namespace Ptpd

/-! ## The queues -/

/-- The number of datagrams in a queue. -/
def BufQueue.count (queue : BufQueue) : ℕ := (queue.head - queue.tail).val

theorem sub_add_one_val : ∀ head tail : Fin 4, (head - (tail + 1)).val = (head - tail).val - 1 ∨
    tail = head := by decide

theorem netQGet_count (queue : BufQueue) : (netQGet queue).2.count = queue.count - 1 := by
  unfold netQGet
  split
  next hne => exact (sub_add_one_val queue.head queue.tail).resolve_right hne
  next heq =>
    have hzero : queue.count = 0 := by
      rw [BufQueue.count, not_not.mp heq]
      exact congrArg Fin.val (sub_self queue.head)
    rw [hzero]

theorem netQGet_eq_none {queue : BufQueue} : (netQGet queue).1 = none ↔ queue.count = 0 := by
  obtain ⟨pbuf, head, tail⟩ := queue
  fin_cases head <;> fin_cases tail <;> simp [netQGet, BufQueue.count]

theorem netQEmpty_count (queue : BufQueue) : (netQEmpty queue).count = 0 := by
  rw [netQEmpty_eq]
  exact congrArg Fin.val (sub_self queue.head)

theorem netQCheck_eq_false {queue : BufQueue} : netQCheck queue = false ↔ queue.count = 0 := by
  obtain ⟨pbuf, head, tail⟩ := queue
  fin_cases head <;> fin_cases tail <;> simp [netQCheck, BufQueue.count]

/-- The number of datagrams in both queues. -/
def NetPath.queued (netPath : NetPath) : ℕ := netPath.eventQ.count + netPath.generalQ.count

/-- The number of datagrams in both queues of the port. -/
abbrev System.queued (s : System) : ℕ := s.ptpClock.netPath.queued

theorem netSelect_eq_zero {netPath : NetPath} : netSelect netPath = 0 ↔ netPath.queued = 0 := by
  unfold netSelect NetPath.queued
  rw [Nat.add_eq_zero_iff, ← netQCheck_eq_false, ← netQCheck_eq_false, ← Bool.or_eq_false_iff]
  cases netQCheck netPath.eventQ || netQCheck netPath.generalQ <;> simp

theorem netSelect_pos {netPath : NetPath} : 0 < netSelect netPath ↔ 0 < netPath.queued := by
  rw [Nat.pos_iff_ne_zero, ne_eq, ← netSelect_eq_zero]
  unfold netSelect
  split <;> simp

theorem netEmptyEventQ_queued (netPath : NetPath) :
    (netEmptyEventQ netPath).queued ≤ netPath.queued := by
  have hempty : (netQEmpty netPath.eventQ).count = 0 := netQEmpty_count netPath.eventQ
  change (netQEmpty netPath.eventQ).count + netPath.generalQ.count ≤ _
  rw [hempty, NetPath.queued]
  omega

/-! ## Calls that add nothing -/

/-- No datagram is added to the queues, and no announce receipt timeout arises. -/
structure Drains (s t : System) : Prop where
  queued : t.queued ≤ s.queued
  expired : t.timersExpired .announceReceipt = true → s.timersExpired .announceReceipt = true

section Drains

variable {s t u : System} {env : Env}

theorem Drains.refl (s : System) : Drains s s := ⟨le_refl _, id⟩

theorem Drains.trans (h : Drains s t) (h' : Drains t u) : Drains s u :=
  ⟨h'.queued.trans h.queued, h.expired ∘ h'.expired⟩

/-- What changes neither the queues nor the flags drains. -/
theorem Drains.of_eq (hq : t.ptpClock.netPath = s.ptpClock.netPath)
    (he : t.timersExpired = s.timersExpired) : Drains s t :=
  ⟨(congrArg NetPath.queued hq).le, fun h => he ▸ h⟩

theorem Drains.stop (h : Drains s t) (timer : Timer) : Drains s (timerStop timer t) := by
  refine ⟨h.queued, fun he => h.expired ?_⟩
  change Function.update t.timersExpired timer false .announceReceipt = true at he
  rw [Function.update_apply] at he
  split at he
  · cases he
  · exact he

theorem Drains.start (h : Drains s t) (timer : Timer) (interval : Option UInt32) :
    Drains s (timerStart timer interval t) :=
  ⟨h.queued, (h.stop timer).expired⟩

theorem Drains.read (h : Drains s t) (timer : Timer) : Drains s (timerExpired timer t).2 :=
  ⟨h.queued, (h.stop timer).expired⟩

theorem Drains.setPortState (h : Drains s t) (state : PtpState) : Drains s (t.setPortState state) :=
  ⟨h.queued, h.expired⟩

theorem initClock_drains (s : System) : Drains s (initClock s) := by
  obtain ⟨addend, adjusted, heq, -⟩ := initClock_eq s
  rw [heq]
  exact ⟨netEmptyEventQ_queued s.ptpClock.netPath, id⟩

/-! ### State transitions -/

theorem leaveFollower_drains (s : System) : Drains s (leaveFollower s) := by
  have hstop := (Drains.refl s).stop .announceReceipt
  unfold leaveFollower
  dsimp only
  split
  · exact (hstop.stop .delayReqInterval).trans (initClock_drains _)
  · exact (hstop.stop .pdelayReqInterval).trans (initClock_drains _)
  · exact hstop.trans (initClock_drains _)

theorem leaveState_drains (state : PtpState) (s : System) : Drains s (leaveState state s) := by
  have hinit := initClock_drains s
  -- the two following states have the same tasks
  have hfollower : Drains s
      (if state = .uncalibrated ∨ state = .slave then s else leaveFollower s) := by
    split
    · exact .refl s
    · exact leaveFollower_drains s
  unfold leaveState
  split
  · exact ((hinit.stop .syncInterval).stop .announceInterval).stop .pdelayReqInterval
  · exact hfollower
  · exact hfollower
  · exact (hinit.stop .pdelayReqInterval).stop .announceReceipt
  · exact hinit.stop .announceReceipt
  · exact hinit.stop .qualificationTimeout
  · exact .refl s

theorem enterMaster_drains (env : Env) (s : System) : Drains s (enterMaster env s) := by
  have hset : Drains s (s.modify fun c =>
      { c with portDS := { c.portDS with logMinDelayReqInterval := defaultDelayReqInterval } }) :=
    .of_eq rfl rfl
  unfold enterMaster
  dsimp only
  split
  · exact (((hset.start .syncInterval _).start .announceInterval _).start .pdelayReqInterval
      _).setPortState .master
  · exact ((hset.start .syncInterval _).start .announceInterval _).setPortState .master

/-- Entering a state starts the announce receipt timer anew, if it is one of its timers. -/
theorem enterState_drains (env : Env) (state : PtpState) (s : System) :
    Drains s (enterState env state s) := by
  -- the states that wait for Announce messages start with this timer
  have hreceipt := (Drains.refl s).start .announceReceipt (announceReceiptInterval s.ptpClock)
  cases state with
  | initializing => exact .of_eq rfl rfl
  | faulty => exact .of_eq rfl rfl
  | disabled => exact .of_eq rfl rfl
  | listening => exact hreceipt.trans (.of_eq rfl rfl)
  | preMaster => exact enterMaster_drains env s
  | master => exact enterMaster_drains env s
  | passive =>
    change Drains s (enterPassive env s)
    unfold enterPassive
    dsimp only
    split
    · exact (hreceipt.start .pdelayReqInterval _).setPortState .passive
    · exact hreceipt.setPortState .passive
  | uncalibrated =>
    change Drains s (enterUncalibrated env s)
    unfold enterUncalibrated
    dsimp only
    split
    · exact (hreceipt.start .delayReqInterval _).setPortState .uncalibrated
    · exact (hreceipt.start .pdelayReqInterval _).setPortState .uncalibrated
    · exact hreceipt.setPortState .uncalibrated
  | slave => exact .of_eq rfl rfl

theorem toState_drains (env : Env) (state : PtpState) (s : System) :
    Drains s (toState env state s) := by
  have hactive : Drains s (s.setMessageActivity true) := .of_eq rfl rfl
  exact (hactive.trans (leaveState_drains state _)).trans (enterState_drains env state _)

/-! ### The first two switches -/

theorem stateDecision_drains (s : System) : Drains s (stateDecision s) := by
  rcases stateDecision_eq s with h | h
  · rw [h]
    exact .refl s
  · obtain ⟨_, _, _, _, _, _, _, _, heq⟩ := decideState_eq s
    rw [h, heq]
    exact .of_eq rfl rfl

theorem onMasterClockSelected_drains (env : Env) (s : System) :
    Drains s (onMasterClockSelected env s) := by
  unfold onMasterClockSelected
  split
  · refine Drains.trans ?_ (toState_drains env _ _)
    exact .of_eq rfl rfl
  · exact .refl s

theorem onSynchronizationFault_drains (env : Env) (s : System) :
    Drains s (onSynchronizationFault env s) := by
  unfold onSynchronizationFault
  split
  · refine Drains.trans ?_ (toState_drains env _ _)
    exact .of_eq rfl rfl
  · exact .refl s

theorem clearMasterClockChanged_drains (s : System) : Drains s (clearMasterClockChanged s) :=
  .of_eq rfl rfl

theorem followRecommendation_drains (env : Env) (s : System) :
    Drains s (followRecommendation env s) := by
  unfold followRecommendation
  split
  · split
    · dsimp only
      split
      · exact ((Drains.refl s).read .qualificationTimeout).trans (toState_drains env _ _)
      · exact (Drains.refl s).read .qualificationTimeout
    · exact .refl s
    · exact toState_drains env _ s
  · split
    · exact toState_drains env _ s
    · exact .refl s
  · split
    · unfold followSlaveUncalibrated
      dsimp only
      split
      · exact (onMasterClockSelected_drains env s).trans (clearMasterClockChanged_drains _)
      · exact onMasterClockSelected_drains env s
    · unfold followSlaveSlave
      dsimp only
      split
      · exact ((onSynchronizationFault_drains env s).trans
          (clearMasterClockChanged_drains _)).trans (toState_drains env _ _)
      · exact onSynchronizationFault_drains env s
    · exact toState_drains env _ s
  · split
    · exact toState_drains env _ s
    · exact .refl s
  · exact .refl s

/-! ### The senders -/

theorem sentPacket_drains (env : Env) (type : MessageType) (length : Int) (pack : PtpClock → Buf)
    (s : System) : Drains s (sentPacket env type length pack s) := .of_eq rfl rfl

theorem issueSync_drains (env : Env) (s : System) : Drains s (issueSync env s) := by
  have hsent : Drains s (sentSync env s) := .of_eq rfl rfl
  rw [issueSync_eq]
  split
  · rw [issueFollowup_eq]
    exact hsent.trans (sentPacket_drains env _ _ _ _)
  · exact hsent

theorem syncTimerActions_drains (env : Env) (s : System) : Drains s (syncTimerActions env s) := by
  have hread := (Drains.refl s).read .syncInterval
  unfold syncTimerActions
  dsimp only
  split
  · exact hread.trans (issueSync_drains env _)
  · exact hread

theorem announceTimerActions_drains (env : Env) (s : System) :
    Drains s (announceTimerActions env s) := by
  have hread := (Drains.refl s).read .announceInterval
  unfold announceTimerActions
  dsimp only
  split
  · rw [issueAnnounce_eq]
    exact hread.trans (.of_eq rfl rfl)
  · exact hread

theorem issueDelayReqTimerExpired_drains (env : Env) (s : System) :
    Drains s (issueDelayReqTimerExpired env s) := by
  unfold issueDelayReqTimerExpired
  dsimp only
  split
  · split
    · exact .refl s
    split
    · rw [issueDelayReq_eq]
      exact (((Drains.refl s).read .delayReqInterval).start .delayReqInterval _).trans
        (.of_eq rfl rfl)
    · exact (Drains.refl s).read .delayReqInterval
  · split
    · rw [issuePDelayReq_eq]
      exact (((Drains.refl s).read .pdelayReqInterval).start .pdelayReqInterval _).trans
        (.of_eq rfl rfl)
    · exact (Drains.refl s).read .pdelayReqInterval
  · exact .refl s

/-! ### The use of a message -/

theorem updateClock_drains (s : System) : Drains s (updateClock s) := by
  have hdrift : Drains s (s.modify fun c => { c with observedDrift := accumulateDrift c }) :=
    .of_eq rfl rfl
  unfold updateClock
  split
  · split
    · exact .refl s
    split
    · exact .of_eq rfl rfl
    · -- a step of the clock flushes the event queue, which only helps
      have hset : Drains s
          (setTime (subTime (getTime s) s.ptpClock.currentDS.offsetFromMaster) s) :=
        .of_eq rfl rfl
      exact hset.trans (initClock_drains _)
  · dsimp only
    split
    · exact hdrift
    · exact hdrift.trans (.of_eq rfl rfl)

theorem followAnnounce_drains (s : System) : Drains s (followAnnounce s) := by
  have htake : Drains s (takeAnnounce s) := .of_eq rfl rfl
  unfold followAnnounce
  dsimp only
  split
  · refine Drains.start ?_ .announceReceipt _
    exact htake.trans (.of_eq rfl rfl)
  · exact htake.trans (.of_eq rfl rfl)

theorem storeAnnounce_drains (s : System) : Drains s (storeAnnounce s) := .of_eq rfl rfl

/-- Whatever `handle` does with a message, it leaves the queues, or empties the one for events. -/
theorem Handled.drains (h : Handled env s t) : Drains s t := by
  cases h with
  | ignored => exact .refl s
  | short => exact toState_drains env .faulty s
  | followAnnounce => exact followAnnounce_drains s
  | storeAnnounce => exact storeAnnounce_drains s
  | storeAnnouncePassive =>
    exact ((Drains.refl s).start .announceReceipt _).trans (storeAnnounce_drains _)
  | storeSync time =>
    obtain ⟨correction, -, heq⟩ := storeSync_eq time s
    rw [heq]
    exact .of_eq rfl rfl
  -- an offset is followed by the servo and, for a slave, by a request
  | useSync time =>
    obtain ⟨_, _, _, _, _, _, _, -, heq⟩ := syncOffset_eq env time s
    have hoffset : Drains s (syncOffset env time s) := by
      rw [heq]
      exact .of_eq rfl rfl
    exact (hoffset.trans (updateClock_drains _)).trans (issueDelayReqTimerExpired_drains env _)
  | useFollowUp =>
    obtain ⟨_, _, _, _, _, _, -, heq⟩ := followUpOffset_eq env s
    have hoffset : Drains s (followUpOffset env s) := by
      rw [heq]
      exact .of_eq rfl rfl
    exact (hoffset.trans (updateClock_drains _)).trans (issueDelayReqTimerExpired_drains env _)
  | passiveRequest => exact issueDelayReqTimerExpired_drains env s
  | issueDelayResp time =>
    rw [issueDelayResp_eq]
    exact sentPacket_drains env _ _ _ s
  | useDelayResp =>
    obtain ⟨_, _, _, _, _, _, -, heq⟩ := useDelayResp_eq s
    rw [heq]
    exact .of_eq rfl rfl
  | answerPDelayReq time =>
    have hresp : Drains s (issuePDelayResp env time s).2 := by
      rw [issuePDelayResp_eq]
      exact sentPacket_drains env _ _ _ s
    unfold Ptpd.answerPDelayReq
    -- messages of the port itself are not answered
    rw [if_neg Bool.false_ne_true]
    dsimp only
    split
    · rw [issuePDelayRespFollowUp_eq]
      exact hresp.trans (sentPacket_drains env _ _ _ _)
    · exact hresp
  | storePDelayResp time =>
    obtain ⟨_, _, _, -, heq⟩ := storePDelayResp_eq env time s
    rw [heq]
    exact .of_eq rfl rfl
  | usePDelayResp time =>
    obtain ⟨_, _, _, heq⟩ := usePDelayResp_eq time s
    rw [heq]
    exact .of_eq rfl rfl
  | usePDelayRespFollowUp =>
    obtain ⟨_, _, _, _, _, -, heq⟩ := usePDelayRespFollowUp_eq env s
    rw [heq]
    exact .of_eq rfl rfl

theorem dispatch_drains (env : Env) (time : TimeInternal) (fromSelf : Bool) (s : System) :
    Drains s (dispatch env time fromSelf s) := by
  -- event messages are logged before they are handled
  have hlog : Drains s (s.log (.eventMessage s.frameStamp time)) := .of_eq rfl rfl
  unfold dispatch
  split
  · exact (handleAnnounce_handled env fromSelf s).drains
  · exact hlog.trans (handleSync_handled env time fromSelf _).drains
  · exact (handleFollowUp_handled env fromSelf s).drains
  · exact hlog.trans (handleDelayReq_handled env time _).drains
  · exact hlog.trans (handlePDelayReq_handled env time fromSelf _).drains
  · exact (handleDelayResp_handled env s).drains
  · exact hlog.trans (handlePDelayResp_handled env time fromSelf _).drains
  · exact (handlePDelayRespFollowUp_handled env s).drains
  · exact .refl s
  · exact .refl s
  · exact .refl s

theorem process_drains (env : Env) (time : TimeInternal) (s : System) :
    Drains s (process env time s) := by
  have hactive : Drains s (s.setMessageActivity true) := .of_eq rfl rfl
  have hheader : Drains s (unpackHeader (s.setMessageActivity true)) := .of_eq rfl rfl
  unfold process
  dsimp only
  split
  · exact hactive.trans (toState_drains env .faulty _)
  split
  · exact hheader
  split
  · exact hheader
  · exact hheader.trans (dispatch_drains env _ _ _)

end Drains

/-! ## Reception -/

section Reception

variable {env : Env} {s : System}

/-- `netRecvEvent` takes a datagram from the queue for events, if there is one. -/
theorem netRecvEvent_netPath (env : Env) (time : TimeInternal) (s : System) :
    (netRecvEvent env time s).2.2.ptpClock.netPath =
      { s.ptpClock.netPath with eventQ := (netQGet s.ptpClock.netPath.eventQ).2 } := by
  unfold netRecvEvent
  dsimp only
  split
  · rfl
  · exact netRecv_netPath env _ time _

theorem netRecvGeneral_netPath (env : Env) (time : TimeInternal) (s : System) :
    (netRecvGeneral env time s).2.2.ptpClock.netPath =
      { s.ptpClock.netPath with generalQ := (netQGet s.ptpClock.netPath.generalQ).2 } := by
  unfold netRecvGeneral
  dsimp only
  split
  · rfl
  · exact netRecv_netPath env _ time _

/-- An empty queue yields no datagram. -/
theorem netRecvEvent_length (env : Env) (time : TimeInternal) (s : System)
    (h : s.ptpClock.netPath.eventQ.count = 0) : (netRecvEvent env time s).1 = 0 := by
  unfold netRecvEvent
  dsimp only
  rw [netQGet_eq_none.mpr h]

/-- Reception takes a datagram if there is one: nothing is received from the queue for events if it
is empty, and then the other queue is looked at. -/
theorem receive_takes (env : Env) (s : System) : (receive env s).2.queued ≤ s.queued - 1 := by
  have hevent := netRecvEvent_netPath env ⟨0, 0⟩ s
  have hcount := netQGet_count s.ptpClock.netPath.eventQ
  unfold receive
  dsimp only
  split
  next hlength =>
    -- a datagram has been read from the event queue
    have hne : s.ptpClock.netPath.eventQ.count ≠ 0 :=
      fun hzero => hlength (netRecvEvent_length env ⟨0, 0⟩ s hzero)
    change (netRecvEvent env ⟨0, 0⟩ s).2.2.ptpClock.netPath.queued ≤ _
    rw [hevent]
    unfold System.queued NetPath.queued
    dsimp only
    omega
  next hlength =>
    -- the event queue is read first, and then the general one
    have hgeneral := netRecvGeneral_netPath env (netRecvEvent env ⟨0, 0⟩ s).2.1
      ((netRecvEvent env ⟨0, 0⟩ s).2.2.modify fun c =>
        { c with msgIbufLength := (netRecvEvent env ⟨0, 0⟩ s).1 })
    refine (congrArg NetPath.queued hgeneral).le.trans ?_
    rw [System.modify_ptpClock, hevent]
    have hcount' := netQGet_count s.ptpClock.netPath.generalQ
    unfold System.queued NetPath.queued
    dsimp only
    omega

/-- **`handle` takes a datagram** if there is one. -/
theorem handle_takes (env : Env) (s : System) :
    (handle env s).queued ≤ s.queued - 1 ∧
      ((handle env s).timersExpired .announceReceipt = true →
        s.timersExpired .announceReceipt = true) := by
  have hqueued := receive_takes env s
  have hflags := (receive_receives env s).timersExpired
  have hthen {t : System} (h : Drains (receive env s).2 t) : t.queued ≤ s.queued - 1 ∧
      (t.timersExpired .announceReceipt = true → s.timersExpired .announceReceipt = true) :=
    ⟨h.queued.trans hqueued, fun ht => hflags ▸ h.expired ht⟩
  unfold handle
  dsimp only
  split
  next hnegative =>
    -- `netSelect` never fails
    exact absurd hnegative.2 (by unfold netSelect; split <;> decide)
  split
  next hnothing =>
    have hzero : s.queued = 0 := netSelect_eq_zero.mp hnothing.2
    exact ⟨by omega, id⟩
  split
  · exact hthen (toState_drains env .faulty _)
  split
  · exact hthen (.refl _)
  · exact hthen (process_drains env _ _)

end Reception

/-! ## The calls of `doState` -/

/-- No datagram arrives at a port and no timer expires. -/
def Interrupt.Quiet : Interrupt → Prop
  | .recvEvent _ | .recvGeneral _ | .timerCallback _ => False
  | _ => True

/-- Nothing arrives and no timer expires during a call. -/
def Env.Quiet (env : Env) : Prop := ∀ point, ∀ i ∈ env.interrupts point, i.Quiet

/-- Nothing arrives and no timer expires during a round. -/
structure Round.Quiet (round : Round) : Prop where
  inside : round.env.Quiet
  after : ∀ i ∈ round.interrupts, i.Quiet

theorem interrupt_drains {i : Interrupt} (h : i.Quiet) (s : System) :
    Drains s (interrupt s i) ∧ (interrupt s i).portState = s.portState := by
  cases i with
  | recvEvent n => exact absurd h id
  | recvGeneral n => exact absurd h id
  | timerCallback timer => exact absurd h id
  | frame p => exact ⟨.of_eq rfl rfl, rfl⟩
  | discard n => exact ⟨.of_eq rfl rfl, rfl⟩
  | tick time => exact ⟨.of_eq rfl rfl, rfl⟩

theorem interrupts_drain {is : List Interrupt} (h : ∀ i ∈ is, i.Quiet) (s : System) :
    Drains s (is.foldl interrupt s) ∧ (is.foldl interrupt s).portState = s.portState := by
  induction is generalizing s with
  | nil => exact ⟨.refl s, rfl⟩
  | cons i is ih =>
    obtain ⟨hfirst, hstate⟩ := interrupt_drains (h i List.mem_cons_self) s
    obtain ⟨hrest, hstates⟩ := ih (fun j hj => h j (List.mem_cons_of_mem i hj)) (interrupt s i)
    exact ⟨hfirst.trans hrest, hstates.trans hstate⟩

theorem pause_drains {env : Env} (h : env.Quiet) (point : Pause) (s : System) :
    Drains s (pause env point s) ∧ (pause env point s).portState = s.portState :=
  interrupts_drain (h point) s

/-- How far a port is from the states in which it handles messages. -/
def PtpState.delay : PtpState → ℕ
  | .faulty => 2
  | .initializing => 1
  | _ => 0

theorem PtpState.delay_le (state : PtpState) : state.delay ≤ 2 := by cases state <;> decide

/-- **The measure of the loop**: three for each datagram, one for an announce receipt timeout. -/
def System.rounds (s : System) : ℕ :=
  3 * s.queued + (s.timersExpired .announceReceipt).toNat + s.portState.delay

section Progress

variable {rtOpts : RunTimeOpts} {env : Env} {s t : System}

/-- The initialisation empties the queues, also when it fails. -/
theorem doInit_empties (env : Env) (s : System) : (doInit env s).2.queued = 0 := by
  have hnet : (netInit env s).2.queued = 0 := rfl
  have hdrains : Drains (netInit env s).2 (doInit env s).2 := by
    unfold doInit
    dsimp only
    split
    · have htimers : Drains (netInit env s).2 (initTimer ((netInit env s).2.modify initData)) :=
        ⟨le_refl _, fun h => absurd h Bool.false_ne_true⟩
      refine (htimers.trans (initClock_drains _)).trans ?_
      exact .of_eq rfl rfl
    · exact .of_eq rfl rfl
  exact Nat.le_zero.mp (hdrains.queued.trans hnet.le)

/-- At the third switch the port handles messages, or it has not been initialised. -/
theorem switchCall_portState (hs : Reachable rtOpts s) (hquiet : env.Quiet) :
    (switchCall env s).portState.Operating ∨
      (switchCall env s).portState = s.portState ∧
        (s.portState = .initializing ∨ s.portState = .faulty) := by
  -- a port that is not initialised is passed over by the first two switches
  rcases hs.dormant_or_settled with hdormant | hsettled
  · rw [hdormant.switchCall_eq env]
    obtain ⟨-, hstate⟩ := pause_drains hquiet .actions (s.setMessageActivity false)
    exact .inr ⟨hstate, hdormant.unready.1⟩
  · obtain ⟨e₁, -, hdecided, hswitch⟩ := switchCall_engine env hsettled
    left
    change (switchCall env s).engine.portState.Operating
    rw [hswitch]
    exact hdecided.follow.agrees.operating

theorem switchCall_drains (s : System) (hquiet : env.Quiet) :
    Drains s (switchCall env s) := by
  have hactive : Drains s (s.setMessageActivity false) := .of_eq rfl rfl
  have hswitches := (hactive.trans (stateDecision_drains _)).trans
    (followRecommendation_drains env _)
  exact hswitches.trans (pause_drains hquiet .actions _).1

theorem announceTimeout_drains (env : Env) (s : System) :
    Drains s (announceTimeout env s) ∧
      ((announceTimeout env s).portState = .master ∨
        (announceTimeout env s).portState = .listening) := by
  have hclear : Drains s (s.modify fun c =>
      { c with foreignMasterDS := { c.foreignMasterDS with count := 0, i := 0 } }) :=
    .of_eq rfl rfl
  unfold announceTimeout
  dsimp only
  -- a clock that may be master becomes one, another one listens
  split
  · refine ⟨hclear.trans (.trans ?_ (toState_drains env .master _)), .inl (toState_portState ..)⟩
    exact .of_eq rfl rfl
  split
  · exact ⟨hclear.trans (toState_drains env .listening _), .inr (toState_portState ..)⟩
  next hlistening => exact ⟨hclear, .inr (not_not.mp hlistening)⟩

/-- A port that waits for Announce messages spends the timeout, or takes a datagram. -/
theorem awaiting_progress (hquiet : env.Quiet) (h : s.portState.Awaiting) :
    (portActions env s).queued = 0 ∨ (portActions env s).rounds <
      3 * s.queued + (s.timersExpired .announceReceipt).toNat := by
  have hcleared : (timerExpired .announceReceipt s).2.timersExpired .announceReceipt = false := by
    change Function.update s.timersExpired .announceReceipt false .announceReceipt = false
    exact Function.update_self ..
  rw [(portActions_of_awaiting env h).1]
  unfold awaitAnnounce System.rounds
  dsimp only
  split
  next hexpired =>
    -- the timeout uses up the flag of its timer
    obtain ⟨hdrains, hstate⟩ := announceTimeout_drains env (timerExpired .announceReceipt s).2
    have hdelay :
        (announceTimeout env (timerExpired .announceReceipt s).2).portState.delay = 0 := by
      rcases hstate with hstate | hstate
      · rw [hstate]
        rfl
      · rw [hstate]
        rfl
    have hspent : (announceTimeout env (timerExpired .announceReceipt s).2).timersExpired
        .announceReceipt = false :=
      Bool.eq_false_of_not_eq_true fun ht => by
        rw [hdrains.expired ht] at hcleared
        cases hcleared
    have hflag : s.timersExpired .announceReceipt = true := hexpired
    have hq : (announceTimeout env (timerExpired .announceReceipt s).2).queued ≤ s.queued :=
      hdrains.queued
    rw [hdelay, hspent, hflag]
    simp only [Bool.toNat_false, Bool.toNat_true]
    omega
  next hnot =>
    -- otherwise a datagram is taken, which pays for the rounds a new state may need
    have hpause := (pause_drains hquiet .handling (timerExpired .announceReceipt s).2).1
    generalize pause env .handling (timerExpired .announceReceipt s).2 = u at hpause
    obtain ⟨htakes, hflag⟩ := handle_takes env u
    have hspent : (handle env u).timersExpired .announceReceipt = false :=
      Bool.eq_false_of_not_eq_true fun ht => by
        rw [hpause.expired (hflag ht)] at hcleared
        cases hcleared
    have hq : u.queued ≤ s.queued := hpause.queued
    have hdelay := (handle env u).portState.delay_le
    rw [hspent, Bool.toNat_false]
    omega

theorem toNat_le_of_imp {a b : Bool} (h : a = true → b = true) : a.toNat ≤ b.toNat := by
  cases a
  · exact Nat.zero_le _
  · rw [h rfl]

/-- A master takes a datagram. -/
theorem master_progress (hquiet : env.Quiet) (h : s.portState = .master) :
    (portActions env s).queued = 0 ∨ (portActions env s).rounds <
      3 * s.queued + (s.timersExpired .announceReceipt).toNat := by
  rw [(portActions_of_master env h).2]
  -- the timers of a master send messages, and `handle` takes a datagram
  have hsync := (syncTimerActions_drains env s).trans (pause_drains hquiet .announceTimer _).1
  have htimers : Drains s (masterHandleCall env s) :=
    (hsync.trans (announceTimerActions_drains env _)).trans (pause_drains hquiet .handling _).1
  generalize masterHandleCall env s = u at htimers
  obtain ⟨htakes, hflag⟩ := handle_takes env u
  have hrequests := (pause_drains hquiet .requestTimer (handle env u)).1.trans
    (issueDelayReqTimerExpired_drains env _)
  have hdelay := (issueDelayReqTimerExpired env
    (pause env .requestTimer (handle env u))).portState.delay_le
  have hexpired := toNat_le_of_imp fun ht => htimers.expired (hflag (hrequests.expired ht))
  have hq := hrequests.queued
  have hq' := htimers.queued
  unfold System.rounds
  omega

/-- **Every call makes progress**: it empties the queues, or lowers the measure. -/
theorem doState_progress (hs : Reachable rtOpts s) (hquiet : env.Quiet) :
    (doState env s).queued = 0 ∨ (doState env s).rounds < s.rounds := by
  rw [doState_eq]
  have hdrains := switchCall_drains s hquiet
  have hflag := toNat_le_of_imp hdrains.expired
  have hqueued := hdrains.queued
  have hcase := switchCall_portState hs hquiet
  generalize switchCall env s = u at *
  rcases hcase with hop | ⟨hstate, hinit | hfaulty⟩
  · have hacts : (portActions env u).queued = 0 ∨ (portActions env u).rounds <
        3 * u.queued + (u.timersExpired .announceReceipt).toNat := by
      -- `PTP_PRE_MASTER` and `PTP_DISABLED` are not reached
      by_cases hmaster : u.portState = .master
      · exact master_progress hquiet hmaster
      · apply awaiting_progress hquiet
        revert hop hmaster
        generalize u.portState = state
        cases state <;> decide
    refine hacts.imp id fun hlt => ?_
    have hrounds : s.rounds =
      3 * s.queued + (s.timersExpired .announceReceipt).toNat + s.portState.delay := rfl
    omega
  · left
    -- `doInit` empties both queues
    rw [portActions_initializing env (hstate.trans hinit)]
    have henter := (enterState_drains env (if env.netInit then .listening else .faulty)
      ((doInit env u).2.setMessageActivity true)).queued
    exact Nat.le_zero.mp (henter.trans (doInit_empties env u).le)
  · right
    -- a faulty port is initialised next, and the measure counts this round
    rw [portActions_faulty env (hstate.trans hfaulty)]
    unfold System.rounds
    rw [hfaulty]
    change 3 * u.queued + (u.timersExpired .announceReceipt).toNat + 1 <
      3 * s.queued + (s.timersExpired .announceReceipt).toNat + 2
    omega

/-- A round keeps the daemon on one of its runs. -/
theorem Reachable.round (hs : Reachable rtOpts s) (round : Round) :
    Reachable rtOpts (round.run s) := by
  have hcall : Reachable rtOpts (doState round.env s) := hs.next (.doState round.env s)
  unfold Round.run
  generalize doState round.env s = u at hcall
  generalize round.interrupts = is
  induction is generalizing u with
  | nil => exact hcall
  | cons i is ih => exact ih (interrupt u i) (hcall.next (.interrupt i u))

/-- Every round makes progress. -/
theorem round_progress (hs : Reachable rtOpts s) {round : Round} (hquiet : round.Quiet)
    (hqueued : 0 < (round.run s).queued) : (round.run s).rounds < s.rounds := by
  obtain ⟨hdrains, hstate⟩ := interrupts_drain hquiet.after (doState round.env s)
  have hq := hdrains.queued
  change (round.run s).queued ≤ _ at hq
  rcases doState_progress hs hquiet.inside with hempty | hlt
  · omega
  · have hflag := toNat_le_of_imp hdrains.expired
    change (round.run s).portState = _ at hstate
    change ((round.run s).timersExpired .announceReceipt).toNat ≤ _ at hflag
    unfold System.rounds at hlt ⊢
    rw [hstate]
    omega

/-- **The protocol loop drains its input.** From every reachable state, while no datagram arrives
and no timer expires, the loop of `ptpd_thread` ends after finitely many rounds, and both queues are
empty then. -/
theorem processState_drains (hs : Reachable rtOpts s) {rounds : ℕ → Round}
    (hquiet : ∀ n, (rounds n).Quiet) :
    ∃ fuel t, processState rounds fuel s = some t ∧
      netQCheck t.ptpClock.netPath.eventQ = false ∧
      netQCheck t.ptpClock.netPath.generalQ = false := by
  let again (s : System) : Bool := 0 < netSelect s.ptpClock.netPath
  -- each round that goes on lowers the measure
  have hlowers (n : ℕ) (s : System) (hs : Reachable rtOpts s)
      (hagain : again ((rounds n).run s) = true) : ((rounds n).run s).rounds < s.rounds :=
    round_progress hs (hquiet n) (netSelect_pos.mp (of_decide_eq_true hagain))
  obtain ⟨fuel, t, hrun, -, hends⟩ := Loop.doWhile_ends again (Reachable rtOpts) System.rounds
    (fun n => (rounds n).run) (fun n s hs => hs.round (rounds n)) hlowers hs
  have hzero : t.queued = 0 := by
    have hnot : ¬0 < netSelect t.ptpClock.netPath := of_decide_eq_false hends
    exact Nat.eq_zero_of_not_pos fun hpos => hnot (netSelect_pos.mpr hpos)
  obtain ⟨hevent, hgeneral⟩ := Nat.add_eq_zero_iff.mp hzero
  exact ⟨fuel, t, hrun, netQCheck_eq_false.mpr hevent, netQCheck_eq_false.mpr hgeneral⟩

/-- A port that has timed out finds an event and a general datagram. -/
theorem processState_drains_timedOut :
    ∃ fuel t,
      processState (fun _ => ⟨plainEnv, [.tick (atSecond 1)]⟩) fuel
          (timedOut.after
            (eventArrival [1, 2, 3] (atSecond 0) ++ generalArrival [4, 5, 6] (atSecond 0))) =
        some t ∧
      netQCheck t.ptpClock.netPath.eventQ = false ∧
      netQCheck t.ptpClock.netPath.generalQ = false := by
  refine processState_drains (timedOut_reachable.after _) fun _ => ⟨?_, ?_⟩
  · exact fun _ i hi => absurd hi List.not_mem_nil
  · intro i hi
    rw [List.mem_singleton.mp hi]
    trivial

end Progress

end Ptpd

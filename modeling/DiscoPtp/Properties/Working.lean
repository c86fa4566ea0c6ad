import DiscoPtp.Properties.Engine
import DiscoPtp.Properties.Faults

/-!
# The engine at work

Every call of `doState` of a port that has been initialised is one call of its engine.

## Main results

* `toState_engine`, `followRecommendation_engine`, `stateDecision_decides`: the first two switches
* `updateClock_measures`: the use of a Sync or a Follow_Up
* `outcome_of_handled`: the outcomes of `handle`
-/

namespace Ptpd

open History
open Relation (ReflTransGen)

/-! ## Assignments and timer calls -/

section Steps

variable {s t : System}

@[simp] theorem setMessageActivity_engine (b : Bool) (s : System) :
    (s.setMessageActivity b).engine = s.engine := rfl

@[simp] theorem setPortState_engine (state : PtpState) (s : System) :
    (s.setPortState state).engine = { s.engine with portState := state } := rfl

@[simp] theorem setRecommendedState_engine (state : PtpState) (s : System) :
    (s.setRecommendedState state).engine = { s.engine with recommendedState := state } := rfl

@[simp] theorem timerStop_engine (timer : Timer) (s : System) :
    (timerStop timer s).engine = s.engine.stop timer := rfl

@[simp] theorem timerStart_engine (timer : Timer) (interval : Option UInt32) (s : System) :
    (timerStart timer interval s).engine = s.engine.start timer := rfl

@[simp] theorem timerExpired_engine (timer : Timer) (s : System) :
    (timerExpired timer s).2.engine = s.engine := rfl

@[simp] theorem m1_engine (s : System) : s.m1.engine = s.engine.m1 := rfl

@[simp] theorem s1_engine (s : System) (header : MsgHeader) (announce : MsgAnnounce) :
    (s.s1 header announce).engine = s.engine.s1 header announce := rfl

@[simp] theorem resetDelayReqInterval_engine (s : System) :
    (s.modify fun c =>
      { c with portDS :=
          { c.portDS with logMinDelayReqInterval := defaultDelayReqInterval } }).engine =
      s.engine := rfl

theorem adjTime_zero (s : System) :
    adjTime 0 s = { s with addend := adjFreqBaseAddend }.log (.adjFreq adjFreqBaseAddend) := by
  have hbase : adjFreqAddend
      (if (0 : Int32) > adjFreqMax then adjFreqMax
        else if (0 : Int32) < -adjFreqMax then -adjFreqMax else 0).toInt = adjFreqBaseAddend := by
    decide
  unfold adjTime ethernetifPtpAdjFreq
  rw [hbase]

@[simp] theorem initClock_engine (s : System) : (initClock s).engine = s.engine.initClock := by
  unfold initClock Engine.initClock
  dsimp only
  by_cases h : s.ptpClock.servo.noAdjust = true
  · have hs : ((s.modify clearServo).log .clockInit).ptpClock.servo.noAdjust = true := h
    rw [if_pos hs, if_pos (show s.engine.noAdjust = true from h)]
    rfl
  · have hs : ¬((s.modify clearServo).log .clockInit).ptpClock.servo.noAdjust = true := h
    rw [if_neg hs, if_neg (show ¬s.engine.noAdjust = true from h), adjTime_zero]
    rfl

/-! ## State transitions -/

theorem leaveFollower_engine (s : System) :
    (leaveFollower s).engine = s.engine.leaveFollower := by
  have hd : (timerStop .announceReceipt s).delayMechanism =
      (s.engine.stop .announceReceipt).delayMechanism := rfl
  unfold leaveFollower Engine.leaveFollower
  dsimp only
  rw [initClock_engine, hd]
  cases (s.engine.stop .announceReceipt).delayMechanism <;> rfl

theorem leaveState_engine (state : PtpState) (s : System) :
    (leaveState state s).engine = s.engine.leave state := by
  have hstay : (if state = .uncalibrated ∨ state = .slave then s else leaveFollower s).engine =
      if state = .uncalibrated ∨ state = .slave then s.engine else s.engine.leaveFollower := by
    split
    · rfl
    · exact leaveFollower_engine s
  unfold leaveState Engine.leave
  rw [show s.engine.portState = s.portState from rfl]
  cases s.portState with
  | uncalibrated => exact hstay
  | slave => exact hstay
  | _ => simp

theorem enterMaster_engine (env : Env) (s : System) :
    (enterMaster env s).engine = s.engine.enterMaster := by
  unfold enterMaster Engine.enterMaster
  extract_lets s₁ c s₂ s₃ s₄ e₁ e₂
  have h₃ : s₃.engine = e₁ := rfl
  have h₄ : s₄.engine = e₂ := by
    unfold s₄ e₂
    rw [← h₃, show s₃.engine.delayMechanism = s₃.delayMechanism from rfl]
    cases s₃.delayMechanism <;> rfl
  rw [setPortState_engine, h₄]

theorem enterPassive_engine (env : Env) (s : System) :
    (enterPassive env s).engine = s.engine.enterPassive := by
  unfold enterPassive Engine.enterPassive
  extract_lets s₁ s₂ e₁ e₂
  have h₁ : s₁.engine = e₁ := rfl
  have h₂ : s₂.engine = e₂ := by
    show (if s₁.delayMechanism = .p2p then _ else s₁).engine =
      (if e₁.delayMechanism = .p2p then _ else e₁)
    rw [← h₁, show s₁.engine.delayMechanism = s₁.delayMechanism from rfl]
    split <;> rfl
  rw [setPortState_engine, h₂]

theorem enterUncalibrated_engine (env : Env) (s : System) :
    (enterUncalibrated env s).engine = s.engine.enterUncalibrated := by
  unfold enterUncalibrated Engine.enterUncalibrated
  extract_lets s₁ s₂ e₁ e₂
  have h₁ : s₁.engine = e₁ := rfl
  have h₂ : s₂.engine = e₂ := by
    unfold s₂ e₂
    rw [← h₁, show s₁.engine.delayMechanism = s₁.delayMechanism from rfl]
    cases s₁.delayMechanism <;> rfl
  rw [setPortState_engine, h₂]

theorem enterState_engine (env : Env) (state : PtpState) (s : System) :
    (enterState env state s).engine = s.engine.enter state := by
  cases state with
  | preMaster => exact enterMaster_engine env s
  | master => exact enterMaster_engine env s
  | passive => exact enterPassive_engine env s
  | uncalibrated => exact enterUncalibrated_engine env s
  | _ => rfl

@[simp] theorem toState_engine (env : Env) (state : PtpState) (s : System) :
    (toState env state s).engine = s.engine.toState state := by
  unfold toState Engine.toState
  rw [enterState_engine, leaveState_engine, setMessageActivity_engine]

/-! ## The second switch -/

theorem onMasterClockSelected_engine (env : Env) (s : System) :
    (onMasterClockSelected env s).engine = s.engine.onMasterClockSelected := by
  unfold onMasterClockSelected Engine.onMasterClockSelected
  rw [show s.engine.events = s.ptpClock.events from rfl]
  split
  · rw [toState_engine]
    rfl
  · rfl

theorem onSynchronizationFault_engine (env : Env) (s : System) :
    (onSynchronizationFault env s).engine = s.engine.onSynchronizationFault := by
  unfold onSynchronizationFault Engine.onSynchronizationFault
  rw [show s.engine.events = s.ptpClock.events from rfl]
  split
  · rw [toState_engine]
    rfl
  · rfl

theorem followSlaveUncalibrated_engine (env : Env) (s : System) :
    (followSlaveUncalibrated env s).engine = s.engine.followSlaveUncalibrated := by
  unfold followSlaveUncalibrated Engine.followSlaveUncalibrated
  dsimp only
  rw [← onMasterClockSelected_engine env s]
  generalize onMasterClockSelected env s = t
  rw [show t.engine.events = t.ptpClock.events from rfl]
  split <;> rfl

theorem followSlaveSlave_engine (env : Env) (s : System) :
    (followSlaveSlave env s).engine = s.engine.followSlaveSlave := by
  unfold followSlaveSlave Engine.followSlaveSlave
  dsimp only
  rw [← onSynchronizationFault_engine env s]
  generalize onSynchronizationFault env s = t
  rw [show t.engine.events = t.ptpClock.events from rfl]
  split
  · rw [toState_engine]
    rfl
  · rfl

/-- **The second switch** of `doState`. -/
theorem followRecommendation_engine (env : Env) (h : s.portState ≠ .preMaster) :
    (followRecommendation env s).engine = s.engine.follow := by
  unfold followRecommendation Engine.follow
  rw [show s.engine.recommendedState = s.ptpClock.recommendedState from rfl,
    show s.engine.portState = s.portState from rfl]
  cases s.ptpClock.recommendedState with
  | master =>
    generalize hstate : s.portState = state at h
    cases state with
    | preMaster => exact absurd rfl h
    | master => rfl
    | _ => exact toState_engine env .preMaster s
  | passive =>
    dsimp only
    split
    · exact toState_engine env .passive s
    · rfl
  | slave =>
    cases s.portState with
    | uncalibrated => exact followSlaveUncalibrated_engine env s
    | slave => exact followSlaveSlave_engine env s
    | _ => exact toState_engine env .uncalibrated s
  | listening =>
    dsimp only
    split
    · exact toState_engine env .listening s
    · rfl
  | _ => rfl

theorem announceTimeout_engine (env : Env) (s : System) :
    (announceTimeout env s).engine = s.engine.announceTimeout := by
  unfold announceTimeout Engine.announceTimeout
  dsimp only
  by_cases hso : (!isSlaveOnly s.ptpClock) = true
  · rw [if_pos (show (!s.engine.isSlaveOnly) = true from hso)]
    refine (congrArg System.engine (if_pos hso)).trans ?_
    exact toState_engine env .master _
  · rw [if_neg (show ¬(!s.engine.isSlaveOnly) = true from hso)]
    refine (congrArg System.engine (if_neg hso)).trans ?_
    by_cases hl : s.portState ≠ .listening
    · rw [if_pos (show s.engine.portState ≠ .listening from hl)]
      refine (congrArg System.engine (if_pos hl)).trans ?_
      exact toState_engine env .listening _
    · rw [if_neg (show ¬s.engine.portState ≠ .listening from hl)]
      exact congrArg System.engine (if_neg hl)

end Steps

/-! ## The first switch -/

section Decision

/-- The selection keeps to the indices it has seen. -/
theorem foldl_select_lt {better : ℕ → ℕ → Prop} [DecidableRel better] {n : ℕ} (is : List ℕ) :
    ∀ best, best < n → (∀ i ∈ is, i < n) →
      is.foldl (fun best i => if better i best then i else best) best < n := by
  induction is with
  | nil => exact fun best hbest _ => hbest
  | cons i is ih =>
    intro best hbest his
    have hi : i < n := his i List.mem_cons_self
    refine ih _ ?_ fun j hj => his j (List.mem_cons_of_mem i hj)
    dsimp only
    split
    · exact hi
    · exact hbest

/-- The best record is an active one. -/
theorem selectBest_lt (c : PtpClock) (h : 0 < c.foreignMasterDS.count) :
    selectBest c < c.foreignMasterDS.count := by
  refine foldl_select_lt _ 0 h fun i hi => ?_
  rw [List.mem_range'_1] at hi
  omega

/-- The `PtpClock` in which `bmc` makes the decision. -/
def withBest (c : PtpClock) : PtpClock :=
  { c with foreignMasterDS := { c.foreignMasterDS with best := selectBest c } }

/-- The best record. -/
def bestRecord (c : PtpClock) : ForeignMasterRecord := c.foreignMasterDS.records (selectBest c)

/-- What `bmc` can return. -/
theorem bmc_cases (c : PtpClock) :
    (c.foreignMasterDS.count = 0 ∧ c.portDS.portState = .listening ∧
        bmc c = (.listening, withBest c)) ∨
      bmc c = (.master, m1 (copyD0 (withBest c))) ∨
      (c.defaultDS.clockQuality.clockClass < 128 ∧ bmc c = (.passive, copyD0 (withBest c))) ∨
      (¬c.defaultDS.clockQuality.clockClass < 128 ∧
        bmc c = (.slave, s1 (copyD0 (withBest c)) (bestRecord c).header
          (bestRecord c).announce)) := by
  by_cases hidle : c.foreignMasterDS.count = 0 ∧ c.portDS.portState = .listening
  · exact .inl ⟨hidle.1, hidle.2, if_pos hidle⟩
  right
  have hbmc : bmc c = _ := if_neg hidle
  rw [hbmc]
  dsimp only
  split
  next hclass =>
    split
    · exact .inl rfl
    · exact .inr (.inl ⟨hclass, rfl⟩)
  next hclass =>
    split
    · exact .inl rfl
    · exact .inr (.inr ⟨hclass, rfl⟩)

theorem recommend_engine (state : PtpState) (s : System) :
    (if (state = .master ∨ state = .passive) ∧ isSlaveOnly s.ptpClock then
        s.setRecommendedState .listening
      else s.setRecommendedState state).engine = s.engine.recommend state := by
  unfold Engine.recommend
  rw [show s.engine.isSlaveOnly = isSlaveOnly s.ptpClock from rfl]
  split
  · rfl
  · rfl

/-- The state in which `decideState` calls `bmc`. -/
def taken (s : System) : System :=
  s.modify fun c => { c with events := { c.events with stateDecisionEvent := false } }

/-- The state in which `doState` takes over what `bmc` has returned. -/
def concluded (s : System) (c : PtpClock) : System :=
  ((taken s).modify fun _ => c).log (.parentIs c.parentDS.parentPortIdentity)

theorem decideState_engine {s : System} {r : PtpState × PtpClock}
    (h : bmc (taken s).ptpClock = r) :
    (decideState s).engine = (concluded s r.2).engine.recommend r.1 := by
  subst h
  exact recommend_engine _ _

/-- **The first switch** of `doState`. -/
theorem stateDecision_decides (s : System) : Engine.Decides s.engine (stateDecision s).engine := by
  by_cases he : s.engine.Evaluates
  swap
  · have hidle : stateDecision s = s := by
      unfold stateDecision
      unfold Engine.Evaluates at he
      change ¬(s.portState ∈ _ ∧ s.ptpClock.events.stateDecisionEvent = true) at he
      generalize s.portState = state at he ⊢
      cases state <;> simp_all
    rw [hidle]
    exact .idle he
  have hdecide : stateDecision s = decideState s := by
    obtain ⟨hstate, hevent⟩ := he
    change s.portState ∈ _ at hstate
    change s.ptpClock.events.stateDecisionEvent = true at hevent
    unfold stateDecision
    generalize s.portState = state at hstate ⊢
    cases state <;> simp_all
  rw [hdecide]
  have hbest : 0 < s.engine.foreignMasterDS.count →
      selectBest (taken s).ptpClock < s.engine.foreignMasterDS.count :=
    selectBest_lt (taken s).ptpClock
  rcases bmc_cases (taken s).ptpClock with ⟨hcount, hstate, h⟩ | h | ⟨hclass, h⟩ | ⟨hclass, h⟩
  · rw [decideState_engine h]
    exact .listening _ he hcount hstate
  · rw [decideState_engine h]
    exact .master _ he hbest
  · rw [decideState_engine h]
    exact .passive _ he hbest hclass
  · rw [decideState_engine h]
    exact .slave _ he hbest hclass

end Decision

/-! ## Reception and transmission -/

/-- Entries that the engine does not see. -/
def Entry.Unseen (e : Entry) : Prop :=
  ∀ history, runningTimers (e :: history) = runningTimers history ∧
    masterMessages (e :: history) = masterMessages history ∧
      offsets (e :: history) = offsets history ∧ clockSteps (e :: history) = clockSteps history

section Messages

variable {s t : System}

theorem Entry.IsReception.unseen {e : Entry} (h : e.IsReception) : e.Unseen := by
  intro history
  cases e with
  | frameRead stamp => exact ⟨rfl, rfl, rfl, rfl⟩
  | eventMessage frame time => exact ⟨rfl, rfl, rfl, rfl⟩
  | _ => exact h.elim

theorem unseen_of_adds {older history : List Entry} (h : Adds Entry.Unseen older history) :
    runningTimers history = runningTimers older ∧ masterMessages history = masterMessages older ∧
      offsets history = offsets older ∧ clockSteps history = clockSteps older := by
  obtain ⟨newer, rfl, hnewer⟩ := h
  induction newer with
  | nil => exact ⟨rfl, rfl, rfl, rfl⟩
  | cons e newer ih =>
    obtain ⟨h₁, h₂, h₃, h₄⟩ := hnewer e List.mem_cons_self (newer ++ older)
    obtain ⟨ih₁, ih₂, ih₃, ih₄⟩ := ih fun e' he' => hnewer e' (List.mem_cons_of_mem e he')
    rw [List.cons_append]
    exact ⟨h₁.trans ih₁, h₂.trans ih₂, h₃.trans ih₃, h₄.trans ih₄⟩

/-- What reception changes is nothing to the engine. -/
theorem Receives.engine (h : Receives s t) : t.engine = s.engine := by
  obtain ⟨netPath, buf, length, header, activity, hc⟩ := h.ptpClock
  obtain ⟨h₁, h₂, h₃, h₄⟩ := unseen_of_adds (h.history.imp fun _ he => he.unseen)
  unfold System.engine
  rw [hc, h.addend, h₁, h₂, h₃, h₄]

theorem interrupt_engine (i : Interrupt) (s : System) : (interrupt s i).engine = s.engine := by
  cases i with
  | recvEvent n =>
    simp only [interrupt, netRecvEventCallback]
    split <;> rfl
  | recvGeneral n =>
    simp only [interrupt, netRecvGeneralCallback]
    split <;> rfl
  | _ => rfl

theorem interrupts_engine (is : List Interrupt) (s : System) :
    (is.foldl interrupt s).engine = s.engine := by
  induction is generalizing s with
  | nil => rfl
  | cons i is ih => exact (ih _).trans (interrupt_engine i s)

theorem pause_engine (env : Env) (point : Pause) (s : System) :
    (pause env point s).engine = s.engine :=
  interrupts_engine (env.interrupts point) s

theorem sentPacket_engine_eq (env : Env) (type : MessageType) (length : Int)
    (pack : PtpClock → Buf) (s : System) :
    (sentPacket env type length pack s).engine =
      { s.engine with
        sender := loadPortIdentity (pack s.ptpClock) 20
        masterMessages := masterMessages
          (.send type (packetOf (pack s.ptpClock) length) (env.send type) :: s.history) } := rfl

theorem interrupts_reception (is : List Interrupt) (s : System) :
    Adds Entry.IsReception s.history (is.foldl interrupt s).history := by
  induction is generalizing s with
  | nil => exact .refl _ _
  | cons i is ih =>
    refine Adds.trans ?_ (ih (interrupt s i))
    rcases interrupt_history s i with h | ⟨stamp, h⟩
    · rw [h]
      exact .refl _ _
    · rw [h]
      exact .cons (e := Entry.frameRead stamp) trivial _

/-- A message that not only a master sends. -/
theorem sentPacket_engine (env : Env) {type : MessageType} (length : Int) (pack : PtpClock → Buf)
    (s : System) (h : type = .delayReq ∨ type = .pdelayReq ∨ type = .pdelayResp ∨
      type = .pdelayRespFollowUp)
    (hsender : loadPortIdentity (pack s.ptpClock) 20 = loadPortIdentity s.ptpClock.msgObuf 20) :
    (sentPacket env type length pack s).engine = s.engine := by
  rw [sentPacket_engine_eq, hsender]
  rcases h with rfl | rfl | rfl | rfl <;> rfl

/-- A message that only a master sends. -/
theorem masterPacket_engine (env : Env) {type : MessageType} (length : Int)
    (pack : PtpClock → Buf) (s : System)
    (h : type = .announce ∨ type = .sync ∨ type = .followUp ∨ type = .delayResp)
    (hsender : loadPortIdentity (pack s.ptpClock) 20 = loadPortIdentity s.ptpClock.msgObuf 20) :
    (sentPacket env type length pack s).engine =
      { s.engine with
        masterMessages :=
          (type, packetOf (pack s.ptpClock) length) :: s.engine.masterMessages } := by
  rw [sentPacket_engine_eq, hsender]
  rcases h with rfl | rfl | rfl | rfl <;> rfl

theorem issueDelayReq_engine (env : Env) (s : System) :
    (issueDelayReq env s).engine = s.engine := by
  have hsent := sentPacket_engine env delayReqLength
    (fun c => msgPackDelayReq c c.msgObuf (originNow env s)) s (.inl rfl)
    (sender_msgPackDelayReq _ _ _)
  rw [issueDelayReq_eq]
  exact Eq.trans rfl hsent

theorem issuePDelayReq_engine (env : Env) (s : System) :
    (issuePDelayReq env s).engine = s.engine := by
  have hsent := sentPacket_engine env pdelayReqLength
    (fun c => msgPackPDelayReq c c.msgObuf (originNow env s)) s (.inr (.inl rfl))
    (sender_msgPackPDelayReq _ _ _)
  rw [issuePDelayReq_eq]
  exact Eq.trans rfl hsent

theorem answerPDelayReq_engine (env : Env) (time : TimeInternal) (fromSelf : Bool) (s : System) :
    (answerPDelayReq env time fromSelf s).engine = s.engine := by
  have hresp (time : TimeInternal) : (issuePDelayResp env time s).2.engine = s.engine := by
    rw [issuePDelayResp_eq]
    exact sentPacket_engine env pdelayRespLength _ s (.inr (.inr (.inl rfl)))
      (sender_msgPackPDelayResp _ _ _)
  have hfollow (time : TimeInternal) (u : System) :
      (issuePDelayRespFollowUp env time u).engine = u.engine := by
    rw [issuePDelayRespFollowUp_eq]
    exact sentPacket_engine env pdelayRespFollowUpLength _ u (.inr (.inr (.inr rfl)))
      (sender_msgPackPDelayRespFollowUp _ _ _)
  unfold answerPDelayReq
  split
  · rfl
  dsimp only
  split
  · exact (hfollow _ _).trans (hresp time)
  · exact hresp time

theorem storePDelayResp_engine (env : Env) (time : TimeInternal) (s : System) :
    (storePDelayResp env time s).engine = s.engine := by
  obtain ⟨_, _, _, _, h⟩ := storePDelayResp_eq env time s
  rw [h]
  rfl

theorem usePDelayResp_engine (time : TimeInternal) (s : System) :
    (usePDelayResp time s).engine = s.engine := by
  obtain ⟨_, _, _, h⟩ := usePDelayResp_eq time s
  rw [h]
  rfl

theorem usePDelayRespFollowUp_engine (env : Env) (s : System) :
    (usePDelayRespFollowUp env s).engine = s.engine := by
  obtain ⟨_, _, _, _, _, _, h⟩ := usePDelayRespFollowUp_eq env s
  rw [h]
  rfl

theorem useDelayResp_engine (s : System) : (useDelayResp s).engine = s.engine := by
  obtain ⟨_, _, _, _, _, _, _, h⟩ := useDelayResp_eq s
  rw [h]
  rfl

theorem storeSync_engine (time : TimeInternal) (s : System) :
    (storeSync time s).engine = { s.engine with waitingForFollowUp := true } := by
  obtain ⟨_, _, h⟩ := storeSync_eq time s
  rw [h]
  rfl

theorem issueDelayResp_engine (env : Env) (time : TimeInternal) (s : System) :
    ∃ packet, (issueDelayResp env time s).engine =
      { s.engine with masterMessages := (.delayResp, packet) :: s.engine.masterMessages } := by
  rw [issueDelayResp_eq]
  exact ⟨_, masterPacket_engine env pdelayRespLength _ s (.inr (.inr (.inr rfl)))
    (sender_msgPackDelayResp _ _ _ _)⟩

end Messages

/-! ## The use of a Sync or a Follow_Up -/

section Offset

variable {s : System}

theorem secondsOffsetEvents_raises (c : PtpClock) :
    (secondsOffsetEvents c).stateDecisionEvent = c.events.stateDecisionEvent ∧
      (secondsOffsetEvents c).masterClockChanged = c.events.masterClockChanged ∧
      ((secondsOffsetEvents c).synchronizationFault →
        c.events.synchronizationFault ∨ c.portDS.portState = .slave) ∧
      (secondsOffsetEvents c).masterClockSelected = c.events.masterClockSelected := by
  unfold secondsOffsetEvents
  split
  next hslave => exact ⟨rfl, rfl, fun _ => .inr hslave, rfl⟩
  · exact ⟨rfl, rfl, .inl, rfl⟩

theorem filteredOffsetEvents_raises (c : PtpClock) (offset : Int32) :
    (filteredOffsetEvents c offset).stateDecisionEvent = c.events.stateDecisionEvent ∧
      (filteredOffsetEvents c offset).masterClockChanged = c.events.masterClockChanged ∧
      ((filteredOffsetEvents c offset).synchronizationFault →
        c.events.synchronizationFault ∨ c.portDS.portState = .slave) ∧
      ((filteredOffsetEvents c offset).masterClockSelected →
        c.events.masterClockSelected ∨
          c.portDS.portState = .uncalibrated ∧ abs32 offset < defaultCalibratedOffsetNs) := by
  unfold filteredOffsetEvents
  split
  next hsmall =>
    split
    next huncal => exact ⟨rfl, rfl, .inl, fun _ => .inr ⟨huncal, hsmall⟩⟩
    · exact ⟨rfl, rfl, .inl, .inl⟩
  split
  · split
    next hslave => exact ⟨rfl, rfl, fun _ => .inr hslave, .inl⟩
    · exact ⟨rfl, rfl, .inl, .inl⟩
  · exact ⟨rfl, rfl, .inl, .inl⟩

/-- `updateOffset`, on the engine. -/
theorem measureOffset_measures (stamp : Timestamp) (origin correction : TimeInternal)
    (hw : s.ptpClock.waitingForFollowUp = false) :
    Engine.Measures s.ptpClock.msgTmpHeader s.engine
      (measureOffset stamp origin correction s).engine := by
  let c := s.ptpClock
  let offset := subPathDelay c (subTime (subTime c.timestampSyncRecieve origin) correction)
  have hclock : (measureOffset stamp origin correction s).ptpClock =
      updateOffset c.timestampSyncRecieve origin correction c := rfl
  have heq : ∃ events offset drift samples addend steps,
      (measureOffset stamp origin correction s).engine =
        { s.engine with
          events
          offsetFromMaster := offset
          observedDrift := drift
          ofmSamples := samples
          waitingForFollowUp := false
          addend
          offsets := s.ptpClock.msgTmpHeader :: s.engine.offsets
          clockSteps := steps } := by
    obtain ⟨_, offset, filt, events, h⟩ :=
      modify_updateOffset_eq c.timestampSyncRecieve origin correction s
    refine ⟨events, offset, s.engine.observedDrift, filt.n, s.engine.addend,
      s.engine.clockSteps, ?_⟩
    rw [← hw]
    unfold measureOffset
    dsimp only
    rw [h]
    rfl
  have hevents : (measureOffset stamp origin correction s).engine.events =
      (updateOffset c.timestampSyncRecieve origin correction c).events :=
    congrArg PtpClock.events hclock
  have hoffset : (measureOffset stamp origin correction s).engine.offsetFromMaster =
      (updateOffset c.timestampSyncRecieve origin correction c).currentDS.offsetFromMaster :=
    congrArg (fun c => c.currentDS.offsetFromMaster) hclock
  by_cases hseconds : offset.seconds ≠ 0
  · -- the offset is too large for the filter: only a slave reacts
    have hupdate : (updateOffset c.timestampSyncRecieve origin correction c).events =
        secondsOffsetEvents c := congrArg PtpClock.events (if_pos hseconds)
    obtain ⟨hsde, hmcc, hsf, hmcs⟩ := secondsOffsetEvents_raises c
    rw [← hupdate, ← hevents] at hsde hmcc hsf hmcs
    exact ⟨heq, hsde, hmcc, hsf, fun h => .inl (hmcs ▸ h)⟩
  · obtain ⟨hsde, hmcc, hsf, hmcs⟩ :=
      filteredOffsetEvents_raises c (filter offset.nanoseconds c.ofmFilt).1
    have hupdate : (updateOffset c.timestampSyncRecieve origin correction c).events =
        filteredOffsetEvents c (filter offset.nanoseconds c.ofmFilt).1 :=
      congrArg PtpClock.events (if_neg hseconds)
    have hfiltered :
        (updateOffset c.timestampSyncRecieve origin correction c).currentDS.offsetFromMaster =
          { offset with nanoseconds := (filter offset.nanoseconds c.ofmFilt).1 } :=
      congrArg (fun c : PtpClock => c.currentDS.offsetFromMaster) (if_neg hseconds)
    rw [← hupdate, ← hevents] at hsde hmcc hsf hmcs
    refine ⟨heq, hsde, hmcc, hsf, fun h => ?_⟩
    rcases hmcs h with h | ⟨hstate, hsmall⟩
    · exact .inl h
    · refine .inr ⟨hstate, ?_, ?_⟩
      · rw [hoffset, hfiltered]
        exact not_not.mp hseconds
      · rw [hoffset, hfiltered]
        exact hsmall

/-- `updateClock`, on the engine: the servo and the clock. -/
theorem updateClock_engine (hw : s.ptpClock.waitingForFollowUp = false) :
    ∃ drift samples addend steps, (updateClock s).engine =
      { s.engine with
        observedDrift := drift
        ofmSamples := samples
        waitingForFollowUp := false
        addend
        clockSteps := steps } := by
  have hkeep : s.engine = { s.engine with waitingForFollowUp := false } := by
    rw [← show s.engine.waitingForFollowUp = false from hw]
  have hadjust (adj : Int32) (u : System) :
      ∃ addend, (adjTime adj u).engine = { u.engine with addend } := by
    obtain ⟨addend, h⟩ := adjTime_eq adj u
    rw [h]
    exact ⟨addend, rfl⟩
  let drift := accumulateDrift s.ptpClock
  let u := s.modify fun c => { c with observedDrift := accumulateDrift c }
  have hu : u.engine = { s.engine with observedDrift := drift, waitingForFollowUp := false } :=
    congrArg (fun e : Engine => { e with observedDrift := drift }) hkeep
  unfold updateClock
  split
  · -- the offset is too large for the controller
    split
    · exact ⟨_, _, _, _, hkeep⟩
    split
    · obtain ⟨addend, h⟩ := hadjust (if s.ptpClock.currentDS.offsetFromMaster.nanoseconds > 0 then
        -adjFreqMax else - -adjFreqMax) s
      exact ⟨_, _, addend, _, h.trans (congrArg (fun e : Engine => { e with addend }) hkeep)⟩
    · unfold stepClock
      rw [initClock_engine]
      exact ⟨_, _, _, _, rfl⟩
  · dsimp only
    split
    · exact ⟨_, _, _, _, hu⟩
    · obtain ⟨addend, h⟩ := hadjust
        (-(scaleByGain (offsetNorm s.ptpClock) u.ptpClock.servo.ap + u.ptpClock.observedDrift)) u
      exact ⟨_, _, addend, _, h.trans (congrArg (fun e : Engine => { e with addend }) hu)⟩

theorem updateClock_measures {header : MsgHeader} {e : Engine}
    (h : Engine.Measures header e s.engine) :
    Engine.Measures header e (updateClock s).engine := by
  obtain ⟨⟨events, offset, drift, samples, addend, steps, heq⟩, hsde, hmcc, hsf, hmcs⟩ := h
  have hw : s.ptpClock.waitingForFollowUp = false :=
    congrArg Engine.waitingForFollowUp heq
  obtain ⟨drift', samples', addend', steps', heq'⟩ := updateClock_engine hw
  rw [heq'] at *
  exact ⟨⟨events, offset, drift', samples', addend', steps', by rw [heq]⟩, hsde, hmcc, hsf, hmcs⟩

/-- **The use of a one-step Sync.** -/
theorem useSync_measures (env : Env) (time : TimeInternal) (s : System) :
    Engine.Measures s.ptpClock.msgTmpHeader s.engine (useSync env time s).engine := by
  let u := s.modify fun c => { c with timestampSyncRecieve := time, waitingForFollowUp := false }
  have hmeasure := updateClock_measures (measureOffset_measures (s := u)
    (msgUnpackSync s.ptpClock.msgIbuf)
    (toInternalTime env.localTime (msgUnpackSync s.ptpClock.msgIbuf))
    (scaledNanosecondsToInternalTime s.ptpClock.msgTmpHeader.correctionfield) rfl)
  obtain ⟨heq, hsde, hmcc, hsf, hmcs⟩ := hmeasure
  exact ⟨heq, hsde, hmcc, hsf, hmcs⟩

/-- **The use of a Follow_Up.** -/
theorem useFollowUp_measures (env : Env) (s : System) :
    Engine.Measures s.ptpClock.msgTmpHeader s.engine (useFollowUp env s).engine := by
  let u := s.modify fun c => { c with waitingForFollowUp := false }
  have hmeasure := updateClock_measures (measureOffset_measures (s := u)
    (msgUnpackFollowUp s.ptpClock.msgIbuf)
    (toInternalTime env.localTime (msgUnpackFollowUp s.ptpClock.msgIbuf))
    (addTime (scaledNanosecondsToInternalTime s.ptpClock.msgTmpHeader.correctionfield)
      s.ptpClock.correctionFieldSync) rfl)
  obtain ⟨heq, hsde, hmcc, hsf, hmcs⟩ := hmeasure
  exact ⟨heq, hsde, hmcc, hsf, hmcs⟩

end Offset

/-! ## The third switch -/

section Actions

variable {env : Env} {s t u : System}

theorem issueDelayReqTimerExpired_requests (env : Env)
    (h : s.portState ∈ [.uncalibrated, .slave, .passive, .master, .faulty]) :
    Engine.Requests s.engine (issueDelayReqTimerExpired env s).engine := by
  unfold issueDelayReqTimerExpired
  split
  next hd =>
    split
    · exact .none
    next hslave =>
    dsimp only
    split
    · rw [issueDelayReq_engine]
      exact .delayReq hd (not_not.mp hslave)
    · exact .none
  next hd =>
    dsimp only
    split
    · rw [issuePDelayReq_engine]
      exact .pdelayReq hd h
    · exact .none
  · exact .none

theorem storeAnnounce_engine (s : System) :
    ∃ header announce, (storeAnnounce s).engine = s.engine.store header announce :=
  ⟨s.ptpClock.msgTmpHeader, msgUnpackAnnounce s.ptpClock.msgIbuf, rfl⟩

/-- **The outcomes of `handle`** on the engine. -/
theorem outcome_of_handled (h : Handled env s t) : Engine.Outcome s.engine t.engine := by
  cases h with
  | ignored => exact .ignored
  | short =>
    rw [toState_engine]
    exact .short
  | followAnnounce h =>
    unfold followAnnounce
    dsimp only
    split
    next hp =>
      exact .followParent s.ptpClock.msgTmpHeader (msgUnpackAnnounce s.ptpClock.msgIbuf) h
        (isSamePortIdentity_iff.mp hp)
    · refine .store s.ptpClock.msgTmpHeader (msgUnpackAnnounce s.ptpClock.msgIbuf) ?_
      rcases h with h | h
      · exact List.mem_cons_of_mem _ (List.mem_cons.mpr (.inl h))
      · exact List.mem_cons_of_mem _ (List.mem_cons_of_mem _ (List.mem_cons.mpr (.inl h)))
  | storeAnnounce h =>
    obtain ⟨header, announce, heq⟩ := storeAnnounce_engine s
    rw [heq]
    refine .store header announce ?_
    change s.portState ∈ _
    rcases h with h | h | h <;> simp [h]
  | storeAnnouncePassive h =>
    obtain ⟨header, announce, heq⟩ := storeAnnounce_engine
      (timerStart .announceReceipt (announceReceiptInterval s.ptpClock) s)
    rw [heq]
    exact .storePassive header announce h
  | storeSync time h hp =>
    rw [storeSync_engine]
    exact .storeSync h
  | useSync time h hp =>
    have hm := useSync_measures env time s
    refine .measure s.ptpClock.msgTmpHeader _ _ h (isSamePortIdentity_iff.mp hp) hm
      (issueDelayReqTimerExpired_requests env ?_)
    obtain ⟨_, _, _, _, _, _, heq⟩ := hm.eq
    have hstate : (useSync env time s).portState = s.portState := congrArg Engine.portState heq
    rw [hstate]
    rcases h with h | h <;> simp [h]
  | useFollowUp h hmatch =>
    have hm := useFollowUp_measures env s
    simp only [followUpMatches, Bool.and_eq_true] at hmatch
    refine .measure s.ptpClock.msgTmpHeader _ _ h (isSamePortIdentity_iff.mp hmatch.1.2) hm
      (issueDelayReqTimerExpired_requests env ?_)
    obtain ⟨_, _, _, _, _, _, heq⟩ := hm.eq
    have hstate : (useFollowUp env s).portState = s.portState := congrArg Engine.portState heq
    rw [hstate]
    rcases h with h | h <;> simp [h]
  | passiveRequest h =>
    exact .requests _ h (issueDelayReqTimerExpired_requests env (by simp [h]))
  | issueDelayResp time h =>
    obtain ⟨packet, heq⟩ := issueDelayResp_engine env time s
    rw [heq]
    exact .serve packet h
  | useDelayResp h hm =>
    rw [useDelayResp_engine]
    exact .ignored
  | answerPDelayReq time hd h =>
    rw [answerPDelayReq_engine]
    exact .ignored
  | storePDelayResp time h hm =>
    rw [storePDelayResp_engine]
    exact .ignored
  | usePDelayResp time h hm =>
    rw [usePDelayResp_engine]
    exact .ignored
  | usePDelayRespFollowUp h hm =>
    rw [usePDelayRespFollowUp_engine]
    exact .ignored

theorem handle_outcome (env : Env) (s : System) :
    Engine.Outcome s.engine (handle env s).engine := by
  obtain ⟨u, hu, h⟩ := handle_handled env s
  rw [← hu.engine]
  exact outcome_of_handled h

/-- A message leaves the port state as it is, or it is a fault. -/
theorem portState_of_handled (h : Handled env s t) :
    t = toState env .faulty s ∨ t.portState = s.portState := by
  cases h with
  | short => exact .inl rfl
  | followAnnounce h =>
    right
    unfold Ptpd.followAnnounce
    dsimp only
    split <;> rfl
  | useSync time h hp =>
    right
    obtain ⟨_, _, _, _, _, _, heq⟩ := (useSync_measures env time s).eq
    have hstate : (Ptpd.useSync env time s).portState = s.portState :=
      congrArg Engine.portState heq
    have hreq := issueDelayReqTimerExpired_requests (s := Ptpd.useSync env time s) env (by
      rw [hstate]
      rcases h with h | h <;> simp [h])
    rw [← hstate]
    exact hreq.portState
  | useFollowUp h hm =>
    right
    obtain ⟨_, _, _, _, _, _, heq⟩ := (useFollowUp_measures env s).eq
    have hstate : (Ptpd.useFollowUp env s).portState = s.portState :=
      congrArg Engine.portState heq
    have hreq := issueDelayReqTimerExpired_requests (s := Ptpd.useFollowUp env s) env (by
      rw [hstate]
      rcases h with h | h <;> simp [h])
    rw [← hstate]
    exact hreq.portState
  | passiveRequest h =>
    have hreq := issueDelayReqTimerExpired_requests (s := s) env (by simp [h])
    exact .inr hreq.portState
  | issueDelayResp time h =>
    obtain ⟨packet, heq⟩ := issueDelayResp_engine env time s
    exact .inr (congrArg Engine.portState heq)
  | storeSync time h hp => exact .inr (congrArg Engine.portState (storeSync_engine time s))
  | useDelayResp h hm => exact .inr (congrArg Engine.portState (useDelayResp_engine s))
  | answerPDelayReq time hd h =>
    exact .inr (congrArg Engine.portState (answerPDelayReq_engine env time false s))
  | storePDelayResp time h hm =>
    exact .inr (congrArg Engine.portState (storePDelayResp_engine env time s))
  | usePDelayResp time h hm =>
    exact .inr (congrArg Engine.portState (usePDelayResp_engine time s))
  | usePDelayRespFollowUp h hm =>
    exact .inr (congrArg Engine.portState (usePDelayRespFollowUp_engine env s))
  | _ => exact .inr rfl

theorem syncTimerActions_sends (env : Env) (h : s.portState = .master) :
    ReflTransGen Engine.Sends s.engine (syncTimerActions env s).engine := by
  have hsync (u : System) : (sentSync env u).engine = { u.engine with
      masterMessages := (.sync, packetOf (msgPackSync u.ptpClock u.ptpClock.msgObuf
        (originNow env u)) syncLength) :: u.engine.masterMessages } :=
    Eq.trans rfl (masterPacket_engine env syncLength
      (fun c => msgPackSync c c.msgObuf (originNow env u)) u (.inr (.inl rfl))
      (sender_msgPackSync _ _ _))
  have hfollow (time : TimeInternal) (u : System) :
      ∃ packet, (issueFollowup env time u).engine =
        { u.engine with masterMessages := (.followUp, packet) :: u.engine.masterMessages } :=
    ⟨_, masterPacket_engine env followUpLength (fun c => msgPackFollowUp c c.msgObuf
      (fromInternalTime time env.localTimestamp)) u (.inr (.inr (.inl rfl)))
      (sender_msgPackFollowUp _ _ _)⟩
  unfold syncTimerActions
  dsimp only
  split
  swap
  · exact .refl
  let u := (timerExpired .syncInterval s).2
  have hsent : Engine.Sends s.engine (sentSync env u).engine := by
    rw [hsync u]
    exact .sync _ h
  rw [issueSync_eq]
  split
  · obtain ⟨packet, heq⟩ := hfollow (addTime (egressTime env .sync (getTime u))
      u.ptpClock.outboundLatency) (sentSync env u)
    refine .tail (.single hsent) ?_
    rw [heq]
    exact .followUp packet ((congrArg Engine.portState (hsync u)).trans h)
  · exact .single hsent

/-- The Announce of a master says what its data sets say. -/
theorem announces_announcePacket (s : System) :
    s.engine.Announces (announcePacket s.ptpClock s.ptpClock.msgObuf) where
  sequenceId := announcePacket_sequenceId _ _
  sourcePortIdentity := announcePacket_sender _ _
  grandmasterIdentity := announcePacket_grandmasterIdentity _ _
  grandmasterClockQuality := announcePacket_grandmasterClockQuality _ _
  grandmasterPriority1 := announcePacket_grandmasterPriority1 _ _
  grandmasterPriority2 := announcePacket_grandmasterPriority2 _ _
  stepsRemoved := announcePacket_stepsRemoved _ _

theorem announceTimerActions_sends (env : Env) (h : s.portState = .master) :
    ReflTransGen Engine.Sends s.engine (announceTimerActions env s).engine := by
  unfold announceTimerActions
  dsimp only
  split
  swap
  · exact .refl
  let u := (timerExpired .announceInterval s).2
  have hsent : (issueAnnounce env u).engine =
      { u.engine with
        masterMessages :=
          (.announce, announcePacket u.ptpClock u.ptpClock.msgObuf) :: u.engine.masterMessages
        sentAnnounceSequenceId := u.engine.sentAnnounceSequenceId + 1 } := by
    rw [issueAnnounce_eq]
    exact congrArg (fun e : Engine =>
        { e with sentAnnounceSequenceId := e.sentAnnounceSequenceId + 1 })
      (masterPacket_engine env announceLength (fun c => msgPackAnnounce c c.msgObuf) u (.inl rfl)
        (sender_msgPackAnnounce _ _))
  refine .single ?_
  rw [hsent]
  exact .announce _ h (announces_announcePacket u)

theorem masterHandleCall_sends (env : Env) (h : s.portState = .master) :
    ReflTransGen Engine.Sends s.engine (masterHandleCall env s).engine := by
  have hsync := syncTimerActions_sends env h
  let u := pause env .announceTimer (syncTimerActions env s)
  have hu : u.engine = (syncTimerActions env s).engine := pause_engine env .announceTimer _
  have hstate : u.portState = (syncTimerActions env s).portState := congrArg Engine.portState hu
  have hannounce := announceTimerActions_sends (s := u) env
    (hstate.trans ((Engine.portState_of_sends hsync).trans h))
  rw [hu] at hannounce
  unfold masterHandleCall
  rw [pause_engine]
  exact hsync.trans hannounce

theorem masterHandleCall_portState (env : Env) (h : s.portState = .master) :
    (masterHandleCall env s).portState = .master :=
  (Engine.portState_of_sends (masterHandleCall_sends env h)).trans h

/-- **The third switch** of a port at work. -/
theorem portActions_acts (env : Env) (h : s.portState.Operating) :
    Engine.Acts s.engine (portActions env s).engine := by
  by_cases hmaster : s.portState = .master
  · rw [(portActions_of_master env hmaster).2]
    let v := masterHandleCall env s
    let w := pause env .requestTimer (handle env v)
    have hw : w.engine = (handle env v).engine := pause_engine env .requestTimer _
    have hstate : w.portState = (handle env v).portState := congrArg Engine.portState hw
    -- a fault of the port does not end the call
    have hrequests := issueDelayReqTimerExpired_requests (s := w) env (by
      obtain ⟨u, hu, hh⟩ := handle_handled env v
      rw [hstate]
      rcases portState_of_handled hh with hfault | hkept
      · rw [hfault, toState_portState]
        decide
      · rw [hkept, hu.portState, masterHandleCall_portState env hmaster]
        decide)
    rw [hw] at hrequests
    exact .master _ _ _ hmaster (masterHandleCall_sends env hmaster) (handle_outcome env v)
      hrequests
  · have hawait : s.portState.Awaiting := by
      unfold PtpState.Operating at h
      unfold PtpState.Awaiting
      generalize s.portState = state at h hmaster ⊢
      cases state <;> simp_all
    cases hc : handleCall env s with
    | none =>
      rw [portActions_of_timeout hawait hc, announceTimeout_engine]
      exact .timeout hawait
    | some u =>
      obtain ⟨rfl, hacts⟩ := portActions_of_handleCall hawait hc
      have houtcome :=
        handle_outcome env (pause env .handling (timerExpired .announceReceipt s).2)
      rw [pause_engine] at houtcome
      rw [hacts]
      exact .await _ hawait houtcome

end Actions

end Ptpd

import DiscoPtp.Properties.Draining
import DiscoPtp.Properties.Leftovers

/-!
# What a call sends

Which messages one call of `doState` hands to `netSend`. It sends at most one of each type, in a
fixed order, and only what its port state and its delay mechanism have in their repertoire. Apart
from reception, no part of a call touches the datagrams that wait to be read.

## Main definitions

* `sentTypes`: the types of the messages sent
* `messageEntries`, `Silent`: the entries about messages, and parts of a call without any
* `Emits`: a part of a call sends messages of the given types and leaves the datagrams alone
* `requests`, `replies`, `repertoire`: what a port state can send

## Main results

* `handle_emits`: what is sent in reply to a message
* `doState_emits`: what one call sends
-/

namespace Ptpd

open History
open Relation (ReflTransGen)

/-- The types of the messages sent, the newest first. -/
def sentTypes (history : List Entry) : List MessageType := (sends history).map Prod.fst

/-- The entries about messages: those sent, and what the ones received are used for. -/
def messageEntries : List Entry → List Entry
  | [] => []
  | .send type packet outcome :: history => .send type packet outcome :: messageEntries history
  | .eventMessage frame time :: history => .eventMessage frame time :: messageEntries history
  | .syncStored sync ingress :: history => .syncStored sync ingress :: messageEntries history
  | .offset header stamp ingress origin correction :: history =>
    .offset header stamp ingress origin correction :: messageEntries history
  | .delay resp stamp egress receive correction :: history =>
    .delay resp stamp egress receive correction :: messageEntries history
  | .pdelayStored resp stamp t2 t4 :: history =>
    .pdelayStored resp stamp t2 t4 :: messageEntries history
  | .peerDelay header t1 correction t3 :: history =>
    .peerDelay header t1 correction t3 :: messageEntries history
  | _ :: history => messageEntries history

/-- A part of a call that has nothing to do with messages, and neither adds datagrams to the queues
nor takes any that have been read from the hardware. -/
structure Silent (s t : System) : Prop where
  messages : messageEntries t.history = messageEntries s.history
  msgObuf : t.ptpClock.msgObuf = s.ptpClock.msgObuf
  inFlight : t.inFlight = s.inFlight
  eventQ : t.ptpClock.netPath.eventQ.pbuf = s.ptpClock.netPath.eventQ.pbuf
  generalQ : t.ptpClock.netPath.generalQ.pbuf = s.ptpClock.netPath.generalQ.pbuf

/-- A part of a call sends messages of these types, the oldest first, and neither adds datagrams to
the queues nor takes any that have been read from the hardware. -/
structure Emits (s t : System) (types : List MessageType) : Prop where
  sent : sentTypes t.history = types.reverse ++ sentTypes s.history
  inFlight : t.inFlight = s.inFlight
  eventQ : t.ptpClock.netPath.eventQ.pbuf = s.ptpClock.netPath.eventQ.pbuf
  generalQ : t.ptpClock.netPath.generalQ.pbuf = s.ptpClock.netPath.generalQ.pbuf

/-! ## The repertoire -/

/-- The requests that a port state sends when its timer has expired. -/
def requests : PtpState → DelayMechanism → List MessageType
  | .slave, .e2e => [.delayReq]
  | _, .p2p => [.pdelayReq]
  | _, _ => []

/-- The messages that a port state sends on the reception of one. -/
def replies : PtpState → DelayMechanism → List MessageType
  | .master, .e2e => [.delayResp]
  | .master, .p2p => [.pdelayResp, .pdelayRespFollowUp]
  | .slave, .e2e => [.delayReq]
  | .slave, .p2p | .passive, .p2p => [.pdelayResp, .pdelayRespFollowUp, .pdelayReq]
  | .uncalibrated, .p2p => [.pdelayReq]
  | _, _ => []

/-- The messages that a port state sends in one call, in their order. -/
def repertoire : PtpState → DelayMechanism → List MessageType
  | .master, mechanism =>
    [.sync, .followUp, .announce] ++ replies .master mechanism ++ requests .master mechanism
  | state, mechanism => replies state mechanism

theorem repertoire_nodup (state : PtpState) (mechanism : DelayMechanism) :
    (repertoire state mechanism).Nodup := by
  cases state <;> cases mechanism <;> decide

/-! ## Parts that send nothing -/

section Emits

variable {s t u : System} {types types' : List MessageType}

theorem sends_messageEntries (history : List Entry) :
    sends (messageEntries history) = sends history := by
  induction history with
  | nil => rfl
  | cons e history ih =>
    cases e with
    | send type packet outcome => exact congrArg ((type, packet) :: ·) ih
    | _ => exact ih

theorem Silent.refl (s : System) : Silent s s := ⟨rfl, rfl, rfl, rfl, rfl⟩

theorem Silent.trans (h : Silent s t) (h' : Silent t u) : Silent s u :=
  ⟨h'.messages.trans h.messages, h'.msgObuf.trans h.msgObuf, h'.inFlight.trans h.inFlight,
    h'.eventQ.trans h.eventQ, h'.generalQ.trans h.generalQ⟩

/-- A silent part sends nothing. -/
theorem Silent.emits (h : Silent s t) : Emits s t [] := by
  refine ⟨?_, h.inFlight, h.eventQ, h.generalQ⟩
  have hsends := congrArg sends h.messages
  rw [sends_messageEntries, sends_messageEntries] at hsends
  exact congrArg (List.map Prod.fst) hsends

theorem Emits.refl (s : System) : Emits s s [] := ⟨rfl, rfl, rfl, rfl⟩

theorem Emits.trans (h : Emits s t types) (h' : Emits t u types') :
    Emits s u (types ++ types') := by
  refine ⟨?_, h'.inFlight.trans h.inFlight, h'.eventQ.trans h.eventQ,
    h'.generalQ.trans h.generalQ⟩
  rw [h'.sent, h.sent, List.reverse_append, List.append_assoc]

/-- After a part that sends nothing. -/
theorem Emits.after (h : Emits s t []) (h' : Emits t u types) : Emits s u types := h.trans h'

/-- A part of a call sends some of these messages, in their order. -/
def EmitsSome (s t : System) (allowed : List MessageType) : Prop :=
  ∃ types, Emits s t types ∧ types.Sublist allowed

theorem Emits.some (h : Emits s t types) : EmitsSome s t types := ⟨types, h, .refl _⟩

/-- A part that sends nothing sends some of any messages. -/
theorem Emits.none (h : Emits s t []) (allowed : List MessageType) : EmitsSome s t allowed :=
  ⟨[], h, List.nil_sublist _⟩

theorem Silent.none (h : Silent s t) (allowed : List MessageType) : EmitsSome s t allowed :=
  h.emits.none allowed

theorem EmitsSome.mono (h : EmitsSome s t types) (hsub : types.Sublist types') :
    EmitsSome s t types' := by
  obtain ⟨sent, hsent, hle⟩ := h
  exact ⟨sent, hsent, hle.trans hsub⟩

theorem Emits.afterSome (h : Emits s t []) (h' : EmitsSome t u types) : EmitsSome s u types := by
  obtain ⟨sent, hsent, hle⟩ := h'
  exact ⟨sent, h.after hsent, hle⟩

end Emits

section Silent

variable (env : Env) (s : System)

theorem initClock_silent : Silent s (initClock s) := by
  obtain ⟨addend, adjusted, heq, hadjusted⟩ := initClock_eq s
  have heventQ : (netQEmpty s.ptpClock.netPath.eventQ).pbuf = s.ptpClock.netPath.eventQ.pbuf := by
    rw [netQEmpty_eq]
  rw [heq]
  refine ⟨?_, rfl, rfl, heventQ, rfl⟩
  rcases hadjusted with rfl | ⟨a, rfl⟩
  · rfl
  · rfl

theorem leaveFollower_silent : Silent s (leaveFollower s) := by
  unfold leaveFollower
  dsimp only
  split
  · refine Silent.trans ?_ (initClock_silent _)
    exact ⟨rfl, rfl, rfl, rfl, rfl⟩
  · refine Silent.trans ?_ (initClock_silent _)
    exact ⟨rfl, rfl, rfl, rfl, rfl⟩
  · refine Silent.trans ?_ (initClock_silent _)
    exact ⟨rfl, rfl, rfl, rfl, rfl⟩

theorem leaveState_silent (state : PtpState) : Silent s (leaveState state s) := by
  have hinit := initClock_silent s
  -- timers stop after the servo is reset, or nothing happens
  have hfollower : Silent s
      (if state = .uncalibrated ∨ state = .slave then s else leaveFollower s) := by
    split
    · exact .refl s
    · exact leaveFollower_silent s
  unfold leaveState
  split
  · exact hinit.trans ⟨rfl, rfl, rfl, rfl, rfl⟩
  · exact hfollower
  · exact hfollower
  · exact hinit.trans ⟨rfl, rfl, rfl, rfl, rfl⟩
  · exact hinit.trans ⟨rfl, rfl, rfl, rfl, rfl⟩
  · exact hinit.trans ⟨rfl, rfl, rfl, rfl, rfl⟩
  · exact .refl s

theorem enterState_silent (state : PtpState) : Silent s (enterState env state s) := by
  have hmaster : Silent s (enterMaster env s) := by
    unfold enterMaster
    dsimp only
    split <;> exact ⟨rfl, rfl, rfl, rfl, rfl⟩
  cases state with
  | preMaster => exact hmaster
  | master => exact hmaster
  | passive =>
    show Silent s (enterPassive env s)
    unfold enterPassive
    dsimp only
    split <;> exact ⟨rfl, rfl, rfl, rfl, rfl⟩
  | uncalibrated =>
    show Silent s (enterUncalibrated env s)
    unfold enterUncalibrated
    dsimp only
    split <;> exact ⟨rfl, rfl, rfl, rfl, rfl⟩
  | _ => exact ⟨rfl, rfl, rfl, rfl, rfl⟩

theorem toState_silent (state : PtpState) : Silent s (toState env state s) := by
  have hactive : Silent s (s.setMessageActivity true) := ⟨rfl, rfl, rfl, rfl, rfl⟩
  exact (hactive.trans (leaveState_silent _ state)).trans (enterState_silent env _ state)

theorem stateDecision_silent : Silent s (stateDecision s) := by
  rcases stateDecision_eq s with h | h
  · rw [h]
    exact .refl s
  · obtain ⟨_, _, _, _, _, _, _, _, heq⟩ := decideState_eq s
    rw [h, heq]
    exact ⟨rfl, rfl, rfl, rfl, rfl⟩

theorem onMasterClockSelected_silent : Silent s (onMasterClockSelected env s) := by
  unfold onMasterClockSelected
  split
  · refine Silent.trans ?_ (toState_silent env _ .slave)
    exact ⟨rfl, rfl, rfl, rfl, rfl⟩
  · exact .refl s

theorem onSynchronizationFault_silent : Silent s (onSynchronizationFault env s) := by
  unfold onSynchronizationFault
  split
  · refine Silent.trans ?_ (toState_silent env _ .uncalibrated)
    exact ⟨rfl, rfl, rfl, rfl, rfl⟩
  · exact .refl s

theorem clearMasterClockChanged_silent : Silent s (clearMasterClockChanged s) :=
  ⟨rfl, rfl, rfl, rfl, rfl⟩

theorem followRecommendation_silent : Silent s (followRecommendation env s) := by
  have huncalibrated : Silent s (followSlaveUncalibrated env s) := by
    unfold followSlaveUncalibrated
    dsimp only
    split
    · exact (onMasterClockSelected_silent env s).trans (clearMasterClockChanged_silent _)
    · exact onMasterClockSelected_silent env s
  have hslave : Silent s (followSlaveSlave env s) := by
    unfold followSlaveSlave
    dsimp only
    split
    · refine (Silent.trans ?_ (clearMasterClockChanged_silent _)).trans (toState_silent env _ _)
      exact onSynchronizationFault_silent env s
    · exact onSynchronizationFault_silent env s
  -- one case for each recommendation
  unfold followRecommendation
  split
  · split
    · dsimp only
      split
      · refine Silent.trans ?_ (toState_silent env (timerExpired .qualificationTimeout s).2 .master)
        exact ⟨rfl, rfl, rfl, rfl, rfl⟩
      · exact ⟨rfl, rfl, rfl, rfl, rfl⟩
    · exact .refl s
    · exact toState_silent env s .preMaster
  · split
    · exact toState_silent env s .passive
    · exact .refl s
  · split
    · exact huncalibrated
    · exact hslave
    · exact toState_silent env s .uncalibrated
  · split
    · exact toState_silent env s .listening
    · exact .refl s
  · exact .refl s

/-- The initialisation drops what is in the queues, and only prepares the output buffer. -/
theorem doInit_silent :
    Silent s ((doInit env s).2.modify fun c => { c with msgObuf := s.ptpClock.msgObuf }) := by
  unfold doInit
  dsimp only
  split
  · have hinit : Silent s (initTimer ((netInit env s).2.modify initData)) :=
      ⟨rfl, rfl, rfl, rfl, rfl⟩
    have hclock := hinit.trans (initClock_silent _)
    exact ⟨hclock.messages, rfl, hclock.inFlight, hclock.eventQ, hclock.generalQ⟩
  · exact ⟨rfl, rfl, rfl, rfl, rfl⟩

theorem doInit_emits : Emits s (doInit env s).2 [] := by
  have hinit := (doInit_silent env s).emits
  exact ⟨hinit.sent, hinit.inFlight, hinit.eventQ, hinit.generalQ⟩

theorem announceTimeout_silent : Silent s (announceTimeout env s) := by
  unfold announceTimeout
  dsimp only
  split
  · refine Silent.trans ?_ (toState_silent env _ .master)
    exact ⟨rfl, rfl, rfl, rfl, rfl⟩
  split
  · refine Silent.trans ?_ (toState_silent env _ .listening)
    exact ⟨rfl, rfl, rfl, rfl, rfl⟩
  · exact ⟨rfl, rfl, rfl, rfl, rfl⟩

theorem updateClock_silent : Silent s (updateClock s) := by
  have hadjust (adj : Int32) (u : System) : Silent u (adjTime adj u) := by
    obtain ⟨addend, h⟩ := adjTime_eq adj u
    rw [h]
    exact ⟨rfl, rfl, rfl, rfl, rfl⟩
  unfold updateClock
  split
  · split
    · exact .refl s
    split
    · exact hadjust _ s
    · have hset : Silent s
          (setTime (subTime (getTime s) s.ptpClock.currentDS.offsetFromMaster) s) :=
        ⟨rfl, rfl, rfl, rfl, rfl⟩
      exact hset.trans (initClock_silent _)
  · dsimp only
    split
    · exact ⟨rfl, rfl, rfl, rfl, rfl⟩
    · refine Silent.trans ?_ (hadjust _ _)
      exact ⟨rfl, rfl, rfl, rfl, rfl⟩

end Silent

/-! ## The senders -/

section Senders

variable (env : Env) (time : TimeInternal) (s : System)

theorem sentPacket_emits (type : MessageType) (length : Int) (pack : PtpClock → Buf) :
    Emits s (sentPacket env type length pack s) [type] := ⟨rfl, rfl, rfl, rfl⟩

theorem issueSync_emits : EmitsSome s (issueSync env s) [.sync, .followUp] := by
  have hsent : Emits s (sentSync env s) [.sync] := ⟨rfl, rfl, rfl, rfl⟩
  rw [issueSync_eq]
  split
  · rw [issueFollowup_eq]
    exact (hsent.trans (sentPacket_emits env _ _ _ _)).some
  · exact hsent.some.mono (by simp)

theorem syncTimerActions_emits : EmitsSome s (syncTimerActions env s) [.sync, .followUp] := by
  have hread : Emits s (timerExpired .syncInterval s).2 [] := ⟨rfl, rfl, rfl, rfl⟩
  unfold syncTimerActions
  dsimp only
  split
  · exact hread.afterSome (issueSync_emits env _)
  · exact hread.none _

theorem announceTimerActions_emits : EmitsSome s (announceTimerActions env s) [.announce] := by
  have hread : Emits s (timerExpired .announceInterval s).2 [] := ⟨rfl, rfl, rfl, rfl⟩
  unfold announceTimerActions
  dsimp only
  split
  · have hsent (u : System) : Emits u (issueAnnounce env u) [.announce] := by
      rw [issueAnnounce_eq]
      exact ⟨rfl, rfl, rfl, rfl⟩
    exact hread.afterSome (hsent _).some
  · exact hread.none _

theorem issueDelayReqTimerExpired_emits :
    EmitsSome s (issueDelayReqTimerExpired env s) (requests s.portState s.delayMechanism) := by
  have hrestart (timer : Timer) (interval : Option UInt32) :
      Emits s (timerStart timer interval (timerExpired timer s).2) [] := ⟨rfl, rfl, rfl, rfl⟩
  have hread (timer : Timer) : Emits s (timerExpired timer s).2 [] := ⟨rfl, rfl, rfl, rfl⟩
  unfold issueDelayReqTimerExpired
  split
  next hmechanism =>
    rw [hmechanism]
    split
    · exact (Emits.refl s).none _
    next hslave =>
      rw [not_not.mp hslave]
      dsimp only
      split
      · have hsent (u : System) : Emits u (issueDelayReq env u) [.delayReq] := by
          rw [issueDelayReq_eq]
          exact ⟨rfl, rfl, rfl, rfl⟩
        exact ((hrestart .delayReqInterval _).after (hsent _)).some
      · exact Emits.none (hread .delayReqInterval) _
  next hmechanism =>
    have hrequests : requests s.portState .p2p = [.pdelayReq] := by
      cases s.portState <;> rfl
    rw [hmechanism, hrequests]
    dsimp only
    split
    · have hsent (u : System) : Emits u (issuePDelayReq env u) [.pdelayReq] := by
        rw [issuePDelayReq_eq]
        exact ⟨rfl, rfl, rfl, rfl⟩
      exact ((hrestart .pdelayReqInterval _).after (hsent _)).some
    · exact Emits.none (hread .pdelayReqInterval) _
  · exact (Emits.refl s).none _

/-- A response, and its follow-up. -/
theorem answerPDelayReq_emits (fromSelf : Bool) :
    EmitsSome s (answerPDelayReq env time fromSelf s) [.pdelayResp, .pdelayRespFollowUp] := by
  have hresp : Emits s (issuePDelayResp env time s).2 [.pdelayResp] := by
    rw [issuePDelayResp_eq]
    exact sentPacket_emits env s _ _ _
  unfold answerPDelayReq
  split
  · exact (Emits.refl s).none _
  dsimp only
  split
  · rw [issuePDelayRespFollowUp_eq]
    exact (hresp.trans (sentPacket_emits env _ _ _ _)).some
  · exact hresp.some.mono (by simp)

end Senders

/-! ## The handlers -/

section Handlers

variable (env : Env) (time : TimeInternal) (fromSelf : Bool) (s : System)

theorem handleAnnounce_silent : Silent s (handleAnnounce env fromSelf s) := by
  have htake : Silent s (takeAnnounce s) := ⟨rfl, rfl, rfl, rfl, rfl⟩
  have hfollow : Silent s (followAnnounce s) := by
    unfold followAnnounce
    dsimp only
    split
    · exact htake.trans ⟨rfl, rfl, rfl, rfl, rfl⟩
    · exact htake.trans ⟨rfl, rfl, rfl, rfl, rfl⟩
  unfold handleAnnounce
  split
  · exact toState_silent env s .faulty
  split
  · exact .refl s
  split
  · exact .refl s
  · exact .refl s
  · exact .refl s
  · exact hfollow
  · exact hfollow
  · dsimp only
    split <;> exact ⟨rfl, rfl, rfl, rfl, rfl⟩

/-- The use of a Sync or a Follow_Up sends nothing and keeps the port state. -/
theorem useSync_emits :
    Emits s (useSync env time s) [] ∧ (useSync env time s).portState = s.portState ∧
      (useSync env time s).delayMechanism = s.delayMechanism := by
  obtain ⟨_, _, _, _, _, _, _, -, heq⟩ := syncOffset_eq env time s
  have hoffset : Emits s (syncOffset env time s) [] := by
    rw [heq]
    exact ⟨rfl, rfl, rfl, rfl⟩
  obtain ⟨_, _, _, _, _, _, hengine⟩ := (useSync_measures env time s).eq
  exact ⟨hoffset.after (updateClock_silent _).emits, congrArg Engine.portState hengine,
    congrArg Engine.delayMechanism hengine⟩

theorem useFollowUp_emits :
    Emits s (useFollowUp env s) [] ∧ (useFollowUp env s).portState = s.portState ∧
      (useFollowUp env s).delayMechanism = s.delayMechanism := by
  obtain ⟨_, _, _, _, _, _, -, heq⟩ := followUpOffset_eq env s
  have hoffset : Emits s (followUpOffset env s) [] := by
    rw [heq]
    exact ⟨rfl, rfl, rfl, rfl⟩
  obtain ⟨_, _, _, _, _, _, hengine⟩ := (useFollowUp_measures env s).eq
  exact ⟨hoffset.after (updateClock_silent _).emits, congrArg Engine.portState hengine,
    congrArg Engine.delayMechanism hengine⟩

/-- A request on the occasion of a message of the parent. -/
theorem requests_sublist_replies (mechanism : DelayMechanism) {state : PtpState}
    (h : state ∈ [PtpState.uncalibrated, .slave, .passive]) :
    (requests state mechanism).Sublist (replies state mechanism) := by
  simp only [List.mem_cons, List.not_mem_nil, or_false] at h
  rcases h with rfl | rfl | rfl
  all_goals
    cases mechanism with
    | other => exact .refl _
    | e2e => exact .refl _
    | p2p => simp [requests, replies]

theorem issueDelayReqTimerExpired_replies
    (h : s.portState ∈ [PtpState.uncalibrated, .slave, .passive]) :
    EmitsSome s (issueDelayReqTimerExpired env s) (replies s.portState s.delayMechanism) :=
  (issueDelayReqTimerExpired_emits env s).mono (requests_sublist_replies _ h)

theorem handleSync_emits :
    EmitsSome s (handleSync env time fromSelf s) (replies s.portState s.delayMechanism) := by
  have hfollow (h : s.portState ∈ [PtpState.uncalibrated, .slave, .passive]) :
      EmitsSome s (followSync env time fromSelf s) (replies s.portState s.delayMechanism) := by
    unfold followSync
    split
    · exact (Emits.refl s).none _
    split
    · exact (Emits.refl s).none _
    split
    · have hstore : Emits s (storeSync time s) [] := ⟨rfl, rfl, rfl, rfl⟩
      exact hstore.none _
    · obtain ⟨huse, hstate, hmechanism⟩ := useSync_emits env time s
      have hrequest := issueDelayReqTimerExpired_replies env (useSync env time s) (by
        rw [hstate]
        exact h)
      rw [hstate, hmechanism] at hrequest
      exact huse.afterSome hrequest
  unfold handleSync
  split
  · exact (toState_silent env s .faulty).none _
  split
  next h => exact hfollow (by simp [h])
  next h => exact hfollow (by simp [h])
  next h => exact issueDelayReqTimerExpired_replies env s (by simp [h])
  · exact (Emits.refl s).none _

theorem handleFollowUp_emits :
    EmitsSome s (handleFollowUp env fromSelf s) (replies s.portState s.delayMechanism) := by
  have htake (h : s.portState ∈ [PtpState.uncalibrated, .slave, .passive]) :
      EmitsSome s (takeFollowUp env s) (replies s.portState s.delayMechanism) := by
    unfold takeFollowUp
    split
    · obtain ⟨huse, hstate, hmechanism⟩ := useFollowUp_emits env s
      have hrequest := issueDelayReqTimerExpired_replies env (useFollowUp env s) (by
        rw [hstate]
        exact h)
      rw [hstate, hmechanism] at hrequest
      exact huse.afterSome hrequest
    · exact (Emits.refl s).none _
  unfold handleFollowUp
  split
  · exact (toState_silent env s .faulty).none _
  split
  · exact (Emits.refl s).none _
  split
  next h => exact htake (by simp [h])
  next h => exact htake (by simp [h])
  next h => exact issueDelayReqTimerExpired_replies env s (by simp [h])
  · exact (Emits.refl s).none _

theorem handleDelayReq_emits :
    EmitsSome s (handleDelayReq env time s) (replies s.portState s.delayMechanism) := by
  unfold handleDelayReq
  split
  next hmechanism =>
    split
    · exact (toState_silent env s .faulty).none _
    split
    next hmaster =>
      rw [hmechanism, hmaster, issueDelayResp_eq]
      exact (sentPacket_emits env s _ _ _).some
    · exact (Emits.refl s).none _
  · exact (Emits.refl s).none _

theorem handleDelayResp_emits : Emits s (handleDelayResp env s) [] := by
  have htake : Emits s (takeDelayResp s) [] := by
    unfold takeDelayResp
    split
    · obtain ⟨_, _, _, _, _, _, -, heq⟩ := useDelayResp_eq s
      rw [heq]
      exact ⟨rfl, rfl, rfl, rfl⟩
    · exact .refl s
  unfold handleDelayResp
  split
  · split
    · exact (toState_silent env s .faulty).emits
    split
    · exact htake
    · exact htake
    · exact .refl s
  · exact .refl s

theorem handlePDelayReq_emits :
    EmitsSome s (handlePDelayReq env time fromSelf s) (replies s.portState s.delayMechanism) := by
  have hanswer := answerPDelayReq_emits env time s fromSelf
  unfold handlePDelayReq
  split
  next hmechanism =>
    rw [hmechanism]
    split
    · exact (toState_silent env s .faulty).none _
    split
    next h =>
      rw [h]
      exact hanswer.mono (by simp [replies])
    next h =>
      rw [h]
      exact hanswer.mono (by simp [replies])
    next h =>
      rw [h]
      exact hanswer
    · exact (Emits.refl s).none _
  · exact (Emits.refl s).none _

theorem handlePDelayResp_emits : Emits s (handlePDelayResp env time fromSelf s) [] := by
  have htake : Emits s (takePDelayResp env time fromSelf s) [] := by
    unfold takePDelayResp
    split
    · exact .refl s
    split
    · split
      · obtain ⟨_, _, _, -, heq⟩ := storePDelayResp_eq env time s
        rw [heq]
        exact ⟨rfl, rfl, rfl, rfl⟩
      · obtain ⟨_, _, _, heq⟩ := usePDelayResp_eq time s
        rw [heq]
        exact ⟨rfl, rfl, rfl, rfl⟩
    · exact .refl s
  unfold handlePDelayResp
  split
  · split
    · exact (toState_silent env s .faulty).emits
    split
    · exact htake
    · exact htake
    · exact .refl s
  · exact .refl s

theorem handlePDelayRespFollowUp_emits : Emits s (handlePDelayRespFollowUp env s) [] := by
  have htake : Emits s (takePDelayRespFollowUp env s) [] := by
    unfold takePDelayRespFollowUp
    split
    · obtain ⟨_, _, _, _, _, -, heq⟩ := usePDelayRespFollowUp_eq env s
      rw [heq]
      exact ⟨rfl, rfl, rfl, rfl⟩
    · exact .refl s
  unfold handlePDelayRespFollowUp
  split
  · split
    · exact (toState_silent env s .faulty).emits
    split
    · exact htake
    · exact htake
    · exact .refl s
  · exact .refl s

theorem dispatch_emits :
    EmitsSome s (dispatch env time fromSelf s) (replies s.portState s.delayMechanism) := by
  -- event messages are logged before they are handled
  have hlog : Emits s (s.log (.eventMessage s.frameStamp time)) [] := ⟨rfl, rfl, rfl, rfl⟩
  unfold dispatch
  split
  · exact (handleAnnounce_silent env fromSelf s).none _
  · exact hlog.afterSome (handleSync_emits env time fromSelf _)
  · exact handleFollowUp_emits env fromSelf s
  · exact hlog.afterSome (handleDelayReq_emits env time _)
  · exact hlog.afterSome (handlePDelayReq_emits env time fromSelf _)
  · exact (handleDelayResp_emits env s).none _
  · exact (hlog.after (handlePDelayResp_emits env time fromSelf _)).none _
  · exact (handlePDelayRespFollowUp_emits env s).none _
  · exact (Emits.refl s).none _
  · exact (Emits.refl s).none _
  · exact (Emits.refl s).none _

theorem process_emits :
    EmitsSome s (process env time s) (replies s.portState s.delayMechanism) := by
  have hactive : Silent s (s.setMessageActivity true) := ⟨rfl, rfl, rfl, rfl, rfl⟩
  have hheader : Emits s (unpackHeader (s.setMessageActivity true)) [] := ⟨rfl, rfl, rfl, rfl⟩
  unfold process
  dsimp only
  split
  · exact (hactive.trans (toState_silent env _ .faulty)).none _
  split
  · exact hheader.none _
  split
  · exact hheader.none _
  · exact hheader.afterSome (dispatch_emits env _ _ _)

end Handlers

/-! ## One call -/

/-- Some of these messages are sent, in their order, whatever else happens. -/
def Sent (s t : System) (allowed : List MessageType) : Prop :=
  ∃ types : List MessageType,
    sentTypes t.history = types.reverse ++ sentTypes s.history ∧ types.Sublist allowed

section Calls

variable {s t u : System} {types types' : List MessageType}

theorem EmitsSome.sent (h : EmitsSome s t types) : Sent s t types := by
  obtain ⟨sent, hsent, hle⟩ := h
  exact ⟨sent, hsent.sent, hle⟩

theorem Sent.of_eq (h : sentTypes t.history = sentTypes s.history) : Sent s t [] :=
  ⟨[], h, .refl _⟩

theorem Sent.trans (h : Sent s t types) (h' : Sent t u types') : Sent s u (types ++ types') := by
  obtain ⟨sent, hsent, hle⟩ := h
  obtain ⟨sent', hsent', hle'⟩ := h'
  refine ⟨sent ++ sent', ?_, hle.append hle'⟩
  rw [hsent', hsent, List.reverse_append, List.append_assoc]

/-- Reception sends nothing. -/
theorem sends_of_reception {older history : List Entry}
    (h : Adds Entry.IsReception older history) : sends history = sends older := by
  obtain ⟨newer, rfl, hnewer⟩ := h
  induction newer with
  | nil => rfl
  | cons e newer ih =>
    have hrest := ih fun e' he' => hnewer e' (List.mem_cons_of_mem e he')
    have he := hnewer e List.mem_cons_self
    cases e with
    | frameRead stamp => exact hrest
    | eventMessage frame time => exact hrest
    | _ => exact he.elim

theorem Receives.sent (h : Receives s t) : Sent s t [] :=
  .of_eq (congrArg (List.map Prod.fst) (sends_of_reception h.history))

/-- **What is sent in reply** to a message. -/
theorem handle_sent (env : Env) (s : System) :
    Sent s (handle env s) (replies s.portState s.delayMechanism) := by
  have hreceive := receive_receives env s
  have hstate : (receive env s).2.portState = s.portState := hreceive.portState
  have hmechanism : (receive env s).2.delayMechanism = s.delayMechanism := hreceive.delayMechanism
  unfold handle
  dsimp only
  split
  · exact ((toState_silent env s .faulty).none _).sent
  split
  · exact ((Emits.refl s).none _).sent
  split
  · exact hreceive.sent.trans ((toState_silent env _ .faulty).none _).sent
  split
  · exact hreceive.sent.trans ((Emits.refl _).none _).sent
  · have hprocess := (process_emits env (receive env s).1 (receive env s).2).sent
    rw [hstate, hmechanism] at hprocess
    exact hreceive.sent.trans hprocess

theorem Engine.Outcome.delayMechanism {e e' : Engine} (h : Engine.Outcome e e') :
    e'.delayMechanism = e.delayMechanism := by
  cases h with
  | short =>
    obtain ⟨_, _, _, _, _, heq⟩ := Engine.toState_eq .faulty e
    rw [heq]
  | measure header e₁ _ hs hp hm hr =>
    obtain ⟨_, rfl⟩ := hr.eq
    obtain ⟨_, _, _, _, _, _, rfl⟩ := hm.eq
    rfl
  | requests _ hs hr =>
    obtain ⟨_, rfl⟩ := hr.eq
    rfl
  | _ => rfl

theorem requests_of_ne_slave {state : PtpState} (h : state ≠ .slave)
    (mechanism : DelayMechanism) : requests state mechanism = requests .master mechanism := by
  cases mechanism <;> cases state <;> first | rfl | exact absurd rfl h

/-- What happens outside sends nothing. -/
theorem pause_sent (env : Env) (point : Pause) (s : System) : Sent s (pause env point s) [] :=
  .of_eq (congrArg (List.map Prod.fst) (sends_of_reception (interrupts_reception _ _)))

theorem masterHandleCall_delayMechanism (env : Env) (h : s.portState = .master) :
    (masterHandleCall env s).delayMechanism = s.delayMechanism := by
  obtain ⟨_, _, heq⟩ := Engine.sends_eq (masterHandleCall_sends env h)
  exact congrArg Engine.delayMechanism heq

/-- What a master sends after the Sync and its Follow_Up. -/
theorem masterActions_sent_later (env : Env) (h : s.portState = .master) :
    Sent (syncTimerActions env s) (masterActions env s)
      ([.announce] ++ replies .master s.delayMechanism ++ requests .master s.delayMechanism) := by
  let u := masterHandleCall env s
  let w := pause env .requestTimer (handle env u)
  have hannounce : Sent (syncTimerActions env s) u [.announce] :=
    ((pause_sent env .announceTimer _).trans (announceTimerActions_emits env _).sent).trans
      (pause_sent env .handling _)
  have hstate : u.portState = .master := masterHandleCall_portState env h
  have hmechanism : u.delayMechanism = s.delayMechanism := masterHandleCall_delayMechanism env h
  have hreply := handle_sent env u
  rw [hstate, hmechanism] at hreply
  -- after the message the port is still master, or faulty
  have hengine : w.engine = (handle env u).engine := pause_engine env .requestTimer _
  have hafter : w.portState ≠ .slave := by
    rw [show w.portState = (handle env u).portState from congrArg Engine.portState hengine]
    obtain ⟨v, hv, hh⟩ := handle_handled env u
    rcases portState_of_handled hh with hfault | hsame
    · rw [hfault, toState_portState]
      decide
    · rw [hsame, hv.portState, hstate]
      decide
  have hkept : w.delayMechanism = s.delayMechanism :=
    ((congrArg Engine.delayMechanism hengine).trans
      (handle_outcome env u).delayMechanism).trans hmechanism
  have hrequest := (pause_sent env .requestTimer (handle env u)).trans
    (issueDelayReqTimerExpired_emits env w).sent
  rw [requests_of_ne_slave hafter, hkept] at hrequest
  exact (hannounce.trans hreply).trans hrequest

/-- What a master sends in one call: by its timers, in reply to a message, and its own request. -/
theorem masterActions_sent (env : Env) (h : s.portState = .master) :
    Sent s (masterActions env s) (repertoire .master s.delayMechanism) :=
  (syncTimerActions_emits env s).sent.trans (masterActions_sent_later env h)

/-- The first two switches and the interrupts send nothing. -/
theorem switchCall_sent (env : Env) (s : System) : Sent s (switchCall env s) [] := by
  have hactive : Silent s (s.setMessageActivity false) := ⟨rfl, rfl, rfl, rfl, rfl⟩
  have hfirst := (hactive.trans (stateDecision_silent _)).trans (followRecommendation_silent env _)
  exact hfirst.emits.some.sent.trans (pause_sent env .actions _)

/-- What the third switch sends. -/
theorem portActions_sent (env : Env) (v : System) :
    Sent v (portActions env v) (repertoire v.portState v.delayMechanism) := by
  unfold portActions
  split
  next hstate =>
    rw [hstate]
    dsimp only
    split
    · exact ((doInit_emits env v).afterSome ((toState_silent env _ .listening).none _)).sent
    · exact ((doInit_emits env v).afterSome ((toState_silent env _ .faulty).none _)).sent
  next hstate => exact ((toState_silent env v .initializing).none _).sent
  next hstate =>
    have hhandle := handle_sent env v
    rw [hstate] at hhandle ⊢
    exact hhandle
  case h_8 hstate =>
    rw [hstate]
    exact masterActions_sent env hstate
  case h_9 hstate => exact ((Emits.refl v).none _).sent
  all_goals
    -- the states that wait for an Announce
    next hstate =>
      have hread : Silent v (timerExpired .announceReceipt v).2 := ⟨rfl, rfl, rfl, rfl, rfl⟩
      let u := pause env .handling (timerExpired .announceReceipt v).2
      have hu : u.engine = v.engine := pause_engine env .handling _
      have hhandle := handle_sent env u
      rw [show u.portState = v.portState from congrArg Engine.portState hu,
        show u.delayMechanism = v.delayMechanism from congrArg Engine.delayMechanism hu] at hhandle
      have hrepertoire : repertoire v.portState v.delayMechanism =
          replies v.portState v.delayMechanism := by
        rw [hstate]
        rfl
      rw [hrepertoire]
      unfold awaitAnnounce
      dsimp only
      split
      · exact ((hread.trans (announceTimeout_silent env _)).none _).sent
      · exact (hread.emits.some.sent.trans (pause_sent env .handling _)).trans hhandle

/-- **What one call of `doState` sends**: at most one message of each type, in a fixed order, and
only those in the repertoire of the port state in which the call performs its actions. -/
theorem doState_sent (env : Env) (s : System) :
    ∃ types : List MessageType,
      sentTypes (doState env s).history = types.reverse ++ sentTypes s.history ∧
      types.Sublist
        (repertoire (switchCall env s).portState (switchCall env s).delayMechanism) ∧
      types.Nodup := by
  obtain ⟨types, hsent, hle⟩ := (switchCall_sent env s).trans (portActions_sent env _)
  exact ⟨types, hsent, hle, hle.nodup (repertoire_nodup _ _)⟩

end Calls

end Ptpd

import DiscoPtp.Properties.Ledger
import DiscoPtp.Library.History

/-!
# The handling of one message

What one call of `handle` can do: it receives at most one datagram and then does one of a few
things, each with the checks that the program has made before.

## Main definitions

* `Receives`: what reception changes
* `Handled`: the outcomes of handling the message at hand
* `switchCall`, `handleCall`, `masterHandleCall`: the states in which `doState` is at its third
  switch and calls `handle`

## Main results

* `receive_receives`: the reception of `handle`
* `handle_handled`: the outcomes of `handle`
* `portActions_of_handleCall`, `portActions_of_timeout`: what becomes of the third switch
-/

namespace Ptpd

open History

/-- The states of a port that follows a master. -/
def PtpState.Following (state : PtpState) : Prop := state = .uncalibrated ∨ state = .slave

instance (state : PtpState) : Decidable state.Following := inferInstanceAs (Decidable (_ ∨ _))

/-- The entries that reception logs. -/
def Entry.IsReception : Entry → Prop
  | .frameRead _ | .eventMessage _ _ => True
  | _ => False

/-! ## Reception -/

/-- What reception changes: the queues, the input buffer and the header of the message at hand. -/
structure Receives (s t : System) : Prop where
  ptpClock : ∃ netPath buf length header activity, t.ptpClock =
    { s.ptpClock with
      netPath
      msgIbuf := buf
      msgIbufLength := length
      msgTmpHeader := header
      messageActivity := activity }
  timersExpired : t.timersExpired = s.timersExpired
  time : t.time = s.time
  addend : t.addend = s.addend
  history : Adds Entry.IsReception s.history t.history

section Reception

variable {s t u : System}

theorem Receives.refl (s : System) : Receives s s :=
  ⟨⟨_, _, _, _, _, rfl⟩, rfl, rfl, rfl, .refl _ _⟩

theorem Receives.trans (h : Receives s t) (h' : Receives t u) : Receives s u := by
  obtain ⟨netPath, buf, length, header, activity, heq⟩ := h.ptpClock
  obtain ⟨netPath', buf', length', header', activity', heq'⟩ := h'.ptpClock
  refine ⟨⟨netPath', buf', length', header', activity', ?_⟩, h'.timersExpired.trans h.timersExpired,
    h'.time.trans h.time, h'.addend.trans h.addend, h.history.trans h'.history⟩
  rw [heq', heq]

theorem Receives.portState (h : Receives s t) : t.portState = s.portState := by
  obtain ⟨_, _, _, _, _, heq⟩ := h.ptpClock
  rw [System.portState, heq]

theorem Receives.delayMechanism (h : Receives s t) : t.delayMechanism = s.delayMechanism := by
  obtain ⟨_, _, _, _, _, heq⟩ := h.ptpClock
  rw [System.delayMechanism, heq]

theorem readFrame_receives (s : System) (p : Pbuf) : Receives s (readFrame s p) :=
  ⟨⟨_, _, _, _, _, rfl⟩, rfl, rfl, rfl, Adds.cons (e := Entry.frameRead p.stamp) trivial _⟩

theorem readFrames_receives (frames : List Pbuf) (s : System) :
    Receives s (frames.foldl readFrame s) := by
  induction frames generalizing s with
  | nil => exact .refl s
  | cons p frames ih => exact (readFrame_receives s p).trans (ih _)

theorem netRecv_receives (env : Env) (p : Pbuf) (time : TimeInternal) (s : System) :
    Receives s (netRecv env p time s).2.2 := by
  unfold netRecv
  split
  · exact .refl s
  split
  · exact .refl s
  · refine (readFrames_receives env.lateFrames s).trans ?_
    exact ⟨⟨_, _, _, _, _, rfl⟩, rfl, rfl, rfl, .refl _ _⟩

theorem netRecvEvent_receives (env : Env) (time : TimeInternal) (s : System) :
    Receives s (netRecvEvent env time s).2.2 := by
  have hget : Receives s (s.modify fun c =>
      { c with netPath := { c.netPath with eventQ := (netQGet c.netPath.eventQ).2 } }) :=
    ⟨⟨_, _, _, _, _, rfl⟩, rfl, rfl, rfl, .refl _ _⟩
  refine hget.trans ?_
  unfold netRecvEvent
  dsimp only
  split
  · exact .refl _
  · exact netRecv_receives env _ time _

theorem netRecvGeneral_receives (env : Env) (time : TimeInternal) (s : System) :
    Receives s (netRecvGeneral env time s).2.2 := by
  have hget : Receives s (s.modify fun c =>
      { c with netPath := { c.netPath with generalQ := (netQGet c.netPath.generalQ).2 } }) :=
    ⟨⟨_, _, _, _, _, rfl⟩, rfl, rfl, rfl, .refl _ _⟩
  refine hget.trans ?_
  unfold netRecvGeneral
  dsimp only
  split
  · exact .refl _
  · exact netRecv_receives env _ time _

theorem msgIbufLength_receives (n : Int) (s : System) :
    Receives s (s.modify fun c => { c with msgIbufLength := n }) :=
  ⟨⟨_, _, _, _, _, rfl⟩, rfl, rfl, rfl, .refl _ _⟩

theorem receive_receives (env : Env) (s : System) : Receives s (receive env s).2 := by
  have hevent := (netRecvEvent_receives env ⟨0, 0⟩ s).trans
    (msgIbufLength_receives (netRecvEvent env ⟨0, 0⟩ s).1 _)
  refine hevent.trans ?_
  unfold receive
  dsimp only
  split
  · exact .refl _
  · exact (netRecvGeneral_receives env _ _).trans (msgIbufLength_receives _ _)

theorem messageActivity_receives (b : Bool) (s : System) : Receives s (s.setMessageActivity b) :=
  ⟨⟨_, _, _, _, _, rfl⟩, rfl, rfl, rfl, .refl _ _⟩

theorem unpackHeader_receives (s : System) : Receives s (unpackHeader s) :=
  ⟨⟨_, _, _, _, _, rfl⟩, rfl, rfl, rfl, .refl _ _⟩

theorem eventMessage_receives (time : TimeInternal) (s : System) :
    Receives s (s.log (.eventMessage s.frameStamp time)) :=
  ⟨⟨_, _, _, _, _, rfl⟩, rfl, rfl, rfl,
    Adds.cons (e := Entry.eventMessage s.frameStamp time) trivial _⟩

end Reception

/-! ## Outcomes -/

/-- The store of an Announce in a state that follows no master. -/
def storeAnnounce (s : System) : System :=
  (takeAnnounce s).modify fun c => addForeign c c.msgTmpHeader c.msgTmpAnnounce

/-- **The outcomes of handling** the message at hand in the state `s`. -/
inductive Handled (env : Env) (s : System) : System → Prop
  | ignored : Handled env s s
  | short : Handled env s (toState env .faulty s)
  | followAnnounce (h : s.portState.Following) : Handled env s (followAnnounce s)
  | storeAnnounce
      (h : s.portState = .listening ∨ s.portState = .preMaster ∨ s.portState = .master) :
      Handled env s (storeAnnounce s)
  | storeAnnouncePassive (h : s.portState = .passive) :
      Handled env s (Ptpd.storeAnnounce
        (timerStart .announceReceipt (announceReceiptInterval s.ptpClock) s))
  | storeSync (time : TimeInternal) (h : s.portState.Following)
      (hp : isFromCurrentParent s.ptpClock) : Handled env s (storeSync time s)
  | useSync (time : TimeInternal) (h : s.portState.Following)
      (hp : isFromCurrentParent s.ptpClock) :
      Handled env s (issueDelayReqTimerExpired env (useSync env time s))
  | useFollowUp (h : s.portState.Following) (hm : followUpMatches s.ptpClock) :
      Handled env s (issueDelayReqTimerExpired env (useFollowUp env s))
  | passiveRequest (h : s.portState = .passive) :
      Handled env s (issueDelayReqTimerExpired env s)
  | issueDelayResp (time : TimeInternal) (h : s.portState = .master) :
      Handled env s (issueDelayResp env time s)
  | useDelayResp (h : s.portState.Following) (hm : delayRespMatches s.ptpClock) :
      Handled env s (useDelayResp s)
  | answerPDelayReq (time : TimeInternal) (hd : s.delayMechanism = .p2p)
      (h : s.portState = .passive ∨ s.portState = .slave ∨ s.portState = .master) :
      Handled env s (answerPDelayReq env time false s)
  | storePDelayResp (time : TimeInternal) (h : s.portState = .master ∨ s.portState = .slave)
      (hm : pdelayRespMatches s.ptpClock) : Handled env s (storePDelayResp env time s)
  | usePDelayResp (time : TimeInternal) (h : s.portState = .master ∨ s.portState = .slave)
      (hm : pdelayRespMatches s.ptpClock) : Handled env s (usePDelayResp time s)
  | usePDelayRespFollowUp (h : s.portState = .master ∨ s.portState = .slave)
      (hm : pdelayFollowUpMatches s.ptpClock) : Handled env s (usePDelayRespFollowUp env s)

section Outcomes

variable (env : Env) (time : TimeInternal) (fromSelf : Bool) (s : System)

theorem handleAnnounce_handled : Handled env s (handleAnnounce env fromSelf s) := by
  unfold handleAnnounce
  split
  · exact .short
  split
  · exact .ignored
  split
  · exact .ignored
  · exact .ignored
  · exact .ignored
  · exact .followAnnounce (.inl ‹_›)
  · exact .followAnnounce (.inr ‹_›)
  · -- the states that store the Announce of any master
    by_cases hpassive : s.portState = .passive
    · rw [if_pos hpassive]
      exact .storeAnnouncePassive hpassive
    · rw [if_neg hpassive]
      refine .storeAnnounce ?_
      generalize s.portState = state at *
      cases state <;> simp_all

theorem handleSync_handled : Handled env s (handleSync env time fromSelf s) := by
  have hfollow (h : s.portState.Following) : Handled env s (followSync env time fromSelf s) := by
    unfold followSync
    split
    · exact .ignored
    split
    · exact .ignored
    next hparent =>
    split
    · exact .storeSync time h (by simpa using hparent)
    · exact .useSync time h (by simpa using hparent)
  unfold handleSync
  split
  · exact .short
  split
  · exact hfollow (.inl ‹_›)
  · exact hfollow (.inr ‹_›)
  · exact .passiveRequest ‹_›
  · exact .ignored

theorem handleFollowUp_handled : Handled env s (handleFollowUp env fromSelf s) := by
  have htake (h : s.portState.Following) : Handled env s (takeFollowUp env s) := by
    unfold takeFollowUp
    split
    · exact .useFollowUp h ‹_›
    · exact .ignored
  unfold handleFollowUp
  split
  · exact .short
  split
  · exact .ignored
  split
  · exact htake (.inl ‹_›)
  · exact htake (.inr ‹_›)
  · exact .passiveRequest ‹_›
  · exact .ignored

theorem handleDelayReq_handled : Handled env s (handleDelayReq env time s) := by
  unfold handleDelayReq
  split
  · split
    · exact .short
    split
    · exact .issueDelayResp time ‹_›
    · exact .ignored
  · exact .ignored

theorem handleDelayResp_handled : Handled env s (handleDelayResp env s) := by
  have htake (h : s.portState.Following) : Handled env s (takeDelayResp s) := by
    unfold takeDelayResp
    split
    · exact .useDelayResp h ‹_›
    · exact .ignored
  unfold handleDelayResp
  split
  · split
    · exact .short
    split
    · exact htake (.inl ‹_›)
    · exact htake (.inr ‹_›)
    · exact .ignored
  · exact .ignored

theorem handlePDelayReq_handled : Handled env s (handlePDelayReq env time fromSelf s) := by
  have hanswer (hd : s.delayMechanism = .p2p)
      (h : s.portState = .passive ∨ s.portState = .slave ∨ s.portState = .master) :
      Handled env s (answerPDelayReq env time fromSelf s) := by
    cases fromSelf with
    | true => exact .ignored
    | false => exact .answerPDelayReq time hd h
  unfold handlePDelayReq
  split
  next hd =>
    split
    · exact .short
    split
    · exact hanswer hd (.inl ‹_›)
    · exact hanswer hd (.inr (.inl ‹_›))
    · exact hanswer hd (.inr (.inr ‹_›))
    · exact .ignored
  · exact .ignored

theorem handlePDelayResp_handled : Handled env s (handlePDelayResp env time fromSelf s) := by
  have htake (h : s.portState = .master ∨ s.portState = .slave) :
      Handled env s (takePDelayResp env time fromSelf s) := by
    unfold takePDelayResp
    split
    · exact .ignored
    split
    · split
      · exact .storePDelayResp time h ‹_›
      · exact .usePDelayResp time h ‹_›
    · exact .ignored
  unfold handlePDelayResp
  split
  · split
    · exact .short
    split
    · exact htake (.inl ‹_›)
    · exact htake (.inr ‹_›)
    · exact .ignored
  · exact .ignored

theorem handlePDelayRespFollowUp_handled : Handled env s (handlePDelayRespFollowUp env s) := by
  have htake (h : s.portState = .master ∨ s.portState = .slave) :
      Handled env s (takePDelayRespFollowUp env s) := by
    unfold takePDelayRespFollowUp
    split
    · exact .usePDelayRespFollowUp h ‹_›
    · exact .ignored
  unfold handlePDelayRespFollowUp
  split
  · split
    · exact .short
    split
    · exact htake (.inr ‹_›)
    · exact htake (.inl ‹_›)
    · exact .ignored
  · exact .ignored

/-- The state in which the message at hand is handled, and the outcome. -/
theorem dispatch_handled :
    ∃ u, Receives s u ∧ Handled env u (dispatch env time fromSelf s) := by
  -- the four event messages are logged before they are handled
  have hevent := eventMessage_receives time s
  unfold dispatch
  split
  · exact ⟨s, .refl s, handleAnnounce_handled env fromSelf s⟩
  · exact ⟨_, hevent, handleSync_handled env time fromSelf _⟩
  · exact ⟨s, .refl s, handleFollowUp_handled env fromSelf s⟩
  · exact ⟨_, hevent, handleDelayReq_handled env time _⟩
  · exact ⟨_, hevent, handlePDelayReq_handled env time fromSelf _⟩
  · exact ⟨s, .refl s, handleDelayResp_handled env s⟩
  · exact ⟨_, hevent, handlePDelayResp_handled env time fromSelf _⟩
  · exact ⟨s, .refl s, handlePDelayRespFollowUp_handled env s⟩
  · exact ⟨s, .refl s, .ignored⟩
  · exact ⟨s, .refl s, .ignored⟩
  · exact ⟨s, .refl s, .ignored⟩

theorem process_handled :
    ∃ u, Receives s u ∧ Handled env u (process env time s) := by
  have hactive := messageActivity_receives true s
  unfold process
  dsimp only
  split
  · exact ⟨_, hactive, .short⟩
  have hheader := hactive.trans (unpackHeader_receives _)
  split
  · exact ⟨_, hheader, .ignored⟩
  split
  · exact ⟨_, hheader, .ignored⟩
  · obtain ⟨u, hu, hh⟩ := dispatch_handled env _ _ (unpackHeader (s.setMessageActivity true))
    exact ⟨u, hheader.trans hu, hh⟩

/-- **One call of `handle`**: reception, then one of the outcomes. -/
theorem handle_handled : ∃ u, Receives s u ∧ Handled env u (handle env s) := by
  unfold handle
  dsimp only
  split
  · exact ⟨s, .refl s, .short⟩
  split
  · exact ⟨s, .refl s, .ignored⟩
  have hreceive := receive_receives env s
  split
  · exact ⟨_, hreceive, .short⟩
  split
  · exact ⟨_, hreceive, .ignored⟩
  · obtain ⟨u, hu, hh⟩ := process_handled env (receive env s).1 (receive env s).2
    exact ⟨u, hreceive.trans hu, hh⟩

end Outcomes

/-! ## The way to `handle` -/

/-- The states that wait for Announce messages. -/
def PtpState.Awaiting (state : PtpState) : Prop :=
  state ∈ [.listening, .uncalibrated, .slave, .passive]

instance (state : PtpState) : Decidable state.Awaiting := inferInstanceAs (Decidable (_ ∈ _))

/-- The state in which `doState` is at its third switch. -/
def switchCall (env : Env) (s : System) : System :=
  pause env .actions (followRecommendation env (stateDecision (s.setMessageActivity false)))

/-- The state in which a master calls `handle`: after its Sync and Announce timers. -/
def masterHandleCall (env : Env) (s : System) : System :=
  pause env .handling (announceTimerActions env (pause env .announceTimer (syncTimerActions env s)))

/-- The state in which the third switch calls `handle`, if it does. -/
def handleCall (env : Env) (s : System) : Option System :=
  match s.portState with
  | .disabled => some s
  | .listening | .uncalibrated | .slave | .passive =>
    let r := timerExpired .announceReceipt s
    if r.1 then none else some (pause env .handling r.2)
  | .master => some (masterHandleCall env s)
  | _ => none

section Calls

variable {env : Env} {s u : System}

theorem doState_eq (env : Env) (s : System) :
    doState env s = portActions env (switchCall env s) := rfl

theorem portActions_of_awaiting (env : Env) (h : s.portState.Awaiting) :
    portActions env s = awaitAnnounce env s ∧
      handleCall env s =
        if s.timersExpired .announceReceipt then none
        else some (pause env .handling (timerExpired .announceReceipt s).2) := by
  simp only [PtpState.Awaiting, List.mem_cons, List.not_mem_nil, or_false] at h
  unfold portActions handleCall
  rcases h with h | h | h | h
  all_goals
    rw [h]
    exact ⟨rfl, rfl⟩

/-- Without the timeout, a port that waits for Announce messages handles one message. -/
theorem portActions_of_handleCall (h : s.portState.Awaiting) (hc : handleCall env s = some u) :
    u = pause env .handling (timerExpired .announceReceipt s).2 ∧
      portActions env s = handle env u := by
  obtain ⟨hacts, hcall⟩ := portActions_of_awaiting env h
  rw [hcall] at hc
  split at hc
  · cases hc
  next hnot =>
    obtain rfl := Option.some.inj hc
    exact ⟨rfl, hacts.trans (if_neg hnot)⟩

theorem portActions_of_timeout (h : s.portState.Awaiting) (hc : handleCall env s = none) :
    portActions env s = announceTimeout env (timerExpired .announceReceipt s).2 := by
  obtain ⟨hacts, hcall⟩ := portActions_of_awaiting env h
  rw [hcall] at hc
  split at hc
  next hexpired => exact hacts.trans (if_pos hexpired)
  · cases hc

theorem portActions_of_master (env : Env) (h : s.portState = .master) :
    handleCall env s = some (masterHandleCall env s) ∧
      portActions env s = issueDelayReqTimerExpired env
        (pause env .requestTimer (handle env (masterHandleCall env s))) := by
  unfold portActions handleCall
  rw [h]
  exact ⟨rfl, rfl⟩

end Calls

end Ptpd

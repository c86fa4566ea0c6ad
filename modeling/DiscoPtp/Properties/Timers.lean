import DiscoPtp.Properties.ForeignDatagrams
import DiscoPtp.Properties.Matching

/-!
# Timers and port states

Which timers run in which port state. `toState` stops timers on leaving a state and starts timers
on entering one; the handlers only restart timers that run already. One restart is out of place: a
master looks at its request timer also after a malformed datagram has made it faulty, and if the
callback of that timer comes in between, a faulty port starts it.

## Main definitions

* `PtpState.timers`: the timers of a port state
* `timersAfter`: what `toState` does to the running timers
* `StaleRequest`: the call that restarts the request timer of a faulty port
* `TimelyStep`: the steps without such a call

## Main results

* `timersAfter_timers`: every transition of an initialised port exchanges the timers
* `doState_timed_iff`: one call
* `runningTimers_iff`: the running timers of an initialised port are those of its state
-/

namespace Ptpd

open Relation (ReflTransGen)

/-- The timers that run in a port state. -/
def PtpState.timers (state : PtpState) (mechanism : DelayMechanism) : Finset Timer :=
  match state, mechanism with
  | .listening, _ => {.announceReceipt}
  | .uncalibrated, .e2e | .slave, .e2e => {.announceReceipt, .delayReqInterval}
  | .uncalibrated, .p2p | .slave, .p2p => {.announceReceipt, .pdelayReqInterval}
  | .uncalibrated, .other | .slave, .other => {.announceReceipt}
  | .master, .p2p => {.syncInterval, .announceInterval, .pdelayReqInterval}
  | .master, _ => {.syncInterval, .announceInterval}
  | .passive, .p2p => {.announceReceipt, .pdelayReqInterval}
  | .passive, _ => {.announceReceipt}
  | _, _ => ∅

/-- The running timers after leaving the state `old` for `new`. -/
def timersLeft (old new : PtpState) (mechanism : DelayMechanism) (timers : Finset Timer) :
    Finset Timer :=
  match old with
  | .master =>
    ((timers.erase .syncInterval).erase .announceInterval).erase .pdelayReqInterval
  | .uncalibrated | .slave =>
    if new = .uncalibrated ∨ new = .slave then timers
    else
      match mechanism with
      | .e2e => (timers.erase .announceReceipt).erase .delayReqInterval
      | .p2p => (timers.erase .announceReceipt).erase .pdelayReqInterval
      | .other => timers.erase .announceReceipt
  | .passive => (timers.erase .pdelayReqInterval).erase .announceReceipt
  | .listening => timers.erase .announceReceipt
  | .preMaster => timers.erase .qualificationTimeout
  | _ => timers

/-- The running timers after entering the state `new`. -/
def timersEntered (new : PtpState) (mechanism : DelayMechanism) (timers : Finset Timer) :
    Finset Timer :=
  match new, mechanism with
  | .listening, _ => insert .announceReceipt timers
  | .preMaster, .p2p | .master, .p2p =>
    insert .pdelayReqInterval (insert .announceInterval (insert .syncInterval timers))
  | .preMaster, _ | .master, _ => insert .announceInterval (insert .syncInterval timers)
  | .passive, .p2p => insert .pdelayReqInterval (insert .announceReceipt timers)
  | .passive, _ => insert .announceReceipt timers
  | .uncalibrated, .e2e => insert .delayReqInterval (insert .announceReceipt timers)
  | .uncalibrated, .p2p => insert .pdelayReqInterval (insert .announceReceipt timers)
  | .uncalibrated, .other => insert .announceReceipt timers
  | _, _ => timers

/-- The running timers after `toState`. -/
def timersAfter (old new : PtpState) (mechanism : DelayMechanism) (timers : Finset Timer) :
    Finset Timer :=
  timersEntered new mechanism (timersLeft old new mechanism timers)

/-- The transitions that exchange the timers of the states: all of an initialised port, where
`PTP_SLAVE` is only entered from `PTP_UNCALIBRATED`. -/
def Exchanges (old new : PtpState) : Prop :=
  (old.Operating ∨ old = .faulty) ∧ new ≠ .initializing ∧ new ≠ .disabled ∧
    (new = .slave → old = .uncalibrated)

instance (old new : PtpState) : Decidable (Exchanges old new) :=
  inferInstanceAs (Decidable (_ ∧ _))

/-- **Every transition exchanges the timers** of the old state for those of the new one. -/
theorem timersAfter_timers {old new : PtpState} (mechanism : DelayMechanism)
    (h : Exchanges old new) :
    timersAfter old new mechanism (old.timers mechanism) = new.entered.timers mechanism := by
  revert h
  cases old <;> cases new <;> cases mechanism <;> decide

namespace Engine

variable {e e' : Engine}

theorem leave_timers (state : PtpState) (e : Engine) :
    (e.leave state).timers = timersLeft e.portState state e.delayMechanism e.timers := by
  have hstay : (if state = .uncalibrated ∨ state = .slave then e else e.leaveFollower).timers =
      if state = .uncalibrated ∨ state = .slave then e.timers else
        match e.delayMechanism with
        | .e2e => (e.timers.erase .announceReceipt).erase .delayReqInterval
        | .p2p => (e.timers.erase .announceReceipt).erase .pdelayReqInterval
        | .other => e.timers.erase .announceReceipt := by
    split
    · rfl
    · unfold leaveFollower
      dsimp only
      rw [show (e.stop .announceReceipt).delayMechanism = e.delayMechanism from rfl]
      cases e.delayMechanism <;> rfl
  unfold leave timersLeft
  cases e.portState with
  | uncalibrated => exact hstay
  | slave => exact hstay
  | _ => rfl

theorem enter_timers (state : PtpState) (e : Engine) :
    (e.enter state).timers = timersEntered state e.delayMechanism e.timers := by
  cases state with
  | passive =>
    unfold enter enterPassive timersEntered
    dsimp only
    rw [show (e.start .announceReceipt).delayMechanism = e.delayMechanism from rfl]
    cases e.delayMechanism <;> rfl
  | uncalibrated =>
    unfold enter enterUncalibrated timersEntered
    dsimp only
    rw [show (e.start .announceReceipt).delayMechanism = e.delayMechanism from rfl]
    cases e.delayMechanism <;> rfl
  | preMaster =>
    unfold enter enterMaster timersEntered
    dsimp only
    rw [show ((e.start .syncInterval).start .announceInterval).delayMechanism =
      e.delayMechanism from rfl]
    cases e.delayMechanism <;> rfl
  | master =>
    unfold enter enterMaster timersEntered
    dsimp only
    rw [show ((e.start .syncInterval).start .announceInterval).delayMechanism =
      e.delayMechanism from rfl]
    cases e.delayMechanism <;> rfl
  | _ => cases e.delayMechanism <;> rfl

theorem toState_timers (state : PtpState) (e : Engine) :
    (e.toState state).timers = timersAfter e.portState state e.delayMechanism e.timers := by
  obtain ⟨_, _, _, _, _, hleave⟩ := leave_eq state e
  have hmechanism : (e.leave state).delayMechanism = e.delayMechanism := by rw [hleave]
  rw [toState, enter_timers, leave_timers, hmechanism]
  rfl

/-- The running timers are those of the port state. -/
def Timed (e : Engine) : Prop := e.timers = e.portState.timers e.delayMechanism

theorem Timed.toState (h : e.Timed) {state : PtpState} (hx : Exchanges e.portState state) :
    (e.toState state).Timed := by
  obtain ⟨_, _, _, _, _, heq⟩ := toState_eq state e
  have hmechanism : (e.toState state).delayMechanism = e.delayMechanism := by rw [heq]
  rw [Timed, toState_timers, toState_portState, hmechanism, h, timersAfter_timers _ hx]

/-- The request timer that is restarted runs already, unless the port is faulty. -/
theorem Timed.requests (h : e.Timed) (hf : e.portState ≠ .faulty) (hr : Requests e e') :
    e'.Timed := by
  cases hr with
  | none => exact h
  | delayReq hd hs =>
    show insert Timer.delayReqInterval e.timers = e.portState.timers e.delayMechanism
    rw [h, hd, hs]
    rfl
  | pdelayReq hd hs =>
    show insert Timer.pdelayReqInterval e.timers = e.portState.timers e.delayMechanism
    simp only [List.mem_cons, List.not_mem_nil, or_false] at hs
    rw [h, hd]
    rcases hs with hs | hs | hs | hs | hs
    case inr.inr.inr.inr => exact absurd hs hf
    all_goals
      rw [hs]
      rfl

theorem Timed.restart (h : e.Timed) (hs : .announceReceipt ∈ e.portState.timers e.delayMechanism) :
    (e.start .announceReceipt).Timed := by
  show insert Timer.announceReceipt e.timers = e.portState.timers e.delayMechanism
  rw [h, Finset.insert_eq_of_mem hs]

theorem Timed.outcome (h : e.Timed) (hw : e.portState.Operating) (ho : Outcome e e') :
    e'.Timed := by
  cases ho with
  | ignored => exact h
  | short => exact h.toState ⟨.inl hw, by decide, by decide, by rintro ⟨⟩⟩
  | store header announce hs => exact h
  | storePassive header announce hs =>
    refine h.restart ?_
    rw [hs]
    cases e.delayMechanism <;> decide
  | followParent header announce hs hp =>
    refine Timed.restart (e := { e with events := _ }.s1 header announce) h ?_
    show .announceReceipt ∈ e.portState.timers e.delayMechanism
    rcases hs with hs | hs
    · rw [hs]
      cases e.delayMechanism <;> decide
    · rw [hs]
      cases e.delayMechanism <;> decide
  | storeSync hs => exact h
  | measure header e₁ _ hs hp hm hr =>
    obtain ⟨_, _, _, _, _, _, heq⟩ := hm.eq
    have h₁ : e₁.Timed := by
      rw [heq]
      exact h
    refine h₁.requests ?_ hr
    rw [heq]
    show e.portState ≠ .faulty
    rcases hs with hs | hs <;> simp [hs]
  | requests _ hs hr => exact h.requests (by simp [hs]) hr
  | serve packet hs => exact h

theorem Timed.decides (h : e.Timed) (hd : Decides e e') : e'.Timed := by
  cases hd <;> exact h

theorem Timed.turn : Transition.Preserves Turn Timed := by
  intro e e' ht h
  cases ht with
  | events events => exact h
  | enter state hw hen =>
    refine h.toState ⟨hw, ?_⟩
    cases hen with
    | slave hr hu => exact ⟨by decide, by decide, fun _ => hu⟩
    | _ => exact ⟨by decide, by decide, by rintro ⟨⟩⟩

theorem Timed.timeout (h : e.Timed) (hs : e.portState.Awaiting) : e.announceTimeout.Timed := by
  have hw : e.portState.Operating := by
    unfold PtpState.Awaiting at hs
    unfold PtpState.Operating
    simp only [List.mem_cons, List.not_mem_nil, or_false] at hs ⊢
    tauto
  unfold announceTimeout
  split
  · exact Timed.toState (e := { e.clearForeign.m1 with recommendedState := .master }) h
      ⟨.inl hw, by decide, by decide, by rintro ⟨⟩⟩
  split
  · exact Timed.toState (e := e.clearForeign) h ⟨.inl hw, by decide, by decide, by rintro ⟨⟩⟩
  · exact h

theorem Timed.sends : Transition.Preserves Sends Timed := by
  intro e e' hs h
  cases hs <;> exact h

/-- The third switch in the states that wait for Announces. -/
theorem Timed.acts (h : e.Timed) (hw : e.portState.Operating) (hm : e.portState ≠ .master)
    (ha : Acts e e') : e'.Timed := by
  cases ha with
  | timeout hawait => exact h.timeout hawait
  | await _ hawait ho => exact h.outcome hw ho
  | master _ _ _ hmaster => exact absurd hmaster hm

end Engine

/-! ## The datagram that makes a master faulty -/

section Master

variable {env : Env} {time : TimeInternal} {fromSelf : Bool} {s t : System}

/-- A datagram that is too short makes the port faulty, and any other keeps it a master. -/
structure Checks (short : Prop) (t : System) : Prop where
  faulty : short → t.portState = .faulty
  master : ¬short → t.portState = .master

theorem checks_of_check {n : Int} (ht : t.portState = .master) :
    Checks (s.ptpClock.msgIbufLength < n)
      (if s.ptpClock.msgIbufLength < n then toState env .faulty s else t) := by
  constructor
  · intro hshort
    rw [if_pos hshort]
    exact toState_portState env .faulty s
  · intro hshort
    rw [if_neg hshort]
    exact ht

theorem checks_of_kept {short : Prop} (hshort : ¬short) (ht : t.portState = .master) :
    Checks short t := ⟨fun h => absurd h hshort, fun _ => ht⟩

/-- A handler of the delay mechanism `m` ignores the message under any other. -/
theorem checks_of_mechanism {m : DelayMechanism} {type : MessageType} {n : Int}
    (htype : MessageType.ofCode s.ptpClock.msgTmpHeader.messageType = some type)
    (hn : requiredLength s.delayMechanism type = if s.delayMechanism = m then some n else none)
    (htaken : s.delayMechanism = m → Checks (s.ptpClock.msgIbufLength < n) t)
    (hignored : s.delayMechanism ≠ m → t.portState = .master) :
    Checks (TooShort s.delayMechanism s.ptpClock.msgTmpHeader s.ptpClock.msgIbufLength) t := by
  by_cases hd : s.delayMechanism = m
  · rw [if_pos hd] at hn
    rw [tooShort_iff htype hn]
    exact htaken hd
  · rw [if_neg hd] at hn
    refine checks_of_kept (not_tooShort fun type' htype' => ?_) (hignored hd)
    rw [← Option.some.inj (htype.symm.trans htype')]
    exact hn

variable (hm : s.portState = .master)
include hm

theorem handleAnnounce_master :
    Checks (s.ptpClock.msgIbufLength < announceLength) (handleAnnounce env fromSelf s) := by
  refine checks_of_check ?_
  have hstored : (storeAnnounce s).portState = .master := by
    obtain ⟨_, _, h⟩ := storeAnnounce_engine s
    exact (congrArg Engine.portState h).trans hm
  split
  · exact hm
  · rw [hm]
    exact hstored

theorem handleSync_master :
    Checks (s.ptpClock.msgIbufLength < syncLength) (handleSync env time fromSelf s) := by
  refine checks_of_check ?_
  rw [hm]
  exact hm

theorem handleFollowUp_master :
    Checks (s.ptpClock.msgIbufLength < followUpLength) (handleFollowUp env fromSelf s) := by
  refine checks_of_check ?_
  split
  · exact hm
  · rw [hm]
    exact hm

theorem handleDelayReq_master (hd : s.delayMechanism = .e2e) :
    Checks (s.ptpClock.msgIbufLength < delayReqLength) (handleDelayReq env time s) := by
  unfold handleDelayReq
  rw [hd]
  refine checks_of_check ?_
  rw [if_pos hm, issueDelayResp_eq]
  exact hm

theorem handleDelayResp_master (hd : s.delayMechanism = .e2e) :
    Checks (s.ptpClock.msgIbufLength < delayRespLength) (handleDelayResp env s) := by
  unfold handleDelayResp
  rw [hd]
  refine checks_of_check ?_
  rw [hm]
  exact hm

theorem handlePDelayReq_master (hd : s.delayMechanism = .p2p) :
    Checks (s.ptpClock.msgIbufLength < pdelayReqLength) (handlePDelayReq env time fromSelf s) := by
  unfold handlePDelayReq
  rw [hd]
  refine checks_of_check ?_
  have hanswer : (answerPDelayReq env time fromSelf s).portState = .master := by
    unfold answerPDelayReq
    dsimp only
    rw [issuePDelayResp_eq, issuePDelayRespFollowUp_eq]
    split
    · exact hm
    split
    · exact hm
    · exact hm
  rw [hm]
  exact hanswer

theorem handlePDelayResp_master (hd : s.delayMechanism = .p2p) :
    Checks (s.ptpClock.msgIbufLength < pdelayRespLength)
      (handlePDelayResp env time fromSelf s) := by
  unfold handlePDelayResp
  rw [hd]
  refine checks_of_check ?_
  have htake : (takePDelayResp env time fromSelf s).portState = .master := by
    unfold takePDelayResp
    split
    · exact hm
    split
    · split
      · obtain ⟨_, _, _, -, h⟩ := storePDelayResp_eq env time s
        rw [h]
        exact hm
      · obtain ⟨_, _, _, h⟩ := usePDelayResp_eq time s
        rw [h]
        exact hm
    · exact hm
  rw [hm]
  exact htake

theorem handlePDelayRespFollowUp_master (hd : s.delayMechanism = .p2p) :
    Checks (s.ptpClock.msgIbufLength < pdelayRespFollowUpLength)
      (handlePDelayRespFollowUp env s) := by
  unfold handlePDelayRespFollowUp
  rw [hd]
  refine checks_of_check ?_
  have htake : (takePDelayRespFollowUp env s).portState = .master := by
    unfold takePDelayRespFollowUp
    split
    · obtain ⟨_, _, _, _, _, -, h⟩ := usePDelayRespFollowUp_eq env s
      rw [h]
      exact hm
    · exact hm
  rw [hm]
  exact htake

/-- **The handlers** make a master faulty by a message that is too short, and by no other. -/
theorem dispatch_master :
    Checks (TooShort s.delayMechanism s.ptpClock.msgTmpHeader s.ptpClock.msgIbufLength)
      (dispatch env time fromSelf s) := by
  unfold dispatch
  split
  next htype =>
    rw [tooShort_iff htype rfl]
    exact handleAnnounce_master hm
  next htype =>
    rw [tooShort_iff htype rfl]
    exact handleSync_master (s := s.log _) hm
  next htype =>
    rw [tooShort_iff htype rfl]
    exact handleFollowUp_master hm
  next htype =>
    refine checks_of_mechanism (m := .e2e) htype rfl ?_ ?_
    · exact fun hd => handleDelayReq_master (s := s.log _) hm hd
    · intro hd
      unfold handleDelayReq
      split
      next hd' => exact absurd hd' hd
      · exact hm
  next htype =>
    refine checks_of_mechanism (m := .p2p) htype rfl ?_ ?_
    · exact fun hd => handlePDelayReq_master (s := s.log _) hm hd
    · intro hd
      unfold handlePDelayReq
      split
      next hd' => exact absurd hd' hd
      · exact hm
  next htype =>
    refine checks_of_mechanism (m := .e2e) htype rfl (handleDelayResp_master hm) ?_
    intro hd
    unfold handleDelayResp
    split
    next hd' => exact absurd hd' hd
    · exact hm
  next htype =>
    refine checks_of_mechanism (m := .p2p) htype rfl ?_ ?_
    · exact fun hd => handlePDelayResp_master (s := s.log _) hm hd
    · intro hd
      unfold handlePDelayResp
      split
      next hd' => exact absurd hd' hd
      · exact hm
  next htype =>
    refine checks_of_mechanism (m := .p2p) htype rfl (handlePDelayRespFollowUp_master hm) ?_
    intro hd
    unfold handlePDelayRespFollowUp
    split
    next hd' => exact absurd hd' hd
    · exact hm
  next htype =>
    refine checks_of_kept (not_tooShort fun type' htype' => ?_) hm
    rw [← Option.some.inj (htype.symm.trans htype')]
    rfl
  next htype =>
    refine checks_of_kept (not_tooShort fun type' htype' => ?_) hm
    rw [← Option.some.inj (htype.symm.trans htype')]
    rfl
  next htype =>
    exact checks_of_kept (not_tooShort fun type' htype' => by cases htype.symm.trans htype') hm

theorem process_master (hlen : 0 < s.ptpClock.msgIbufLength) :
    Checks (Malformed s.ptpClock) (process env time s) := by
  unfold process
  dsimp only
  split
  next hshort =>
    exact ⟨fun _ => toState_portState env .faulty _, fun hwell => absurd ⟨hlen, .inl hshort⟩ hwell⟩
  next hheader =>
    split
    next hversion =>
      exact checks_of_kept (fun hbad => hbad.2.elim hheader fun h => hversion h.1) hm
    split
    next hdomain =>
      exact checks_of_kept (fun hbad => hbad.2.elim hheader fun h => hdomain h.2.1) hm
    next hversion hdomain =>
      let u := unpackHeader (s.setMessageActivity true)
      have hdispatch : Checks
          (TooShort u.delayMechanism u.ptpClock.msgTmpHeader u.ptpClock.msgIbufLength)
          (dispatch env (inboundTime u.ptpClock time) (isFromSelf u.ptpClock) u) :=
        dispatch_master hm
      constructor
      · exact fun hbad => hdispatch.faulty (hbad.2.resolve_left hheader).2.2
      · intro hwell
        refine hdispatch.master fun hshort => hwell ⟨hlen, .inr ⟨?_, ?_, hshort⟩⟩
        · exact not_not.mp hversion
        · exact not_not.mp hdomain

/-- **One message** of a master. -/
theorem handle_master (env : Env) :
    Checks (Malformed (receive env s).2.ptpClock) (handle env s) := by
  have hreceived : (receive env s).2.portState = .master :=
    (receive_receives env s).portState.trans hm
  have hidle (hzero : (receive env s).2.ptpClock.msgIbufLength = 0) {t : System}
      (ht : t.portState = .master) : Checks (Malformed (receive env s).2.ptpClock) t :=
    checks_of_kept (fun hbad => absurd hbad.1 (by simp [hzero])) ht
  unfold handle
  dsimp only
  split
  next hnegative =>
    -- `netSelect` never fails
    exact absurd hnegative.2 (by unfold netSelect; split <;> decide)
  split
  next hnothing => exact hidle (receive_of_empty env hnothing.2) hm
  split
  next hfailed => exact absurd (receive_length_nonneg env s) (Int.not_le.mpr hfailed)
  split
  next hzero => exact hidle hzero hreceived
  next hne =>
    exact process_master hreceived
      (lt_of_le_of_ne (receive_length_nonneg env s) (Ne.symm hne))

/-- **A fault of a master** clears the flag of its request timer. -/
theorem handle_fault (hbad : Malformed (receive env s).2.ptpClock) :
    (handle env s).portState = .faulty ∧ (handle env s).delayMechanism = s.delayMechanism ∧
      (handle env s).timersExpired .pdelayReqInterval = false := by
  have hfault := (handle_master hm env).faulty hbad
  obtain ⟨u, hu, hhandled⟩ := handle_handled env s
  have hmaster : u.portState = .master := hu.portState.trans hm
  have hstate : handle env s = toState env .faulty u := by
    refine (portState_of_handled hhandled).resolve_right fun hkept => ?_
    rw [hfault, hmaster] at hkept
    cases hkept
  refine ⟨hfault, ?_, ?_⟩
  · have hengine : (handle env s).engine = u.engine.toState .faulty := by
      rw [hstate, toState_engine]
    obtain ⟨_, _, _, _, _, heq⟩ := Engine.toState_eq .faulty u.engine
    have hmechanism := congrArg Engine.delayMechanism (hengine.trans heq)
    exact hmechanism.trans (congrArg Engine.delayMechanism hu.engine)
  · rw [hstate]
    unfold toState leaveState
    rw [show (u.setMessageActivity true).portState = .master from hmaster]
    rfl

end Master

/-! ## One call -/

/-- **The call that restarts the request timer of a faulty port**: a master with the peer delay
mechanism becomes faulty by a malformed datagram, and before it looks at the timer of its requests
the callback of this timer runs. -/
structure StaleRequest (env : Env) (s : System) : Prop where
  mechanism : s.delayMechanism = .p2p
  master : (switchCall env s).portState = .master
  malformed : Malformed (receive env (masterHandleCall env (switchCall env s))).2.ptpClock
  callback : .timerCallback .pdelayReqInterval ∈ env.interrupts .requestTimer

section Call

variable {env : Env} {s : System}

/-- A flag is set by the callback of its timer, and by nothing else outside. -/
theorem interrupts_expired (is : List Interrupt) (s : System) (timer : Timer) :
    (is.foldl interrupt s).timersExpired timer = true ↔
      .timerCallback timer ∈ is ∨ s.timersExpired timer = true := by
  induction is generalizing s with
  | nil => simp
  | cons i is ih =>
    rw [List.foldl_cons, ih, List.mem_cons]
    cases i with
    | timerCallback timer' =>
      by_cases htimer : timer = timer'
      · simp [interrupt, timerCallback, htimer]
      · simp [interrupt, timerCallback, htimer]
    | recvEvent n =>
      simp only [interrupt, netRecvEventCallback]
      split <;> simp
    | recvGeneral n =>
      simp only [interrupt, netRecvGeneralCallback]
      split <;> simp
    | _ => simp [interrupt, readFrame]

/-- The request timer of a faulty port. -/
theorem issueDelayReqTimerExpired_of_faulty (env : Env) (h : s.portState = .faulty) :
    (issueDelayReqTimerExpired env s).engine =
      if s.delayMechanism = .p2p ∧ s.timersExpired .pdelayReqInterval = true then
        s.engine.start .pdelayReqInterval
      else s.engine := by
  have hslave : s.portState ≠ .slave := by simp [h]
  unfold issueDelayReqTimerExpired
  split
  next hd => rw [if_pos hslave, if_neg (by simp [hd])]
  next hd =>
    dsimp only
    rw [show (timerExpired .pdelayReqInterval s).1 = s.timersExpired .pdelayReqInterval from rfl]
    split
    next hflag =>
      rw [issuePDelayReq_engine, if_pos ⟨hd, hflag⟩]
      rfl
    next hflag =>
      rw [if_neg fun hboth => hflag hboth.2]
      rfl
  next hd => rw [if_neg (by simp [hd])]

theorem switchCall_delayMechanism (env : Env) (hs : s.engine.Settled) :
    (switchCall env s).delayMechanism = s.delayMechanism := by
  obtain ⟨e₁, hd, -, hswitch⟩ := switchCall_engine env hs
  obtain ⟨_, _, _, _, _, _, _, hfollow⟩ := Engine.follow_followed e₁
  have hmechanism : (switchCall env s).engine.delayMechanism = s.engine.delayMechanism := by
    rw [hswitch, hfollow]
    cases hd <;> rfl
  exact hmechanism

/-- The first two switches exchange the timers. -/
theorem switchCall_timed (env : Env) (hs : s.engine.Settled) (h : s.engine.Timed) :
    (switchCall env s).engine.Timed ∧ (switchCall env s).portState.Operating := by
  obtain ⟨e₁, hd, hdecided, hswitch⟩ := switchCall_engine env hs
  have hoperating : (switchCall env s).engine.portState.Operating := by
    rw [hswitch]
    exact hdecided.follow.agrees.operating
  refine ⟨?_, hoperating⟩
  rw [hswitch]
  exact Engine.Timed.turn.run hdecided.follow_turns (h.decides hd)

/-- **One call keeps the timers** of an initialised port, unless it restarts the request timer of a
faulty one. -/
theorem doState_timed_iff (env : Env) (hs : s.engine.Settled) (h : s.engine.Timed) :
    (doState env s).engine.Timed ↔ ¬StaleRequest env s := by
  obtain ⟨hv, hoperating⟩ := switchCall_timed env hs h
  have hmechanism := switchCall_delayMechanism env hs
  rw [doState_eq]
  by_cases hmaster : (switchCall env s).portState = .master
  case neg =>
    -- only a master looks at its request timer after a fault
    refine iff_of_true ?_ fun hstale => hmaster hstale.master
    exact hv.acts hoperating hmaster (portActions_acts env hoperating)
  let u := masterHandleCall env (switchCall env s)
  let w := pause env .requestTimer (handle env u)
  have hsends : ReflTransGen Engine.Sends (switchCall env s).engine u.engine :=
    masterHandleCall_sends env hmaster
  have hu : u.portState = .master := masterHandleCall_portState env hmaster
  have hw : w.engine = (handle env u).engine := pause_engine env .requestTimer _
  have htimed : w.engine.Timed := by
    rw [hw]
    refine (Engine.Timed.sends.run hsends hv).outcome ?_ (handle_outcome env u)
    rw [show u.engine.portState = .master from hu]
    decide
  rw [(portActions_of_master env hmaster).2]
  by_cases hbad : Malformed (receive env u).2.ptpClock
  case neg =>
    -- the port is still a master, and its request timer runs
    refine iff_of_true ?_ fun hstale => hbad hstale.malformed
    have hstate : w.portState = .master :=
      (congrArg Engine.portState hw).trans ((handle_master hu env).master hbad)
    refine htimed.requests ?_ (issueDelayReqTimerExpired_requests env (by simp [w, hstate]))
    rw [show w.engine.portState = .master from hstate]
    decide
  obtain ⟨hfault, hsame, hcleared⟩ := handle_fault hu hbad
  have hstate : w.portState = .faulty := (congrArg Engine.portState hw).trans hfault
  have hp2p : w.delayMechanism = s.delayMechanism := by
    obtain ⟨_, _, heq⟩ := Engine.sends_eq hsends
    have hkept : u.delayMechanism = (switchCall env s).delayMechanism :=
      congrArg Engine.delayMechanism heq
    exact ((congrArg Engine.delayMechanism hw).trans hsame).trans (hkept.trans hmechanism)
  have hflag : w.timersExpired .pdelayReqInterval = true ↔
      .timerCallback .pdelayReqInterval ∈ env.interrupts .requestTimer := by
    refine (interrupts_expired _ _ _).trans (or_iff_left ?_)
    simp [hcleared]
  have hstale : StaleRequest env s ↔
      w.delayMechanism = .p2p ∧ w.timersExpired .pdelayReqInterval = true := by
    rw [hp2p, hflag]
    exact ⟨fun h => ⟨h.mechanism, h.callback⟩, fun h => ⟨h.1, hmaster, hbad, h.2⟩⟩
  rw [hstale]
  have hengine := issueDelayReqTimerExpired_of_faulty env hstate
  by_cases hboth : w.delayMechanism = .p2p ∧ w.timersExpired .pdelayReqInterval = true
  · -- a faulty port has no timer
    rw [if_pos hboth] at hengine
    refine iff_of_false (fun hkept => ?_) (not_not.mpr hboth)
    rw [hengine] at hkept
    have hempty : (w.engine.start .pdelayReqInterval).timers = ∅ := by
      rw [hkept]
      show w.portState.timers w.delayMechanism = ∅
      rw [hstate]
      cases w.delayMechanism <;> rfl
    exact Finset.insert_ne_empty _ _ hempty
  · rw [if_neg hboth] at hengine
    refine iff_of_true ?_ hboth
    rw [hengine]
    exact htimed

end Call

/-! ## Runs -/

/-- **The steps of the runs** in which no call restarts the request timer of a faulty port. -/
inductive TimelyStep : System → System → Prop
  | doState (env : Env) (s : System) (h : ¬StaleRequest env s) : TimelyStep s (doState env s)
  | interrupt (i : Interrupt) (s : System) : TimelyStep s (interrupt s i)

section Runs

variable {rtOpts : RunTimeOpts} {s t : System}

theorem TimelyStep.step (h : TimelyStep s t) : Step s t := by
  cases h with
  | doState env => exact .doState env s
  | interrupt i => exact .interrupt i s

/-- **The run**: an initialised port has the timers of its state. -/
theorem TimelyStep.timed (h : ReflTransGen TimelyStep (boot rtOpts) s) :
    Dormant rtOpts s ∨ s.engine.Settled ∧ s.engine.Timed := by
  induction h with
  | refl => exact .inl (boot_dormant rtOpts)
  | tail _ hstep ih =>
    rcases ih with hdormant | ⟨hsettled, htimed⟩
    · refine (hdormant.step hstep.step).imp_right fun hfresh => ⟨hfresh.1.settled, ?_⟩
      rw [Engine.Timed, hfresh.1.timers, hfresh.1.portState]
      rfl
    · right
      cases hstep with
      | interrupt i =>
        rw [interrupt_engine]
        exact ⟨hsettled, htimed⟩
      | doState env _ hstale =>
        exact ⟨hsettled.call (doState_call env hsettled),
          (doState_timed_iff env hsettled htimed).mpr hstale⟩

/-- **The timers match the port state** of an initialised port, whatever messages, timeouts, faults
and state decisions there were, as long as no call has restarted the request timer of a faulty port;
and they still match after the next call if and only if that does not, either. -/
theorem runningTimers_iff (h : ReflTransGen TimelyStep (boot rtOpts) s)
    (hinit : .doInit true ∈ s.history) :
    runningTimers s.history = s.portState.timers s.delayMechanism ∧
      ∀ env, runningTimers (doState env s).history =
          (doState env s).portState.timers (doState env s).delayMechanism ↔
        ¬StaleRequest env s := by
  obtain ⟨hsettled, htimed⟩ := (TimelyStep.timed h).resolve_left fun hd => hd.history hinit
  exact ⟨htimed, fun env => doState_timed_iff env hsettled htimed⟩

end Runs

/-! ## A master that becomes faulty -/

/-- A master with the peer delay mechanism, and a datagram of one octet for it. -/
def octetForMaster : System :=
  (boot peerOpts).after ([.doState plainEnv, .interrupt (.timerCallback .announceReceipt),
    .doState plainEnv] ++ generalArrival [0] (atSecond 1))

theorem octetForMaster_timely : ReflTransGen TimelyStep (boot peerOpts) octetForMaster := by
  have hcall (s : System) : TimelyStep s (doState plainEnv s) :=
    .doState plainEnv s fun hstale => List.not_mem_nil hstale.callback
  have hmaster := (((ReflTransGen.refl.tail (hcall (boot peerOpts))).tail
    (.interrupt (.timerCallback .announceReceipt) _)).tail (hcall _))
  exact (hmaster.tail (.interrupt (.frame _) _)).tail (.interrupt (.recvGeneral 0) _)

theorem runningTimers_octetForMaster :
    runningTimers octetForMaster.history =
        octetForMaster.portState.timers octetForMaster.delayMechanism ∧
      ∀ env, runningTimers (doState env octetForMaster).history =
          (doState env octetForMaster).portState.timers
            (doState env octetForMaster).delayMechanism ↔
        ¬StaleRequest env octetForMaster :=
  runningTimers_iff octetForMaster_timely (by decide +kernel)

/-- The callback of the request timer runs after the datagram has been handled. -/
def callbackEnv : Env :=
  { plainEnv with
    interrupts := fun
      | .requestTimer => [.timerCallback .pdelayReqInterval]
      | _ => [] }

/-- The port is faulty then, and the timer of its requests runs. -/
theorem timer_of_faulty_port :
    Reachable peerOpts (doState callbackEnv octetForMaster) ∧
      .doInit true ∈ (doState callbackEnv octetForMaster).history ∧
      (doState callbackEnv octetForMaster).portState = .faulty ∧
      runningTimers (doState callbackEnv octetForMaster).history = {.pdelayReqInterval} :=
  ⟨((boot_reachable peerOpts).after _).next (.doState callbackEnv octetForMaster),
    by decide +kernel, by decide +kernel, by decide +kernel⟩

end Ptpd

import DiscoPtp.Properties.Working

/-!
# Runs of an initialised port

Once `doInit` has succeeded, the port runs by the calls of its engine, from the engine that the
initialisation leaves. Nothing of the initialisation is ever done again.

## Main definitions

* `startupOpts`: the options as `ptpdStartup` leaves them
* `Engine.Settled`, `Engine.Decided`, `Engine.Ready`: an initialised port between two calls, after
  the first switch and after the second
* `Engine.Turn`, `Engine.Move`: the turns of the second switch, and the moves a call is made of
* `Engine.Fresh`: the engine right after the initialisation

## Main results

* `Engine.Settled.decides`, `Engine.Decided.follow`, `Engine.Ready.acts`: the three switches
* `doState_call`: one call of `doState` is one call of the engine
* `Reachable.works`: the run of the engine behind a run of the daemon
* `Reachable.dormant_or`, `Reachable.of_call`, `Reachable.of_move`: the invariant rules for
  initialised ports
-/

namespace Ptpd

open History
open Relation (ReflTransGen)

/-! ## Transitions of the engine -/

namespace Engine

variable {e e' : Engine}

theorem leave_eq (state : PtpState) (e : Engine) :
    ∃ drift samples waiting addend timers, e.leave state =
      { e with
        observedDrift := drift
        ofmSamples := samples
        waitingForFollowUp := waiting
        addend
        timers } := by
  have hstay : ∃ drift samples waiting addend timers,
      (if state = .uncalibrated ∨ state = .slave then e else e.leaveFollower) =
        { e with
          observedDrift := drift
          ofmSamples := samples
          waitingForFollowUp := waiting
          addend
          timers } := by
    split
    · exact ⟨_, _, _, _, _, rfl⟩
    · unfold leaveFollower
      dsimp only
      split <;> exact ⟨_, _, _, _, _, rfl⟩
  unfold leave
  split
  · exact ⟨_, _, _, _, _, rfl⟩
  · exact hstay
  · exact hstay
  · exact ⟨_, _, _, _, _, rfl⟩
  · exact ⟨_, _, _, _, _, rfl⟩
  · exact ⟨_, _, _, _, _, rfl⟩
  · exact ⟨_, _, _, _, _, rfl⟩

/-- The recommended state after the entry of `state`. -/
def recommendedOn (state old : PtpState) : PtpState :=
  if state = .initializing ∨ state = .listening then state else old

theorem enter_eq (state : PtpState) (e : Engine) :
    ∃ timers, e.enter state =
      { e with
        portState := state.entered
        recommendedState := recommendedOn state e.recommendedState
        timers } := by
  cases state with
  | passive =>
    unfold enter enterPassive
    dsimp only
    split <;> exact ⟨_, rfl⟩
  | uncalibrated =>
    unfold enter enterUncalibrated
    dsimp only
    split <;> exact ⟨_, rfl⟩
  | preMaster =>
    unfold enter enterMaster
    dsimp only
    split <;> exact ⟨_, rfl⟩
  | master =>
    unfold enter enterMaster
    dsimp only
    split <;> exact ⟨_, rfl⟩
  | _ => exact ⟨_, rfl⟩

/-- What `toState` changes. -/
theorem toState_eq (state : PtpState) (e : Engine) :
    ∃ drift samples waiting addend timers, e.toState state =
      { e with
        portState := state.entered
        recommendedState := recommendedOn state e.recommendedState
        observedDrift := drift
        ofmSamples := samples
        waitingForFollowUp := waiting
        addend
        timers } := by
  obtain ⟨drift, samples, waiting, addend, timers, hleave⟩ := leave_eq state e
  obtain ⟨timers', henter⟩ := enter_eq state (e.leave state)
  refine ⟨drift, samples, waiting, addend, timers', ?_⟩
  rw [toState, henter, hleave]

theorem toState_recommendedState (state : PtpState) (e : Engine) :
    (e.toState state).recommendedState = recommendedOn state e.recommendedState := by
  obtain ⟨_, _, _, _, _, h⟩ := toState_eq state e
  rw [h]

theorem toState_events (state : PtpState) (e : Engine) : (e.toState state).events = e.events := by
  obtain ⟨_, _, _, _, _, h⟩ := toState_eq state e
  rw [h]

theorem onMasterClockSelected_portState (h : e.portState = .uncalibrated) :
    e.onMasterClockSelected.portState =
      if e.events.masterClockSelected then .slave else .uncalibrated := by
  unfold onMasterClockSelected
  split
  · exact toState_portState _ _
  · exact h

theorem onSynchronizationFault_portState (h : e.portState = .slave) :
    e.onSynchronizationFault.portState =
      if e.events.synchronizationFault then .uncalibrated else .slave := by
  unfold onSynchronizationFault
  split
  · exact toState_portState _ _
  · exact h

theorem onMasterClockSelected_events (e : Engine) :
    e.onMasterClockSelected.events = { e.events with masterClockSelected := false } := by
  unfold onMasterClockSelected
  split
  · rw [toState_events]
  next h => rw [← Bool.eq_false_iff.mpr h]

theorem onSynchronizationFault_events (e : Engine) :
    e.onSynchronizationFault.events = { e.events with synchronizationFault := false } := by
  unfold onSynchronizationFault
  split
  · rw [toState_events]
  next h => rw [← Bool.eq_false_iff.mpr h]

theorem onMasterClockSelected_recommendedState (e : Engine) :
    e.onMasterClockSelected.recommendedState = e.recommendedState := by
  unfold onMasterClockSelected
  split
  · rw [toState_recommendedState]
    rfl
  · rfl

theorem onSynchronizationFault_recommendedState (e : Engine) :
    e.onSynchronizationFault.recommendedState = e.recommendedState := by
  unfold onSynchronizationFault
  split
  · rw [toState_recommendedState]
    rfl
  · rfl

/-- The recommendation `PTP_SLAVE` in state `PTP_UNCALIBRATED`: the port becomes a slave when the
master clock has been selected. -/
theorem followSlaveUncalibrated_spec (h : e.portState = .uncalibrated) :
    e.followSlaveUncalibrated.portState =
        (if e.events.masterClockSelected then .slave else .uncalibrated) ∧
      e.followSlaveUncalibrated.recommendedState = e.recommendedState ∧
      e.followSlaveUncalibrated.events =
        { e.events with masterClockSelected := false, masterClockChanged := false } := by
  have hstate := onMasterClockSelected_portState h
  have hrec := onMasterClockSelected_recommendedState e
  have hevents := onMasterClockSelected_events e
  unfold followSlaveUncalibrated
  dsimp only
  split
  · refine ⟨hstate, hrec, ?_⟩
    unfold clearMasterClockChanged
    rw [hevents]
  next hc =>
    refine ⟨hstate, hrec, ?_⟩
    rw [hevents] at hc ⊢
    rw [← Bool.eq_false_iff.mpr hc]

/-- The recommendation `PTP_SLAVE` in state `PTP_SLAVE`: the port has to be calibrated again after a
synchronization fault and with a new master. -/
theorem followSlaveSlave_spec (h : e.portState = .slave) :
    e.followSlaveSlave.portState =
        (if e.events.synchronizationFault ∨ e.events.masterClockChanged then .uncalibrated
          else .slave) ∧
      e.followSlaveSlave.recommendedState = e.recommendedState ∧
      e.followSlaveSlave.events =
        { e.events with synchronizationFault := false, masterClockChanged := false } := by
  have hstate := onSynchronizationFault_portState h
  have hrec := onSynchronizationFault_recommendedState e
  have hevents := onSynchronizationFault_events e
  unfold followSlaveSlave
  dsimp only
  rw [show e.onSynchronizationFault.events.masterClockChanged = e.events.masterClockChanged by
    rw [hevents]]
  by_cases hc : e.events.masterClockChanged = true
  · rw [if_pos hc, if_pos (.inr hc), toState_portState, toState_recommendedState, toState_events]
    refine ⟨rfl, hrec, ?_⟩
    unfold clearMasterClockChanged
    rw [hevents]
  · rw [if_neg hc, hstate, hevents]
    refine ⟨by simp [hc], hrec, ?_⟩
    rw [← Bool.eq_false_iff.mpr hc]

/-- What the second switch may change. -/
def Followed (e e' : Engine) : Prop :=
  ∃ state events drift samples waiting addend timers, e' =
    { e with
      portState := state
      events
      observedDrift := drift
      ofmSamples := samples
      waitingForFollowUp := waiting
      addend
      timers }

theorem Followed.refl (e : Engine) : Followed e e := ⟨_, _, _, _, _, _, _, rfl⟩

theorem Followed.trans {e₁ e₂ e₃ : Engine} (h : Followed e₁ e₂) (h' : Followed e₂ e₃) :
    Followed e₁ e₃ := by
  obtain ⟨_, _, _, _, _, _, _, rfl⟩ := h
  obtain ⟨_, _, _, _, _, _, _, rfl⟩ := h'
  exact ⟨_, _, _, _, _, _, _, rfl⟩

theorem Followed.events (e : Engine) (events : Events) : Followed e { e with events } :=
  ⟨_, _, _, _, _, _, _, rfl⟩

theorem toState_followed (state : PtpState) (e : Engine)
    (h : recommendedOn state e.recommendedState = e.recommendedState) :
    Followed e (e.toState state) := by
  obtain ⟨drift, samples, waiting, addend, timers, heq⟩ := toState_eq state e
  rw [h] at heq
  exact ⟨_, _, _, _, _, _, _, heq⟩

/-- **The second switch** changes the port state, the events, the servo and the timers only. -/
theorem follow_followed (e : Engine) : Followed e e.follow := by
  have hselected : Followed e e.onMasterClockSelected := by
    unfold onMasterClockSelected
    split
    · exact (Followed.events e _).trans (toState_followed _ _ rfl)
    · exact .refl e
  have hfault : Followed e e.onSynchronizationFault := by
    unfold onSynchronizationFault
    split
    · exact (Followed.events e _).trans (toState_followed _ _ rfl)
    · exact .refl e
  have huncalibrated : Followed e e.followSlaveUncalibrated := by
    unfold followSlaveUncalibrated
    dsimp only
    split
    · exact hselected.trans (.events _ _)
    · exact hselected
  have hslave : Followed e e.followSlaveSlave := by
    unfold followSlaveSlave
    dsimp only
    split
    · exact (hfault.trans (.events _ _)).trans (toState_followed _ _ rfl)
    · exact hfault
  unfold follow
  split
  · split
    · exact .refl e
    · exact .refl e
    · exact toState_followed _ _ rfl
  · split
    · exact toState_followed _ _ rfl
    · exact .refl e
  · split
    · exact huncalibrated
    · exact hslave
    · exact toState_followed _ _ rfl
  next hr =>
    split
    · exact toState_followed _ _ hr.symm
    · exact .refl e
  · exact .refl e

/-! ### Port states and recommendations -/

/-- The port states that follow a recommendation. -/
def Agrees (e : Engine) : Prop :=
  match e.recommendedState with
  | .listening => e.portState = .listening
  | .master => e.portState = .master
  | .passive => e.portState = .passive
  | .slave => e.portState.Following
  | _ => False

/-- The events of a synchronization are raised in the states that take them. -/
def Raised (e : Engine) : Prop :=
  (e.events.masterClockSelected → e.portState = .uncalibrated ∧ e.recommendedState = .slave) ∧
    (e.events.synchronizationFault → e.portState = .slave ∧ e.recommendedState = .slave)

/-- **An initialised port between two calls** of `doState`. -/
structure Settled (e : Engine) : Prop where
  agrees : e.Agrees ∨ e.portState = .faulty ∧ e.events.stateDecisionEvent = false
  recommended : e.recommendedState ∈ [.listening, .master, .passive, .slave]
  raised : e.Raised
  pending : e.events.stateDecisionEvent →
    e.events.masterClockSelected = false ∧ e.events.synchronizationFault = false

/-- The port after the state decision. -/
structure Decided (e : Engine) : Prop where
  working : e.portState.Operating ∨ e.portState = .faulty
  recommended : e.recommendedState ∈ [.listening, .master, .passive, .slave]
  raised : e.Raised
  taken : e.events.stateDecisionEvent = false

/-- The port at the start of the third switch. -/
structure Ready (e : Engine) : Prop where
  agrees : e.Agrees
  taken : e.events.stateDecisionEvent = false
  selected : e.events.masterClockSelected = false
  fault : e.events.synchronizationFault = false

theorem Agrees.operating (h : e.Agrees) : e.portState.Operating := by
  unfold Agrees at h
  split at h
  · rw [h]
    decide
  · rw [h]
    decide
  · rw [h]
    decide
  · rcases h with h | h
    · rw [h]
      decide
    · rw [h]
      decide
  · exact h.elim

theorem Agrees.recommended (h : e.Agrees) :
    e.recommendedState ∈ [.listening, .master, .passive, .slave] := by
  unfold Agrees at h
  split at h
  next hr => simp [hr]
  next hr => simp [hr]
  next hr => simp [hr]
  next hr => simp [hr]
  · exact h.elim

theorem recommend_recommended {state : PtpState}
    (h : state ∈ [PtpState.listening, .master, .passive, .slave]) (e : Engine) :
    (e.recommend state).recommendedState ∈ [PtpState.listening, .master, .passive, .slave] := by
  unfold recommend
  dsimp only
  split
  · decide
  · exact h

/-- The state decision. -/
theorem Settled.decides (h : e.Settled) (hd : Decides e e') : e'.Decided := by
  have hworking : e.portState.Operating ∨ e.portState = .faulty :=
    h.agrees.imp (fun ha => ha.operating) fun hf => hf.1
  have hnone (he : e.Evaluates) : ¬e.events.masterClockSelected ∧
      ¬e.events.synchronizationFault := by
    obtain ⟨hs, hf⟩ := h.pending he.2
    simp [hs, hf]
  -- a decision is made while no synchronization event is pending
  have hraised (he : e.Evaluates) {e₁ : Engine}
      (hm : e₁.events.masterClockSelected = e.events.masterClockSelected)
      (hf : e₁.events.synchronizationFault = e.events.synchronizationFault) : e₁.Raised :=
    ⟨fun h₁ => absurd (hm ▸ h₁) (hnone he).1, fun h₁ => absurd (hf ▸ h₁) (hnone he).2⟩
  cases hd with
  | idle hidle =>
    refine ⟨hworking, h.recommended, h.raised, ?_⟩
    rcases h.agrees with ha | ⟨-, hf⟩
    · by_contra hevent
      refine hidle ⟨?_, by simpa using hevent⟩
      have hop := ha.operating
      unfold PtpState.Operating at hop
      simp only [List.mem_cons, List.not_mem_nil, or_false] at hop ⊢
      tauto
    · exact hf
  | listening best he hb hl =>
    exact ⟨hworking, recommend_recommended (by decide) _, hraised he rfl rfl, rfl⟩
  | master best he hb =>
    exact ⟨hworking, recommend_recommended (by decide) _, hraised he rfl rfl, rfl⟩
  | passive best he hb hclass =>
    exact ⟨hworking, recommend_recommended (by decide) _, hraised he rfl rfl, rfl⟩
  | slave best he hb hclass =>
    have hs1 (e₁ : Engine) (header : MsgHeader) (announce : MsgAnnounce) :
        (e₁.s1 header announce).events.masterClockSelected = e₁.events.masterClockSelected ∧
          (e₁.s1 header announce).events.synchronizationFault = e₁.events.synchronizationFault ∧
          (e₁.s1 header announce).events.stateDecisionEvent = e₁.events.stateDecisionEvent := by
      unfold s1
      dsimp only
      split <;> exact ⟨rfl, rfl, rfl⟩
    obtain ⟨hm, hf, ht⟩ := hs1 (e.evaluated best) (e.foreignMasterDS.records best).header
      (e.foreignMasterDS.records best).announce
    exact ⟨hworking, recommend_recommended (by decide) _, hraised he hm hf, ht⟩

/-- **The second switch** leads to a port at work that agrees with the recommendation, and takes
the events of the synchronization. -/
theorem Decided.follow (h : e.Decided) : e.follow.Ready := by
  obtain ⟨hworking, hrec, ⟨hselected, hfault⟩, htaken⟩ := h
  -- without a recommendation to follow a master no synchronization event is pending
  have hnone (hne : e.recommendedState ≠ .slave) :
      e.events.masterClockSelected = false ∧ e.events.synchronizationFault = false := by
    constructor
    · by_contra hs
      exact hne (hselected (by simpa using hs)).2
    · by_contra hs
      exact hne (hfault (by simpa using hs)).2
  have henter (state : PtpState) (hm : e.events.masterClockSelected = false)
      (hf : e.events.synchronizationFault = false) (ha : (e.toState state).Agrees) :
      (e.toState state).Ready := by
    refine ⟨ha, ?_, ?_, ?_⟩
    · rw [toState_events, htaken]
    · rw [toState_events, hm]
    · rw [toState_events, hf]
  unfold Engine.follow
  simp only [List.mem_cons, List.not_mem_nil, or_false] at hrec
  rcases hrec with hrec | hrec | hrec | hrec
  · obtain ⟨hm, hf⟩ := hnone (by simp [hrec])
    rw [hrec]
    dsimp only
    split
    · refine henter .listening hm hf ?_
      rw [Agrees, toState_recommendedState, toState_portState]
      rfl
    next hl =>
      refine ⟨?_, htaken, hm, hf⟩
      rw [Agrees, hrec]
      exact not_not.mp hl
  · obtain ⟨hm, hf⟩ := hnone (by simp [hrec])
    rw [hrec]
    dsimp only
    have hpre : e.portState ≠ .preMaster := by
      intro heq
      rw [heq] at hworking
      exact absurd hworking (by decide)
    split
    next heq => exact absurd heq hpre
    next heq =>
      refine ⟨?_, htaken, hm, hf⟩
      rw [Agrees, hrec]
      exact heq
    · refine henter .preMaster hm hf ?_
      rw [Agrees, toState_recommendedState, toState_portState, hrec]
      rfl
  · obtain ⟨hm, hf⟩ := hnone (by simp [hrec])
    rw [hrec]
    dsimp only
    split
    · refine henter .passive hm hf ?_
      rw [Agrees, toState_recommendedState, toState_portState, hrec]
      rfl
    next hp =>
      refine ⟨?_, htaken, hm, hf⟩
      rw [Agrees, hrec]
      exact not_not.mp hp
  · rw [hrec]
    dsimp only
    split
    next huncal =>
      obtain ⟨hstate, hsame, hevents⟩ := followSlaveUncalibrated_spec huncal
      have hf : e.events.synchronizationFault = false := by
        by_contra hs
        rw [(hfault (by simpa using hs)).1] at huncal
        cases huncal
      refine ⟨?_, ?_, ?_, ?_⟩
      · rw [Agrees, hsame, hrec]
        dsimp only
        rw [hstate]
        split
        · exact .inr rfl
        · exact .inl rfl
      · rw [hevents, htaken]
      · rw [hevents]
      · rw [hevents, hf]
    next hslave =>
      obtain ⟨hstate, hsame, hevents⟩ := followSlaveSlave_spec hslave
      have hm : e.events.masterClockSelected = false := by
        by_contra hs
        rw [(hselected (by simpa using hs)).1] at hslave
        cases hslave
      refine ⟨?_, ?_, ?_, ?_⟩
      · rw [Agrees, hsame, hrec]
        dsimp only
        rw [hstate]
        split
        · exact .inl rfl
        · exact .inr rfl
      · rw [hevents, htaken]
      · rw [hevents, hm]
      · rw [hevents]
    next hu hs =>
      have hm : e.events.masterClockSelected = false := by
        by_contra hsel
        exact hu (hselected (by simpa using hsel)).1
      have hf : e.events.synchronizationFault = false := by
        by_contra hsel
        exact hs (hfault (by simpa using hsel)).1
      refine henter .uncalibrated hm hf ?_
      rw [Agrees, toState_recommendedState, toState_portState, hrec]
      exact .inl rfl

/-! ### The third switch -/

theorem Requests.eq (h : Requests e e') : ∃ timers, e' = { e with timers } := by
  cases h <;> exact ⟨_, rfl⟩

theorem sends_eq (h : ReflTransGen Sends e e') :
    ∃ messages sequenceId, e' =
      { e with masterMessages := messages, sentAnnounceSequenceId := sequenceId } := by
  induction h with
  | refl => exact ⟨_, _, rfl⟩
  | tail _ hstep ih =>
    obtain ⟨_, _, rfl⟩ := ih
    cases hstep <;> exact ⟨_, _, rfl⟩

/-- Changes that leave the port between two calls. -/
theorem Settled.congr (h : e.Settled) (hs : e'.portState = e.portState)
    (hr : e'.recommendedState = e.recommendedState) (he : e'.events = e.events) :
    e'.Settled := by
  obtain ⟨hagrees, hrec, hraised, hpending⟩ := h
  unfold Agrees at hagrees
  unfold Raised at hraised
  constructor
  · unfold Agrees
    rw [hr, hs, he]
    exact hagrees
  · rw [hr]
    exact hrec
  · unfold Raised
    rw [hs, hr, he]
    exact hraised
  · rw [he]
    exact hpending

theorem Ready.settled (h : e.Ready) : e.Settled := by
  refine ⟨.inl h.agrees, h.agrees.recommended, ⟨?_, ?_⟩, ?_⟩
  · simp [h.selected]
  · simp [h.fault]
  · simp [h.taken]

/-- A port with a recommendation to enter `state`, without events. -/
theorem Ready.toState (h : e.Ready) {state : PtpState} {e₁ : Engine} (he : e₁.events = e.events)
    (ha : (e₁.toState state).Agrees ∨ state = .faulty ∧
      (e₁.toState state).recommendedState ∈ [.listening, .master, .passive, .slave]) :
    (e₁.toState state).Settled := by
  have hevents : (e₁.toState state).events = e.events := (toState_events _ _).trans he
  constructor
  · rcases ha with ha | ⟨rfl, -⟩
    · exact .inl ha
    · refine .inr ⟨toState_portState _ _, ?_⟩
      rw [hevents]
      exact h.taken
  · rcases ha with ha | ⟨-, ha⟩
    · exact ha.recommended
    · exact ha
  · unfold Raised
    rw [hevents]
    simp [h.selected, h.fault]
  · rw [hevents]
    simp [h.taken]

/-- An Announce raises the state decision event alone. -/
theorem Ready.announced (h : e.Ready) (hs : e'.portState = e.portState)
    (hr : e'.recommendedState = e.recommendedState)
    (hm : e'.events.masterClockSelected = e.events.masterClockSelected)
    (hf : e'.events.synchronizationFault = e.events.synchronizationFault) : e'.Settled := by
  obtain ⟨hagrees, -, hselected, hfault⟩ := h
  have hrec := hagrees.recommended
  unfold Agrees at hagrees
  refine ⟨.inl ?_, ?_, ⟨?_, ?_⟩, ?_⟩
  · unfold Agrees
    rw [hr, hs]
    exact hagrees
  · rw [hr]
    exact hrec
  · simp [hm, hselected]
  · simp [hf, hfault]
  · simp [hm, hf, hselected, hfault]

theorem Agrees.recommends_slave (h : e.Agrees) (hf : e.portState.Following) :
    e.recommendedState = .slave := by
  unfold Agrees at h
  split at h
  next hr =>
    rw [h] at hf
    exact absurd hf (by decide)
  next hr =>
    rw [h] at hf
    exact absurd hf (by decide)
  next hr =>
    rw [h] at hf
    exact absurd hf (by decide)
  next hr => exact hr
  · exact h.elim

theorem Agrees.recommends_master (h : e.Agrees) (hm : e.portState = .master) :
    e.recommendedState = .master := by
  unfold Agrees at h
  rw [hm] at h
  split at h
  · cases h
  next hr => exact hr
  · cases h
  · exact absurd h (by decide)
  · exact h.elim

theorem Ready.outcome (h : e.Ready) (ho : Outcome e e') : e'.Settled := by
  cases ho with
  | ignored => exact h.settled
  | short =>
    refine h.toState rfl (.inr ⟨rfl, ?_⟩)
    rw [toState_recommendedState]
    exact h.agrees.recommended
  | store header announce hstate => exact h.announced rfl rfl rfl rfl
  | storePassive header announce hstate => exact h.announced rfl rfl rfl rfl
  | followParent header announce hstate hp =>
    -- the parent stays the same, so it has not changed
    have hevents (e₁ : Engine) : (e₁.s1 header announce).events.masterClockSelected =
        e₁.events.masterClockSelected ∧ (e₁.s1 header announce).events.synchronizationFault =
        e₁.events.synchronizationFault := by
      unfold s1
      dsimp only
      split <;> exact ⟨rfl, rfl⟩
    obtain ⟨hm, hf⟩ :=
      hevents { e with events := { e.events with stateDecisionEvent := true } }
    exact h.announced rfl rfl hm hf
  | storeSync hstate => exact h.settled.congr rfl rfl rfl
  | measure header e₁ _ hstate hp hm hr =>
    obtain ⟨timers, rfl⟩ := hr.eq
    obtain ⟨⟨events, offset, drift, samples, addend, steps, rfl⟩, hsde, hmcc, hsf, hmcs⟩ := hm
    have hrec := h.agrees.recommends_slave hstate
    refine ⟨.inl ?_, h.agrees.recommended, ⟨?_, ?_⟩, ?_⟩
    · exact h.agrees
    · intro hs
      rcases hmcs hs with hs | ⟨huncal, -⟩
      · simp [h.selected] at hs
      · exact ⟨huncal, hrec⟩
    · intro hs
      rcases hsf hs with hs | hslave
      · simp [h.fault] at hs
      · exact ⟨hslave, hrec⟩
    · intro hpending
      have htaken := hsde.symm.trans hpending
      simp [h.taken] at htaken
  | requests _ hstate hr =>
    obtain ⟨timers, rfl⟩ := hr.eq
    exact h.settled.congr rfl rfl rfl
  | serve packet hstate => exact h.settled.congr rfl rfl rfl

theorem Ready.sends (h : e.Ready) (hs : ReflTransGen Sends e e') : e'.Ready := by
  obtain ⟨messages, sequenceId, rfl⟩ := sends_eq hs
  exact ⟨h.agrees, h.taken, h.selected, h.fault⟩

/-- **The third switch** leaves an initialised port between two calls. -/
theorem Ready.acts (h : e.Ready) (ha : Acts e e') : e'.Settled := by
  cases ha with
  | timeout hstate =>
    unfold announceTimeout
    split
    · refine h.toState rfl (.inl ?_)
      rw [Agrees, toState_recommendedState, toState_portState]
      rfl
    split
    · refine h.toState rfl (.inl ?_)
      rw [Agrees, toState_recommendedState, toState_portState]
      rfl
    · exact h.settled.congr rfl rfl rfl
  | await _ hstate ho => exact h.outcome ho
  | master e₁ e₂ _ hstate hs ho hr =>
    obtain ⟨timers, rfl⟩ := hr.eq
    exact ((h.sends hs).outcome ho).congr rfl rfl rfl

/-- **One call** keeps an initialised port initialised. -/
theorem Settled.call (h : e.Settled) (hc : Call e e') : e'.Settled := by
  obtain ⟨e₁, hd, ha⟩ := hc
  exact (h.decides hd).follow.acts ha

/-! ### Moves -/

/-- The second switch enters `state`. -/
inductive Enters (e : Engine) : PtpState → Prop
  | listening (hr : e.recommendedState = .listening) : Enters e .listening
  | master (hr : e.recommendedState = .master) : Enters e .preMaster
  | passive (hr : e.recommendedState = .passive) : Enters e .passive
  | uncalibrated (hr : e.recommendedState = .slave) : Enters e .uncalibrated
  | slave (hr : e.recommendedState = .slave) (h : e.portState = .uncalibrated) : Enters e .slave

/-- **The turns of the second switch**: what it is made of, in any order. -/
inductive Turn (e : Engine) : Engine → Prop
  | events (events : Events) : Turn e { e with events }
  | enter (state : PtpState) (hw : e.portState.Operating ∨ e.portState = .faulty)
      (h : e.Enters state) : Turn e (e.toState state)

/-- **The moves of an engine**: what a call is made of, in any order. -/
inductive Move (e : Engine) : Engine → Prop
  | decides (e₁ : Engine) (h : Decides e e₁) : Move e e₁
  | events (events : Events) : Move e { e with events }
  | enter (state : PtpState) (hw : e.portState.Operating ∨ e.portState = .faulty)
      (h : e.Enters state) : Move e (e.toState state)
  | timeout (h : e.portState.Awaiting) : Move e e.announceTimeout
  | sends (e₁ : Engine) (ha : e.Agrees) (h : Sends e e₁) : Move e e₁
  | outcome (e₁ : Engine) (ha : e.Agrees) (h : Outcome e e₁) : Move e e₁
  | requests (e₁ : Engine) (h : Requests e e₁) : Move e e₁

theorem Decided.follow_turns (h : e.Decided) : ReflTransGen Turn e e.follow := by
  have hw := h.working
  have henter {e₁ : Engine} {state : PtpState} (hs : e₁.portState = e.portState)
      (hen : e₁.Enters state) : ReflTransGen Turn e₁ (e₁.toState state) :=
    .single (.enter state (hs ▸ hw) hen)
  have hevents (e₁ : Engine) (events : Events) : ReflTransGen Turn e₁ { e₁ with events } :=
    .single (.events events)
  have huncalibrated (hr : e.recommendedState = .slave) (hu : e.portState = .uncalibrated) :
      ReflTransGen Turn e e.followSlaveUncalibrated := by
    have hselected : ReflTransGen Turn e e.onMasterClockSelected := by
      unfold onMasterClockSelected
      split
      · exact (hevents e _).trans (henter rfl (.slave hr hu))
      · exact .refl
    unfold followSlaveUncalibrated
    dsimp only
    split
    · exact hselected.trans (hevents _ _)
    · exact hselected
  have hslave (hr : e.recommendedState = .slave) :
      ReflTransGen Turn e e.followSlaveSlave := by
    have hfault : ReflTransGen Turn e e.onSynchronizationFault := by
      unfold onSynchronizationFault
      split
      · exact (hevents e _).trans (henter rfl (.uncalibrated hr))
      · exact .refl
    have hagain : e.onSynchronizationFault.portState.Operating ∨
        e.onSynchronizationFault.portState = .faulty := by
      unfold onSynchronizationFault
      split
      · rw [toState_portState]
        exact .inl (by decide)
      · exact hw
    unfold followSlaveSlave
    dsimp only
    split
    · refine (hfault.trans (hevents _ _)).trans (.single (.enter .uncalibrated hagain ?_))
      exact .uncalibrated ((onSynchronizationFault_recommendedState e).trans hr)
    · exact hfault
  unfold Engine.follow
  split
  next hr =>
    split
    · exact .refl
    · exact .refl
    · exact henter rfl (.master hr)
  next hr =>
    split
    · exact henter rfl (.passive hr)
    · exact .refl
  next hr =>
    split
    next hu => exact huncalibrated hr hu
    · exact hslave hr
    · exact henter rfl (.uncalibrated hr)
  next hr =>
    split
    · exact henter rfl (.listening hr)
    · exact .refl
  · exact .refl

theorem Turn.move : Turn ≤ Move := by
  intro e e' h
  cases h with
  | events events => exact .events events
  | enter state hw hen => exact .enter state hw hen

theorem Decided.follow_moves (h : e.Decided) : ReflTransGen Move e e.follow :=
  ReflTransGen.mono Turn.move _ _ h.follow_turns

theorem Ready.sends_moves (h : e.Ready) (hs : ReflTransGen Sends e e') :
    ReflTransGen Move e e' := by
  induction hs with
  | refl => exact .refl
  | tail hs hstep ih => exact ih.tail (.sends _ (h.sends hs).agrees hstep)

theorem Ready.acts_moves (h : e.Ready) (ha : Acts e e') : ReflTransGen Move e e' := by
  cases ha with
  | timeout hstate => exact .single (.timeout hstate)
  | await _ hstate ho => exact .single (.outcome _ h.agrees ho)
  | master e₁ e₂ _ hstate hs ho hr =>
    exact ((h.sends_moves hs).tail (.outcome _ (h.sends hs).agrees ho)).tail (.requests _ hr)

/-- One call is a run of moves. -/
theorem Settled.call_moves (h : e.Settled) (hc : Call e e') : ReflTransGen Move e e' := by
  obtain ⟨e₁, hd, ha⟩ := hc
  have hdecided := h.decides hd
  exact ((ReflTransGen.single (.decides _ hd)).trans hdecided.follow_moves).trans
    (hdecided.follow.acts_moves ha)

end Engine

/-! ## Calls of the daemon -/

section Calls

variable {env : Env} {s : System}

/-- The engine at the third switch. -/
theorem switchCall_engine (env : Env) (h : s.engine.Settled) :
    ∃ e₁, Engine.Decides s.engine e₁ ∧ e₁.Decided ∧ (switchCall env s).engine = e₁.follow := by
  have hdecides : Engine.Decides s.engine (stateDecision (s.setMessageActivity false)).engine :=
    stateDecision_decides (s.setMessageActivity false)
  have hdecided := h.decides hdecides
  refine ⟨_, hdecides, hdecided, ?_⟩
  have hstate : (stateDecision (s.setMessageActivity false)).portState ≠ .preMaster := by
    intro heq
    have hworking := hdecided.working
    change (stateDecision (s.setMessageActivity false)).portState.Operating ∨
      (stateDecision (s.setMessageActivity false)).portState = .faulty at hworking
    rw [heq] at hworking
    exact absurd hworking (by decide)
  unfold switchCall
  rw [pause_engine]
  exact followRecommendation_engine env hstate

/-- **One call of `doState`** of an initialised port is one call of its engine. -/
theorem doState_call (env : Env) (h : s.engine.Settled) :
    Engine.Call s.engine (doState env s).engine := by
  obtain ⟨e₁, hd, hdecided, hswitch⟩ := switchCall_engine env h
  refine ⟨e₁, hd, ?_⟩
  have hacts := portActions_acts (s := switchCall env s) env (by
    change (switchCall env s).engine.portState.Operating
    rw [hswitch]
    exact hdecided.follow.agrees.operating)
  rw [hswitch] at hacts
  exact hacts

end Calls

/-! ## Initialisation -/

/-- The options as `ptpdStartup` leaves them: a slave-only clock has class 255. -/
def startupOpts (rtOpts : RunTimeOpts) : RunTimeOpts := (boot rtOpts).ptpClock.rtOpts

theorem startupOpts_slaveOnly (rtOpts : RunTimeOpts) :
    (startupOpts rtOpts).slaveOnly = rtOpts.slaveOnly := by
  unfold startupOpts boot ptpdStartup
  dsimp only
  split <;> rfl

theorem startupOpts_clockClass (rtOpts : RunTimeOpts) :
    (startupOpts rtOpts).clockQuality.clockClass =
      if rtOpts.slaveOnly then defaultClockClassSlaveOnly else rtOpts.clockQuality.clockClass := by
  unfold startupOpts boot ptpdStartup
  dsimp only
  split <;> rfl

theorem startupOpts_maxForeignRecords (rtOpts : RunTimeOpts) :
    (startupOpts rtOpts).maxForeignRecords = rtOpts.maxForeignRecords := by
  unfold startupOpts boot ptpdStartup
  dsimp only
  split <;> rfl

/-- The engine right after the initialisation with the options `opts`. -/
structure Engine.Fresh (opts : RunTimeOpts) (e : Engine) : Prop where
  portState : e.portState = .listening
  recommendedState : e.recommendedState = .listening
  events : e.events = default
  foreignCount : e.foreignMasterDS.count = 0
  foreignCapacity : e.foreignMasterDS.capacity = opts.maxForeignRecords
  foreignIndex : e.foreignMasterDS.i = 0
  slaveOnly : e.defaultDS.slaveOnly = opts.slaveOnly
  clockQuality : e.defaultDS.clockQuality = opts.clockQuality
  observedDrift : e.observedDrift = 0
  ofmSamples : e.ofmSamples = 0
  waitingForFollowUp : e.waitingForFollowUp = false
  noAdjust : e.noAdjust = opts.servo.noAdjust
  addend : e.addend = adjFreqBaseAddend
  sentAnnounceSequenceId : e.sentAnnounceSequenceId = 0
  sender : e.sender = e.portIdentity
  timers : e.timers = {.announceReceipt}
  masterMessages : e.masterMessages = []
  offsets : e.offsets = []
  clockSteps : e.clockSteps = []

/-- A port that has not been initialised since boot. -/
structure Dormant (rtOpts : RunTimeOpts) (s : System) : Prop where
  options : s.ptpClock.rtOpts = startupOpts rtOpts
  engine : ∃ state, (state = .initializing ∨ state = .faulty) ∧
    s.engine = { (boot rtOpts).engine with portState := state }
  history : .doInit true ∉ s.history

section Initialisation

variable {rtOpts : RunTimeOpts} {env : Env} {s t : System}

theorem boot_recommendedState (rtOpts : RunTimeOpts) :
    (boot rtOpts).recommendedState = .initializing := by
  obtain ⟨opts, h, -⟩ := boot_eq rtOpts
  rw [h]
  rfl

theorem boot_dormant (rtOpts : RunTimeOpts) : Dormant rtOpts (boot rtOpts) := by
  obtain ⟨opts, h, -⟩ := boot_eq rtOpts
  refine ⟨rfl, ⟨.initializing, .inl rfl, ?_⟩, ?_⟩
  · rw [h]
    rfl
  · rw [h]
    rintro ⟨⟩

theorem Dormant.unready (h : Dormant rtOpts s) : Unready s := by
  obtain ⟨state, hstate, heq⟩ := h.engine
  have hs : s.portState = state := congrArg Engine.portState heq
  have hr : s.recommendedState = (boot rtOpts).recommendedState :=
    congrArg Engine.recommendedState heq
  rw [boot_recommendedState] at hr
  exact ⟨by rwa [hs], hr⟩

/-- A port that has not been initialised has sent nothing as a master. -/
theorem Dormant.masterMessages (h : Dormant rtOpts s) : masterMessages s.history = [] := by
  obtain ⟨state, -, heq⟩ := h.engine
  obtain ⟨opts, hboot, -⟩ := boot_eq rtOpts
  rw [hboot] at heq
  exact congrArg Engine.masterMessages heq

/-- A run outside of the PTP task. -/
theorem Dormant.interrupts (h : Dormant rtOpts s) (is : List Interrupt) :
    Dormant rtOpts (is.foldl interrupt s) := by
  obtain ⟨hopts, ⟨state, hstate, heq⟩, hhist⟩ := h
  obtain ⟨netPath, hclock⟩ := interrupts_ptpClock is s
  refine ⟨?_, ⟨state, hstate, (interrupts_engine is s).trans heq⟩, ?_⟩
  · rw [hclock]
    exact hopts
  · obtain ⟨newer, hnewer, hreception⟩ := interrupts_reception is s
    rw [hnewer]
    intro hmem
    rcases List.mem_append.mp hmem with hmem | hmem
    · exact hreception _ hmem
    · exact hhist hmem

/-- Before the initialisation the first two switches do nothing. -/
theorem Dormant.switchCall_eq (h : Dormant rtOpts s) (env : Env) :
    switchCall env s = pause env .actions (s.setMessageActivity false) := by
  have hidle : stateDecision (s.setMessageActivity false) = s.setMessageActivity false :=
    stateDecision_of_idle h.unready.1
  have hstay : followRecommendation env (s.setMessageActivity false) =
      s.setMessageActivity false := followRecommendation_of_initializing env h.unready.2
  unfold Ptpd.switchCall
  rw [hidle, hstay]

theorem Dormant.switchCall (h : Dormant rtOpts s) (env : Env) :
    Dormant rtOpts (switchCall env s) := by
  have hactive : Dormant rtOpts (s.setMessageActivity false) := ⟨h.options, h.engine, h.history⟩
  rw [h.switchCall_eq env]
  exact hactive.interrupts (env.interrupts .actions)

theorem doInit_engine (h : env.netInit = true) :
    ∃ v : System, v.engine =
        { s.engine with
          delayMechanism := s.ptpClock.rtOpts.delayMechanism
          foreignMasterDS :=
            { s.engine.foreignMasterDS with
              count := 0, capacity := s.ptpClock.rtOpts.maxForeignRecords }
          defaultDS := v.engine.defaultDS
          portIdentity := v.engine.portIdentity
          noAdjust := s.ptpClock.rtOpts.servo.noAdjust } ∧
      v.engine.defaultDS.slaveOnly = s.ptpClock.rtOpts.slaveOnly ∧
      v.engine.defaultDS.clockQuality = s.ptpClock.rtOpts.clockQuality ∧
      (doInit env s).2.engine = { v.engine.initClock.m1 with sender := v.engine.portIdentity } := by
  let v := initTimer ((netInit env s).2.modify initData)
  refine ⟨v, rfl, rfl, rfl, ?_⟩
  let u := (initClock v).m1
  have hu : u.engine = v.engine.initClock.m1 := by rw [m1_engine, initClock_engine]
  have hdo : (doInit env s).2 = (u.modify fun c =>
      { c with msgObuf := msgPackHeader c c.msgObuf }).log (.doInit true) := by
    unfold doInit
    dsimp only
    rw [netInit_fst, if_pos h]
  have hsender : loadPortIdentity (msgPackHeader u.ptpClock u.ptpClock.msgObuf) 20 =
      v.engine.portIdentity :=
    (sender_msgPackHeader _ _).trans (congrArg Engine.portIdentity hu)
  rw [hdo]
  show { u.engine with
    sender := loadPortIdentity (msgPackHeader u.ptpClock u.ptpClock.msgObuf) 20 } = _
  rw [hsender, hu]

/-- Initialisation leaves a fresh engine. -/
theorem Dormant.initialises (h : Dormant rtOpts s) (hnet : env.netInit = true) :
    (((doInit env s).2.engine).enter .listening).Fresh (startupOpts rtOpts) := by
  obtain ⟨hopts, ⟨state, -, heq⟩, -⟩ := h
  obtain ⟨opts, hboot, -⟩ := boot_eq rtOpts
  obtain ⟨v, hv, hslave, hquality, hdo⟩ := doInit_engine (s := s) hnet
  rw [hopts] at hv hslave hquality
  rw [heq, hboot] at hv
  have htimers : v.engine.timers = ∅ := by
    rw [hv]
    rfl
  have haddend : v.engine.addend = adjFreqBaseAddend := by
    rw [hv]
    rfl
  rw [hdo]
  constructor
  case slaveOnly => exact hslave
  case clockQuality => exact hquality
  case noAdjust => exact congrArg Engine.noAdjust hv
  case addend =>
    show (if v.engine.noAdjust then v.engine.addend else adjFreqBaseAddend) = _
    rw [haddend, ite_self]
  case timers =>
    show insert Timer.announceReceipt v.engine.timers = _
    rw [htimers]
    rfl
  case events => exact congrArg Engine.events hv
  case foreignCount => exact congrArg (fun e : Engine => e.foreignMasterDS.count) hv
  case foreignCapacity => exact congrArg (fun e : Engine => e.foreignMasterDS.capacity) hv
  case foreignIndex => exact congrArg (fun e : Engine => e.foreignMasterDS.i) hv
  case sentAnnounceSequenceId => exact congrArg Engine.sentAnnounceSequenceId hv
  case masterMessages => exact congrArg Engine.masterMessages hv
  case offsets => exact congrArg Engine.offsets hv
  case clockSteps => exact congrArg Engine.clockSteps hv
  all_goals rfl

theorem Engine.Fresh.settled {opts : RunTimeOpts} {e : Engine} (h : e.Fresh opts) :
    e.Settled := by
  refine ⟨.inl ?_, ?_, ⟨?_, ?_⟩, ?_⟩
  · rw [Engine.Agrees, h.recommendedState]
    exact h.portState
  · rw [h.recommendedState]
    decide
  · rw [h.events]
    rintro ⟨⟩
  · rw [h.events]
    rintro ⟨⟩
  · rw [h.events]
    rintro ⟨⟩

/-- Without a success of `netInit` a port stays uninitialised. -/
theorem Dormant.call (h : Dormant rtOpts s)
    (hnot : env.netInit = false ∨ (Ptpd.switchCall env s).portState ≠ .initializing) :
    Dormant rtOpts (doState env s) := by
  rw [doState_eq]
  have hu := h.switchCall env
  generalize Ptpd.switchCall env s = u at hu hnot
  obtain ⟨hstate | hstate, hrec⟩ := hu.unready
  · have hnet : env.netInit = false := hnot.resolve_right (not_not.mpr hstate)
    rw [portActions_initializing env hstate, if_neg (by simp [hnet]), doInit_fails env u hnet]
    obtain ⟨hopts, ⟨state, -, heq⟩, hhist⟩ := hu
    refine ⟨hopts, ⟨.faulty, .inr rfl, ?_⟩, ?_⟩
    · exact congrArg (fun e : Engine => { e with portState := .faulty }) heq
    · intro hmem
      rcases List.mem_cons.mp hmem with hmem | hmem
      · cases hmem
      · exact hhist hmem
  · rw [portActions_faulty env hstate]
    obtain ⟨hopts, ⟨state, -, heq⟩, hhist⟩ := hu
    refine ⟨hopts, ⟨.initializing, .inl rfl, ?_⟩, hhist⟩
    have hboot : (boot rtOpts).engine.recommendedState = .initializing :=
      boot_recommendedState rtOpts
    refine (congrArg (fun e : Engine =>
      { e with portState := .initializing, recommendedState := .initializing }) heq).trans ?_
    rw [← hboot]

/-- A success of `netInit` initialises the port. -/
theorem Dormant.call_initialises (h : Dormant rtOpts s)
    (hstate : (Ptpd.switchCall env s).portState = .initializing) (hnet : env.netInit = true) :
    ∃ u, Dormant rtOpts u ∧
      doState env s = enterState env .listening ((doInit env u).2.setMessageActivity true) := by
  refine ⟨_, h.switchCall env, ?_⟩
  rw [doState_eq, portActions_initializing env hstate, hnet, if_pos rfl]

/-- What one step does to a port that has not been initialised yet: it stays so, or `doInit`
succeeds. -/
theorem Dormant.step_cases (h : Dormant rtOpts s) (hstep : Step s t) :
    Dormant rtOpts t ∨
      ∃ env u, Dormant rtOpts u ∧ env.netInit = true ∧
        t = enterState env .listening ((doInit env u).2.setMessageActivity true) := by
  cases hstep with
  | interrupt i => exact .inl (h.interrupts [i])
  | doState env =>
    by_cases hsuccess : (Ptpd.switchCall env s).portState = .initializing ∧ env.netInit = true
    · obtain ⟨u, hu, heq⟩ := h.call_initialises hsuccess.1 hsuccess.2
      exact .inr ⟨env, u, hu, hsuccess.2, heq⟩
    · left
      apply h.call
      rw [not_and_or, Bool.not_eq_true] at hsuccess
      exact hsuccess.symm

theorem Dormant.step (h : Dormant rtOpts s) (hstep : Step s t) :
    Dormant rtOpts t ∨
      t.engine.Fresh (startupOpts rtOpts) ∧ .doInit true ∈ t.history := by
  refine (h.step_cases hstep).imp_right ?_
  rintro ⟨env, u, hu, hnet, rfl⟩
  rw [enterState_engine, setMessageActivity_engine]
  refine ⟨hu.initialises hnet, ?_⟩
  obtain ⟨v, heq, -, -⟩ := doInit_succeeds env u hnet
  rw [heq]
  exact List.mem_cons_of_mem _ List.mem_cons_self

/-- **The run of the engine** behind a run of the daemon: the port has not been initialised yet, or
it runs by the calls of its engine since. -/
theorem Reachable.works (hs : Reachable rtOpts s) :
    Dormant rtOpts s ∨ ∃ e₀ : Engine, e₀.Fresh (startupOpts rtOpts) ∧
      ReflTransGen Engine.Call e₀ s.engine := by
  obtain ⟨_, rfl, hr⟩ := hs
  induction hr with
  | refl => exact .inl (boot_dormant rtOpts)
  | tail _ hstep ih =>
    rcases ih with hdormant | ⟨e₀, hfresh, hrun⟩
    · rcases hdormant.step hstep with hdormant | ⟨hfresh, -⟩
      · exact .inl hdormant
      · exact .inr ⟨_, hfresh, .refl⟩
    · refine .inr ⟨e₀, hfresh, ?_⟩
      cases hstep with
      | interrupt i =>
        rw [interrupt_engine]
        exact hrun
      | doState env =>
        have hsettled := Transition.Preserves.run (P := Engine.Settled)
          (fun _ _ hc h => h.call hc) hrun hfresh.settled
        exact hrun.tail (doState_call env hsettled)

/-- **The invariant rule**: what the calls of the engine keep holds once the port is initialised. -/
theorem Reachable.dormant_or {I : Engine → Prop}
    (hfresh : ∀ e : Engine, e.Fresh (startupOpts rtOpts) → I e)
    (hcall : ∀ e e' : Engine, e.Settled → I e → Engine.Call e e' → I e')
    (hs : Reachable rtOpts s) : Dormant rtOpts s ∨ I s.engine := by
  rcases hs.works with hdormant | ⟨e₀, he₀, hrun⟩
  · exact .inl hdormant
  · have hboth := Transition.Preserves.run
      (Transition.Preserves.strengthen (P := Engine.Settled) (Q := I)
        (fun _ _ hc h => h.call hc) fun _ _ hc h hi => hcall _ _ h hi hc)
      hrun ⟨he₀.settled, hfresh e₀ he₀⟩
    exact .inr hboth.2

/-- What the moves keep, the calls keep. -/
theorem Engine.Settled.call_of_move {I : Engine → Prop}
    (hmove : Transition.Preserves Engine.Move I) (e e' : Engine) (h : e.Settled) (hi : I e)
    (hc : Engine.Call e e') : I e' :=
  hmove.run (h.call_moves hc) hi

theorem Reachable.of_call {I : Engine → Prop}
    (hfresh : ∀ e : Engine, e.Fresh (startupOpts rtOpts) → I e)
    (hcall : ∀ e e' : Engine, e.Settled → I e → Engine.Call e e' → I e')
    (hs : Reachable rtOpts s) (hinit : .doInit true ∈ s.history) : I s.engine :=
  (hs.dormant_or hfresh hcall).resolve_left fun h => h.history hinit

theorem Reachable.dormant_or_settled (hs : Reachable rtOpts s) :
    Dormant rtOpts s ∨ s.engine.Settled :=
  hs.dormant_or (I := Engine.Settled) (fun _ h => h.settled) fun _ _ _ h hc => h.call hc

/-- The invariant rule on the moves. -/
theorem Reachable.of_move {I : Engine → Prop}
    (hfresh : ∀ e : Engine, e.Fresh (startupOpts rtOpts) → I e)
    (hmove : Transition.Preserves Engine.Move I)
    (hs : Reachable rtOpts s) (hinit : .doInit true ∈ s.history) : I s.engine :=
  hs.of_call hfresh (Engine.Settled.call_of_move hmove) hinit

theorem Reachable.settled (hs : Reachable rtOpts s) (hinit : .doInit true ∈ s.history) :
    s.engine.Settled :=
  hs.dormant_or_settled.resolve_left fun h => h.history hinit

end Initialisation

/-! ## A run to `PTP_MASTER` -/

/-- A port that has become master by the announce receipt timeout. -/
def timedOut : System :=
  (boot ptpdOpts).after
    [.doState plainEnv, .interrupt (.timerCallback .announceReceipt), .doState plainEnv]

theorem timedOut_reachable : Reachable ptpdOpts timedOut := (boot_reachable ptpdOpts).after _

theorem timedOut_initialised : .doInit true ∈ timedOut.history := by decide +kernel

end Ptpd

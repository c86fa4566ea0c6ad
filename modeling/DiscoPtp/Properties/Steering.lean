import DiscoPtp.Properties.Initialised

/-!
# Steering the clock

Only a port that follows a master steers its clock. Every way out of `PTP_UNCALIBRATED` and
`PTP_SLAVE` resets the servo, also the one through a fault found in a message handler.

## Main definitions

* `Engine.Steady`: the servo is reset and the clock runs at its nominal rate
* `Engine.Steered`: a port that follows no master is steady

## Main results

* `Engine.Steered.toState`: every transition keeps a port that follows no master steady
* `unsteered`: a port that follows no master does not steer its clock
-/

namespace Ptpd

namespace Engine

variable {e e' : Engine}

/-- The servo is reset and the clock runs at its nominal rate. -/
def Steady (e : Engine) : Prop :=
  e.observedDrift = 0 ∧ e.ofmSamples = 0 ∧ e.waitingForFollowUp = false ∧
    (e.noAdjust = false → e.addend = adjFreqBaseAddend)

theorem steady_initClock (e : Engine) : e.initClock.Steady := by
  refine ⟨rfl, rfl, rfl, fun h => ?_⟩
  change e.noAdjust = false at h
  exact if_neg (by simp [h])

/-- A port that follows no master is steady. -/
def Steered (e : Engine) : Prop := ¬e.portState.Following → e.Steady

/-- Leaving a state for one that follows no master. -/
theorem Steered.leave (h : e.Steered) {state : PtpState} (hs : ¬state.Following) :
    (e.leave state).Steady := by
  have hstay : ¬(state = .uncalibrated ∨ state = .slave) := hs
  have hfollower : e.leaveFollower.Steady := by
    unfold leaveFollower
    exact steady_initClock _
  unfold Engine.leave
  split
  · exact steady_initClock e
  · rw [if_neg hstay]
    exact hfollower
  · rw [if_neg hstay]
    exact hfollower
  · exact steady_initClock e
  · exact steady_initClock e
  · exact steady_initClock e
  next hm hu hsl hp hl hpre =>
    refine h ?_
    rintro (heq | heq)
    · exact hu heq
    · exact hsl heq

/-- **Every transition** keeps a port that follows no master steady. -/
theorem Steered.toState (h : e.Steered) (state : PtpState) : (e.toState state).Steered := by
  intro hnot
  rw [toState_portState] at hnot
  obtain ⟨timers, henter⟩ := enter_eq state (e.leave state)
  have hstate : ¬state.Following := by
    intro hf
    apply hnot
    rcases hf with rfl | rfl
    · exact .inl rfl
    · exact .inr rfl
  rw [Engine.toState, henter]
  exact h.leave hstate

theorem Steered.requests (h : e.Steered) (hr : Requests e e') : e'.Steered := by
  obtain ⟨_, rfl⟩ := hr.eq
  exact h

theorem Steered.outcome (h : e.Steered) (ho : Outcome e e') : e'.Steered := by
  cases ho with
  | short => exact h.toState .faulty
  -- a Sync is stored and used by a port that follows a master
  | storeSync hs => exact fun hnot => absurd hs hnot
  | measure header e₁ _ hs hp hm hr =>
    obtain ⟨_, _, _, _, _, _, rfl⟩ := hm.eq
    obtain ⟨_, rfl⟩ := hr.eq
    exact fun hnot => absurd hs hnot
  | requests _ hs hr => exact h.requests hr
  | _ => exact h

theorem Steered.move : Transition.Preserves Move Steered := by
  intro e e' hm h
  cases hm with
  | decides _ hd => cases hd <;> exact h
  | events events => exact h
  | enter state hw hen => exact h.toState state
  | timeout hs =>
    unfold announceTimeout
    split
    · exact Steered.toState (e := { e.clearForeign.m1 with recommendedState := .master }) h .master
    split
    · exact Steered.toState (e := e.clearForeign) h .listening
    · exact h
  | sends _ ha hs => cases hs <;> exact h
  | outcome _ ha ho => exact h.outcome ho
  | requests _ hr => exact h.requests hr

/-! ### Clock steps -/

theorem follow_clockSteps (e : Engine) : e.follow.clockSteps = e.clockSteps := by
  obtain ⟨_, _, _, _, _, _, _, h⟩ := follow_followed e
  rw [h]

theorem outcome_clockSteps (hs : ¬e.portState.Following) (ho : Outcome e e') :
    e'.clockSteps = e.clockSteps := by
  cases ho with
  | short =>
    obtain ⟨_, _, _, _, _, h⟩ := toState_eq .faulty e
    rw [h]
  | storeSync h => exact absurd h hs
  | measure header e₁ _ h hp hm hr => exact absurd h hs
  | requests _ h hr =>
    obtain ⟨_, rfl⟩ := hr.eq
    rfl
  | _ => rfl

/-- The third switch of a port that follows no master. -/
theorem acts_clockSteps (hs : ¬e.portState.Following) (ha : Acts e e') :
    e'.clockSteps = e.clockSteps := by
  cases ha with
  | timeout h =>
    have henter (e : Engine) (state : PtpState) :
        (e.toState state).clockSteps = e.clockSteps := by
      obtain ⟨_, _, _, _, _, h⟩ := toState_eq state e
      rw [h]
    unfold announceTimeout
    split
    · exact henter _ _
    split
    · exact henter _ _
    · rfl
  | await _ h ho => exact outcome_clockSteps hs ho
  | master e₁ e₂ _ h hsends ho hr =>
    have hs₁ : ¬e₁.portState.Following := by rwa [portState_of_sends hsends]
    have ho₂ := outcome_clockSteps hs₁ ho
    obtain ⟨_, _, rfl⟩ := sends_eq hsends
    obtain ⟨_, rfl⟩ := hr.eq
    exact ho₂

end Engine

/-! ## The clock of a port that follows no master -/

section Runs

variable {rtOpts : RunTimeOpts} {s : System}

theorem Reachable.steered (hs : Reachable rtOpts s) (hinit : .doInit true ∈ s.history) :
    s.engine.Steered :=
  hs.of_move (I := Engine.Steered)
    (fun _ h _ => ⟨h.observedDrift, h.ofmSamples, h.waitingForFollowUp, fun _ => h.addend⟩)
    Engine.Steered.move hinit

/-- Without a master to follow after its second switch, a call of `doState` does not step the
clock. -/
theorem doState_clockSteps (env : Env) (h : s.engine.Settled)
    (hs : ¬(switchCall env s).portState.Following) :
    clockSteps (doState env s).history = clockSteps s.history := by
  obtain ⟨e₁, hd, hdecided, hswitch⟩ := switchCall_engine env h
  have hacts := portActions_acts (s := switchCall env s) env (by
    change (switchCall env s).engine.portState.Operating
    rw [hswitch]
    exact hdecided.follow.agrees.operating)
  have hsteps : (doState env s).engine.clockSteps = (switchCall env s).engine.clockSteps :=
    Engine.acts_clockSteps hs hacts
  have hdecide : e₁.clockSteps = s.engine.clockSteps := by
    cases hd <;> rfl
  rw [hswitch, Engine.follow_clockSteps, hdecide] at hsteps
  exact hsteps

/-- **A port that follows no master** does not steer its clock: the servo is reset, the clock runs
at its nominal rate, and no call of `doState` steps it unless its second switch makes the port
follow a master. -/
theorem unsteered (hs : Reachable rtOpts s) (hinit : .doInit true ∈ s.history)
    (hadjust : s.ptpClock.servo.noAdjust = false) (hstate : ¬s.portState.Following) :
    (s.ptpClock.observedDrift = 0 ∧ s.ptpClock.ofmFilt.n = 0 ∧
        s.ptpClock.waitingForFollowUp = false ∧ s.addend = adjFreqBaseAddend) ∧
      (∀ env, ¬(switchCall env s).portState.Following →
        clockSteps (doState env s).history = clockSteps s.history) ∧
      ∀ i, clockSteps (interrupt s i).history = clockSteps s.history := by
  obtain ⟨hdrift, hsamples, hwaiting, haddend⟩ := hs.steered hinit hstate
  refine ⟨⟨hdrift, hsamples, hwaiting, haddend hadjust⟩, ?_, ?_⟩
  · exact fun env hnot => doState_clockSteps env (hs.settled hinit) hnot
  · exact fun i => congrArg Engine.clockSteps (interrupt_engine i s)

theorem unsteered_timedOut :
    (timedOut.ptpClock.observedDrift = 0 ∧ timedOut.ptpClock.ofmFilt.n = 0 ∧
        timedOut.ptpClock.waitingForFollowUp = false ∧
        timedOut.addend = adjFreqBaseAddend) ∧
      (∀ env, ¬(switchCall env timedOut).portState.Following →
        clockSteps (doState env timedOut).history = clockSteps timedOut.history) ∧
      ∀ i, clockSteps (interrupt timedOut i).history = clockSteps timedOut.history :=
  unsteered timedOut_reachable timedOut_initialised (by decide +kernel) (by decide +kernel)

end Runs

/-! ## A call that begins in `PTP_LISTENING` -/

/-- The Sync of a one-step master, five seconds on. -/
def oneStepSync : List UInt8 :=
  let master := station 1 { ptpdOpts with priority1 := 100 }
  syncOf { master with defaultDS := { master.defaultDS with twoStepFlag := false } } 5 ⟨0, 5, 0⟩

/-- A listening port has stored the Announce of a better master. -/
def aboutToFollow : System :=
  (boot ptpdOpts).after
    ([.doState plainEnv] ++
      generalArrival (announceOf (station 1 { ptpdOpts with priority1 := 100 })) (atSecond 1) ++
      [.doState plainEnv])

/-- The Sync arrives when the port has just become uncalibrated. -/
def syncInCall : Env :=
  { plainEnv with
    interrupts := fun
      | .actions => [.frame (datagram oneStepSync (atSecond 8)), .recvEvent 0]
      | _ => [] }

theorem aboutToFollow_reachable : Reachable ptpdOpts aboutToFollow :=
  (boot_reachable ptpdOpts).after _

/-- A call of `doState` that begins in `PTP_LISTENING` may step the clock. -/
theorem not_never_steps :
    ¬ ∀ (rtOpts : RunTimeOpts) (s : System), Reachable rtOpts s → .doInit true ∈ s.history →
      s.ptpClock.servo.noAdjust = false → ¬s.portState.Following →
      ∀ env, clockSteps (doState env s).history = clockSteps s.history := by
  intro h
  have hsteps : clockSteps (doState syncInCall aboutToFollow).history ≠
      clockSteps aboutToFollow.history := by decide +kernel
  exact hsteps (h ptpdOpts aboutToFollow aboutToFollow_reachable (by decide +kernel)
    (by decide +kernel) (by decide +kernel) syncInCall)

end Ptpd

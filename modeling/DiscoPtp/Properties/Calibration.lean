import DiscoPtp.Properties.Initialised

/-!
# Calibration

`PTP_SLAVE` means calibrated to the current parent. The decision travels in the event
`MASTER_CLOCK_SELECTED`, which is raised by a small offset in one call of `doState` and taken by the
second switch of the next one; a change of the parent travels in `MASTER_CLOCK_CHANGED` and is taken
in the call that raises it.

## Main definitions

* `CalibratedBy`: a call has calibrated the port against its parent
* `StaysSlave`: a step from `PTP_SLAVE` to `PTP_SLAVE`

## Main results

* `Engine.Decided.slave`: when the second switch leaves a port in `PTP_SLAVE`
* `Engine.Ready.selects`: how `MASTER_CLOCK_SELECTED` is raised
* `slave_calibrated`: a slave is calibrated against its parent
-/

namespace Ptpd

open Relation (ReflTransGen)

namespace Engine

variable {e e' : Engine}

/-! ### The second switch -/

/-- The second switch leaves a port in `PTP_SLAVE` that was there and kept its parent, or that was
uncalibrated and has selected its master. -/
theorem Decided.slave (h : e.Decided) (hs : e.follow.portState = .slave) :
    e.recommendedState = .slave ∧
      (e.portState = .slave ∧ e.events.masterClockChanged = false ∨
        e.portState = .uncalibrated ∧ e.events.masterClockSelected = true) := by
  have hrec := h.recommended
  have hne (state : PtpState) (hstate : state.entered ≠ .slave) :
      (e.toState state).portState ≠ .slave := by rwa [toState_portState]
  unfold Engine.follow at hs
  simp only [List.mem_cons, List.not_mem_nil, or_false] at hrec
  -- three of the recommendations lead to another state
  rcases hrec with hrec | hrec | hrec | hrec
  · rw [hrec] at hs
    dsimp only at hs
    split at hs
    · exact absurd hs (hne _ (by decide))
    next hl =>
      rw [not_not.mp hl] at hs
      cases hs
  · rw [hrec] at hs
    dsimp only at hs
    split at hs
    next hp =>
      rw [hp] at hs
      cases hs
    next hm =>
      rw [hm] at hs
      cases hs
    · exact absurd hs (hne _ (by decide))
  · rw [hrec] at hs
    dsimp only at hs
    split at hs
    · exact absurd hs (hne _ (by decide))
    next hp =>
      rw [not_not.mp hp] at hs
      cases hs
  · refine ⟨hrec, ?_⟩
    rw [hrec] at hs
    dsimp only at hs
    split at hs
    next hu =>
      rw [(followSlaveUncalibrated_spec hu).1] at hs
      split at hs
      next hsel => exact .inr ⟨hu, hsel⟩
      · cases hs
    next hsl =>
      rw [(followSlaveSlave_spec hsl).1] at hs
      split at hs
      · cases hs
      next hkept =>
        refine .inl ⟨hsl, ?_⟩
        by_contra hc
        exact hkept (.inr (by simpa using hc))
    · exact absurd hs (hne _ (by decide))

theorem follow_parentPortIdentity (e : Engine) :
    e.follow.parentPortIdentity = e.parentPortIdentity ∧ e.follow.offsets = e.offsets := by
  obtain ⟨_, _, _, _, _, _, _, h⟩ := follow_followed e
  rw [h]
  exact ⟨rfl, rfl⟩

/-- A port that is a slave after the second switch has the parent it had before the call; it was a
slave, or it was uncalibrated and has selected its master. -/
theorem Settled.slave (h : e.Settled) {e₁ : Engine} (hd : Decides e e₁)
    (hs : e₁.follow.portState = .slave) :
    e₁.parentPortIdentity = e.parentPortIdentity ∧
      (e.portState = .slave ∨
        e.portState = .uncalibrated ∧ e.events.masterClockSelected = true) := by
  have hdecided := h.decides hd
  obtain ⟨hrec, hcases⟩ := hdecided.slave hs
  have hrecommend {state : PtpState} {e₂ : Engine} (hne : state ≠ .slave) :
      (e₂.recommend state).recommendedState ≠ .slave := by
    unfold recommend
    dsimp only
    split
    · decide
    · exact hne
  cases hd with
  | idle hidle => exact ⟨rfl, hcases.imp (fun hc => hc.1) id⟩
  | listening best he hb hl => exact absurd hrec (hrecommend (by decide))
  | master best he hb => exact absurd hrec (hrecommend (by decide))
  | passive best he hb hclass => exact absurd hrec (hrecommend (by decide))
  | slave best he hb hclass =>
    -- a decision is made while no synchronization event is pending
    have hnot : ¬e.events.masterClockSelected = true := by simp [(h.pending he.2).1]
    have hevents : ((e.evaluated best).s1 (e.foreignMasterDS.records best).header
        (e.foreignMasterDS.records best).announce).events =
          if isSamePortIdentity e.parentPortIdentity
              (e.foreignMasterDS.records best).header.sourcePortIdentity then
            (e.evaluated best).events
          else { (e.evaluated best).events with masterClockChanged := true } := rfl
    rcases hcases with ⟨hslave, hkept⟩ | ⟨huncal, hsel⟩
    · refine ⟨?_, .inl hslave⟩
      change ((e.evaluated best).s1 (e.foreignMasterDS.records best).header
        (e.foreignMasterDS.records best).announce).events.masterClockChanged = false at hkept
      rw [hevents] at hkept
      split at hkept
      next hsame => exact (isSamePortIdentity_iff.mp hsame).symm
      · cases hkept
    · exfalso
      change ((e.evaluated best).s1 (e.foreignMasterDS.records best).header
        (e.foreignMasterDS.records best).announce).events.masterClockSelected = true at hsel
      rw [hevents] at hsel
      split at hsel
      · exact hnot hsel
      · exact hnot hsel

/-! ### The third switch -/

theorem outcome_of_slave (ho : Outcome e e') (hs : e'.portState = .slave) :
    e.portState = .slave ∧ e'.parentPortIdentity = e.parentPortIdentity := by
  cases ho with
  | short =>
    rw [toState_portState] at hs
    cases hs
  -- the announced parent is the one the port has
  | followParent header announce hf hp => exact ⟨hs, hp.symm⟩
  | measure header e₁ _ hf hp hm hr =>
    obtain ⟨_, _, _, _, _, _, rfl⟩ := hm.eq
    obtain ⟨_, rfl⟩ := hr.eq
    exact ⟨hs, rfl⟩
  | requests _ hf hr =>
    obtain ⟨_, rfl⟩ := hr.eq
    exact ⟨hs, rfl⟩
  | _ => exact ⟨hs, rfl⟩

/-- The third switch makes no slave, and a slave keeps its parent in it. -/
theorem acts_of_slave (ha : Acts e e') (hs : e'.portState = .slave) :
    e.portState = .slave ∧ e'.parentPortIdentity = e.parentPortIdentity := by
  cases ha with
  -- a timeout leads to `PTP_MASTER` or `PTP_LISTENING`
  | timeout hawait =>
    unfold announceTimeout at hs ⊢
    split at hs
    · rw [toState_portState] at hs
      cases hs
    split at hs
    · rw [toState_portState] at hs
      cases hs
    next hl =>
      change e.portState = .slave at hs
      rw [not_not.mp hl] at hs
      cases hs
  | await _ hawait ho => exact outcome_of_slave ho hs
  -- no message makes a master a slave
  | master e₁ e₂ _ hmaster hsends ho hr =>
    have hs₂ : e₂.portState = .slave := by rwa [← hr.portState]
    have hs₁ := (outcome_of_slave ho hs₂).1
    rw [portState_of_sends hsends, hmaster] at hs₁
    cases hs₁

/-- The use of a message of the parent with this header has calibrated the port. -/
def Calibrates (header : MsgHeader) (e e' : Engine) : Prop :=
  e'.offsets = header :: e.offsets ∧ header.sourcePortIdentity = e'.parentPortIdentity ∧
    e'.offsetFromMaster.seconds = 0 ∧
    abs32 e'.offsetFromMaster.nanoseconds < defaultCalibratedOffsetNs

theorem outcome_selects (h : e.Ready) (ho : Outcome e e')
    (hsel : e'.events.masterClockSelected = true) : ∃ header, Calibrates header e e' := by
  have hnot : ¬e.events.masterClockSelected = true := by simp [h.selected]
  cases ho with
  | ignored => exact absurd hsel hnot
  | short =>
    rw [toState_events] at hsel
    exact absurd hsel hnot
  | store header announce hs => exact absurd hsel hnot
  | storePassive header announce hs => exact absurd hsel hnot
  -- `s1` raises the event that the master has changed, not this one
  | followParent header announce hf hp =>
    exfalso
    change (s1 header announce _).events.masterClockSelected = true at hsel
    unfold s1 at hsel
    dsimp only at hsel
    split at hsel
    · exact hnot hsel
    · exact hnot hsel
  | storeSync hf => exact absurd hsel hnot
  -- `updateOffset` is the only source of the event
  | measure header e₁ _ hf hp hm hr =>
    obtain ⟨timers, rfl⟩ := hr.eq
    obtain ⟨⟨_, _, _, _, _, _, rfl⟩, -, -, -, hmcs⟩ := hm
    rcases hmcs hsel with hold | ⟨-, hseconds, hsmall⟩
    · exact absurd hold hnot
    · exact ⟨header, rfl, hp.symm, hseconds, hsmall⟩
  | requests _ hs hr =>
    obtain ⟨_, rfl⟩ := hr.eq
    exact absurd hsel hnot
  | serve packet hs => exact absurd hsel hnot

/-- **`MASTER_CLOCK_SELECTED`** is raised by the small offset of a message of the parent. -/
theorem Ready.selects (h : e.Ready) (ha : Acts e e')
    (hsel : e'.events.masterClockSelected = true) : ∃ header, Calibrates header e e' := by
  have hnot : ¬e.events.masterClockSelected = true := by simp [h.selected]
  cases ha with
  | timeout hawait =>
    exfalso
    unfold announceTimeout at hsel
    split at hsel
    · rw [toState_events] at hsel
      exact hnot hsel
    split at hsel
    · rw [toState_events] at hsel
      exact hnot hsel
    · exact hnot hsel
  | await _ hawait ho => exact outcome_selects h ho hsel
  -- what a master sends does not touch the events
  | master e₁ e₂ _ hmaster hsends ho hr =>
    obtain ⟨timers, rfl⟩ := hr.eq
    obtain ⟨header, hcal⟩ := outcome_selects (h.sends hsends) ho hsel
    obtain ⟨_, _, heq⟩ := sends_eq hsends
    rw [heq] at hcal
    exact ⟨header, hcal⟩

end Engine

/-! ## Runs -/

section Runs

variable {rtOpts : RunTimeOpts} {s t : System}

/-- The last call of `doState` before `s` has calibrated the port: a Sync or a Follow_Up of the
present parent was used and gave a small offset. -/
def CalibratedBefore (rtOpts : RunTimeOpts) (s : System) : Prop :=
  ∃ (u : System) (env : Env) (is : List Interrupt) (header : MsgHeader),
    Reachable rtOpts u ∧ s = is.foldl interrupt (doState env u) ∧
    Engine.Calibrates header u.engine s.engine

/-- A step of a slave that stays one. -/
def StaysSlave (s t : System) : Prop :=
  Step s t ∧ s.portState = .slave ∧ t.portState = .slave ∧
    t.ptpClock.parentDS.parentPortIdentity = s.ptpClock.parentDS.parentPortIdentity

/-- Before the initialisation nothing has been raised and there is no slave. -/
theorem Dormant.not_slave (h : Dormant rtOpts s) : s.portState ≠ .slave := by
  obtain ⟨hstate | hstate, -⟩ := h.unready
  · rw [hstate]
    decide
  · rw [hstate]
    decide

theorem Dormant.doState_not_slave (h : Dormant rtOpts s) (env : Env) :
    (doState env s).portState ≠ .slave ∧
      (doState env s).ptpClock.events.masterClockSelected = false := by
  rcases h.step (.doState env s) with hstill | ⟨hfresh, -⟩
  · obtain ⟨state, -, heq⟩ := hstill.engine
    obtain ⟨opts, hboot, -⟩ := boot_eq rtOpts
    rw [hboot] at heq
    exact ⟨hstill.not_slave, congrArg (fun e : Engine => e.events.masterClockSelected) heq⟩
  · refine ⟨?_, congrArg Events.masterClockSelected hfresh.events⟩
    have hstate : (doState env s).portState = .listening := hfresh.portState
    rw [hstate]
    decide

/-- What the second switch has made a slave. -/
theorem switchCall_slave (h : s.engine.Settled) (env : Env)
    (hslave : (switchCall env s).portState = .slave) :
    (switchCall env s).ptpClock.parentDS.parentPortIdentity =
        s.ptpClock.parentDS.parentPortIdentity ∧
      (s.portState = .slave ∨
        s.portState = .uncalibrated ∧ s.ptpClock.events.masterClockSelected = true) := by
  obtain ⟨e₁, hd, hdecided, hswitch⟩ := switchCall_engine env h
  change (switchCall env s).engine.portState = .slave at hslave
  rw [hswitch] at hslave
  obtain ⟨hparent, hcases⟩ := h.slave hd hslave
  refine ⟨?_, hcases⟩
  change (switchCall env s).engine.parentPortIdentity = s.engine.parentPortIdentity
  rw [hswitch, (Engine.follow_parentPortIdentity e₁).1, hparent]

/-- A port that is a slave after a call was one at the third switch. -/
theorem doState_slave (h : s.engine.Settled) (env : Env)
    (hslave : (doState env s).portState = .slave) :
    (switchCall env s).portState = .slave ∧
      (doState env s).ptpClock.parentDS.parentPortIdentity =
        (switchCall env s).ptpClock.parentDS.parentPortIdentity := by
  obtain ⟨e₁, hd, hdecided, hswitch⟩ := switchCall_engine env h
  have hacts := portActions_acts (s := switchCall env s) env (by
    change (switchCall env s).engine.portState.Operating
    rw [hswitch]
    exact hdecided.follow.agrees.operating)
  exact Engine.acts_of_slave hacts hslave

/-- A master is selected only by the call before. -/
theorem Reachable.selected (hs : Reachable rtOpts s)
    (hsel : s.ptpClock.events.masterClockSelected = true) : CalibratedBefore rtOpts s := by
  obtain ⟨s₀, rfl, hr⟩ := hs
  -- the event is raised by a call of `doState` and survives what happens outside
  induction hr with
  | refl =>
    obtain ⟨opts, hboot, -⟩ := boot_eq rtOpts
    rw [hboot] at hsel
    cases hsel
  | @tail u v hu hstep ih =>
    have hreach : Reachable rtOpts u := ⟨_, rfl, hu⟩
    cases hstep with
    -- the interrupt joins those after the call that has raised the event
    | interrupt i =>
      obtain ⟨netPath, hclock⟩ := interrupt_ptpClock u i
      rw [hclock] at hsel
      obtain ⟨w, env, is, header, hw, heq, hcal⟩ := ih hsel
      refine ⟨w, env, is ++ [i], header, hw, ?_, ?_⟩
      · rw [List.foldl_append, ← heq]
        rfl
      · rw [interrupt_engine]
        exact hcal
    | doState env =>
      -- a port that is not initialised measures no offset
      rcases hreach.dormant_or_settled with hdormant | hsettled
      · rw [(hdormant.doState_not_slave env).2] at hsel
        cases hsel
      · obtain ⟨e₁, hd, ha⟩ := doState_call env hsettled
        obtain ⟨header, hoffsets, hcal⟩ := (hsettled.decides hd).follow.selects ha hsel
        have hdecide : e₁.offsets = u.engine.offsets := by
          cases hd <;> rfl
        rw [(Engine.follow_parentPortIdentity e₁).2, hdecide] at hoffsets
        exact ⟨u, env, [], header, hreach, rfl, hoffsets, hcal⟩

/-- The run in which a slave was calibrated and has been a slave since. -/
theorem Reachable.calibrated (hs : Reachable rtOpts s) (hslave : s.portState = .slave) :
    ∃ t env, Reachable rtOpts t ∧ t.portState = .uncalibrated ∧ CalibratedBefore rtOpts t ∧
      (doState env t).ptpClock.parentDS.parentPortIdentity =
        t.ptpClock.parentDS.parentPortIdentity ∧
      (doState env t).portState = .slave ∧ ReflTransGen StaysSlave (doState env t) s := by
  obtain ⟨s₀, rfl, hr⟩ := hs
  induction hr with
  | refl =>
    obtain ⟨opts, hboot, -⟩ := boot_eq rtOpts
    rw [hboot] at hslave
    cases hslave
  | @tail u v hu hstep ih =>
    have hreach : Reachable rtOpts u := ⟨_, rfl, hu⟩
    cases hstep with
    | interrupt i =>
      obtain ⟨netPath, hclock⟩ := interrupt_ptpClock u i
      have hstate : (interrupt u i).portState = u.portState := by rw [System.portState, hclock]
      have hu' : u.portState = .slave := hstate.symm.trans hslave
      obtain ⟨t, env, ht, huncal, hcal, hparent, hfirst, hrun⟩ := ih hu'
      refine ⟨t, env, ht, huncal, hcal, hparent, hfirst,
        hrun.tail ⟨.interrupt i u, hu', hslave, ?_⟩⟩
      rw [hclock]
    -- the port has been a slave before, or enters the state in this call
    | doState env =>
      have hsettled : u.engine.Settled := hreach.dormant_or_settled.resolve_left
        fun hdormant => (hdormant.doState_not_slave env).1 hslave
      obtain ⟨hswitch, hacts⟩ := doState_slave hsettled env hslave
      obtain ⟨hkept, hold | ⟨huncal, hsel⟩⟩ := switchCall_slave hsettled env hswitch
      · obtain ⟨t, env', ht, huncal, hcal, hparent, hfirst, hrun⟩ := ih hold
        exact ⟨t, env', ht, huncal, hcal, hparent, hfirst,
          hrun.tail ⟨.doState env u, hold, hslave, hacts.trans hkept⟩⟩
      · exact ⟨u, env, hreach, huncal, hreach.selected hsel, hacts.trans hkept, hslave, .refl⟩

/-- **A slave is calibrated** against its parent: a port becomes a slave only from
`PTP_UNCALIBRATED`, in the call after one that has calibrated it against its present parent; a slave
whose parent changes is none at the end of the call; so in every reachable state a slave has been
calibrated against its parent and has kept it since. -/
theorem slave_calibrated (hs : Reachable rtOpts s) :
    (∀ env, s.portState ≠ .slave →
        (switchCall env s).portState = .slave ∨ (doState env s).portState = .slave →
        s.portState = .uncalibrated ∧ CalibratedBefore rtOpts s ∧
          (switchCall env s).ptpClock.parentDS.parentPortIdentity =
            s.ptpClock.parentDS.parentPortIdentity) ∧
      (∀ env, s.portState = .slave →
        (switchCall env s).ptpClock.parentDS.parentPortIdentity ≠
            s.ptpClock.parentDS.parentPortIdentity ∨
          (doState env s).ptpClock.parentDS.parentPortIdentity ≠
            s.ptpClock.parentDS.parentPortIdentity →
        (doState env s).portState ≠ .slave) ∧
      (s.portState = .slave →
        ∃ t env, Reachable rtOpts t ∧ t.portState = .uncalibrated ∧ CalibratedBefore rtOpts t ∧
          (doState env t).ptpClock.parentDS.parentPortIdentity =
            t.ptpClock.parentDS.parentPortIdentity ∧
          (doState env t).portState = .slave ∧ ReflTransGen StaysSlave (doState env t) s) := by
  refine ⟨?_, ?_, hs.calibrated⟩
  · intro env hnot hslave
    -- a port that is not initialised does not become a slave
    rcases hs.dormant_or_settled with hdormant | hsettled
    · exfalso
      rcases hslave with hslave | hslave
      · exact (hdormant.switchCall env).not_slave hslave
      · exact (hdormant.doState_not_slave env).1 hslave
    · have hswitch : (switchCall env s).portState = .slave :=
        hslave.elim id fun h => (doState_slave hsettled env h).1
      obtain ⟨hkept, hold | ⟨huncal, hsel⟩⟩ := switchCall_slave hsettled env hswitch
      · exact absurd hold hnot
      · exact ⟨huncal, hs.selected hsel, hkept⟩
  · intro env hslave hchanged hstill
    -- the parent of a slave changes in neither half of a call that leaves it a slave
    have hsettled : s.engine.Settled :=
      hs.dormant_or_settled.resolve_left fun hdormant => hdormant.not_slave hslave
    obtain ⟨hswitch, hacts⟩ := doState_slave hsettled env hstill
    obtain ⟨hkept, -⟩ := switchCall_slave hsettled env hswitch
    rcases hchanged with hchanged | hchanged
    · exact hchanged hkept
    · exact hchanged (hacts.trans hkept)

end Runs

/-! ## A calibrated slave -/

/-- A port that has been calibrated by a two-step Sync and its Follow_Up. -/
def calibratedSlave : System :=
  let master := station 1 { ptpdOpts with priority1 := 100 }
  (boot ptpdOpts).after
    ([.doState plainEnv] ++
      generalArrival (announceOf master) (atSecond 1) ++ [.doState plainEnv, .doState plainEnv] ++
      eventArrival (syncOf master 5 ⟨0, 5, 0⟩) (atSecond 5) ++ [.doState plainEnv] ++
      generalArrival (followUpOf master 5 ⟨0, 5, 0⟩) (atSecond 6) ++
      [.doState plainEnv, .doState plainEnv])

theorem calibratedSlave_reachable : Reachable ptpdOpts calibratedSlave :=
  (boot_reachable ptpdOpts).after _

theorem calibratedSlave_calibrated :
    ∃ t env, Reachable ptpdOpts t ∧ t.portState = .uncalibrated ∧ CalibratedBefore ptpdOpts t ∧
      (doState env t).ptpClock.parentDS.parentPortIdentity =
        t.ptpClock.parentDS.parentPortIdentity ∧
      (doState env t).portState = .slave ∧
      ReflTransGen StaysSlave (doState env t) calibratedSlave :=
  (slave_calibrated calibratedSlave_reachable).2.2 (by decide +kernel)

end Ptpd

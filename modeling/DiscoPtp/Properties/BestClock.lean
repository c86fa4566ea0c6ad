import DiscoPtp.Properties.Topology

/-!
# The best clock of a network

Nothing that the other ports do makes the port of the best clock follow: so it is never measured
against another clock, never set, and keeps its own frequency, from boot on.

## Main definitions

* `Engine.Unsteered`: no offset was measured, the clock was not set, the addend is the initial one

## Main results

* `network_port`: the invariant rule for one port
* `best_clock_unsteered`: the best clock
-/

namespace Ptpd

open Relation (ReflTransGen)

/-! ## A clock that is left alone -/

namespace Engine

variable {e e' : Engine}

/-- No offset from a master was measured, the clock was not set, and the addend is the initial
one. -/
structure Unsteered (e : Engine) : Prop where
  offsets : e.offsets = []
  clockSteps : e.clockSteps = []
  addend : e.addend = adjFreqBaseAddend

/-- What `initClock` and the timers may change. -/
def SameSteering (e e' : Engine) : Prop :=
  e'.offsets = e.offsets ∧ e'.clockSteps = e.clockSteps ∧
    (e'.addend = e.addend ∨ e'.addend = adjFreqBaseAddend)

theorem Unsteered.congr (h : e.Unsteered) (heq : SameSteering e e') : e'.Unsteered := by
  obtain ⟨hoffsets, hsteps, haddend⟩ := heq
  refine ⟨hoffsets.trans h.offsets, hsteps.trans h.clockSteps, ?_⟩
  rcases haddend with haddend | haddend
  · exact haddend.trans h.addend
  · exact haddend

theorem initClock_sameSteering (e : Engine) : SameSteering e e.initClock := by
  refine ⟨rfl, rfl, ?_⟩
  show (if e.noAdjust then e.addend else adjFreqBaseAddend) = e.addend ∨
    (if e.noAdjust then e.addend else adjFreqBaseAddend) = adjFreqBaseAddend
  split
  · exact .inl rfl
  · exact .inr rfl

theorem leave_sameSteering (state : PtpState) (e : Engine) :
    SameSteering e (e.leave state) := by
  have hinit := initClock_sameSteering e
  have hfollower : SameSteering e e.leaveFollower := by
    unfold leaveFollower
    dsimp only
    split
    · exact hinit
    · exact hinit
    · exact hinit
  have hstay : SameSteering e
      (if state = .uncalibrated ∨ state = .slave then e else e.leaveFollower) := by
    split
    · exact ⟨rfl, rfl, .inl rfl⟩
    · exact hfollower
  unfold leave
  split
  · exact hinit
  · exact hstay
  · exact hstay
  · exact hinit
  · exact hinit
  · exact hinit
  · exact ⟨rfl, rfl, .inl rfl⟩

theorem Unsteered.toState (h : e.Unsteered) (state : PtpState) : (e.toState state).Unsteered := by
  have hleave := h.congr (leave_sameSteering state e)
  obtain ⟨_, heq⟩ := enter_eq state (e.leave state)
  rw [Engine.toState, heq]
  exact ⟨hleave.offsets, hleave.clockSteps, hleave.addend⟩

theorem Unsteered.decides (h : e.Unsteered) (hd : Decides e e') : e'.Unsteered := by
  cases hd <;> exact h.congr ⟨rfl, rfl, .inl rfl⟩

/-- The second switch, without a recommendation to follow. -/
theorem Unsteered.follow (h : e.Unsteered) (hr : e.recommendedState ≠ .slave) :
    e.follow.Unsteered := by
  unfold Engine.follow
  split
  · split
    · exact h
    · exact h
    · exact h.toState _
  · split
    · exact h.toState _
    · exact h
  next hslave => exact absurd hslave hr
  · split
    · exact h.toState _
    · exact h
  · exact h

/-- The handling of a message by a port that does not follow. -/
theorem Unsteered.outcome (h : e.Unsteered) (hnot : ¬e.portState.Following) (ho : Outcome e e') :
    e'.Unsteered := by
  cases ho with
  | short => exact h.toState _
  | measure header e₁ _ hf hp hm hr => exact absurd hf hnot
  | requests _ hs hr =>
    obtain ⟨_, rfl⟩ := hr.eq
    exact h.congr ⟨rfl, rfl, .inl rfl⟩
  | _ => exact h.congr ⟨rfl, rfl, .inl rfl⟩

/-- The third switch of a port that does not follow. -/
theorem Unsteered.acts (h : e.Unsteered) (hnot : ¬e.portState.Following) (ha : Acts e e') :
    e'.Unsteered := by
  cases ha with
  | timeout hs =>
    have hclear : e.clearForeign.Unsteered := h.congr ⟨rfl, rfl, .inl rfl⟩
    have hm1 : ({ e.clearForeign.m1 with recommendedState := .master } : Engine).Unsteered :=
      h.congr ⟨rfl, rfl, .inl rfl⟩
    unfold Engine.announceTimeout
    split
    · exact hm1.toState _
    split
    · exact hclear.toState _
    · exact hclear
  | await _ hs ho => exact h.outcome hnot ho
  | master e₁ e₂ _ hs hsends ho hr =>
    have hmaster : ¬e₁.portState.Following := by
      rw [portState_of_sends hsends]
      exact hnot
    obtain ⟨_, _, heq⟩ := sends_eq hsends
    have hafter : e₁.Unsteered := by
      rw [heq]
      exact h.congr ⟨rfl, rfl, .inl rfl⟩
    obtain ⟨_, rfl⟩ := hr.eq
    exact (hafter.outcome hmaster ho).congr ⟨rfl, rfl, .inl rfl⟩

theorem Fresh.notSteering {opts : RunTimeOpts} (h : e.Fresh opts) : e.Unsteered :=
  ⟨h.offsets, h.clockSteps, h.addend⟩

/-- A call that does not recommend the port to follow does not steer. -/
theorem Unsteered.call {s : System} {env : Env} (h : s.engine.Unsteered) (hs : s.engine.Settled)
    (hslave : (switchCall env s).recommendedState ≠ .slave) :
    (doState env s).engine.Unsteered := by
  obtain ⟨e₁, hd, hdecided, hswitch⟩ := switchCall_engine env hs
  have hready := hdecided.follow
  rw [← hswitch] at hready
  have hnot : ¬(switchCall env s).engine.portState.Following := fun hf =>
    hslave (hready.agrees.recommends_slave hf)
  -- the second switch keeps the recommendation
  obtain ⟨_, _, _, _, _, _, _, hfollow⟩ := follow_followed e₁
  have hrec : e₁.recommendedState ≠ .slave := by
    intro hr
    apply hslave
    have hswitched := congrArg Engine.recommendedState hswitch
    rw [hfollow] at hswitched
    exact hswitched.trans hr
  have hafter : (switchCall env s).engine.Unsteered := by
    rw [hswitch]
    exact (h.decides hd).follow hrec
  exact hafter.acts hnot (portActions_acts env hready.agrees.operating)

end Engine

/-! ## The best clock -/

section Ports

variable {ι : Type*} {device : ι → Device} {ports : ι → System} {i : ι} {s : System} {env : Env}

/-- **The invariant rule for one port**: its steps keep the property while the port is informed. -/
theorem network_port (hcap : ∀ i, 0 < (device i).rtOpts.maxForeignRecords)
    (hid : Function.Injective fun i => (device i).hwaddr) {I : System → Prop}
    (hboot : I (boot (device i).rtOpts))
    (hstep : ∀ w s t, (network device).system.Reachable w →
      PortStep (device i) (Delivered device w) s t →
      Dormant (device i).rtOpts s ∨ Placed (device i) s → Informed device w i s → I s → I t)
    (hports : (network device).system.Reachable ports) : I (ports i) := by
  have hthree := Transition.Composition.invariant (C := network device)
    (I := fun w j s => (Dormant (device j).rtOpts s ∨ Placed (device j) s) ∧
      Informed device w j s ∧ (j = i → I s)) ?_ ?_ ?_ hports i
  · exact hthree.2.2 rfl
  · intro w hw j
    have hw' : (network device).system.Reachable w := .init hw
    refine ⟨network_placed hcap hw' j, network_informed hcap hid hw' j, ?_⟩
    rintro rfl
    rw [hw j]
    exact hboot
  · exact fun _ _ _ hnext _ _ hs => ⟨hs.1, hs.2.1.next hnext, hs.2.2⟩
  · intro w j s t hw hs h
    refine ⟨hs.placed (hcap j) h.1, hs.informed hcap hid hw h.1 h.2.1, ?_⟩
    rintro rfl
    exact hstep w s t hw hs h.1 h.2.1 (h.2.2 rfl)

/-- A port that is not worse than any other one is not recommended to follow. -/
theorem Informed.not_slave (hcap : ∀ i, 0 < (device i).rtOpts.maxForeignRecords)
    (hid : Function.Injective fun i => (device i).hwaddr)
    (hports : (network device).system.Reachable ports)
    (hbest : ∀ j, (device i).attributes ≤ (device j).attributes) (hs : Placed (device i) s)
    (h : Informed device ports i s) (env : Env) :
    (switchCall env s).recommendedState ≠ .slave := by
  intro hr
  obtain ⟨j, -, hbetter, -⟩ := h.switches hcap hid hports hs hr
  exact (hbest j).not_gt hbetter

/-- The port with the best data set never follows, and its clock is left alone: in every reachable
state of the network no offset has been measured, the clock has not been set, and its frequency is
the nominal one. -/
theorem best_clock_unsteered (hcap : ∀ i, 0 < (device i).rtOpts.maxForeignRecords)
    (hid : Function.Injective fun i => (device i).hwaddr)
    (hports : (network device).system.Reachable ports)
    (hbest : ∀ j, (device i).attributes ≤ (device j).attributes) :
    ¬(ports i).portState.Following ∧ (ports i).engine.Unsteered := by
  constructor
  · intro hf
    obtain ⟨j, -, hbetter, -⟩ := follower_parent hcap hid hports hf
    exact (hbest j).not_gt hbetter
  · refine network_port hcap hid (I := fun s => s.engine.Unsteered) ?_ ?_ hports
    · obtain ⟨_, hboot, -⟩ := boot_eq (device i).rtOpts
      rw [hboot]
      exact ⟨rfl, rfl, rfl⟩
    intro w s t hw hstep hplace hinformed h
    cases hstep with
    | idle => exact h
    | interrupt k brings =>
      show (interrupt s k).engine.Unsteered
      rw [interrupt_engine]
      exact h
    | doState env hwaddr brings =>
      rcases hplace with hdormant | hplaced
      · rcases hdormant.step (.doState env s) with hafter | ⟨hfresh, -⟩
        · obtain ⟨state, -, heq⟩ := hafter.engine
          obtain ⟨_, hboot, -⟩ := boot_eq (device i).rtOpts
          rw [heq, hboot]
          exact ⟨rfl, rfl, rfl⟩
        · exact hfresh.notSteering
      · have hslave := hinformed.not_slave hcap hid hw hbest hplaced env
        exact h.call hplaced.settled hslave

/-- The best of two ports, while the other one follows it. -/
theorem best_clock_unsteered_pair :
    ¬(pairPorts 0).portState.Following ∧ (pairPorts 0).engine.Unsteered := by
  refine best_clock_unsteered pairDevice_capacity pairDevice_hwaddr pairPorts_reachable ?_
  have hfollows : Follows pairPorts 1 0 :=
    ⟨pairPorts_following, by decide +kernel⟩
  intro j
  match j with
  | 0 => exact le_refl _
  | 1 => exact (hfollows.better pairDevice_capacity pairDevice_hwaddr pairPorts_reachable).le

end Ports

end Ptpd

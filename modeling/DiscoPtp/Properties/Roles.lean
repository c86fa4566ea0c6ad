import DiscoPtp.Properties.Initialised

/-!
# Role restrictions

A slave-only clock never acts as a master, and a clock that may only be a grandmaster never follows
one. The options decide, through `ptpdStartup`, `initData`, the state decision and its override.

## Main definitions

* `Engine.SlaveOnly`: the engine of a slave-only clock
* `Engine.MasterOnly`: the engine of a clock of a class below 128

## Main results

* `Engine.SlaveOnly.move`, `Engine.MasterOnly.move`: no move leaves the role
* `role_restrictions`: the restrictions along runs
-/

namespace Ptpd

namespace Engine

variable {e e' : Engine}

theorem toState_isSlaveOnly (state : PtpState) (e : Engine) :
    (e.toState state).isSlaveOnly = e.isSlaveOnly := by
  obtain ⟨_, _, _, _, _, h⟩ := toState_eq state e
  rw [h]
  rfl

/-! ### Slave-only clocks -/

/-- The engine of a slave-only clock: it listens or follows, and has sent nothing as a master. -/
structure SlaveOnly (e : Engine) : Prop where
  slaveOnly : e.isSlaveOnly = true
  recommended : e.recommendedState = .listening ∨ e.recommendedState = .slave
  role : e.portState ∈ [.listening, .uncalibrated, .slave, .faulty]
  silent : e.masterMessages = []

theorem SlaveOnly.not_master (h : e.SlaveOnly) : e.portState ≠ .master := by
  intro heq
  have hrole := h.role
  rw [heq] at hrole
  exact absurd hrole (by decide)

theorem SlaveOnly.not_passive (h : e.SlaveOnly) : e.portState ≠ .passive := by
  intro heq
  have hrole := h.role
  rw [heq] at hrole
  exact absurd hrole (by decide)

theorem SlaveOnly.toState (h : e.SlaveOnly) {state : PtpState}
    (hs : state ∈ [.listening, .uncalibrated, .slave, .faulty]) : (e.toState state).SlaveOnly := by
  obtain ⟨_, _, _, _, _, heq⟩ := toState_eq state e
  constructor
  · rw [toState_isSlaveOnly, h.slaveOnly]
  · rw [toState_recommendedState]
    unfold recommendedOn
    simp only [List.mem_cons, List.not_mem_nil, or_false] at hs
    rcases hs with rfl | rfl | rfl | rfl
    · exact .inl rfl
    · exact h.recommended
    · exact h.recommended
    · exact h.recommended
  · rw [toState_portState]
    simp only [List.mem_cons, List.not_mem_nil, or_false] at hs
    rcases hs with rfl | rfl | rfl | rfl <;> decide
  · rw [heq]
    exact h.silent

/-- The override of the state decision. -/
theorem SlaveOnly.recommend (h : e.SlaveOnly) {state : PtpState}
    (hs : state ∈ [.listening, .master, .passive, .slave]) : (e.recommend state).SlaveOnly := by
  refine ⟨h.slaveOnly, ?_, h.role, h.silent⟩
  unfold Engine.recommend
  dsimp only
  rw [h.slaveOnly]
  simp only [List.mem_cons, List.not_mem_nil, or_false] at hs
  rcases hs with rfl | rfl | rfl | rfl <;> decide

theorem SlaveOnly.move : Transition.Preserves Move SlaveOnly := by
  intro e e' hm h
  have hkeep : ∀ {e₁ : Engine}, e₁.isSlaveOnly = e.isSlaveOnly →
      e₁.recommendedState = e.recommendedState → e₁.portState = e.portState →
      e₁.masterMessages = e.masterMessages → e₁.SlaveOnly := by
    intro e₁ h₁ h₂ h₃ h₄
    exact ⟨h₁.trans h.slaveOnly, h₂ ▸ h.recommended, h₃ ▸ h.role, h₄.trans h.silent⟩
  cases hm with
  | decides _ hd =>
    cases hd with
    | idle hidle => exact h
    | listening best he hb hl =>
      exact SlaveOnly.recommend (e := e.evaluated best) (hkeep rfl rfl rfl rfl) (by decide)
    | master best he hb =>
      exact SlaveOnly.recommend (e := (e.evaluated best).m1) (hkeep rfl rfl rfl rfl) (by decide)
    | passive best he hb hclass =>
      exact SlaveOnly.recommend (e := e.evaluated best) (hkeep rfl rfl rfl rfl) (by decide)
    | slave best he hb hclass =>
      exact SlaveOnly.recommend (e := (e.evaluated best).s1 _ _) (hkeep rfl rfl rfl rfl)
        (by decide)
  | events events => exact hkeep rfl rfl rfl rfl
  | enter state hw hen =>
    -- only a recommendation to master or passive would lead there
    cases hen with
    | listening hr => exact h.toState (by decide)
    | master hr =>
      rcases h.recommended with h' | h'
      · rw [hr] at h'
        cases h'
      · rw [hr] at h'
        cases h'
    | passive hr =>
      rcases h.recommended with h' | h'
      · rw [hr] at h'
        cases h'
      · rw [hr] at h'
        cases h'
    | uncalibrated hr => exact h.toState (by decide)
    | slave hr hu => exact h.toState (by decide)
  | timeout hs =>
    have hclear : e.clearForeign.SlaveOnly := hkeep rfl rfl rfl rfl
    unfold announceTimeout
    rw [h.slaveOnly, if_neg (by decide)]
    split
    · exact hclear.toState (by decide)
    · exact hclear
  | sends _ ha hs =>
    cases hs with
    | sync packet hmaster => exact absurd hmaster h.not_master
    | followUp packet hmaster => exact absurd hmaster h.not_master
    | announce packet hmaster hp => exact absurd hmaster h.not_master
  | outcome _ ha ho =>
    cases ho with
    | ignored => exact h
    | short => exact h.toState (by decide)
    | store header announce hs => exact hkeep rfl rfl rfl rfl
    | storePassive header announce hs => exact absurd hs h.not_passive
    | followParent header announce hs hp => exact hkeep rfl rfl rfl rfl
    | storeSync hs => exact hkeep rfl rfl rfl rfl
    | measure header e₁ _ hs hp hm hr =>
      obtain ⟨_, _, _, _, _, _, rfl⟩ := hm.eq
      obtain ⟨_, rfl⟩ := hr.eq
      exact hkeep rfl rfl rfl rfl
    | requests _ hs hr => exact absurd hs h.not_passive
    | serve packet hs => exact absurd hs h.not_master
  | requests _ hr =>
    obtain ⟨_, rfl⟩ := hr.eq
    exact hkeep rfl rfl rfl rfl

/-! ### Clocks of a class below 128 -/

/-- The engine of a clock of a class below 128: it has never measured an offset. -/
structure MasterOnly (e : Engine) : Prop where
  slaveOnly : e.isSlaveOnly = false
  clockClass : e.defaultDS.clockQuality.clockClass < 128
  recommended : e.recommendedState ≠ .slave
  role : ¬e.portState.Following
  offsets : e.offsets = []

theorem MasterOnly.toState (h : e.MasterOnly) {state : PtpState} (hs : ¬state.Following) :
    (e.toState state).MasterOnly := by
  obtain ⟨_, _, _, _, _, heq⟩ := toState_eq state e
  constructor
  · rw [toState_isSlaveOnly, h.slaveOnly]
  · rw [heq]
    exact h.clockClass
  · rw [toState_recommendedState]
    unfold recommendedOn
    split
    · rintro rfl
      exact hs (.inr rfl)
    · exact h.recommended
  · rw [toState_portState]
    cases state <;> first | exact hs | decide
  · rw [heq]
    exact h.offsets

theorem MasterOnly.move : Transition.Preserves Move MasterOnly := by
  intro e e' hm h
  have hkeep : ∀ {e₁ : Engine}, e₁.defaultDS = e.defaultDS →
      e₁.recommendedState ≠ .slave → e₁.portState = e.portState →
      e₁.offsets = e.offsets → e₁.MasterOnly := by
    intro e₁ h₁ h₂ h₃ h₄
    refine ⟨?_, h₁ ▸ h.clockClass, h₂, h₃ ▸ h.role, h₄.trans h.offsets⟩
    have hso := h.slaveOnly
    unfold isSlaveOnly at hso ⊢
    rw [h₁, hso]
  have hrecommend : ∀ {e₁ : Engine} {state : PtpState}, state ≠ .slave →
      (e₁.recommend state).recommendedState ≠ .slave := by
    intro e₁ state hne
    unfold recommend
    dsimp only
    split
    · decide
    · exact hne
  cases hm with
  | decides _ hd =>
    cases hd with
    | idle hidle => exact h
    | listening best he hb hl => exact hkeep rfl (hrecommend (by decide)) rfl rfl
    | master best he hb => exact hkeep rfl (hrecommend (by decide)) rfl rfl
    | passive best he hb hclass => exact hkeep rfl (hrecommend (by decide)) rfl rfl
    | slave best he hb hclass => exact absurd h.clockClass hclass
  | events events => exact hkeep rfl h.recommended rfl rfl
  | enter state hw hen =>
    cases hen with
    | listening hr => exact h.toState (by decide)
    | master hr => exact h.toState (by decide)
    | passive hr => exact h.toState (by decide)
    | uncalibrated hr => exact absurd hr h.recommended
    | slave hr hu => exact absurd hr h.recommended
  | timeout hs =>
    unfold announceTimeout
    rw [h.slaveOnly, if_pos (by decide)]
    have hm1 : ({ e.clearForeign.m1 with recommendedState := .master } : Engine).MasterOnly :=
      hkeep rfl (by rintro ⟨⟩) rfl rfl
    exact hm1.toState (by decide)
  | sends _ ha hs => cases hs <;> exact hkeep rfl h.recommended rfl rfl
  | outcome _ ha ho =>
    cases ho with
    | ignored => exact h
    | short => exact h.toState (by decide)
    | store header announce hs => exact hkeep rfl h.recommended rfl rfl
    | storePassive header announce hs => exact hkeep rfl h.recommended rfl rfl
    | followParent header announce hs hp => exact absurd hs h.role
    | storeSync hs => exact absurd hs h.role
    | measure header e₁ _ hs hp hm hr => exact absurd hs h.role
    | requests _ hs hr =>
      obtain ⟨_, rfl⟩ := hr.eq
      exact hkeep rfl h.recommended rfl rfl
    | serve packet hs => exact hkeep rfl h.recommended rfl rfl
  | requests _ hr =>
    obtain ⟨_, rfl⟩ := hr.eq
    exact hkeep rfl h.recommended rfl rfl

end Engine

/-! ## Roles along runs -/

section Runs

variable {rtOpts : RunTimeOpts} {s : System}

/-- The port is neither `PTP_MASTER` nor `PTP_PASSIVE` nor `PTP_PRE_MASTER`, and no Announce, Sync,
Follow_Up or DelayResp has been sent. -/
def NeverMaster (s : System) : Prop :=
  s.portState ≠ .master ∧ s.portState ≠ .passive ∧ s.portState ≠ .preMaster ∧
    masterMessages s.history = []

/-- The port is neither `PTP_UNCALIBRATED` nor `PTP_SLAVE`, and `updateOffset`, which `updateClock`
follows, has never been called. -/
def NeverSlave (s : System) : Prop :=
  s.portState ≠ .uncalibrated ∧ s.portState ≠ .slave ∧ offsets s.history = []

/-- A port before its initialisation has done neither. -/
theorem Dormant.idle (h : Dormant rtOpts s) : NeverMaster s ∧ NeverSlave s := by
  obtain ⟨state, hstate, heq⟩ := h.engine
  obtain ⟨opts, hboot, -⟩ := boot_eq rtOpts
  rw [hboot] at heq
  have hs : s.portState = state := congrArg Engine.portState heq
  have hm := h.masterMessages
  have ho : offsets s.history = [] := congrArg Engine.offsets heq
  unfold NeverMaster NeverSlave
  rw [hs, hm, ho]
  rcases hstate with rfl | rfl <;> simp

/-- **Slave-only clocks.** -/
theorem neverMaster (hs : Reachable rtOpts s)
    (hopts : rtOpts.slaveOnly = true ∨ rtOpts.clockQuality.clockClass = 255) : NeverMaster s := by
  have hclass : (startupOpts rtOpts).slaveOnly = true ∨
      (startupOpts rtOpts).clockQuality.clockClass = 255 := by
    rw [startupOpts_slaveOnly, startupOpts_clockClass]
    rcases hopts with h | h
    · exact .inl h
    · right
      split
      · rfl
      · exact h
  have hfresh (e : Engine) (he : e.Fresh (startupOpts rtOpts)) : e.SlaveOnly := by
    refine ⟨?_, .inl he.recommendedState, ?_, he.masterMessages⟩
    · unfold Engine.isSlaveOnly
      rw [he.slaveOnly, he.clockQuality]
      rcases hclass with h | h <;> simp [h]
    · rw [he.portState]
      decide
  rcases hs.dormant_or hfresh (Engine.Settled.call_of_move Engine.SlaveOnly.move) with h | h
  · exact h.idle.1
  · refine ⟨h.not_master, h.not_passive, ?_, h.silent⟩
    intro heq
    have hrole := h.role
    change s.portState ∈ _ at hrole
    rw [heq] at hrole
    exact absurd hrole (by decide)

/-- **Clocks of a class below 128** that are not slave-only. -/
theorem neverSlave (hs : Reachable rtOpts s) (hclass : rtOpts.clockQuality.clockClass < 128)
    (hslave : rtOpts.slaveOnly = false) : NeverSlave s := by
  have hopts : (startupOpts rtOpts).clockQuality.clockClass < 128 := by
    rw [startupOpts_clockClass, hslave]
    exact hclass
  have hfresh (e : Engine) (he : e.Fresh (startupOpts rtOpts)) : e.MasterOnly := by
    refine ⟨?_, ?_, ?_, ?_, he.offsets⟩
    · unfold Engine.isSlaveOnly
      have hne : (startupOpts rtOpts).clockQuality.clockClass ≠ 255 := by
        intro heq
        rw [heq] at hopts
        exact absurd hopts (by decide)
      rw [he.slaveOnly, he.clockQuality, startupOpts_slaveOnly, hslave]
      simpa using hne
    · rw [he.clockQuality]
      exact hopts
    · rw [he.recommendedState]
      decide
    · rw [he.portState]
      decide
  rcases hs.dormant_or hfresh (Engine.Settled.call_of_move Engine.MasterOnly.move) with h | h
  · exact h.idle.2
  · exact ⟨fun heq => h.role (.inl heq), fun heq => h.role (.inr heq), h.offsets⟩

/-- **Role restrictions** hold in every reachable state. -/
theorem role_restrictions (hs : Reachable rtOpts s) :
    (rtOpts.slaveOnly = true ∨ rtOpts.clockQuality.clockClass = 255 → NeverMaster s) ∧
      (rtOpts.clockQuality.clockClass < 128 → rtOpts.slaveOnly = false → NeverSlave s) :=
  ⟨neverMaster hs, neverSlave hs⟩

end Runs

/-! ## A slave-only clock of a low class -/

/-- Options that ask for a slave-only clock of class 6: `ptpdStartup` sets the class to 255. -/
def lowClassOpts : RunTimeOpts :=
  { ptpdOpts with
    slaveOnly := true, clockQuality := { ptpdOpts.clockQuality with clockClass := 6 } }

/-- The clock hears the Announce of a master and follows it. -/
def lowClassFollower : System :=
  (boot lowClassOpts).after
    ([.doState plainEnv] ++ generalArrival (announceOf (station 1 ptpdOpts)) (atSecond 1) ++
      [.doState plainEnv, .doState plainEnv])

theorem lowClassFollower_reachable : Reachable lowClassOpts lowClassFollower :=
  (boot_reachable lowClassOpts).after _

theorem role_restrictions_lowClassFollower :
    (lowClassOpts.slaveOnly = true ∨ lowClassOpts.clockQuality.clockClass = 255 →
        NeverMaster lowClassFollower) ∧
      (lowClassOpts.clockQuality.clockClass < 128 → lowClassOpts.slaveOnly = false →
        NeverSlave lowClassFollower) :=
  role_restrictions lowClassFollower_reachable

/-- Options with a class below 128 alone do not keep a clock from following a master. -/
theorem not_all_restricted :
    ¬ ∀ (rtOpts : RunTimeOpts) (s : System), Reachable rtOpts s →
      rtOpts.clockQuality.clockClass < 128 → NeverSlave s := by
  intro h
  have hfollows : lowClassFollower.portState = .uncalibrated := by decide +kernel
  exact (h lowClassOpts lowClassFollower lowClassFollower_reachable (by decide)).1 hfollows

end Ptpd

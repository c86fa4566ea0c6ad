import DiscoPtp.Properties.Arrivals
import DiscoPtp.Properties.Roles

/-!
# The state diagram

How a call of `doState` can move the port state. The options decide between three diagrams: a
slave-only clock listens and follows, a clock of a class below 128 listens, leads and stays passive,
and any other clock listens, leads and follows.

## Main definitions

* `Role`, `RunTimeOpts.role`: the roles
* `Role.switched`, `Role.successors`: the port states at the third switch and after a call
* `Engine.Plays`: the engine of a clock with a role

## Main results

* `Engine.Plays.move`: no move leaves the role
* `state_diagram`: the diagram
-/

namespace Ptpd

/-! ## Roles -/

/-- What the options let a clock be. -/
inductive Role
  | slaveOnly | masterOnly | ordinary
  deriving DecidableEq

/-- The role by the options: `ptpdStartup` makes a slave-only clock one of class 255. -/
def RunTimeOpts.role (rtOpts : RunTimeOpts) : Role :=
  if rtOpts.slaveOnly ∨ rtOpts.clockQuality.clockClass = 255 then .slaveOnly
  else if rtOpts.clockQuality.clockClass < 128 then .masterOnly
  else .ordinary

namespace Role

/-- The states that are recommended. -/
def recommends : Role → List PtpState
  | .slaveOnly => [.listening, .slave]
  | .masterOnly => [.listening, .master, .passive]
  | .ordinary => [.listening, .master, .slave]

/-- The state that the announce receipt timeout leads to. -/
def timeout : Role → PtpState
  | .slaveOnly => .listening
  | _ => .master

/-- The port states at the third switch of a call. -/
def switched : Role → PtpState → List PtpState
  | .slaveOnly, .uncalibrated | .slaveOnly, .slave => [.listening, .uncalibrated, .slave]
  | .slaveOnly, _ => [.listening, .uncalibrated]
  | .masterOnly, .listening | .masterOnly, .faulty => [.listening, .master, .passive]
  | .masterOnly, _ => [.master, .passive]
  | .ordinary, .listening | .ordinary, .faulty => [.listening, .master, .uncalibrated]
  | .ordinary, .master => [.master, .uncalibrated]
  | .ordinary, _ => [.master, .uncalibrated, .slave]

/-- **The diagram**: the port states after a call. A fault may end without an initialisation. -/
def successors (role : Role) : PtpState → List PtpState
  | .initializing => [.listening, .faulty]
  | .faulty => .initializing :: .faulty :: role.timeout :: role.switched .faulty
  | state => .faulty :: role.timeout :: role.switched state

end Role

namespace Engine

variable {e e' : Engine} {role : Role}

/-- The engine of a clock with the role. -/
structure Plays (role : Role) (e : Engine) : Prop where
  slaveOnly : e.isSlaveOnly = true ↔ role = .slaveOnly
  clockClass : role ≠ .slaveOnly →
    (e.defaultDS.clockQuality.clockClass < 128 ↔ role = .masterOnly)
  recommended : e.recommendedState ∈ role.recommends

/-- The role is in the default data set. -/
theorem Plays.congr (h : e.Plays role) (hds : e'.defaultDS = e.defaultDS)
    (hr : e'.recommendedState ∈ role.recommends) : e'.Plays role := by
  refine ⟨?_, fun hrole => ?_, hr⟩
  · rw [← h.slaveOnly]
    unfold isSlaveOnly
    rw [hds]
  · rw [hds]
    exact h.clockClass hrole

/-- A handled message changes no recommendation. -/
theorem Outcome.recommendedState (h : Outcome e e') :
    e'.recommendedState = e.recommendedState := by
  cases h with
  | short => exact toState_recommendedState .faulty e
  | measure header e₁ _ hs hp hm hr =>
    obtain ⟨_, rfl⟩ := hr.eq
    obtain ⟨_, _, _, _, _, _, rfl⟩ := hm.eq
    rfl
  | requests _ hs hr =>
    obtain ⟨_, rfl⟩ := hr.eq
    rfl
  | _ => rfl

theorem listening_recommends (role : Role) : .listening ∈ role.recommends := by
  cases role <;> decide

/-- The state decision recommends what the role allows. -/
theorem Plays.decides (h : e.Plays role) (hd : Decides e e') : e'.Plays role := by
  have hrecommend {d : Engine} {state : PtpState} (hds : d.defaultDS = e.defaultDS)
      (hs : role ≠ .slaveOnly → state ∈ role.recommends)
      (hs' : role = .slaveOnly → state ∈ [.listening, .master, .passive, .slave]) :
      (d.recommend state).Plays role := by
    refine h.congr hds ?_
    have hsame : d.isSlaveOnly = e.isSlaveOnly := by
      unfold isSlaveOnly
      rw [hds]
    unfold recommend
    dsimp only
    rw [hsame]
    split
    · exact listening_recommends role
    -- a slave-only clock gets here only with a recommendation that the override lets through
    next hnot =>
      by_cases hrole : role = .slaveOnly
      · have hstate := hs' hrole
        rw [h.slaveOnly.mpr hrole] at hnot
        rw [hrole]
        simp only [List.mem_cons, List.not_mem_nil, or_false] at hstate
        rcases hstate with rfl | rfl | rfl | rfl
        · decide
        · exact absurd ⟨.inl rfl, rfl⟩ hnot
        · exact absurd ⟨.inr rfl, rfl⟩ hnot
        · decide
      · exact hs hrole
  -- the results of `bmc`, each with the clock class that it is for
  cases hd with
  | idle hidle => exact h
  | listening best he hb hl =>
    exact hrecommend (d := e.evaluated best) rfl (fun _ => listening_recommends role)
      fun _ => by decide
  | master best he hb =>
    refine hrecommend (d := (e.evaluated best).m1) rfl (fun hrole => ?_) fun _ => by decide
    cases role with
    | slaveOnly => exact absurd rfl hrole
    | masterOnly => decide
    | ordinary => decide
  | passive best he hb hclass =>
    refine hrecommend (d := e.evaluated best) rfl (fun hrole => ?_) fun _ => by decide
    rw [(h.clockClass hrole).mp hclass]
    decide
  | slave best he hb hclass =>
    refine hrecommend (d := (e.evaluated best).s1 _ _) rfl (fun hrole => ?_) fun _ => by decide
    cases role with
    | slaveOnly => exact absurd rfl hrole
    | masterOnly => exact absurd ((h.clockClass hrole).mpr rfl) hclass
    | ordinary => decide

theorem Plays.toState (h : e.Plays role) (state : PtpState)
    (hs : state ∉ [PtpState.initializing, .preMaster]) : (e.toState state).Plays role := by
  obtain ⟨_, _, _, _, _, heq⟩ := toState_eq state e
  refine h.congr (by rw [heq]) ?_
  rw [toState_recommendedState]
  unfold recommendedOn
  split
  next hstate =>
    rcases hstate with rfl | rfl
    · exact absurd List.mem_cons_self hs
    · exact listening_recommends role
  · exact h.recommended

/-- **Every move** stays in the role. -/
theorem Plays.move : Transition.Preserves Move (Plays role) := by
  intro e e' hm h
  cases hm with
  | decides _ hd => exact h.decides hd
  | events events => exact h.congr rfl h.recommended
  | enter state hw hen =>
    cases hen with
    | master hr =>
      obtain ⟨_, _, _, _, _, heq⟩ := toState_eq .preMaster e
      refine h.congr (by rw [heq]) ?_
      rw [toState_recommendedState]
      exact h.recommended
    | _ => exact h.toState _ (by decide)
  | timeout hs =>
    unfold announceTimeout
    split
    next hnot =>
      have hrole : role ≠ .slaveOnly := fun hrole => by
        rw [h.slaveOnly.mpr hrole] at hnot
        exact absurd hnot (by decide)
      -- `m1` leaves the default data set alone
      have hm1 : ({ e.clearForeign.m1 with recommendedState := .master } : Engine).Plays role := by
        refine h.congr rfl ?_
        show .master ∈ role.recommends
        cases role with
        | slaveOnly => exact absurd rfl hrole
        | masterOnly => decide
        | ordinary => decide
      exact hm1.toState .master (by decide)
    split
    · have hclear : e.clearForeign.Plays role := h.congr rfl h.recommended
      exact hclear.toState .listening (by decide)
    · exact h.congr rfl h.recommended
  | sends _ ha hs => cases hs <;> exact h.congr rfl h.recommended
  | outcome _ ha ho =>
    refine h.congr ?_ (ho.recommendedState ▸ h.recommended)
    exact congrArg Prod.fst (Move.outcome _ ha ho).identity
  | requests _ hr =>
    obtain ⟨_, rfl⟩ := hr.eq
    exact h.congr rfl h.recommended

/-! ### One call -/

/-- A port is in a state that its role allows. -/
theorem Plays.portState (h : e.Plays role) (hs : e.Agrees) :
    e.portState = .uncalibrated ∨ e.portState ∈ role.recommends := by
  have hr := h.recommended
  -- the recommendation decides the state, up to the calibration of a slave
  unfold Agrees at hs
  split at hs
  next hl =>
    rw [hl] at hr
    exact .inr (hs ▸ hr)
  next hm =>
    rw [hm] at hr
    exact .inr (hs ▸ hr)
  next hp =>
    rw [hp] at hr
    exact .inr (hs ▸ hr)
  next hsl =>
    rw [hsl] at hr
    rcases hs with hs | hs
    · exact .inl hs
    · exact .inr (hs ▸ hr)
  · exact hs.elim

/-- Listening is recommended to a port that listens, and to a slave-only clock. -/
theorem Decides.listening_cases (hs : e.Settled) (h : e.Plays role) (hd : Decides e e')
    (hr : e'.recommendedState = .listening) :
    e.portState = .listening ∨ e.portState = .faulty ∨ role = .slaveOnly := by
  have hrecommend {d : Engine} {state : PtpState} (hds : d.isSlaveOnly = e.isSlaveOnly)
      (hne : state ≠ .listening) (hr : (d.recommend state).recommendedState = .listening) :
      role = .slaveOnly := by
    unfold recommend at hr
    dsimp only at hr
    split at hr
    next hoverride => exact h.slaveOnly.mp (hds ▸ hoverride.2)
    · exact absurd hr hne
  cases hd with
  | idle hidle =>
    rcases hs.agrees with ha | hf
    · unfold Agrees at ha
      rw [hr] at ha
      exact .inl ha
    · exact .inr (.inl hf.1)
  | listening best he hb hl => exact .inl hl
  | master best he hb =>
    exact .inr (.inr (hrecommend (d := (e.evaluated best).m1) rfl (by decide) hr))
  | passive best he hb hclass =>
    exact .inr (.inr (hrecommend (d := e.evaluated best) rfl (by decide) hr))
  | slave best he hb hclass =>
    exact .inr (.inr (hrecommend (d := (e.evaluated best).s1 _ _) rfl (by decide) hr))

/-- A port becomes a slave only from `PTP_UNCALIBRATED`. -/
theorem follow_slave (h : e.Decided) (hs : e.follow.portState = .slave) :
    e.portState = .uncalibrated ∨ e.portState = .slave := by
  have hready := h.follow.agrees
  have hslave : e.follow.recommendedState = .slave := hready.recommends_slave (.inr hs)
  obtain ⟨_, _, _, _, _, _, _, heq⟩ := follow_followed e
  rw [heq] at hslave
  unfold follow at hs
  rw [show e.recommendedState = .slave from hslave] at hs
  dsimp only at hs
  split at hs
  next hu => exact .inl hu
  next hu => exact .inr hu
  · rw [toState_portState] at hs
    cases hs

/-- The third switch: the port stays, has a fault or is timed out. -/
theorem Acts.portState_cases (h : e.Plays role) (ha : Acts e e') :
    e'.portState = e.portState ∨ e'.portState = .faulty ∨ e'.portState = role.timeout := by
  have houtcome {e₁ e₂ : Engine} (ho : Outcome e₁ e₂) :
      e₂.portState = e₁.portState ∨ e₂.portState = .faulty := by
    cases ho with
    | short => exact .inr (toState_portState .faulty e₁)
    | measure header e₁ _ hs hp hm hr =>
      rw [hr.portState]
      obtain ⟨_, _, _, _, _, _, rfl⟩ := hm.eq
      exact .inl rfl
    | requests _ hs hr => exact .inl hr.portState
    | _ => exact .inl rfl
  cases ha with
  | timeout hs =>
    unfold announceTimeout
    split
    next hnot =>
      have hrole : role ≠ .slaveOnly := fun hrole => by
        rw [h.slaveOnly.mpr hrole] at hnot
        exact absurd hnot (by decide)
      refine .inr (.inr ((toState_portState _ _).trans ?_))
      cases role with
      | slaveOnly => exact absurd rfl hrole
      | masterOnly => rfl
      | ordinary => rfl
    next hso =>
      have hrole : role = .slaveOnly := h.slaveOnly.mp (by simpa using hso)
      split
      · refine .inr (.inr ((toState_portState _ _).trans ?_))
        rw [hrole]
        rfl
      · exact .inl rfl
  | await _ hs ho => exact (houtcome ho).imp_right .inl
  | master e₁ e₂ _ hs hsends ho hr =>
    rw [hr.portState]
    rcases houtcome ho with hsame | hfault
    · exact .inl (hsame.trans (portState_of_sends hsends))
    · exact .inr (.inl hfault)

/-- The port state at the third switch. -/
theorem Plays.switched (hs : e.Settled) (h : e.Plays role) (hd : Decides e e') :
    e'.follow.portState ∈ role.switched e.portState := by
  have hdecided := hs.decides hd
  have hready := hdecided.follow
  have hplays : e'.follow.Plays role :=
    Plays.move.run hdecided.follow_moves (h.decides hd)
  have hrec : e'.follow.recommendedState = e'.recommendedState := by
    obtain ⟨_, _, _, _, _, _, _, heq⟩ := follow_followed e'
    rw [heq]
  have hsame : e'.portState = e.portState := by cases hd <;> rfl
  -- where the port has been, by its last recommendation
  have hbefore : e.portState = .faulty ∨ e.portState = .uncalibrated ∧ .slave ∈ role.recommends ∨
      e.portState ∈ role.recommends := by
    rcases hs.agrees with ha | hf
    · rcases h.portState ha with hu | hr
      · have hslave := ha.recommends_slave (.inl hu)
        exact .inr (.inl ⟨hu, hslave ▸ h.recommended⟩)
      · exact .inr (.inr hr)
    · exact .inl hf.1
  have hlistening : e'.follow.portState = .listening →
      e.portState = .listening ∨ e.portState = .faulty ∨ role = .slaveOnly := by
    intro hl
    have hagrees := hready.agrees
    refine Decides.listening_cases hs h hd ?_
    rw [← hrec]
    unfold Agrees at hagrees
    rw [hl] at hagrees
    split at hagrees
    next hr => exact hr
    · cases hagrees
    · cases hagrees
    · exact absurd hagrees (by decide)
    · exact hagrees.elim
  have hslave : e'.follow.portState = .slave →
      e.portState = .uncalibrated ∨ e.portState = .slave := by
    intro hl
    rw [← hsame]
    exact follow_slave hdecided hl
  -- where it is now, by the new one
  have hafter : e'.follow.portState = .uncalibrated ∧ .slave ∈ role.recommends ∨
      e'.follow.portState ∈ role.recommends := by
    rcases hplays.portState hready.agrees with hu | hr
    · have hsl := hready.agrees.recommends_slave (.inl hu)
      exact .inl ⟨hu, hsl ▸ hplays.recommended⟩
    · exact .inr hr
  -- the rest is a look at the diagram
  generalize e'.follow.portState = state' at hlistening hslave hafter ⊢
  generalize e.portState = state at hbefore hlistening hslave ⊢
  clear hrec hsame hplays hready hdecided hd h hs
  revert hbefore hlistening hslave hafter
  cases role <;> cases state <;> cases state' <;> decide

/-- **One call** follows the diagram. -/
theorem Plays.call (hs : e.Settled) (h : e.Plays role) (hc : Call e e') :
    e'.portState ∈ role.successors e.portState := by
  obtain ⟨e₁, hd, ha⟩ := hc
  have hswitched := h.switched hs hd
  have hplays : e₁.follow.Plays role :=
    Plays.move.run (hs.decides hd).follow_moves (h.decides hd)
  have hacts := ha.portState_cases hplays
  have hstate : e.portState ≠ .initializing := by
    rcases hs.agrees with hagrees | hf
    · intro heq
      have hop := hagrees.operating
      rw [heq] at hop
      exact absurd hop (by decide)
    · rw [hf.1]
      decide
  generalize e₁.follow.portState = state₁ at hswitched hacts
  generalize e'.portState = state' at hacts ⊢
  generalize e.portState = state at hswitched hstate ⊢
  rcases hacts with rfl | rfl | rfl
  · cases state <;> first | exact absurd rfl hstate | simp_all [Role.successors]
  · cases state <;> first | exact absurd rfl hstate | simp [Role.successors]
  · cases state <;> first | exact absurd rfl hstate | simp [Role.successors]

end Engine

/-! ## Runs -/

section Runs

variable {rtOpts : RunTimeOpts} {env : Env} {s : System}

/-- The initialisation gives the role of the options. -/
theorem Engine.Fresh.plays {e : Engine} (h : e.Fresh (startupOpts rtOpts)) :
    e.Plays rtOpts.role := by
  have hslave : e.isSlaveOnly = true ↔
      rtOpts.slaveOnly = true ∨ rtOpts.clockQuality.clockClass = 255 := by
    unfold Engine.isSlaveOnly
    rw [h.slaveOnly, h.clockQuality, startupOpts_slaveOnly, startupOpts_clockClass]
    cases hso : rtOpts.slaveOnly <;> simp
  refine ⟨hslave.trans ?_, fun hrole => ?_, ?_⟩
  · unfold RunTimeOpts.role
    split
    next hso => exact ⟨fun _ => rfl, fun _ => hso⟩
    next hso =>
      refine ⟨fun h => absurd h hso, fun h => ?_⟩
      split at h <;> cases h
  · unfold RunTimeOpts.role at hrole ⊢
    split at hrole
    · exact absurd rfl hrole
    next hso =>
      rw [if_neg hso, h.clockQuality, startupOpts_clockClass,
        if_neg fun h => hso (.inl h)]
      split
      next hclass => exact ⟨fun _ => rfl, fun _ => hclass⟩
      next hclass => exact ⟨fun h => absurd h hclass, fun h => by cases h⟩
  · rw [h.recommendedState]
    exact Engine.listening_recommends _

/-- A call before the initialisation. -/
theorem Dormant.portState_call (h : Dormant rtOpts s) (env : Env) :
    s.portState = .initializing ∧
        ((doState env s).portState = .listening ∨ (doState env s).portState = .faulty) ∨
      s.portState = .faulty ∧ (doState env s).portState = .initializing := by
  have hu := (h.switchCall env).unready.1
  have hsame : (Ptpd.switchCall env s).portState = s.portState := by
    rw [h.switchCall_eq env]
    exact congrArg Engine.portState (interrupts_engine (env.interrupts .actions) _)
  rw [hsame] at hu
  rcases hu with hstate | hstate
  · refine .inl ⟨hstate, ?_⟩
    by_cases hnet : env.netInit = true
    · obtain ⟨u, hu, heq⟩ := h.call_initialises (hsame.trans hstate) hnet
      have hlistening := (hu.initialises hnet).portState
      rw [← setMessageActivity_engine true, ← enterState_engine env .listening, ← heq]
        at hlistening
      exact .inl hlistening
    · rw [Bool.not_eq_true] at hnet
      rw [doState_eq, portActions_initializing env (hsame.trans hstate), hnet,
        doInit_fails env _ hnet]
      exact .inr rfl
  · refine .inr ⟨hstate, ?_⟩
    rw [doState_eq, portActions_faulty env (hsame.trans hstate)]
    rfl

/-- **The state diagram**: in every run, a call of `doState` moves the port along the diagram of the
role that the options give the clock. -/
theorem state_diagram (hs : Reachable rtOpts s) (env : Env) :
    (doState env s).portState ∈ rtOpts.role.successors s.portState := by
  have hworks := hs.dormant_or (I := fun e => e.Settled ∧ e.Plays rtOpts.role)
    (fun _ h => ⟨h.settled, h.plays⟩)
    fun e e' _ h hc => ⟨h.1.call hc, h.1.call_of_move Engine.Plays.move e e' h.2 hc⟩
  rcases hworks with hdormant | ⟨hsettled, hplays⟩
  · rcases hdormant.portState_call env with ⟨hstate, hafter⟩ | ⟨hstate, hafter⟩
    · rw [hstate]
      rcases hafter with h | h <;> rw [h] <;> simp [Role.successors]
    · rw [hstate, hafter]
      exact List.mem_cons_self
  · exact hplays.call hsettled (doState_call env hsettled)

/-- A clock that the announce receipt timeout has made a master. -/
theorem state_diagram_timedOut :
    (doState plainEnv timedOut).portState ∈ [PtpState.faulty, .master, .master, .uncalibrated] :=
  state_diagram timedOut_reachable plainEnv

end Runs

end Ptpd

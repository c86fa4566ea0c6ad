import DiscoPtp.Properties.ForeignMasters

/-!
# Restarting the daemon

The `PtpClock` is static: a daemon that is started again after its task has been terminated finds
what the run before has left. The start-up resets most of it, in five functions, but neither the
pending events nor the indices `i` and `best` of the foreign master store.

## Main definitions

* `Boots`: the start-up from a left-over state until the port listens
* `StartData`: the data a start-up is to reset
* `StoredSince`: a record of the store was stored during a run
* `RestartsFresh`: a start-up is like the first one

## Main results

* `boots_startData`: what the start-up resets and what it leaves
* `restartsFresh_iff`: when the start-up is like the first one
-/

namespace Ptpd

open Relation (ReflTransGen)

/-! ## The start-up -/

/-- The state at power-up. -/
def powerUp : System := { (default : System) with addend := adjFreqBaseAddend }

/-- One step of the daemon on a board with the MAC address `hwaddr`. -/
inductive StepOn (hwaddr : Vector UInt8 6) : System → System → Prop
  | doState (env : Env) (h : env.hwaddr = hwaddr) (s : System) : StepOn hwaddr s (doState env s)
  | interrupt (i : Interrupt) (s : System) : StepOn hwaddr s (interrupt s i)

/-- **The start-up** from the left-over state `s`: `ptpdStartup`, then `doState` until `doInit` has
succeeded and the port listens, in the state `t`. -/
def Boots (hwaddr : Vector UInt8 6) (rtOpts : RunTimeOpts) (s t : System) : Prop :=
  ∃ env, Transition.Until (StepOn hwaddr) (fun u => u.portState = .listening)
    (ptpdStartup env rtOpts s) t

/-- The data a start-up is to reset. -/
structure StartData where
  events : Events
  count : ℕ
  capacity : ℕ
  i : ℕ
  best : ℕ
  defaultDS : DefaultDS
  currentDS : CurrentDS
  parentDS : ParentDS
  timePropertiesDS : TimePropertiesDS
  portDS : PortDS
  recommendedState : PtpState
  waitingForFollowUp : Bool
  waitingForPDelayRespFollowUp : Bool
  owdSamples : Int32
  ofmSamples : Int32
  observedDrift : Int32
  Tms : TimeInternal
  pdelayT1 : TimeInternal
  pdelayT2 : TimeInternal
  pdelayT3 : TimeInternal
  pdelayT4 : TimeInternal

/-- The data of a `PtpClock`. -/
def PtpClock.startData (c : PtpClock) : StartData :=
  { events := c.events
    count := c.foreignMasterDS.count
    capacity := c.foreignMasterDS.capacity
    i := c.foreignMasterDS.i
    best := c.foreignMasterDS.best
    defaultDS := c.defaultDS
    currentDS := c.currentDS
    parentDS := c.parentDS
    timePropertiesDS := c.timePropertiesDS
    portDS := c.portDS
    recommendedState := c.recommendedState
    waitingForFollowUp := c.waitingForFollowUp
    waitingForPDelayRespFollowUp := c.waitingForPDelayRespFollowUp
    owdSamples := c.owdFilt.n
    ofmSamples := c.ofmFilt.n
    observedDrift := c.observedDrift
    Tms := c.Tms
    pdelayT1 := c.pdelayT1
    pdelayT2 := c.pdelayT2
    pdelayT3 := c.pdelayT3
    pdelayT4 := c.pdelayT4 }

/-- The data after the start-up with the options `opts`, given what the start-up leaves. -/
def startedData (hwaddr : Vector UInt8 6) (opts : RunTimeOpts) (events : Events) (i best : ℕ) :
    StartData :=
  let c := m1 (clearServo (initData
    { (default : PtpClock) with rtOpts := opts, portUuidField := hwaddr }))
  { c.startData with
    events, i, best
    portDS := { c.portDS with portState := .listening }
    recommendedState := .listening }

/-- The port on the way to its initialisation: nothing has been reset yet. -/
structure Starting (opts : RunTimeOpts) (events : Events) (i best : ℕ) (s : System) : Prop where
  unready : Unready s
  rtOpts : s.ptpClock.rtOpts = opts
  events_eq : s.ptpClock.events = events
  i_eq : s.ptpClock.foreignMasterDS.i = i
  best_eq : s.ptpClock.foreignMasterDS.best = best

section StartUp

variable {hwaddr : Vector UInt8 6} {rtOpts opts : RunTimeOpts} {events : Events} {i best : ℕ}
  {env : Env} {s t u : System}

theorem initClock_rtOpts (s : System) : (initClock s).ptpClock.rtOpts = s.ptpClock.rtOpts := by
  obtain ⟨_, _, heq, -⟩ := initClock_eq s
  rw [heq]
  rfl

theorem leaveState_rtOpts (state : PtpState) (s : System) :
    (leaveState state s).ptpClock.rtOpts = s.ptpClock.rtOpts := by
  have hfollower : (leaveFollower s).ptpClock.rtOpts = s.ptpClock.rtOpts := by
    unfold leaveFollower
    dsimp only
    rw [initClock_rtOpts]
    split <;> rfl
  have hstay : (if state = .uncalibrated ∨ state = .slave then s
      else leaveFollower s).ptpClock.rtOpts = s.ptpClock.rtOpts := by
    split
    · rfl
    · exact hfollower
  unfold leaveState
  split
  · exact initClock_rtOpts s
  · exact hstay
  · exact hstay
  · exact initClock_rtOpts s
  · exact initClock_rtOpts s
  · exact initClock_rtOpts s
  · rfl

/-- `ptpdStartup` leaves a port that is about to be initialised. -/
theorem ptpdStartup_starting (env : Env) (rtOpts : RunTimeOpts) (s : System) :
    Starting (startupOpts rtOpts) s.ptpClock.events s.ptpClock.foreignMasterDS.i
      s.ptpClock.foreignMasterDS.best (ptpdStartup env rtOpts s) := by
  let u := s.modify fun c => { c with rtOpts := startupOpts rtOpts }
  have hstart : ptpdStartup env rtOpts s = toState env .initializing u := rfl
  have hengine := toState_engine env .initializing u
  obtain ⟨_, _, _, _, _, heq⟩ := Engine.toState_eq .initializing u.engine
  have hall := hengine.trans heq
  rw [hstart]
  constructor
  case unready =>
    exact ⟨.inl (congrArg Engine.portState hall), congrArg Engine.recommendedState hall⟩
  case rtOpts => exact leaveState_rtOpts .initializing (u.setMessageActivity true)
  case events_eq => exact congrArg Engine.events hall
  case i_eq => exact congrArg (fun e : Engine => e.foreignMasterDS.i) hall
  case best_eq => exact congrArg (fun e : Engine => e.foreignMasterDS.best) hall

theorem Starting.interrupts (h : Starting opts events i best s) (is : List Interrupt) :
    Starting opts events i best (is.foldl interrupt s) := by
  obtain ⟨netPath, heq⟩ := interrupts_ptpClock is s
  obtain ⟨hunready, hopts, hevents, hi, hbest⟩ := h
  refine ⟨hunready.interrupts is, ?_, ?_, ?_, ?_⟩
  · rw [heq]
    exact hopts
  · rw [heq]
    exact hevents
  · rw [heq]
    exact hi
  · rw [heq]
    exact hbest

/-- A successful initialisation. -/
theorem Starting.initialises (h : Starting opts events i best s)
    (hstate : s.portState = .initializing) (hnet : env.netInit = true) :
    (portActions env s).portState = .listening ∧
      (portActions env s).ptpClock.startData = startedData env.hwaddr opts events i best := by
  let u := initTimer ((netInit env s).2.modify initData)
  obtain ⟨_, _, hclock, -⟩ := initClock_eq u
  have hdo : (doInit env s).2 = ((initClock u).m1.modify fun c =>
      { c with msgObuf := msgPackHeader c c.msgObuf }).log (.doInit true) := by
    unfold doInit
    dsimp only
    rw [netInit_fst, if_pos hnet]
  obtain ⟨-, rfl, rfl, rfl, rfl⟩ := h
  rw [portActions_initializing env hstate, hnet, if_pos rfl, hdo, hclock]
  exact ⟨rfl, rfl⟩

/-- One step on the way to the initialisation. -/
theorem Starting.step (hstep : StepOn hwaddr s t) (h : Starting opts events i best s) :
    Starting opts events i best t ∨
      t.portState = .listening ∧ t.ptpClock.startData = startedData hwaddr opts events i best := by
  cases hstep with
  | interrupt i => exact .inl (h.interrupts [i])
  | doState env henv =>
    have hactive : Starting opts events i best (s.setMessageActivity false) :=
      ⟨h.unready, h.rtOpts, h.events_eq, h.i_eq, h.best_eq⟩
    have hu : Starting opts events i best (pause env .actions (s.setMessageActivity false)) :=
      hactive.interrupts (env.interrupts .actions)
    rw [h.unready.doState_eq env]
    generalize pause env .actions (s.setMessageActivity false) = u at hu
    obtain ⟨hstate | hstate, hrec⟩ := hu.unready
    · cases hnet : env.netInit with
      | true =>
        right
        rw [← henv]
        exact hu.initialises hstate hnet
      | false =>
        left
        rw [portActions_initializing env hstate, hnet, if_neg (by simp), doInit_fails env u hnet]
        exact ⟨⟨.inr rfl, hrec⟩, hu.rtOpts, hu.events_eq, hu.i_eq, hu.best_eq⟩
    · left
      rw [portActions_faulty env hstate]
      exact ⟨⟨.inl rfl, rfl⟩, hu.rtOpts, hu.events_eq, hu.i_eq, hu.best_eq⟩

/-- **What the start-up leaves**: the data of a start, but for the pending events and two indices of
the foreign master store. -/
theorem boots_startData (h : Boots hwaddr rtOpts s t) :
    t.portState = .listening ∧ t.ptpClock.startData =
      startedData hwaddr (startupOpts rtOpts) s.ptpClock.events s.ptpClock.foreignMasterDS.i
        s.ptpClock.foreignMasterDS.best := by
  obtain ⟨env, hrun⟩ := h
  refine Transition.Until.ends (Q := Starting (startupOpts rtOpts) s.ptpClock.events
    s.ptpClock.foreignMasterDS.i s.ptpClock.foreignMasterDS.best)
    (R := fun u => u.portState = .listening ∧ u.ptpClock.startData =
      startedData hwaddr (startupOpts rtOpts) s.ptpClock.events s.ptpClock.foreignMasterDS.i
        s.ptpClock.foreignMasterDS.best)
    (fun u hu => ?_) (fun u v huv hu => ?_) hrun (ptpdStartup_starting env rtOpts s)
  · rcases hu.unready.1 with hstate | hstate <;> simp [hstate]
  · rcases hu.step huv with hv | ⟨hstate, hdata⟩
    · exact .inl hv
    · exact .inr ⟨hstate, hstate, hdata⟩

/-- A start-up on a working network. -/
theorem exists_boots (hwaddr : Vector UInt8 6) (rtOpts : RunTimeOpts) (s : System) :
    ∃ t, Boots hwaddr rtOpts s t := by
  let env : Env := { (default : Env) with netInit := true, hwaddr }
  let u := ptpdStartup env rtOpts s
  have hu := ptpdStartup_starting env rtOpts s
  have hnot (v : System) (hv : Unready v) : v.portState ≠ .listening := by
    rcases hv.1 with hstate | hstate <;> simp [hstate]
  have hinit : u.portState = .initializing := rfl
  have hactive : Starting _ _ _ _ (u.setMessageActivity false) :=
    ⟨hu.unready, hu.rtOpts, hu.events_eq, hu.i_eq, hu.best_eq⟩
  have hlistening : (portActions env (u.setMessageActivity false)).portState = .listening :=
    (hactive.initialises hinit rfl).1
  refine ⟨doState env u, env, .step (hnot u hu.unready) (.doState env rfl u) (.here ?_)⟩
  show (doState env u).portState = .listening
  rw [hu.unready.doState_eq env]
  exact hlistening

end StartUp

/-! ## The records of a run -/

/-- The record with index `k` of the state `u` was stored in the run from `t`, by a call of
`addForeign`. -/
def StoredSince (t u : System) (k : ℕ) : Prop :=
  ∃ w env x, ReflTransGen Step t w ∧ addForeignCall env w = some x ∧
    x.ptpClock.foreignMasterDS.StoresAt (doState env w).ptpClock.foreignMasterDS
      x.ptpClock.msgTmpHeader x.ptpClock.msgTmpAnnounce k ∧
    ReflTransGen Step (doState env w) u ∧
    u.ptpClock.foreignMasterDS.records k = (doState env w).ptpClock.foreignMasterDS.records k

/-- The indices of the records that `bmc` reads: it begins with record `0`, also in an empty
store. -/
def ReadByBmc (c : PtpClock) (k : ℕ) : Prop := k = 0 ∨ k < c.foreignMasterDS.count

/-- **A start-up from `s` is like the first one**: it leaves the same data, and from then on `bmc`
only reads records stored after it. -/
def RestartsFresh (hwaddr : Vector UInt8 6) (rtOpts : RunTimeOpts) (s : System) : Prop :=
  ∀ t, Boots hwaddr rtOpts s t →
    (∀ t₀, Boots hwaddr rtOpts powerUp t₀ → t.ptpClock.startData = t₀.ptpClock.startData) ∧
      ∀ u v, ReflTransGen Step t u → bmcCall u = some v →
        v.ptpClock.foreignMasterDS = u.ptpClock.foreignMasterDS ∧
          ∀ k, ReadByBmc v.ptpClock k → StoredSince t u k

section Records

variable {hwaddr : Vector UInt8 6} {rtOpts : RunTimeOpts} {s t u v : System}

theorem StoredSince.step {k : ℕ} (h : StoredSince t u k) (hstep : Step u v)
    (heq : v.ptpClock.foreignMasterDS.records k = u.ptpClock.foreignMasterDS.records k) :
    StoredSince t v k := by
  obtain ⟨w, env, x, htw, hx, hstores, hwu, hsame⟩ := h
  exact ⟨w, env, x, htw, hx, hstores, hwu.tail hstep, heq.trans hsame⟩

/-- A port that works, with a store of records of the run from `t` only. -/
structure Refilled (t u : System) : Prop where
  settled : u.engine.Settled
  keeps : u.engine.Keeps
  stored : ∀ k < u.ptpClock.foreignMasterDS.count, StoredSince t u k

theorem Refilled.step (h : Refilled t u) (htu : ReflTransGen Step t u) (hstep : Step u v) :
    Refilled t v := by
  cases hstep with
  | interrupt i =>
    have hengine := interrupt_engine i u
    refine ⟨?_, ?_, fun k hk => ?_⟩
    · rw [hengine]
      exact h.settled
    · rw [hengine]
      exact h.keeps
    · have hds := foreignMasterDS_of_engine hengine
      change (interrupt u i).ptpClock.foreignMasterDS = u.ptpClock.foreignMasterDS at hds
      rw [hds] at hk
      exact (h.stored k hk).step (.interrupt i u) (by rw [hds])
  | doState env =>
    have hcall := doState_call env h.settled
    refine ⟨h.settled.call hcall, h.keeps.call h.settled hcall, fun k hk => ?_⟩
    cases hadd : addForeignCall env u with
    | none =>
      obtain ⟨hrecords, hcount⟩ := doState_of_addForeignCall_none h.settled hadd
      exact (h.stored k (hk.trans_le hcount)).step (.doState env u) (by rw [hrecords])
    | some x =>
      obtain ⟨-, j, hstores⟩ := addForeignCall_stores h.settled h.keeps hadd
      by_cases hkj : k = j
      · rw [hkj]
        exact ⟨u, env, x, htu, hadd, hstores, .refl, rfl⟩
      · obtain ⟨hk', heq⟩ := hstores.others k hk hkj
        obtain ⟨hrecords, hcount⟩ := switchCall_foreignMasterDS env h.settled
        rw [(addForeignCall_spec hadd).1, hcount] at hk'
        refine (h.stored k hk').step (.doState env u) ?_
        rw [heq, (addForeignCall_spec hadd).1, hrecords]

theorem Refilled.run (h : Refilled t t) (htu : ReflTransGen Step t u) : Refilled t u := by
  induction htu with
  | refl => exact h
  | tail htv hstep ih => exact ih.step htv hstep

/-- The port right after a start-up that has found no pending events and fresh indices. -/
theorem refilled_of_boots (hcapacity : 0 < rtOpts.maxForeignRecords)
    (h : Boots hwaddr rtOpts s t) (hevents : s.ptpClock.events = default)
    (hi : s.ptpClock.foreignMasterDS.i = 0) : Refilled t t := by
  obtain ⟨hstate, hdata⟩ := boots_startData h
  rw [hevents, hi] at hdata
  have hrec : t.engine.recommendedState = .listening := congrArg StartData.recommendedState hdata
  have hevent : t.engine.events = default := congrArg StartData.events hdata
  have hcount : t.engine.foreignMasterDS.count = 0 := congrArg StartData.count hdata
  have hindex : t.engine.foreignMasterDS.i = 0 := congrArg StartData.i hdata
  have hcap : t.engine.foreignMasterDS.capacity = rtOpts.maxForeignRecords :=
    (congrArg StartData.capacity hdata).trans (startupOpts_maxForeignRecords rtOpts)
  refine ⟨⟨.inl ?_, ?_, ⟨?_, ?_⟩, ?_⟩, ⟨⟨?_, ?_, ?_⟩, ?_, ?_, ?_, ?_⟩, fun k hk => ?_⟩
  · rw [Engine.Agrees, hrec]
    exact hstate
  · rw [hrec]
    decide
  · rw [hevent]
    rintro ⟨⟩
  · rw [hevent]
    rintro ⟨⟩
  · rw [hevent]
    rintro ⟨⟩
  · rw [hcount]
    exact Nat.zero_le _
  · rw [hcount, hindex]
    exact fun _ => rfl
  · rw [hcount]
    simp
  · rw [hindex, hcap]
    exact hcapacity
  · exact fun _ => .inr hcount
  · rw [hevent]
    rintro ⟨⟩
  · rw [hrec]
    rintro ⟨⟩
  · rw [show t.ptpClock.foreignMasterDS.count = 0 from hcount] at hk
    exact absurd hk (Nat.not_lt_zero k)

/-- **A start-up is like the first one** exactly when no event is pending and the indices `i` and
`best` of the foreign master store are zero in the state that it finds. -/
theorem restartsFresh_iff (hwaddr : Vector UInt8 6) (s : System)
    (hcapacity : 0 < rtOpts.maxForeignRecords) :
    RestartsFresh hwaddr rtOpts s ↔
      s.ptpClock.events = default ∧ s.ptpClock.foreignMasterDS.i = 0 ∧
        s.ptpClock.foreignMasterDS.best = 0 := by
  constructor
  · intro h
    obtain ⟨t, ht⟩ := exists_boots hwaddr rtOpts s
    obtain ⟨t₀, ht₀⟩ := exists_boots hwaddr rtOpts powerUp
    have heq := (h t ht).1 t₀ ht₀
    rw [(boots_startData ht).2, (boots_startData ht₀).2] at heq
    exact ⟨congrArg StartData.events heq, congrArg StartData.i heq, congrArg StartData.best heq⟩
  · rintro ⟨hevents, hi, hbest⟩ t ht
    refine ⟨fun t₀ ht₀ => ?_, fun u v htu hbmc => ?_⟩
    · rw [(boots_startData ht).2, (boots_startData ht₀).2, hevents, hi, hbest]
      rfl
    · have hrefilled := (refilled_of_boots hcapacity ht hevents hi).run htu
      obtain ⟨hevaluates, hds⟩ := bmcCall_spec hbmc
      have hcount : 0 < u.ptpClock.foreignMasterDS.count := hrefilled.keeps.pending hevaluates.2
      refine ⟨hds, fun k hk => hrefilled.stored k ?_⟩
      unfold ReadByBmc at hk
      rw [hds] at hk
      omega

end Records

/-! ## A daemon that is stopped after it has heard a master -/

theorem restartsFresh_heard :
    RestartsFresh plainEnv.hwaddr ptpdOpts heard ↔
      heard.ptpClock.events = default ∧ heard.ptpClock.foreignMasterDS.i = 0 ∧
        heard.ptpClock.foreignMasterDS.best = 0 :=
  restartsFresh_iff plainEnv.hwaddr heard (by decide)

/-- The state decision event and the index `i` survive. -/
theorem not_all_restart_fresh :
    ¬ ∀ (hwaddr : Vector UInt8 6) (rtOpts : RunTimeOpts) (s : System), Reachable rtOpts s →
      0 < rtOpts.maxForeignRecords → RestartsFresh hwaddr rtOpts s := by
  intro h
  obtain ⟨t, ht⟩ := exists_boots plainEnv.hwaddr ptpdOpts heard
  obtain ⟨t₀, ht₀⟩ := exists_boots plainEnv.hwaddr ptpdOpts powerUp
  have heq := (h plainEnv.hwaddr ptpdOpts heard heard_reachable (by decide) t ht).1 t₀ ht₀
  rw [(boots_startData ht).2, (boots_startData ht₀).2] at heq
  have hi : heard.ptpClock.foreignMasterDS.i = 0 := congrArg StartData.i heq
  exact absurd hi (by decide +kernel)

end Ptpd

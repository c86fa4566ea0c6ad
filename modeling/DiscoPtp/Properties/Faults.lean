import DiscoPtp.Properties.Ledger
import DiscoPtp.Library.History

/-!
# Faults and initialisation

What becomes of a faulty port. A port that has not been initialised since power-up or since a fault
found by `doInit` recommends `PTP_INITIALIZING` to itself; a port that became faulty inside a
message handler still has the recommendation of its last state decision.

## Main definitions

* `Unready`: initialisation is due
* `Recovers`: the next step is initialisation, and nothing else works before it has succeeded

## Main results

* `Unready.step`: what an unready port can do
* `faulty_recovers_iff`: a faulty port recovers exactly when it recommends `PTP_INITIALIZING`
* `Reachable.phases`: a run before and after the first initialisation
-/

namespace Ptpd

open History
open Relation (ReflTransGen)

/-! ## Port states and recommendations along a run -/

section Invariants

variable {P : PtpState → Prop} {s t : System}

/-- An action keeps the port state or enters an allowed one. -/
theorem Action.portState_eq (h : Action P s t) : t.portState = s.portState ∨ P t.portState := by
  cases h
  case portState state h => exact .inr h
  case adjTime adj =>
    obtain ⟨_, h⟩ := adjTime_eq adj s
    rw [h]
    exact .inl rfl
  case issueDelayReq env =>
    rw [issueDelayReq_eq]
    exact .inl rfl
  case issuePDelayReq env =>
    rw [issuePDelayReq_eq]
    exact .inl rfl
  case issuePDelayResp env time =>
    rw [issuePDelayResp_eq]
    exact .inl rfl
  case storeSync h hp =>
    obtain ⟨_, _, h⟩ := storeSync_eq (ingressTime s) s
    rw [h]
    exact .inl rfl
  case syncOffset env h =>
    obtain ⟨_, _, _, _, _, _, _, _, h⟩ := syncOffset_eq env (ingressTime s) s
    rw [h]
    exact .inl rfl
  case followUpOffset env h hm =>
    obtain ⟨_, _, _, _, _, _, _, h⟩ := followUpOffset_eq env s
    rw [h]
    exact .inl rfl
  case useDelayResp h =>
    obtain ⟨_, _, _, _, _, _, _, h⟩ := useDelayResp_eq s
    rw [h]
    exact .inl rfl
  case storePDelayResp env h =>
    obtain ⟨_, _, _, _, h⟩ := storePDelayResp_eq env (ingressTime s) s
    rw [h]
    exact .inl rfl
  case usePDelayResp h =>
    obtain ⟨_, _, _, h⟩ := usePDelayResp_eq (ingressTime s) s
    rw [h]
    exact .inl rfl
  case usePDelayRespFollowUp env hm h =>
    obtain ⟨_, _, _, _, _, _, h⟩ := usePDelayRespFollowUp_eq env s
    rw [h]
    exact .inl rfl
  case decideState =>
    obtain ⟨_, _, _, _, _, _, _, _, h⟩ := decideState_eq s
    rw [h]
    exact .inl rfl
  case interrupt i =>
    obtain ⟨_, h⟩ := interrupt_ptpClock s i
    left
    show (Ptpd.interrupt s i).ptpClock.portDS.portState = _
    rw [h]
  all_goals exact .inl rfl

theorem Actions.portState_eq (h : Actions P s t) : t.portState = s.portState ∨ P t.portState := by
  induction h with
  | refl => exact .inl rfl
  | tail _ ht ih =>
    rcases ht.portState_eq with heq | hP
    · rw [heq]
      exact ih
    · exact .inr hP

/-- The recommended state is one of those that the program ever recommends. -/
theorem Action.recommendable (h : Action P s t) (hs : s.recommendedState.Recommendable) :
    t.recommendedState.Recommendable := by
  have hkeep : ∀ t' : System, t'.recommendedState = s.recommendedState →
      t'.recommendedState.Recommendable := fun t' h => by rw [h]; exact hs
  cases h
  case recommendedState state h => exact h
  case decideState => exact List.mem_cons_of_mem _ (decideState_recommends s)
  case adjTime adj =>
    obtain ⟨_, h⟩ := adjTime_eq adj s
    rw [h]
    exact hs
  case issueDelayReq env =>
    rw [issueDelayReq_eq]
    exact hs
  case issuePDelayReq env =>
    rw [issuePDelayReq_eq]
    exact hs
  case issuePDelayResp env time =>
    rw [issuePDelayResp_eq]
    exact hs
  case storeSync h hp =>
    obtain ⟨_, _, h⟩ := storeSync_eq (ingressTime s) s
    rw [h]
    exact hs
  case syncOffset env h =>
    obtain ⟨_, _, _, _, _, _, _, _, h⟩ := syncOffset_eq env (ingressTime s) s
    rw [h]
    exact hs
  case followUpOffset env h hm =>
    obtain ⟨_, _, _, _, _, _, _, h⟩ := followUpOffset_eq env s
    rw [h]
    exact hs
  case useDelayResp h =>
    obtain ⟨_, _, _, _, _, _, _, h⟩ := useDelayResp_eq s
    rw [h]
    exact hs
  case storePDelayResp env h =>
    obtain ⟨_, _, _, _, h⟩ := storePDelayResp_eq env (ingressTime s) s
    rw [h]
    exact hs
  case usePDelayResp h =>
    obtain ⟨_, _, _, h⟩ := usePDelayResp_eq (ingressTime s) s
    rw [h]
    exact hs
  case usePDelayRespFollowUp env hm h =>
    obtain ⟨_, _, _, _, _, _, h⟩ := usePDelayRespFollowUp_eq env s
    rw [h]
    exact hs
  case interrupt i =>
    obtain ⟨_, h⟩ := interrupt_ptpClock s i
    apply hkeep
    show (Ptpd.interrupt s i).ptpClock.recommendedState = _
    rw [h]
  all_goals exact hs

end Invariants

theorem Reachable.recommendable {rtOpts : RunTimeOpts} {s : System} (hs : Reachable rtOpts s) :
    s.recommendedState.Recommendable :=
  hs.visited.of_action (fun _ _ h => h.recommendable) (by
    obtain ⟨opts, h, _⟩ := boot_eq rtOpts
    rw [h]
    exact List.mem_cons_self)

@[simp] theorem toState_portState (env : Env) (state : PtpState) (s : System) :
    (toState env state s).portState = state.entered := by
  cases state <;> rfl

/-! ## A port before its initialisation -/

/-- Initialisation is due. -/
def Unready (s : System) : Prop :=
  (s.portState = .initializing ∨ s.portState = .faulty) ∧ s.recommendedState = .initializing

/-- The entries that are logged before and during initialisation. -/
def Entry.IsStartup : Entry → Prop
  | .frameRead _ | .parentIs _ | .clockInit | .adjFreq _ | .doInit _ => True
  | .timerStart timer _ => timer = .announceReceipt
  | _ => False

/-- What has been logged since `s` belongs to start-up. -/
abbrev StartupSince (s t : System) : Prop := Adds Entry.IsStartup s.history t.history

/-- `doInit` has returned `TRUE` since the history was `older`. -/
abbrev InitialisedSince (older : List Entry) (t : System) : Prop :=
  Gains (· = .doInit true) older t.history

/-- The states of a port at work. -/
def PtpState.Operating (state : PtpState) : Prop :=
  state ∈ [.listening, .master, .passive, .uncalibrated, .slave]

instance (state : PtpState) : Decidable state.Operating := inferInstanceAs (Decidable (_ ∈ _))

/-- **Recovery** of a faulty port: the next call of `doState` moves it to `PTP_INITIALIZING`, and it
is at work again only after a later success of `doInit`. -/
def Recovers (s : System) : Prop :=
  (∀ env, (doState env s).portState = .initializing) ∧
    ∀ t, ReflTransGen Step s t → t.portState.Operating → InitialisedSince s.history t

section Startup

variable {s t u : System}

theorem interrupt_startup (i : Interrupt) (s : System) : StartupSince s (interrupt s i) := by
  rcases interrupt_history s i with h | ⟨stamp, h⟩
  · rw [StartupSince, h]
    exact .refl _ _
  · rw [StartupSince, h]
    exact .cons trivial _

theorem interrupts_startup (is : List Interrupt) (s : System) :
    StartupSince s (is.foldl interrupt s) := by
  induction is generalizing s with
  | nil => exact .refl _ _
  | cons i is ih => exact (interrupt_startup i s).trans (ih _)

theorem initClock_startup (s : System) : StartupSince s (initClock s) := by
  obtain ⟨addend, adjusted, h, hadj⟩ := initClock_eq s
  rw [h]
  refine ⟨adjusted ++ [.clockInit], by simp, ?_⟩
  rcases hadj with rfl | ⟨a, rfl⟩
  · simp [Entry.IsStartup]
  · simp [Entry.IsStartup]

@[simp] theorem netInit_fst (env : Env) (s : System) : (netInit env s).1 = env.netInit := rfl

theorem doInit_fst (env : Env) (s : System) : (doInit env s).1 = env.netInit := by
  unfold doInit
  cases h : env.netInit <;> simp [h]

/-- The state in which `doInit` reports success. -/
theorem doInit_succeeds (env : Env) (s : System) (h : env.netInit = true) :
    ∃ t, (doInit env s).2 = t.log (.doInit true) ∧ StartupSince s t ∧
      t.ptpClock.outboundLatency = s.ptpClock.rtOpts.outboundLatency := by
  let u := initTimer ((netInit env s).2.modify initData)
  have hu : StartupSince s u := .refl _ _
  obtain ⟨addend, adjusted, heq, -⟩ := initClock_eq u
  have hm1 : StartupSince (initClock u) (initClock u).m1 := .cons (e := Entry.parentIs _) trivial _
  refine ⟨(initClock u).m1.modify fun c => { c with msgObuf := msgPackHeader c c.msgObuf }, ?_,
    (hu.trans (initClock_startup u)).trans hm1, ?_⟩
  · unfold doInit
    dsimp only
    rw [netInit_fst, if_pos h]
  · rw [heq]
    rfl

theorem doInit_fails (env : Env) (s : System) (h : env.netInit = false) :
    (doInit env s).2 = (netInit env s).2.log (.doInit false) := by
  unfold doInit
  dsimp only
  rw [netInit_fst, if_neg (by simp [h])]

theorem stateDecision_of_idle (h : s.portState = .initializing ∨ s.portState = .faulty) :
    stateDecision s = s := by
  unfold stateDecision
  rcases h with h | h
  · rw [h]
  · rw [h]

theorem followRecommendation_of_initializing (env : Env) (h : s.recommendedState = .initializing) :
    followRecommendation env s = s := by
  unfold followRecommendation
  rw [System.recommendedState] at h
  rw [h]

/-- The first two switches of `doState` leave an unready port as it is. -/
theorem Unready.doState_eq (h : Unready s) (env : Env) :
    doState env s =
      portActions env (pause env .actions (s.setMessageActivity false)) := by
  have hidle : stateDecision (s.setMessageActivity false) = s.setMessageActivity false :=
    stateDecision_of_idle h.1
  have hstay : followRecommendation env (s.setMessageActivity false) =
      s.setMessageActivity false := followRecommendation_of_initializing env h.2
  unfold doState
  rw [hidle, hstay]

theorem Unready.interrupts (h : Unready s) (is : List Interrupt) :
    Unready (is.foldl interrupt s) := by
  obtain ⟨netPath, heq⟩ := interrupts_ptpClock is s
  unfold Unready System.portState System.recommendedState
  rw [heq]
  exact h

theorem Unready.paused (h : Unready s) (env : Env) (point : Pause) :
    Unready (pause env point s) :=
  h.interrupts (env.interrupts point)

/-- The outcomes of a step of an unready port: it stays unready, or it has been initialised. -/
structure StartsUp (s t : System) : Prop where
  since : StartupSince s t
  outcome : Unready t ∨ InitialisedSince s.history t ∧
    t.ptpClock.outboundLatency = s.ptpClock.rtOpts.outboundLatency

theorem portActions_faulty (env : Env) (h : s.portState = .faulty) :
    portActions env s =
      ((s.setMessageActivity true).setPortState .initializing).setRecommendedState
        .initializing := by
  unfold portActions
  rw [h]
  unfold toState leaveState
  rw [show (s.setMessageActivity true).portState = .faulty from h]
  rfl

theorem doInit_portState (env : Env) (s : System) :
    (doInit env s).2.portState = s.portState := by
  rcases (doInit_actions (P := fun _ => False) env s).portState_eq with heq | hfalse
  · exact heq
  · exact hfalse.elim

theorem toState_of_initializing (env : Env) (state : PtpState) (h : s.portState = .initializing) :
    toState env state s = enterState env state (s.setMessageActivity true) := by
  unfold toState leaveState
  rw [show (s.setMessageActivity true).portState = .initializing from h]

theorem portActions_initializing (env : Env) (h : s.portState = .initializing) :
    portActions env s =
      enterState env (if env.netInit then .listening else .faulty)
        ((doInit env s).2.setMessageActivity true) := by
  unfold portActions
  rw [h]
  dsimp only
  rw [doInit_fst]
  split
  · exact toState_of_initializing env .listening ((doInit_portState env s).trans h)
  · exact toState_of_initializing env .faulty ((doInit_portState env s).trans h)

theorem portActions_startsUp (env : Env) (h : Unready s) : StartsUp s (portActions env s) := by
  obtain ⟨hstate | hstate, hrec⟩ := h
  · rw [portActions_initializing env hstate]
    cases hnet : env.netInit with
    | false =>
      rw [if_neg (by simp), doInit_fails env s hnet]
      exact ⟨.cons (e := Entry.doInit false) trivial _, .inl ⟨.inr rfl, hrec⟩⟩
    | true =>
      obtain ⟨t, heq, hstart, hlat⟩ := doInit_succeeds env s hnet
      rw [if_pos rfl, heq]
      have hinit : StartupSince t (t.log (.doInit true)) := .cons (e := Entry.doInit true) trivial _
      have henter : StartupSince (t.log (.doInit true))
          (enterState env .listening ((t.log (.doInit true)).setMessageActivity true)) :=
        Adds.cons (P := Entry.IsStartup)
          (e := .timerStart .announceReceipt (announceReceiptInterval t.ptpClock)) rfl _
      exact ⟨(hstart.trans hinit).trans henter,
        .inr ⟨Gains.of_suffix rfl henter.suffix hstart.suffix, hlat⟩⟩
  · rw [portActions_faulty env hstate]
    exact ⟨.refl _ _, .inl ⟨.inl rfl, rfl⟩⟩

/-- What one step of an unready port can do. -/
theorem Unready.step (h : Unready s) (hstep : Step s t) : StartsUp s t := by
  cases hstep with
  | doState env =>
    rw [h.doState_eq env]
    have hint : StartupSince (s.setMessageActivity false)
        (pause env .actions (s.setMessageActivity false)) :=
      interrupts_startup (env.interrupts .actions) (s.setMessageActivity false)
    obtain ⟨netPath, heq⟩ := pause_ptpClock env .actions (s.setMessageActivity false)
    have hunready : Unready (s.setMessageActivity false) := h
    obtain ⟨hsince, hout⟩ := portActions_startsUp env (hunready.paused env .actions)
    refine ⟨((Adds.refl _ _).trans hint).trans hsince, ?_⟩
    rcases hout with hout | ⟨hgains, hlat⟩
    · exact .inl hout
    · refine .inr ⟨hgains.of_older hint.suffix, ?_⟩
      rw [hlat, heq]
      rfl
  | interrupt i => exact ⟨interrupt_startup i s, .inl (h.interrupts [i])⟩

end Startup

/-! ## The two kinds of faults -/

section Recovery

variable {s : System}

theorem recovers_of_initializing (h : s.portState = .faulty)
    (hrec : s.recommendedState = .initializing) : Recovers s := by
  have hunready : Unready s := ⟨.inr h, hrec⟩
  constructor
  · intro env
    rw [hunready.doState_eq env]
    obtain ⟨netPath, heq⟩ := pause_ptpClock env .actions (s.setMessageActivity false)
    rw [portActions_faulty]
    · rfl
    · rw [System.portState, heq]
      exact h
  · intro t hr hop
    -- a run leaves the unready states only by a success of `doInit`
    have hphases := Transition.phases
      (P := fun u => Unready u ∧ s.history <:+ u.history) (Q := InitialisedSince s.history)
      (fun u v huv hu => by
        obtain ⟨hsince, hout | ⟨hgains, -⟩⟩ := hu.1.step huv
        · exact .inl ⟨hout, hu.2.trans hsince.suffix⟩
        · exact .inr (hgains.of_older hu.2))
      hr ⟨hunready, List.suffix_refl _⟩
    rcases hphases with ⟨⟨hstate, -⟩, -⟩ | ⟨u, hu, -, hut⟩
    · rcases hstate with hstate | hstate
      · rw [hstate] at hop
        exact absurd hop (by decide)
      · rw [hstate] at hop
        exact absurd hop (by decide)
    · exact hu.trans_suffix (history_suffix hut)

/-- A faulty port with another recommendation follows that recommendation instead. -/
theorem followRecommendation_faulty (env : Env) (h : s.portState = .faulty)
    (hrec : s.recommendedState.Recommendable) (hne : s.recommendedState ≠ .initializing) :
    (followRecommendation env s).portState.Operating := by
  unfold followRecommendation
  rw [h]
  unfold PtpState.Recommendable System.recommendedState at hrec
  unfold System.recommendedState at hne
  generalize s.ptpClock.recommendedState = r at hrec hne
  cases r <;> simp_all [PtpState.Operating, PtpState.entered]

theorem portActions_ne_initializing (env : Env) (h : s.portState.Operating) :
    (portActions env s).portState ≠ .initializing := by
  have hne : s.portState ≠ .initializing := fun heq => absurd (heq ▸ h) (by decide)
  have hrun : Actions (· ≠ .initializing) s (portActions env s) := by
    unfold portActions
    split
    case h_1 hs => exact absurd hs hne
    case h_2 hs => exact absurd (hs ▸ h) (by decide)
    case h_3 hs => exact absurd (hs ▸ h) (by decide)
    case h_8 => exact masterActions_actions env s (by decide)
    case h_9 => exact .refl
    all_goals exact awaitAnnounce_actions env s fun _ h => h
  rcases hrun.portState_eq with heq | hstate
  · rw [heq]
    exact hne
  · exact hstate

theorem faulty_doState_ne_initializing (env : Env) (h : s.portState = .faulty)
    (hrec : s.recommendedState.Recommendable) (hne : s.recommendedState ≠ .initializing) :
    (doState env s).portState ≠ .initializing := by
  unfold doState
  have hidle : stateDecision (s.setMessageActivity false) = s.setMessageActivity false :=
    stateDecision_of_idle (.inr h)
  have hop := followRecommendation_faulty (s := s.setMessageActivity false) env h hrec hne
  rw [hidle]
  apply portActions_ne_initializing
  obtain ⟨netPath, heq⟩ :=
    pause_ptpClock env .actions (followRecommendation env (s.setMessageActivity false))
  rw [System.portState, heq]
  exact hop

/-- **Faults**: in every run a faulty port recovers through its initialisation exactly when it
recommends `PTP_INITIALIZING` to itself. -/
theorem faulty_recovers_iff {rtOpts : RunTimeOpts} (hs : Reachable rtOpts s)
    (h : s.portState = .faulty) : Recovers s ↔ s.recommendedState = .initializing := by
  refine ⟨fun hrecovers => ?_, recovers_of_initializing h⟩
  by_contra hne
  exact faulty_doState_ne_initializing default h hs.recommendable hne (hrecovers.1 default)

end Recovery

/-! ## The first initialisation -/

theorem LedgerStep.rtOpts_eq {l l' : Ledger} (h : LedgerStep l l') : l'.rtOpts = l.rtOpts := by
  cases h <;> rfl

theorem Step.rtOpts_eq {s t : System} (h : Step s t) : t.ptpClock.rtOpts = s.ptpClock.rtOpts := by
  have hkeep : Transition.Preserves AnyAction fun u => u.ledger.rtOpts = s.ptpClock.rtOpts :=
    .of_simulates (P := fun l : Ledger => l.rtOpts = s.ptpClock.rtOpts) action_simulates
      fun _ _ h hs => h.rtOpts_eq.trans hs
  exact (daemon_runsOf_action default).preserves hkeep s t h rfl

/-- A run before its first successful `doInit` has only logged start-up; a run after it has passed
a state with the configured latency. -/
theorem Reachable.phases {rtOpts : RunTimeOpts} {t : System} (ht : Reachable rtOpts t) :
    (∀ e ∈ t.history, e.IsStartup) ∨
      ∃ s, Reachable rtOpts s ∧ (∀ e ∈ s.history, e.IsStartup) ∧
        s.ptpClock.outboundLatency = rtOpts.outboundLatency ∧ ReflTransGen Step s t := by
  obtain ⟨_, rfl, hr⟩ := ht
  obtain ⟨opts, hboot, _, hlat, _⟩ := boot_eq rtOpts
  rcases Transition.phases
      (P := fun u => Unready u ∧ (∀ e ∈ u.history, e.IsStartup) ∧
        u.ptpClock.rtOpts.outboundLatency = rtOpts.outboundLatency)
      (Q := fun u => (∀ e ∈ u.history, e.IsStartup) ∧
        u.ptpClock.outboundLatency = rtOpts.outboundLatency)
      (fun u v huv hu => by
        obtain ⟨hsince, hout | ⟨-, hout⟩⟩ := hu.1.step huv
        · exact .inl ⟨hout, hsince.all hu.2.1, by rw [huv.rtOpts_eq, hu.2.2]⟩
        · exact .inr ⟨hsince.all hu.2.1, hout.trans hu.2.2⟩)
      hr (by
        rw [hboot]
        exact ⟨⟨.inl rfl, rfl⟩, by rintro e ⟨⟩, hlat⟩) with h | ⟨u, ⟨hu, hulat⟩, hbu, hut⟩
  · exact .inl h.2.1
  · exact .inr ⟨u, (boot_reachable rtOpts).run hbu, hu, hulat, hut⟩

/-! ## A short Announce -/

/-- A datagram with a complete header but too short for an Announce arrives in `PTP_LISTENING`. -/
def shortAnnounce : System :=
  (boot ptpdOpts).after
    ([.doState plainEnv] ++
      generalArrival ((announceOf (station 1 ptpdOpts)).take 34) (atSecond 1) ++
      [.doState plainEnv])

theorem shortAnnounce_reachable : Reachable ptpdOpts shortAnnounce :=
  (boot_reachable ptpdOpts).after _

theorem shortAnnounce_faulty : shortAnnounce.portState = .faulty := by decide +kernel

theorem shortAnnounce_recovers_iff :
    Recovers shortAnnounce ↔ shortAnnounce.recommendedState = .initializing :=
  faulty_recovers_iff shortAnnounce_reachable shortAnnounce_faulty

/-- The port returns to work without initialisation. -/
theorem not_all_recover :
    ¬ ∀ (rtOpts : RunTimeOpts) (s : System), Reachable rtOpts s → s.portState = .faulty →
      Recovers s := by
  intro h
  have hlistening : (doState plainEnv shortAnnounce).portState ≠ .initializing := by
    decide +kernel
  exact hlistening ((h ptpdOpts shortAnnounce shortAnnounce_reachable shortAnnounce_faulty).1
    plainEnv)

end Ptpd

import DiscoPtp.Model.NetInit
import DiscoPtp.Properties.Initialised

/-!
# What the initialisation holds

A call of `netInit` that fails keeps the mutexes it has created, and one that succeeds may have
joined or bound nothing. A port that waits for its address tries again and again, and holds two
mutexes more after each call.

## Main definitions

* `AllOrNothing`: a call obtains everything, or nothing
* `Opens`, `Clean`: the outcomes with which a call succeeds, and with which it is all or nothing
* `Networked`, `networked`: the daemon with what it holds

## Main results

* `netInit_all_or_nothing`: a call is all or nothing if and only if its steps are clean, and a
  daemon whose calls are clean holds at most what one call obtains
* `mutexes_leak`: the number of resources held grows without a bound
-/

namespace Ptpd

/-- **All or nothing.** On success both PCBs are bound and both groups joined; on failure everything
has been released. -/
def AllOrNothing (r : Bool × NetCall) : Prop :=
  if r.1 then
    (NetResource.eventPcb, ptpEventPort) ∈ r.2.bound ∧
      (NetResource.generalPcb, ptpGeneralPort) ∈ r.2.bound ∧
      .defaultGroup ∈ r.2.obtained ∧ .peerGroup ∈ r.2.obtained
  else r.2.obtained = []

instance (r : Bool × NetCall) : Decidable (AllOrNothing r) := by
  unfold AllOrNothing
  infer_instance

/-- The steps that `netInit` checks succeed. -/
def NetOutcome.Opens (o : NetOutcome) : Bool :=
  o.address && o.eventPcb && o.generalPcb && o.defaultAddress && o.peerAddress

/-- The steps that `netInit` does not check succeed in a call that gets so far, and obtain nothing
in one that gives up. -/
def NetOutcome.Clean (o : NetOutcome) : Prop :=
  if o.Opens then o.joinDefault ∧ o.joinPeer ∧ o.bindEvent ∧ o.bindGeneral
  else ¬o.eventMutex ∧ ¬o.generalMutex ∧
    ¬(o.address ∧ o.eventPcb ∧ o.generalPcb ∧ o.defaultAddress ∧ o.joinDefault)


theorem netInitSteps_fst (o : NetOutcome) : (netInitSteps o).1 = o.Opens := by
  unfold netInitSteps NetOutcome.Opens
  cases o.address <;> cases o.eventPcb <;> cases o.generalPcb <;> cases o.defaultAddress <;>
    cases o.peerAddress <;> rfl

/-- What is left of the mutexes, the PCBs and the first membership in a call that gives up. -/
theorem netInitSteps_of_fails {o : NetOutcome} (h : o.Opens ≠ true) :
    (netInitSteps o).2 =
      ((NetCall.start.obtain .eventMutex o.eventMutex).obtain .generalMutex o.generalMutex).obtain
        .defaultGroup
        (o.address && o.eventPcb && o.generalPcb && o.defaultAddress && o.joinDefault) := by
  unfold NetOutcome.Opens at h
  unfold netInitSteps
  dsimp only
  generalize hn : (NetCall.start.obtain .eventMutex o.eventMutex).obtain .generalMutex
    o.generalMutex = n
  have hevent : NetResource.eventPcb ∉ n.obtained := by
    rw [← hn]
    simp [NetCall.start]
  have hgeneral : NetResource.generalPcb ∉ (n.obtain .eventPcb true).obtained := by
    rw [← hn]
    simp [NetCall.start]
  cases haddress : o.address with
  | false => rfl
  | true =>
  cases heventPcb : o.eventPcb with
  | false => rfl
  | true =>
  cases hgeneralPcb : o.generalPcb with
  | false => exact NetCall.obtain_remove hevent
  | true =>
  cases hdefault : o.defaultAddress with
  | false =>
    change (((n.obtain .eventPcb true).obtain .generalPcb true).remove .generalPcb).remove
      .eventPcb = n
    rw [NetCall.obtain_remove hgeneral, NetCall.obtain_remove hevent]
  | true =>
  cases hpeer : o.peerAddress with
  | false =>
    change ((((n.obtain .eventPcb true).obtain .generalPcb true).obtain .defaultGroup
      o.joinDefault).remove .generalPcb).remove .eventPcb = n.obtain .defaultGroup o.joinDefault
    rw [NetCall.obtain_remove_of_ne (by decide), NetCall.obtain_remove hgeneral,
      NetCall.obtain_remove_of_ne (by decide), NetCall.obtain_remove hevent]
  | true => exact absurd (by rw [haddress, heventPcb, hgeneralPcb, hdefault, hpeer]; rfl) h

/-- **The exact condition** for one call. -/
theorem allOrNothing_iff (o : NetOutcome) : AllOrNothing (netInitSteps o) ↔ o.Clean := by
  unfold AllOrNothing NetOutcome.Clean
  rw [netInitSteps_fst]
  by_cases hopens : o.Opens = true
  · rw [if_pos hopens, if_pos hopens]
    unfold NetOutcome.Opens at hopens
    simp only [Bool.and_eq_true] at hopens
    obtain ⟨⟨⟨⟨haddress, hevent⟩, hgeneral⟩, hdefault⟩, hpeer⟩ := hopens
    unfold netInitSteps
    simp only [haddress, Bool.not_true, Bool.false_eq_true, ↓reduceIte, hevent, hgeneral, hdefault,
      hpeer, NetCall.start, NetCall.mem_bind, NetCall.obtain_bound, List.not_mem_nil, true_and,
      false_or, Prod.mk.injEq, reduceCtorEq, false_and, or_false, or_self, NetCall.bind_obtained,
      NetCall.mem_obtain, and_true]
    tauto
  · rw [if_neg hopens, if_neg hopens, netInitSteps_of_fails hopens,
      List.eq_nil_iff_forall_not_mem]
    simp only [NetCall.start, NetCall.mem_obtain, List.not_mem_nil, false_or, Bool.and_eq_true,
      not_or, not_and, Bool.not_eq_true, and_imp]
    constructor
    · intro h
      exact ⟨(h .eventMutex).1.1 rfl, (h .generalMutex).1.2 rfl, (h .defaultGroup).2 rfl⟩
    · rintro ⟨hevent, hgeneral, hgroup⟩ r
      exact ⟨⟨fun _ => hevent, fun _ => hgeneral⟩, fun _ => hgroup⟩

theorem NetCall.obtain_length (r : NetResource) (ok : Bool) (n : NetCall) :
    (n.obtain r ok).obtained.length ≤ n.obtained.length + 1 := by
  cases ok with
  | false => exact Nat.le_succ _
  | true => exact (List.length_append ..).le

/-- A call that succeeds obtains at most six resources. -/
theorem netInitSteps_length {o : NetOutcome} (h : o.Opens = true) :
    (netInitSteps o).2.obtained.length ≤ 6 := by
  unfold NetOutcome.Opens at h
  simp only [Bool.and_eq_true] at h
  obtain ⟨⟨⟨⟨haddress, hevent⟩, hgeneral⟩, hdefault⟩, hpeer⟩ := h
  unfold netInitSteps
  simp only [haddress, hevent, hgeneral, hdefault, hpeer, Bool.not_true, Bool.false_eq_true,
    ↓reduceIte, NetCall.bind_obtained]
  have h₁ := NetCall.obtain_length .eventMutex o.eventMutex .start
  have h₂ := NetCall.obtain_length .generalMutex o.generalMutex _ |>.trans (Nat.succ_le_succ h₁)
  have h₃ := NetCall.obtain_length .eventPcb true _ |>.trans (Nat.succ_le_succ h₂)
  have h₄ := NetCall.obtain_length .generalPcb true _ |>.trans (Nat.succ_le_succ h₃)
  have h₅ := NetCall.obtain_length .defaultGroup o.joinDefault _ |>.trans (Nat.succ_le_succ h₄)
  exact NetCall.obtain_length .peerGroup o.joinPeer _ |>.trans (Nat.succ_le_succ h₅)

/-! ## The daemon -/

/-- The daemon, with what `netInit` has obtained and not released. -/
structure Networked where
  system : System
  held : List NetResource

/-- One step of the daemon. A call of `netInit` has the outcomes `o`, which the condition allows. -/
inductive Networked.Next (C : NetOutcome → Prop) : Networked → Networked → Prop
  | netInit (env : Env) (o : NetOutcome) (d : Networked)
      (h : (switchCall env d.system).portState = .initializing)
      (ho : env.netInit = (netInitSteps o).1) (hC : C o) :
      Next C d ⟨doState env d.system, d.held ++ (netInitSteps o).2.obtained⟩
  | doState (env : Env) (d : Networked)
      (h : (switchCall env d.system).portState ≠ .initializing) :
      Next C d { d with system := Ptpd.doState env d.system }
  | interrupt (i : Interrupt) (d : Networked) : Next C d { d with system := interrupt d.system i }

/-- The daemon with the options `rtOpts`, which holds nothing at boot. -/
def networked (rtOpts : RunTimeOpts) (C : NetOutcome → Prop) :
    Transition.TransitionSystem Networked :=
  { init := fun d => d = ⟨boot rtOpts, []⟩, next := Networked.Next C }

/-- A call of `netInit` from the state `d` is all or nothing, and afterwards no more is held than
one call obtains, or than before if it has failed. -/
def Retries (d : Networked) (o : NetOutcome) : Prop :=
  AllOrNothing (netInitSteps o) ∧
    (d.held ++ (netInitSteps o).2.obtained).length ≤
      if (netInitSteps o).1 then 6 else d.held.length

section Runs

variable {rtOpts : RunTimeOpts} {env : Env} {d d' : Networked}

/-- Before the initialisation nothing is held, and then what one call has obtained. -/
def Frugal (rtOpts : RunTimeOpts) (d : Networked) : Prop :=
  Dormant rtOpts d.system ∧ d.held = [] ∨ d.system.engine.Settled ∧ d.held.length ≤ 6

/-- An initialised port does not call `netInit` again. -/
theorem Engine.Settled.not_initializing {s : System} (h : s.engine.Settled) (env : Env) :
    (switchCall env s).portState ≠ .initializing := by
  obtain ⟨e₁, -, hdecided, hswitch⟩ := switchCall_engine env h
  have hop := hdecided.follow.agrees.operating
  rw [← hswitch] at hop
  change (switchCall env s).portState.Operating at hop
  intro heq
  rw [heq] at hop
  exact absurd hop (by decide)

theorem Frugal.retries_iff (hd : Frugal rtOpts d) {o : NetOutcome}
    (h : (switchCall env d.system).portState = .initializing) : Retries d o ↔ o.Clean := by
  rcases hd with ⟨-, hheld⟩ | ⟨hsettled, -⟩
  · unfold Retries
    rw [← allOrNothing_iff, hheld, List.nil_append]
    refine ⟨And.left, fun hall => ⟨hall, ?_⟩⟩
    rw [netInitSteps_fst]
    split
    next hopens => exact netInitSteps_length hopens
    next hopens =>
      unfold AllOrNothing at hall
      rw [netInitSteps_fst, if_neg hopens] at hall
      rw [hall]
  · exact absurd h (hsettled.not_initializing env)

theorem Frugal.next (hd : Frugal rtOpts d) (hnext : Networked.Next NetOutcome.Clean d d') :
    Frugal rtOpts d' := by
  cases hnext with
  | netInit env o _ h ho hclean =>
    obtain ⟨-, hlength⟩ := (hd.retries_iff (o := o) h).mpr hclean
    rcases hd with ⟨hdormant, hheld⟩ | ⟨hsettled, -⟩
    · rw [hheld, List.nil_append] at hlength ⊢
      rw [← ho] at hlength
      cases hnet : env.netInit with
      | false =>
        rw [hnet, if_neg (by simp)] at hlength
        exact .inl ⟨hdormant.call (.inl hnet), List.length_eq_zero_iff.mp (Nat.le_zero.mp hlength)⟩
      | true =>
        rw [hnet, if_pos rfl] at hlength
        obtain ⟨u, hu, heq⟩ := hdormant.call_initialises h hnet
        refine .inr ⟨?_, hlength⟩
        rw [heq, enterState_engine, setMessageActivity_engine]
        exact (hu.initialises hnet).settled
    · exact absurd h (hsettled.not_initializing env)
  | doState env _ h =>
    rcases hd with ⟨hdormant, hheld⟩ | ⟨hsettled, hlength⟩
    · exact .inl ⟨hdormant.call (.inr h), hheld⟩
    · exact .inr ⟨hsettled.call (doState_call env hsettled), hlength⟩
  | interrupt i _ =>
    rcases hd with ⟨hdormant, hheld⟩ | ⟨hsettled, hlength⟩
    · exact .inl ⟨hdormant.interrupts [i], hheld⟩
    · refine .inr ⟨?_, hlength⟩
      rw [interrupt_engine]
      exact hsettled

/-- A call before the initialisation, in which nothing else happens and `netInit` fails. -/
theorem retry_of_dormant {s : System} (h : Dormant rtOpts s) :
    (switchCall default s).portState = s.portState ∧
      (doState default s).portState =
        if s.portState = .initializing then .faulty else .initializing := by
  have hswitch : switchCall default s = s.setMessageActivity false := h.switchCall_eq default
  rw [doState_eq, hswitch]
  refine ⟨rfl, ?_⟩
  rcases h.unready.1 with hstate | hstate
  · rw [if_pos hstate, portActions_initializing (s := s.setMessageActivity false) default hstate]
    rfl
  · rw [if_neg (by simp [hstate]),
      portActions_faulty (s := s.setMessageActivity false) default hstate]
    rfl

theorem boot_portState (rtOpts : RunTimeOpts) : (boot rtOpts).portState = .initializing := by
  obtain ⟨opts, heq, -⟩ := boot_eq rtOpts
  rw [heq]
  rfl

/-- A call of `netInit` with these outcomes, and the next call of `doState`. -/
def Networked.retry (d : Networked) (o : NetOutcome) : Networked :=
  ⟨doState default (doState default d.system), d.held ++ (netInitSteps o).2.obtained⟩

/-- A call that fails leads back to where `netInit` is called. -/
theorem retry_reachable {C : NetOutcome → Prop} {o : NetOutcome} (hC : C o)
    (ho : (netInitSteps o).1 = false) (hd : (networked rtOpts C).Reachable d)
    (hdormant : Dormant rtOpts d.system) (hstate : d.system.portState = .initializing) :
    (networked rtOpts C).Reachable (d.retry o) ∧ Dormant rtOpts (d.retry o).system ∧
      (d.retry o).system.portState = .initializing := by
  -- the initialisation fails, and the next call leaves the faulty state
  obtain ⟨hswitch, hfaulty⟩ := retry_of_dormant hdormant
  rw [hstate, if_pos rfl] at hfaulty
  have hfailed : Dormant rtOpts (doState default d.system) := hdormant.call (.inl rfl)
  obtain ⟨hswitch', hagain⟩ := retry_of_dormant hfailed
  rw [hfaulty, if_neg (by decide)] at hagain
  refine ⟨(hd.next (.netInit default o d (hswitch.trans hstate) ho.symm hC)).next
    (.doState default _ ?_), hfailed.call (.inl rfl), hagain⟩
  show (switchCall default (doState default d.system)).portState ≠ .initializing
  rw [hswitch', hfaulty]
  decide

/-- **`netInit` is all or nothing** exactly if its steps are clean, and as long as they are, the
daemon holds at most what one call obtains, over any number of retries. -/
theorem netInit_all_or_nothing (hd : (networked rtOpts NetOutcome.Clean).Reachable d) :
    d.held.length ≤ 6 ∧ ∀ env o, (switchCall env d.system).portState = .initializing →
      (Retries d o ↔ o.Clean) := by
  have hfrugal : Frugal rtOpts d := by
    obtain ⟨_, rfl, hr⟩ := hd
    have hpreserves : Transition.Preserves (networked rtOpts NetOutcome.Clean).next
        (Frugal rtOpts) := fun d d' hnext hd => hd.next hnext
    exact hpreserves.run hr (.inl ⟨boot_dormant rtOpts, rfl⟩)
  refine ⟨?_, fun env o h => hfrugal.retries_iff h⟩
  rcases hfrugal with ⟨-, hheld⟩ | ⟨-, hlength⟩
  · rw [hheld]
    exact Nat.zero_le 6
  · exact hlength

/-- The outcomes of a call that obtains nothing, without an address. -/
def nothingObtained : NetOutcome :=
  { eventMutex := false, generalMutex := false, address := false, eventPcb := false
    generalPcb := false, defaultAddress := false, joinDefault := false, peerAddress := false
    joinPeer := false, bindEvent := false, bindGeneral := false }

theorem nothingObtained_clean : nothingObtained.Clean := by
  rw [← allOrNothing_iff]
  decide

/-- The outcomes of a call that obtains everything. -/
def everythingObtained : NetOutcome :=
  { eventMutex := true, generalMutex := true, address := true, eventPcb := true
    generalPcb := true, defaultAddress := true, joinDefault := true, peerAddress := true
    joinPeer := true, bindEvent := true, bindGeneral := true }

theorem everythingObtained_clean : everythingObtained.Clean := by
  rw [← allOrNothing_iff]
  decide

/-- The mutexes are created, and the interface has no address. -/
def withoutAddress : NetOutcome :=
  { eventMutex := true, generalMutex := true, address := false, eventPcb := false
    generalPcb := false, defaultAddress := false, joinDefault := false, peerAddress := false
    joinPeer := false, bindEvent := false, bindGeneral := false }

/-- The port has called `netInit` without an address and is about to call it again. -/
def retryingPort : Networked := Networked.retry ⟨boot ptpdOpts, []⟩ nothingObtained

theorem retryingPort_reachable :
    (networked ptpdOpts NetOutcome.Clean).Reachable retryingPort ∧
      Dormant ptpdOpts retryingPort.system ∧ retryingPort.system.portState = .initializing :=
  retry_reachable (d := ⟨boot ptpdOpts, []⟩) nothingObtained_clean rfl (.init rfl)
    (boot_dormant ptpdOpts) (boot_portState ptpdOpts)

theorem retryingPort_switchCall :
    (switchCall plainEnv retryingPort.system).portState = .initializing := by
  obtain ⟨-, hdormant, hstate⟩ := retryingPort_reachable
  rw [hdormant.switchCall_eq plainEnv]
  exact hstate

/-- The port has called `netInit` again, with an address. -/
def connectedPort : Networked :=
  ⟨doState plainEnv retryingPort.system,
    retryingPort.held ++ (netInitSteps everythingObtained).2.obtained⟩

theorem connectedPort_reachable :
    (networked ptpdOpts NetOutcome.Clean).Reachable connectedPort :=
  retryingPort_reachable.1.next
    (.netInit plainEnv everythingObtained retryingPort retryingPort_switchCall rfl
      everythingObtained_clean)

/-- The second call obtains everything with an address, and would leak two mutexes without one. -/
theorem netInit_all_or_nothing_connected :
    (Retries retryingPort everythingObtained ∧ ¬Retries retryingPort withoutAddress) ∧
      connectedPort.held.length = 6 ∧ connectedPort.held.length ≤ 6 := by
  have hretries := (netInit_all_or_nothing retryingPort_reachable.1).2 plainEnv
  refine ⟨⟨(hretries _ retryingPort_switchCall).mpr everythingObtained_clean, fun h => ?_⟩, rfl,
    (netInit_all_or_nothing connectedPort_reachable).1⟩
  have hclean := (hretries _ retryingPort_switchCall).mp h
  rw [← allOrNothing_iff] at hclean
  revert hclean
  decide

/-! ## Retries without an address -/

/-- **Every retry leaks two mutexes** while there is no address. -/
theorem mutexes_leak (rtOpts : RunTimeOpts) (n : ℕ) :
    ∃ d, (networked rtOpts (· = withoutAddress)).Reachable d ∧
      (Dormant rtOpts d.system ∧ d.system.portState = .initializing) ∧ d.held.length = 2 * n := by
  induction n with
  | zero =>
    exact ⟨⟨boot rtOpts, []⟩, .init rfl, ⟨boot_dormant rtOpts, boot_portState rtOpts⟩, rfl⟩
  | succ n ih =>
    obtain ⟨d, hd, ⟨hdormant, hstate⟩, hlength⟩ := ih
    obtain ⟨hreach, hagain⟩ :=
      retry_reachable (C := (· = withoutAddress)) rfl rfl hd hdormant hstate
    refine ⟨d.retry withoutAddress, hreach, hagain, ?_⟩
    show (d.held ++ [NetResource.eventMutex, .generalMutex]).length = 2 * (n + 1)
    rw [List.length_append, hlength]
    rfl

/-- The call leaves both mutexes behind, and after four of them eight are held. -/
theorem netInit_without_address :
    ¬AllOrNothing (netInitSteps withoutAddress) ∧
      ∃ d, (networked ptpdOpts (· = withoutAddress)).Reachable d ∧ d.held.length = 8 := by
  obtain ⟨d, hd, -, hlength⟩ := mutexes_leak ptpdOpts 4
  exact ⟨by decide, d, hd, hlength⟩

end Runs

end Ptpd

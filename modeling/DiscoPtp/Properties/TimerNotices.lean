import DiscoPtp.Model.TimerService

/-!
# Expiry notices

The flag of a timer is written by both sides. A start or a stop clears it at once, but reaches the
service only as a command, so the service may still decide that the old countdown has elapsed, or be
about to run the callback for it, and set the flag again.

## Main definitions

* `NoStaleExpiry`: every flag that is set belongs to the most recent start
* `Undisturbed`: the service decides nothing over a waiting command, and nothing intervenes between
  a decision and its callback
* `Prompt`: the invariant

## Main results

* `no_stale_expiry`: no expiry is stale in a run that is undisturbed
* `stale_expiry`: an Announce handled just before the callback is followed by a timeout
-/

namespace Ptpd

/-- The timer of the PTP task that a command is for. -/
def TimerCommand.timer : TimerCommand → Option Timer
  | .changePeriod timer _ | .stop timer | .start timer _ => some timer
  | .foreign => none

/-- What becomes of the countdown of a timer when a command is taken in time. -/
def TimerCommand.effect (timer : Timer) (countdown : Option ℕ) : TimerCommand → Option ℕ
  | .changePeriod t call | .start t call => if t = timer then some call else countdown
  | .stop t => if t = timer then none else countdown
  | .foreign => countdown

namespace TimerService

variable {s s' : TimerService} {t : Timer} {event : TimerEvent}

theorem effect_of_ne {c : TimerCommand} (h : c.timer ≠ some t) (countdown : Option ℕ) :
    c.effect t countdown = countdown := by
  cases c with
  | changePeriod u call => exact if_neg fun heq => h (congrArg some heq)
  | stop u => exact if_neg fun heq => h (congrArg some heq)
  | start u call => exact if_neg fun heq => h (congrArg some heq)
  | foreign => rfl

/-- The countdown of a timer after the commands. -/
def settle (t : Timer) (countdown : Option ℕ) (commands : List TimerCommand) : Option ℕ :=
  commands.foldl (TimerCommand.effect t) countdown

theorem settle_append (countdown : Option ℕ) (cs cs' : List TimerCommand) :
    settle t countdown (cs ++ cs') = settle t (settle t countdown cs) cs' := List.foldl_append

theorem settle_of_ne {commands : List TimerCommand} (h : ∀ c ∈ commands, c.timer ≠ some t)
    (countdown : Option ℕ) : settle t countdown commands = countdown := by
  induction commands generalizing countdown with
  | nil => rfl
  | cons c commands ih =>
    change settle t (c.effect t countdown) commands = countdown
    rw [effect_of_ne (h c List.mem_cons_self)]
    exact ih (fun d hd => h d (List.mem_cons_of_mem c hd)) countdown

/-- A command that goes in before commands for other timers has the last word on its timer, and
none on the others. -/
theorem settle_insert (countdown : Option ℕ) (cs : List TimerCommand) (c : TimerCommand)
    {cs' : List TimerCommand} (h : c.timer = some t → ∀ d ∈ cs', d.timer ≠ some t) :
    settle t countdown ((cs ++ [c]) ++ cs') =
      if c.timer = some t then c.effect t (settle t countdown cs)
      else settle t countdown (cs ++ cs') := by
  rw [settle_append, settle_append, settle_append]
  change settle t (c.effect t (settle t countdown cs)) cs' = _
  split
  next htimer => exact settle_of_ne (h htimer) _
  next htimer => rw [effect_of_ne htimer]

/-- The reload that is posted after the callback. -/
def reloads (s : TimerService) : List TimerCommand :=
  match s.notice with
  | some (timer, call, true) => [.start timer call]
  | _ => []

theorem reloads_timer (h : ∀ call reload, s.notice ≠ some (t, call, reload)) :
    ∀ c ∈ s.reloads, c.timer ≠ some t := by
  intro c hc
  unfold reloads at hc
  split at hc
  next timer call hnotice =>
    rw [List.mem_singleton.mp hc]
    exact fun heq => h call true (by rw [hnotice, Option.some.inj heq])
  · cases hc

/-- **No expiry is stale**: the countdown that has set a flag goes back to the most recent call of
`timerStart`, and the timer has not been stopped since. -/
def NoStaleExpiry (s : TimerService) : Prop :=
  ∀ t call, s.expired t = some call → s.latest t = some call

/-- An event that lets no stale expiry through. The PTP task starts or stops no timer between the
decision about it and its callback, and its commands find room; the service decides nothing about
a timer while a command for it waits. -/
def Undisturbed (s : TimerService) : TimerEvent → Prop
  | .timerStart t | .timerStop t => s.HasRoom ∧ ∀ call reload, s.notice ≠ some (t, call, reload)
  | .elapsed t _ => ∀ c ∈ s.commands, c.timer ≠ some t
  | .command late => late = true → ∀ t call commands, s.commands = .start t call :: commands →
      ∀ c ∈ commands, c.timer ≠ some t
  | _ => True

/-- The invariant: the commands that are going to be taken lead to the most recent calls of the PTP
task, and so do the decision that has been made and the flags. -/
structure Prompt (s : TimerService) : Prop where
  settles : ∀ t, settle t (s.active t) (s.commands ++ s.reloads) = s.latest t
  notice : ∀ t call reload, s.notice = some (t, call, reload) → s.latest t = some call
  expired : s.NoStaleExpiry

theorem init_prompt : init.Prompt := ⟨fun _ => rfl, by simp [init], by simp [NoStaleExpiry, init]⟩

theorem post_commands (h : s.HasRoom) (c : TimerCommand) :
    s.post c = { s with commands := s.commands ++ [c] } := if_pos h

/-! ## The calls of the PTP task -/

/-- A command for a timer without a pending notice, with which the flag is cleared. -/
theorem Prompt.call (h : s.Prompt) (hnotice : ∀ call reload, s.notice ≠ some (t, call, reload))
    {c : TimerCommand} (htimer : c.timer = some t) {latest : Option ℕ}
    (heffect : ∀ countdown, c.effect t countdown = latest) (calls : ℕ) :
    Prompt
      { s with
        commands := s.commands ++ [c]
        expired := Function.update s.expired t none
        calls
        latest := Function.update s.latest t latest } := by
  refine ⟨fun u => ?_, fun u call reload hu => ?_, fun u call hu => ?_⟩
  · change settle u (s.active u) ((s.commands ++ [c]) ++ s.reloads) =
      Function.update s.latest t latest u
    by_cases hut : u = t
    · rw [hut, settle_insert _ _ _ fun _ => reloads_timer hnotice, if_pos htimer, heffect,
        Function.update_self]
    · have hne : c.timer ≠ some u := by
        rw [htimer]
        exact fun heq => hut (Option.some.inj heq).symm
      rw [settle_insert _ _ _ fun heq => absurd heq hne, if_neg hne, h.settles u,
        Function.update_of_ne hut]
  · have hut : u ≠ t := fun heq => hnotice call reload (heq ▸ hu)
    change Function.update s.latest t latest u = some call
    rw [Function.update_of_ne hut]
    exact h.notice u call reload hu
  · change Function.update s.expired t none u = some call at hu
    change Function.update s.latest t latest u = some call
    by_cases hut : u = t
    · rw [hut, Function.update_self] at hu
      cases hu
    · rw [Function.update_of_ne hut] at hu ⊢
      exact h.expired u call hu

theorem Prompt.timerStart (h : s.Prompt) (hu : s.Undisturbed (.timerStart t)) :
    (s.timerStart t).Prompt := by
  have heq : s.timerStart t =
      { s with
        commands := s.commands ++ [.changePeriod t s.calls]
        expired := Function.update s.expired t none
        calls := s.calls + 1
        latest := Function.update s.latest t (some s.calls) } := by
    unfold TimerService.timerStart
    rw [post_commands (s := s.clearFlag t) hu.1]
    rfl
  rw [heq]
  exact h.call (c := .changePeriod t s.calls) hu.2 rfl (fun _ => if_pos rfl) (s.calls + 1)

theorem Prompt.timerStop (h : s.Prompt) (hu : s.Undisturbed (.timerStop t)) :
    (s.timerStop t).Prompt := by
  have heq : s.timerStop t =
      { s with
        commands := s.commands ++ [.stop t]
        expired := Function.update s.expired t none
        calls := s.calls
        latest := Function.update s.latest t none } := by
    unfold TimerService.timerStop
    rw [post_commands hu.1]
    rfl
  rw [heq]
  exact h.call (c := .stop t) hu.2 rfl (fun _ => if_pos rfl) s.calls

theorem Prompt.clearFlag (h : s.Prompt) (t : Timer) : (s.clearFlag t).Prompt := by
  refine ⟨h.settles, h.notice, fun u call hu => h.expired u call ?_⟩
  change Function.update s.expired t none u = some call at hu
  rw [Function.update_apply] at hu
  split at hu
  · cases hu
  · exact hu

theorem Prompt.postForeign (h : s.Prompt) : (s.post .foreign).Prompt := by
  unfold post
  split
  · refine ⟨fun u => ?_, h.notice, h.expired⟩
    have hne : TimerCommand.foreign.timer ≠ some u := by rintro ⟨⟩
    change settle u (s.active u) ((s.commands ++ [.foreign]) ++ s.reloads) = s.latest u
    rw [settle_insert _ _ _ fun heq => absurd heq hne, if_neg hne]
    exact h.settles u
  · exact h

/-! ## The service -/

/-- A countdown that elapses while no command for its timer waits goes back to the most recent
call. -/
theorem Prompt.latest_of_active (h : s.Prompt) (hnotice : s.notice = none)
    (hnone : ∀ c ∈ s.commands, c.timer ≠ some t) : s.active t = s.latest t := by
  have hsettles := h.settles t
  have hreloads : s.reloads = [] := by
    unfold reloads
    rw [hnotice]
  rwa [hreloads, List.append_nil, settle_of_ne hnone] at hsettles

theorem reloads_of_none (h : s.notice = none) : s.reloads = [] := by
  unfold reloads
  rw [h]

/-- A timer out of its list, with the command that puts it back. -/
theorem settle_reload {active latest : Timer → Option ℕ} {commands : List TimerCommand} {call : ℕ}
    (hlatest : latest t = some call)
    (hothers : ∀ u ≠ t, settle u (active u) commands = latest u) (u : Timer) :
    settle u (Function.update active t none u) (commands ++ [.start t call]) = latest u := by
  rw [settle_append]
  by_cases hut : u = t
  · rw [hut, hlatest]
    exact if_pos rfl
  · rw [Function.update_of_ne hut, hothers u hut]
    exact if_neg fun heq => hut heq.symm

theorem Prompt.elapse (h : s.Prompt) (hnotice : s.notice = none) {call : ℕ}
    (hactive : s.active t = some call) (hnone : ∀ c ∈ s.commands, c.timer ≠ some t)
    {reload : Reload} (hstep : s.elapse t call reload = some s') : s'.Prompt := by
  have hlatest : s.latest t = some call := (h.latest_of_active hnotice hnone).symm.trans hactive
  have hsettles (u : Timer) : settle u (s.active u) s.commands = s.latest u := by
    have hsettles := h.settles u
    rwa [reloads_of_none hnotice, List.append_nil] at hsettles
  have hdecided (reload : Bool) (u : Timer) (n : ℕ) (b : Bool)
      (hu : some (t, call, reload) = some (u, n, b)) : s.latest u = some n := by
    cases hu
    exact hlatest
  cases reload with
  | listed =>
    obtain rfl := Option.some.inj hstep
    refine ⟨fun u => ?_, hdecided false, h.expired⟩
    change settle u (s.active u) (s.commands ++ []) = s.latest u
    rw [List.append_nil]
    exact hsettles u
  | postedBefore =>
    by_cases hroom : s.HasRoom
    · obtain rfl := Option.some.inj ((if_pos hroom).symm.trans hstep)
      rw [post_commands hroom]
      refine ⟨fun u => ?_, hdecided false, h.expired⟩
      change settle u (Function.update s.active t none u)
        ((s.commands ++ [.start t call]) ++ []) = s.latest u
      rw [List.append_nil]
      exact settle_reload hlatest (fun u _ => hsettles u) u
    · cases (if_neg hroom).symm.trans hstep
  | postedAfter =>
    obtain rfl := Option.some.inj hstep
    exact ⟨settle_reload hlatest fun u _ => hsettles u, hdecided true, h.expired⟩

theorem Prompt.timerCallback (h : s.Prompt) {call : ℕ} {reload : Bool}
    (hnotice : s.notice = some (t, call, reload))
    (hstep : s.timerCallback t call reload = some s') : s'.Prompt := by
  have hlatest := h.notice t call reload hnotice
  have hexpired (u : Timer) (n : ℕ) (hu : Function.update s.expired t (some call) u = some n) :
      s.latest u = some n := by
    by_cases hut : u = t
    · rw [hut, Function.update_self] at hu
      rw [hut, ← hu]
      exact hlatest
    · rw [Function.update_of_ne hut] at hu
      exact h.expired u n hu
  cases reload with
  | false =>
    obtain rfl := Option.some.inj hstep
    refine ⟨fun u => ?_, fun _ _ _ hu => (Option.some_ne_none _ hu.symm).elim, hexpired⟩
    have hsettles := h.settles u
    unfold reloads at hsettles
    rw [hnotice] at hsettles
    exact hsettles
  | true =>
    by_cases hroom : s.HasRoom
    · obtain rfl := Option.some.inj ((if_pos hroom).symm.trans hstep)
      rw [post_commands (s := { s with
        expired := Function.update s.expired t (some call), notice := none }) hroom]
      refine ⟨fun u => ?_, fun _ _ _ hu => (Option.some_ne_none _ hu.symm).elim, hexpired⟩
      have hsettles := h.settles u
      unfold reloads at hsettles
      rw [hnotice] at hsettles
      change settle u (s.active u) ((s.commands ++ [.start t call]) ++ []) = s.latest u
      rw [List.append_nil]
      exact hsettles
    · cases (if_neg hroom).symm.trans hstep

/-- A command taken in time has its effect on each timer. -/
theorem process_eq (c : TimerCommand) (late : Bool)
    (hlate : late = false ∨ ∀ t call, c ≠ .start t call) (s : TimerService) :
    s.process c late = { s with active := fun u => c.effect u (s.active u) } := by
  have hupdate (t : Timer) (v : Option ℕ) :
      Function.update s.active t v = fun u => if t = u then v else s.active u := by
    funext u
    rw [Function.update_apply]
    exact if_congr eq_comm rfl rfl
  cases c with
  | changePeriod t call => exact congrArg (fun active => { s with active }) (hupdate t (some call))
  | stop t => exact congrArg (fun active => { s with active }) (hupdate t none)
  | start t call =>
    rcases hlate with rfl | hlate
    · exact congrArg (fun active => { s with active }) (hupdate t (some call))
    · exact absurd rfl (hlate t call)
  | foreign => rfl

theorem Prompt.process (h : s.Prompt) (hnotice : s.notice = none) {c : TimerCommand}
    {commands : List TimerCommand} (hcommands : s.commands = c :: commands) (late : Bool)
    (hlate : late = true → ∀ t call, c = .start t call → ∀ d ∈ commands, d.timer ≠ some t) :
    ({ s with commands }.process c late).Prompt := by
  have hsettles (u : Timer) : settle u (c.effect u (s.active u)) commands = s.latest u := by
    have hsettles := h.settles u
    rwa [reloads_of_none hnotice, List.append_nil, hcommands] at hsettles
  by_cases hstart : late = true ∧ ∃ t call, c = .start t call
  · -- the countdown of the reload has elapsed already, and no later command is for the timer
    obtain ⟨rfl, t, call, rfl⟩ := hstart
    have hnone := hlate rfl t call rfl
    have hlatest : s.latest t = some call := by
      rw [← hsettles t, settle_of_ne hnone]
      exact if_pos rfl
    refine ⟨fun u => ?_, fun u n b hu => ?_, h.expired⟩
    · change settle u (Function.update s.active t none u) (commands ++ [.start t call]) = s.latest u
      refine settle_reload hlatest (fun u hut => ?_) u
      have hne : (TimerCommand.start t call).timer ≠ some u :=
        fun heq => hut (Option.some.inj heq).symm
      rw [← hsettles u, effect_of_ne hne]
    · cases hu
      exact hlatest
  · have hcase : late = false ∨ ∀ t call, c ≠ .start t call := by
      rw [not_and_or, Bool.not_eq_true] at hstart
      exact hstart.imp id fun hnot t call heq => hnot ⟨t, call, heq⟩
    rw [process_eq c late hcase]
    refine ⟨fun u => ?_, h.notice, h.expired⟩
    change settle u (c.effect u (s.active u)) (commands ++ s.reloads) = s.latest u
    rw [reloads_of_none hnotice, List.append_nil]
    exact hsettles u

/-- **One step** keeps the invariant. -/
theorem Prompt.step (h : s.Prompt) (hu : s.Undisturbed event) (hstep : s.step event = some s') :
    s'.Prompt := by
  cases event with
  | timerStart t =>
    obtain rfl := Option.some.inj hstep
    exact h.timerStart hu
  | timerStop t =>
    obtain rfl := Option.some.inj hstep
    exact h.timerStop hu
  | timerExpired t =>
    obtain rfl := Option.some.inj hstep
    exact h.clearFlag t
  | foreign =>
    obtain rfl := Option.some.inj hstep
    exact h.postForeign
  | elapsed t reload =>
    simp only [TimerService.step] at hstep
    split at hstep
    next hnotice hactive =>
      exact h.elapse hnotice hactive hu hstep
    · cases hstep
  | callback =>
    simp only [TimerService.step] at hstep
    split at hstep
    next t call reload hnotice => exact h.timerCallback hnotice hstep
    · cases hstep
  | command late =>
    simp only [TimerService.step] at hstep
    split at hstep
    next c commands hnotice hcommands =>
      obtain rfl := Option.some.inj hstep
      refine h.process hnotice hcommands late fun hlate t call heq => ?_
      exact hu hlate t call commands (heq ▸ hcommands)
    · cases hstep

/-- **No expiry is stale** in any state of a run whose events are undisturbed. -/
theorem no_stale_expiry (hs : (Runs Undisturbed).Reachable s) : s.NoStaleExpiry := by
  have hpreserves : Transition.Preserves (Runs Undisturbed).next Prompt := by
    rintro s s' ⟨event, hundisturbed, hstep⟩ h
    exact h.step hundisturbed hstep
  obtain ⟨_, rfl, hr⟩ := hs
  exact (hpreserves.run hr init_prompt).expired

/-! ## An Announce and the expiry notice before it -/

/-- The announce receipt timer has been started, and the service has taken the command. -/
def counting : TimerService :=
  { init.timerStart .announceReceipt with
    commands := []
    active := Function.update init.active .announceReceipt (some 0) }

/-- The service has decided that the countdown has elapsed. -/
def deciding : TimerService := { counting with notice := some (.announceReceipt, 0, false) }

/-- The callback has run. -/
def elapsedInTime : TimerService :=
  { deciding with
    notice := none
    expired := Function.update deciding.expired .announceReceipt (some 0) }

theorem deciding_reachable {C : TimerService → TimerEvent → Prop}
    (hstart : C init (.timerStart .announceReceipt)) (hcommand : ∀ s, C s (.command false))
    (helapsed : ∀ s, s.commands = [] → C s (.elapsed .announceReceipt .listed)) :
    (Runs C).Reachable deciding := by
  have h₁ : (Runs C).next init (init.timerStart .announceReceipt) :=
    ⟨.timerStart .announceReceipt, hstart, rfl⟩
  have h₂ : (Runs C).next (init.timerStart .announceReceipt) counting :=
    ⟨.command false, hcommand _, rfl⟩
  have h₃ : (Runs C).next counting deciding :=
    ⟨.elapsed .announceReceipt .listed, helapsed _ rfl, rfl⟩
  exact ((Transition.TransitionSystem.Reachable.init rfl).next h₁).next h₂ |>.next h₃

theorem no_stale_expiry_elapsedInTime : elapsedInTime.NoStaleExpiry := by
  have hstart : init.Undisturbed (.timerStart .announceReceipt) :=
    ⟨by decide, fun _ _ heq => by cases heq⟩
  have helapsed (s : TimerService) (hempty : s.commands = []) :
      s.Undisturbed (.elapsed .announceReceipt .listed) := by
    intro c hc
    rw [hempty] at hc
    cases hc
  have hdeciding : (Runs Undisturbed).Reachable deciding :=
    deciding_reachable hstart (fun _ hlate => absurd hlate Bool.false_ne_true) helapsed
  exact no_stale_expiry (hdeciding.next ⟨.callback, trivial, rfl⟩)

/-- The PTP task preempts the service between the decision and the callback: it handles an Announce,
which starts the timer anew, and then the callback runs. -/
def restartedLate : TimerService :=
  { deciding.timerStart .announceReceipt with
    notice := none
    expired := Function.update (deciding.timerStart .announceReceipt).expired .announceReceipt
      (some 0) }

/-- **A spurious timeout**: `timerExpired` reports the countdown before the Announce. -/
theorem stale_expiry :
    (Runs fun _ _ => True).Reachable restartedLate ∧ ¬restartedLate.NoStaleExpiry := by
  constructor
  · have hdeciding : (Runs fun _ _ => True).Reachable deciding :=
      deciding_reachable trivial (fun _ => trivial) fun _ _ => trivial
    exact (hdeciding.next ⟨.timerStart .announceReceipt, trivial, rfl⟩).next
      ⟨.callback, trivial, rfl⟩
  · intro h
    have hlatest : some 1 = some 0 := h .announceReceipt 0 rfl
    cases hlatest

end TimerService

end Ptpd

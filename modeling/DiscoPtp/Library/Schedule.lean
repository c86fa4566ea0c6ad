import DiscoPtp.Library.Transition

/-!
# Schedules

A system whose steps are given by events: an event that is possible in a state leads to the next
one. Runs may be restricted to the events that a condition allows.

## Main definitions

* `Eventful`: the states after the events
* `Eventful.system`: the runs whose events satisfy a condition
* `Eventful.schedule`: the state after a list of events

## Main results

* `Eventful.invariant`: the invariant rule
* `Eventful.schedule_reachable`: a schedule is a run
-/

namespace Transition

/-- The initial state, and the state after an event if it is possible. -/
structure Eventful (σ ε : Type*) where
  init : σ
  step : σ → ε → Option σ

namespace Eventful

variable {σ ε : Type*} {E : Eventful σ ε} {C : σ → ε → Prop} {s t : σ}

/-- The runs whose events satisfy the condition. -/
def system (E : Eventful σ ε) (C : σ → ε → Prop) : TransitionSystem σ where
  init s := s = E.init
  next s t := ∃ event, C s event ∧ E.step s event = some t

/-- **The invariant rule**. -/
theorem invariant {I : σ → Prop} (hinit : I E.init)
    (hstep : ∀ s event t, C s event → E.step s event = some t → I s → I t)
    (hs : (E.system C).Reachable s) : I s := by
  obtain ⟨_, rfl, hr⟩ := hs
  have hpreserves : Preserves (E.system C).next I := by
    rintro s t ⟨event, hc, ht⟩ h
    exact hstep s event t hc ht h
  exact hpreserves.run hr hinit

/-- The state after a list of events, if all of them are possible and allowed. -/
def schedule (E : Eventful σ ε) (C : σ → ε → Prop) [∀ s event, Decidable (C s event)] (s : σ)
    (events : List ε) : Option σ :=
  events.foldlM (fun s event => if C s event then E.step s event else none) s

/-- A schedule is a run. -/
theorem schedule_reachable [∀ s event, Decidable (C s event)] (hs : (E.system C).Reachable s)
    {events : List ε} (h : E.schedule C s events = some t) : (E.system C).Reachable t := by
  induction events generalizing s with
  | nil =>
    obtain rfl : s = t := Option.some.inj h
    exact hs
  | cons event events ih =>
    rw [schedule, List.foldlM_cons, Option.bind_eq_bind, Option.bind_eq_some_iff] at h
    obtain ⟨u, hu, hrest⟩ := h
    split at hu
    next hc => exact ih (hs.next ⟨event, hc, hu⟩) hrest
    · cases hu

end Eventful

end Transition

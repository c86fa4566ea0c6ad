import Mathlib

/-!
# Transition systems

A transition system has initial states and a step relation. A step may be a run of smaller
actions; an invariant is then proved on the actions, one by one.

## Main definitions

* `TransitionSystem`, `TransitionSystem.Reachable`: systems and their reachable states
* `Preserves`: a relation keeps a property
* `Until`: runs to the first state with a property
* `Simulates`: every step of one relation is, in the view of it, a step of another or no change
* `TransitionSystem.RunsOf`: every step of a system is a run of actions

## Main results

* `Preserves.run`: what every step keeps, every run keeps
* `Preserves.strengthen`: an invariant proved with the help of another one
* `Preserves.of_simulates`: an invariant of the abstract relation is one of the concrete relation
* `phases`: a run that has left a property has established another one on leaving it
* `Until.ends`: what a run to the first state with a property has reached
* `TransitionSystem.RunsOf.run`: runs of a system as runs of actions
-/

namespace Transition

variable {σ τ : Type*} {r : σ → σ → Prop} {P Q : σ → Prop}

/-- The relation `r` keeps the property `P`. -/
def Preserves (r : σ → σ → Prop) (P : σ → Prop) : Prop := ∀ s t, r s t → P s → P t

theorem Preserves.run (h : Preserves r P) {s t : σ} (hr : Relation.ReflTransGen r s t)
    (hs : P s) : P t := by
  induction hr with
  | refl => exact hs
  | tail _ ht ih => exact h _ _ ht ih

/-- A property kept wherever the invariant `P` holds. -/
theorem Preserves.strengthen (hP : Preserves r P)
    (hQ : ∀ s t, r s t → P s → Q s → Q t) : Preserves r fun s => P s ∧ Q s :=
  fun s t hr hs => ⟨hP s t hr hs.1, hQ s t hr hs.1 hs.2⟩

/-- Seen through `view`, every step of `r` is a step of `r'` or changes nothing. -/
def Simulates (view : σ → τ) (r : σ → σ → Prop) (r' : τ → τ → Prop) : Prop :=
  ∀ s t, r s t → view t = view s ∨ r' (view s) (view t)

theorem Preserves.of_simulates {view : σ → τ} {r' : τ → τ → Prop} {P : τ → Prop}
    (h : Simulates view r r') (hP : Preserves r' P) : Preserves r fun s => P (view s) := by
  intro s t hr hs
  rcases h s t hr with heq | hstep
  · rw [heq]
    exact hs
  · exact hP _ _ hstep hs

/-- Where a step that leaves `P` establishes `Q`, a run either stays in `P` or passes a state
with `Q`. -/
theorem phases (h : ∀ s t, r s t → P s → P t ∨ Q t) {s t : σ}
    (hr : Relation.ReflTransGen r s t) (hs : P s) :
    P t ∨ ∃ u, Q u ∧ Relation.ReflTransGen r s u ∧ Relation.ReflTransGen r u t := by
  induction hr with
  | refl => exact .inl hs
  | tail hr ht ih =>
    rcases ih with hP | ⟨u, hQ, hu, hut⟩
    · rcases h _ _ ht hP with hP | hQ
      · exact .inl hP
      · exact .inr ⟨_, hQ, hr.tail ht, .refl⟩
    · exact .inr ⟨u, hQ, hu, hut.tail ht⟩

/-- A run of `r` that ends in the first state with the property `P`. -/
inductive Until (r : σ → σ → Prop) (P : σ → Prop) : σ → σ → Prop
  | here {s : σ} (h : P s) : Until r P s s
  | step {s t u : σ} (h : ¬P s) (hr : r s t) (ht : Until r P t u) : Until r P s u

/-- Where the steps from states without `P` keep `Q` or reach `R` with `P`, a run from a state with
`Q` and without `P` ends in one with `R`. -/
theorem Until.ends {R : σ → Prop} (hQ : ∀ s, Q s → ¬P s) (h : ∀ s t, r s t → Q s → Q t ∨ P t ∧ R t)
    {s t : σ} (hu : Until r P s t) (hs : Q s) : R t := by
  induction hu with
  | here hP => exact absurd hP (hQ _ hs)
  | @step s v t hn hr ht ih =>
    rcases h _ _ hr hs with hv | ⟨hP, hR⟩
    · exact ih hv
    · cases ht with
      | here _ => exact hR
      | step hn' _ _ => exact absurd hP hn'

/-- A transition system: its initial states and its steps. -/
structure TransitionSystem (σ : Type*) where
  init : σ → Prop
  next : σ → σ → Prop

namespace TransitionSystem

variable {S : TransitionSystem σ}

/-- A state that a run from an initial state ends in. -/
def Reachable (S : TransitionSystem σ) (t : σ) : Prop :=
  ∃ s, S.init s ∧ Relation.ReflTransGen S.next s t

theorem Reachable.init {s : σ} (h : S.init s) : S.Reachable s := ⟨s, h, .refl⟩

theorem Reachable.next {s t : σ} (h : S.Reachable s) (ht : S.next s t) : S.Reachable t := by
  obtain ⟨s₀, h₀, hr⟩ := h
  exact ⟨s₀, h₀, hr.tail ht⟩

theorem Reachable.run {s t : σ} (h : S.Reachable s) (ht : Relation.ReflTransGen S.next s t) :
    S.Reachable t := by
  obtain ⟨s₀, h₀, hr⟩ := h
  exact ⟨s₀, h₀, hr.trans ht⟩

/-- Every step of the system is a run of `actions`. -/
def RunsOf (S : TransitionSystem σ) (actions : σ → σ → Prop) : Prop :=
  ∀ s t, S.next s t → Relation.ReflTransGen actions s t

theorem RunsOf.preserves {actions : σ → σ → Prop} (h : S.RunsOf actions)
    (hP : Preserves actions P) : Preserves S.next P :=
  fun s t ht => hP.run (h s t ht)

/-- A run of the system is a run of the actions. -/
theorem RunsOf.run {actions : σ → σ → Prop} (h : S.RunsOf actions) {s t : σ}
    (hr : Relation.ReflTransGen S.next s t) : Relation.ReflTransGen actions s t := by
  induction hr with
  | refl => exact .refl
  | tail _ ht ih => exact ih.trans (h _ _ ht)

end TransitionSystem

end Transition

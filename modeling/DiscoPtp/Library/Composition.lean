import DiscoPtp.Library.Transition

/-!
# Components side by side

Components that run side by side and see each other's states. In one step of the whole every
component does a step of its own, which may depend on the states in which the components end it: so
the steps of different components may overlap.

## Main definitions

* `Composition`, `Composition.system`: components, and the system that they are together

## Main results

* `Composition.component`: the run of one component
* `Composition.invariant`: the rule for what each component guarantees while it relies on the others
-/

namespace Transition

/-- Components: their initial states, and their steps in a world. -/
structure Composition (ι σ : Type*) where
  init : ι → σ → Prop
  step : (ι → σ) → ι → σ → σ → Prop

namespace Composition

variable {ι σ : Type*} {C : Composition ι σ} {w : ι → σ}

/-- The components together. -/
def system (C : Composition ι σ) : TransitionSystem (ι → σ) where
  init w := ∀ i, C.init i (w i)
  next w w' := ∀ i, C.step w' i (w i) (w' i)

/-- **The run of one component**: where the steps of a component are steps of a system or none,
it is in a reachable state of that system. -/
theorem component {i : ι} {S : TransitionSystem σ} (hinit : ∀ s, C.init i s → S.init s)
    (hstep : ∀ w s t, C.step w i s t → t = s ∨ S.next s t) (hw : C.system.Reachable w) :
    S.Reachable (w i) := by
  obtain ⟨w₀, h₀, hr⟩ := hw
  induction hr with
  | refl => exact .init (hinit _ (h₀ i))
  | tail _ hnext ih =>
    rcases hstep _ _ _ (hnext i) with heq | hs
    · rw [heq]
      exact ih
    · exact ih.next hs

/-- **What each component guarantees**: it holds at the beginning, the steps of the others do not
end it, and its own steps keep it in any world that can be reached. -/
theorem invariant {I : (ι → σ) → ι → σ → Prop}
    (hinit : ∀ w, C.system.init w → ∀ i, I w i (w i))
    (hrely : ∀ w w', C.system.Reachable w → C.system.next w w' → ∀ i s, I w i s → I w' i s)
    (hstep : ∀ w i s t, C.system.Reachable w → C.step w i s t → I w i s → I w i t)
    (hw : C.system.Reachable w) (i : ι) : I w i (w i) := by
  obtain ⟨w₀, h₀, hr⟩ := hw
  induction hr with
  | refl => exact hinit _ h₀ i
  | tail hr hnext ih =>
    have hbefore : C.system.Reachable _ := ⟨w₀, h₀, hr⟩
    exact hstep _ i _ _ (hbefore.next hnext) (hnext i) (hrely _ _ hbefore hnext i _ ih)

end Composition

end Transition

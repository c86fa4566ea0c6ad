import Mathlib

/-!
# Loops

A loop that runs its body at least once and then as long as a test holds. The body may differ from
round to round, and the loop is cut off after a number of rounds.

## Main definitions

* `doWhile`: the loop

## Main results

* `doWhile_ends`: a loop whose rounds lower a measure ends
-/

namespace Loop

variable {σ : Type*}

/-- The loop with the bodies `body 0`, `body 1`, … and the test `again` after each round, cut off
after `fuel` rounds. -/
def doWhile (again : σ → Bool) : (ℕ → σ → σ) → ℕ → σ → Option σ
  | _, 0, _ => none
  | body, fuel + 1, s =>
    if again (body 0 s) then doWhile again (fun n => body (n + 1)) fuel (body 0 s)
    else some (body 0 s)

/-- **The loop rule.** Every round keeps the invariant, and lowers the measure if the loop goes
on. -/
theorem doWhile_ends (again : σ → Bool) (P : σ → Prop) (μ : σ → ℕ) (body : ℕ → σ → σ)
    (hkeeps : ∀ n s, P s → P (body n s))
    (hlowers : ∀ n s, P s → again (body n s) = true → μ (body n s) < μ s) {s : σ} (hs : P s) :
    ∃ fuel t, doWhile again body fuel s = some t ∧ P t ∧ again t = false := by
  -- induction on the measure; the bodies left are again bodies of such a loop
  induction hμ : μ s using Nat.strong_induction_on generalizing s body with
  | _ m ih =>
    by_cases hagain : again (body 0 s) = true
    · have hlt : μ (body 0 s) < m := hμ ▸ hlowers 0 s hs hagain
      obtain ⟨fuel, t, hrun, ht⟩ := ih _ hlt (fun n => body (n + 1)) (fun n => hkeeps (n + 1))
        (fun n => hlowers (n + 1)) (hkeeps 0 s hs) rfl
      refine ⟨fuel + 1, t, ?_, ht⟩
      rw [doWhile, if_pos hagain, hrun]
    · refine ⟨1, body 0 s, ?_, hkeeps 0 s hs, ?_⟩
      · rw [doWhile, if_neg hagain]
      · exact Bool.not_eq_true _ ▸ hagain

end Loop

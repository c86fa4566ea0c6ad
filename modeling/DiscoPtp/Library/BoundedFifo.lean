import Mathlib

/-!
# Bounded queues

A first-in first-out queue of bounded capacity, as a list with the oldest element first, and the
runs of its operations.

## Main definitions

* `Op`, `Result`: the operations and what they return
* `step`: the queue
* `run`: a sequence of operations on any implementation of the queue
* `accepted`, `removed`: the elements that have gone in and come out

## Main results

* `run_simulates`: an implementation that agrees with the queue step by step agrees on all runs
* `accepted_eq`: what has gone in has come out in the same order, or is still there
-/

namespace BoundedFifo

variable {α σ τ : Type*}

/-- The operations. -/
inductive Op (α : Type*)
  | put (x : α)
  | get
  | empty
  | check

/-- Their results: whether the element was accepted, the oldest element, the elements removed, and
whether there are any. -/
inductive Result (α : Type*)
  | put (accepted : Bool)
  | get (x : Option α)
  | empty (xs : List α)
  | check (any : Bool)

/-- **The queue** with the given capacity. -/
def step (capacity : ℕ) (l : List α) : Op α → Result α × List α
  | .put x => if l.length = capacity then (.put false, l) else (.put true, l ++ [x])
  | .get => (.get l.head?, l.tail)
  | .empty => (.empty l, [])
  | .check => (.check (!l.isEmpty), l)

/-- The results of a sequence of operations, and the state after it. -/
def run (step : σ → Op α → Result α × σ) (s : σ) : List (Op α) → List (Result α) × σ
  | [] => ([], s)
  | op :: ops =>
    let r := step s op
    let rs := run step r.2 ops
    (r.1 :: rs.1, rs.2)

/-- The elements that an operation has put into the queue. -/
def Op.accepted : Op α → Result α → List α
  | .put x, .put true => [x]
  | _, _ => []

/-- The elements that have left the queue. -/
def Result.removed : Result α → List α
  | .get x => x.toList
  | .empty xs => xs
  | _ => []

/-- The elements accepted in a run, in order. -/
def accepted (ops : List (Op α)) (results : List (Result α)) : List α :=
  (List.zipWith Op.accepted ops results).flatten

/-- The elements removed in a run, in order. -/
def removed (results : List (Result α)) : List α := results.flatMap Result.removed

/-- An implementation with the results of `step'` in states related by `view`. -/
theorem run_simulates {step : σ → Op α → Result α × σ} {step' : τ → Op α → Result α × τ}
    (view : σ → τ) (h : ∀ s op, step' (view s) op = ((step s op).1, view (step s op).2))
    (ops : List (Op α)) (s : σ) :
    run step' (view s) ops = ((run step s ops).1, view (run step s ops).2) := by
  induction ops generalizing s with
  | nil => rfl
  | cons op ops ih => simp only [run, h, ih]

/-- One operation: what was there and goes in is what comes out and is there afterwards. -/
theorem step_accepted (capacity : ℕ) (l : List α) (op : Op α) :
    l ++ op.accepted (step capacity l op).1 =
      (step capacity l op).1.removed ++ (step capacity l op).2 := by
  cases op with
  | put x =>
    unfold step
    dsimp only
    split <;> simp [Op.accepted, Result.removed]
  | get => cases l <;> simp [step, Op.accepted, Result.removed]
  | empty => simp [step, Op.accepted, Result.removed]
  | check => simp [step, Op.accepted, Result.removed]

/-- **First in, first out**: what has been accepted has been removed in the same order, each element
once, or is still there. -/
theorem accepted_eq (capacity : ℕ) (ops : List (Op α)) (l : List α) :
    l ++ accepted ops (run (step capacity) l ops).1 =
      removed (run (step capacity) l ops).1 ++ (run (step capacity) l ops).2 := by
  induction ops generalizing l with
  | nil => simp [accepted, removed, run]
  | cons op ops ih =>
    have hstep := step_accepted capacity l op
    have hrest := ih (step capacity l op).2
    simp only [accepted, removed, run, List.zipWith_cons_cons, List.flatten_cons,
      List.flatMap_cons] at hrest ⊢
    rw [← List.append_assoc, hstep, List.append_assoc, hrest, List.append_assoc]

end BoundedFifo

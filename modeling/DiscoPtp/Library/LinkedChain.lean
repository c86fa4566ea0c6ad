import Mathlib

/-!
# Linked chains

Chains of nodes in a heap, each of which holds the address of the next one.

## Main definitions

* `Linked next heap start l`: from `start` on, the nodes at `l` are linked in this order
* `forEach`: a loop over a chain that updates every node

## Main results

* `Linked.congr`: a chain depends only on the links of its nodes
* `Linked.snoc`: a node linked to the last one continues the chain
* `forEach_linked`: the loop updates exactly the nodes of the chain, and ends
-/

namespace LinkedChain

variable {Loc Node : Type*}

/-- The chain from `start` visits the nodes at `l` and ends. -/
def Linked (next : Node → Option Loc) (heap : Loc → Node) : Option Loc → List Loc → Prop
  | start, [] => start = none
  | start, p :: l => start = some p ∧ Linked next heap (next (heap p)) l

variable {next : Node → Option Loc} {heap heap' : Loc → Node} {start : Option Loc} {l : List Loc}

@[simp] theorem linked_nil : Linked next heap start [] ↔ start = none := Iff.rfl

@[simp] theorem linked_cons {p : Loc} :
    Linked next heap start (p :: l) ↔ start = some p ∧ Linked next heap (next (heap p)) l :=
  Iff.rfl

theorem Linked.congr (h : Linked next heap start l)
    (hnext : ∀ p ∈ l, next (heap' p) = next (heap p)) : Linked next heap' start l := by
  induction l generalizing start with
  | nil => exact h
  | cons p l ih =>
    obtain ⟨hstart, hrest⟩ := h
    refine ⟨hstart, ?_⟩
    rw [hnext p List.mem_cons_self]
    exact ih hrest fun q hq => hnext q (List.mem_cons_of_mem p hq)

theorem Linked.start_eq_none_iff (h : Linked next heap start l) : start = none ↔ l = [] := by
  cases l with
  | nil => exact iff_of_true h rfl
  | cons p l =>
    obtain ⟨rfl, -⟩ := h
    simp

/-- The last node `e` is linked to a new one. -/
theorem Linked.snoc {e p : Loc} (h : Linked next heap start (l ++ [e]))
    (hkept : ∀ q ∈ l, next (heap' q) = next (heap q)) (he : next (heap' e) = some p)
    (hp : next (heap' p) = none) : Linked next heap' start (l ++ [e] ++ [p]) := by
  induction l generalizing start with
  | nil =>
    obtain ⟨hstart, -⟩ := h
    exact ⟨hstart, he, hp⟩
  | cons q l ih =>
    obtain ⟨hstart, hrest⟩ := h
    refine ⟨hstart, ?_⟩
    rw [hkept q List.mem_cons_self]
    exact ih hrest fun r hr => hkept r (List.mem_cons_of_mem q hr)

variable [DecidableEq Loc]

/-- `for (p = start; p; p = p->next) *p = f(*p)`, cut off after `fuel` tests. -/
def forEach (next : Node → Option Loc) (f : Node → Node) :
    ℕ → Option Loc → (Loc → Node) → Option (Loc → Node)
  | 0, _, _ => none
  | _ + 1, none, heap => some heap
  | fuel + 1, some p, heap =>
    forEach next f fuel (next (f (heap p))) (Function.update heap p (f (heap p)))

theorem forEach_eq {f : Node → Node} (hf : ∀ x, next (f x) = next x)
    (h : Linked next heap start l) (hdistinct : l.Nodup) {fuel : ℕ} (hfuel : l.length < fuel) :
    forEach next f fuel start heap = some fun q => if q ∈ l then f (heap q) else heap q := by
  -- induction on the chain: after the first node the loop runs on the rest of it
  induction l generalizing start heap fuel with
  | nil =>
    obtain ⟨fuel, rfl⟩ := Nat.exists_eq_succ_of_ne_zero (Nat.ne_of_gt hfuel)
    rw [linked_nil] at h
    rw [h]
    simp [forEach]
  | cons p l ih =>
    obtain ⟨fuel, rfl⟩ := Nat.exists_eq_succ_of_ne_zero (Nat.ne_of_gt (Nat.zero_lt_of_lt hfuel))
    obtain ⟨rfl, hrest⟩ := h
    obtain ⟨hp, hdistinct⟩ := List.nodup_cons.mp hdistinct
    have hother : ∀ q, q ≠ p → Function.update heap p (f (heap p)) q = heap q :=
      fun q hq => Function.update_of_ne hq _ _
    have hlinked : Linked next (Function.update heap p (f (heap p))) (next (f (heap p))) l := by
      rw [hf]
      refine hrest.congr fun q hq => ?_
      rw [hother q fun heq => hp (heq ▸ hq)]
    rw [forEach, ih hlinked hdistinct (by simpa using hfuel)]
    congr 1
    funext q
    by_cases hq : q = p
    · subst hq
      simp [hp]
    · rw [hother q hq]
      simp [hq]

/-- **The loop rule** for chains of distinct nodes. -/
theorem forEach_linked {f : Node → Node} (hf : ∀ x, next (f x) = next x)
    (h : Linked next heap start l) (hdistinct : l.Nodup) {fuel : ℕ} (hfuel : l.length < fuel) :
    ∃ heap', forEach next f fuel start heap = some heap' ∧ (∀ q ∈ l, heap' q = f (heap q)) ∧
      ∀ q ∉ l, heap' q = heap q :=
  ⟨_, forEach_eq hf h hdistinct hfuel, fun _ hq => if_pos hq, fun _ hq => if_neg hq⟩

end LinkedChain

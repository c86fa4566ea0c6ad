import DiscoPtp.Model.Buffers
import DiscoPtp.Library.RingBuffer
import DiscoPtp.Library.BoundedFifo

/-!
# Packet queues

The ring of `net.c` is a first-in first-out queue for three buffers. With the callbacks, `netRecv`
and the flush every buffer handed to a callback has one owner until it is freed.

## Main definitions

* `BufQueue.contents`: the buffers in a queue, the oldest one first
* `BufQueue.step`: the queue operations with their results
* `BufferState.owned`: the buffers not yet freed, with their owners
* `BufferState.Disposes`: what becomes of a buffer at each of its ends

## Main results

* `BufQueue.step_contents`: the ring refines the bounded queue
* `BufferState.disposes`: a refused, a copied and a flushed buffer is freed
* `preserves_balanced`: what has been handed over has been freed or is owned
* `queues_own_buffers`: the ring is a bounded queue, and every buffer is freed once and never while
  it is queued
-/

namespace Ptpd

open BoundedFifo

/-! ## The ring -/

section Queue

variable {α : Type} {queue : BufQueue α}

/-- The buffers in the queue, the oldest one first. -/
def BufQueue.contents (queue : BufQueue α) : List α :=
  RingBuffer.contents queue.pbuf queue.tail queue.head

/-- `PBUF_QUEUE_SIZE - 1`. -/
def queueCapacity : ℕ := 3

/-- A queue operation. `netQEmpty` has no result; it frees buffers. -/
def BufQueue.step (queue : BufQueue α) : Op α → Result α × BufQueue α
  | .put p => (.put (netQPut queue p).1, (netQPut queue p).2)
  | .get => (.get (netQGet queue).1, (netQGet queue).2)
  | .empty => (.empty (netQEmptyFrees queue), netQEmpty queue)
  | .check => (.check (netQCheck queue), queue)

@[simp] theorem netQInit_contents (queue : BufQueue α) : (netQInit queue).contents = [] :=
  RingBuffer.contents_self

/-- `netQPut` fails exactly when three buffers are held. -/
theorem netQPut_contents (queue : BufQueue α) (p : α) :
    (netQPut queue p).1 = decide (queue.contents.length ≠ queueCapacity) ∧
      (netQPut queue p).2.contents =
        if queue.contents.length = queueCapacity then queue.contents
        else queue.contents ++ [p] := by
  have hfull : queue.head + 1 = queue.tail ↔ queue.contents.length = queueCapacity :=
    RingBuffer.full_iff
  unfold netQPut
  by_cases h : queue.head + 1 = queue.tail
  · rw [if_neg (not_not.mpr h), if_pos (hfull.mp h), decide_eq_false (not_not.mpr (hfull.mp h))]
    exact ⟨rfl, rfl⟩
  · rw [if_pos h, if_neg (mt hfull.mpr h), decide_eq_true (mt hfull.mpr h)]
    exact ⟨rfl, RingBuffer.contents_put h p⟩

theorem netQGet_contents (queue : BufQueue α) :
    (netQGet queue).1 = queue.contents.head? ∧
      (netQGet queue).2.contents = queue.contents.tail := by
  unfold netQGet
  by_cases h : queue.tail = queue.head
  · have hempty : queue.contents = [] := RingBuffer.empty_iff.mp h
    rw [if_neg (not_not.mpr h)]
    exact ⟨by rw [hempty]; rfl, by rw [hempty]; rfl⟩
  · have hnext : queue.contents = _ := RingBuffer.contents_get h
    rw [if_pos h, hnext]
    exact ⟨rfl, rfl⟩

theorem netQCheck_contents (queue : BufQueue α) : netQCheck queue = !queue.contents.isEmpty := by
  have hempty : queue.tail = queue.head ↔ queue.contents = [] := RingBuffer.empty_iff
  unfold netQCheck
  by_cases h : queue.tail = queue.head
  · simp [h, hempty.mp h]
  · simp [h, mt hempty.mpr h]

/-- The loop of `netQEmpty` frees the buffers in order. -/
theorem netQEmptyLoop_contents (n : ℕ) (queue : BufQueue α) :
    netQEmptyLoopFrees n queue = queue.contents.take n ∧
      (netQEmptyLoop n queue).contents = queue.contents.drop n := by
  induction n generalizing queue with
  | zero => exact ⟨rfl, rfl⟩
  | succ n ih =>
    unfold netQEmptyLoopFrees netQEmptyLoop
    -- each round frees the oldest buffer
    by_cases h : queue.tail = queue.head
    · have hempty : queue.contents = [] := RingBuffer.empty_iff.mp h
      rw [if_neg (not_not.mpr h), if_neg (not_not.mpr h), hempty]
      exact ⟨rfl, rfl⟩
    · have hnext : queue.contents =
          queue.pbuf (queue.tail + 1) :: { queue with tail := queue.tail + 1 }.contents :=
        RingBuffer.contents_get h
      obtain ⟨hfrees, hrest⟩ := ih { queue with tail := queue.tail + 1 }
      rw [if_pos h, if_pos h, hnext, hfrees, hrest]
      exact ⟨rfl, rfl⟩

/-- `netQEmpty` frees everything in the queue. -/
theorem netQEmpty_contents (queue : BufQueue α) :
    netQEmptyFrees queue = queue.contents ∧ (netQEmpty queue).contents = [] := by
  have hlength : queue.contents.length ≤ 3 := RingBuffer.length_contents_le
  obtain ⟨hfrees, hrest⟩ := netQEmptyLoop_contents 3 queue
  exact ⟨hfrees.trans (List.take_of_length_le hlength),
    hrest.trans (List.drop_of_length_le hlength)⟩

/-- **The ring refines the bounded queue.** -/
theorem BufQueue.step_contents (queue : BufQueue α) (op : Op α) :
    BoundedFifo.step queueCapacity queue.contents op =
      ((queue.step op).1, (queue.step op).2.contents) := by
  -- each operation of the ring is one of the bounded queue of its contents
  cases op with
  | put p =>
    obtain ⟨hresult, hcontents⟩ := netQPut_contents queue p
    simp only [BoundedFifo.step, BufQueue.step, hresult, hcontents]
    split <;> simp_all
  | get =>
    obtain ⟨hresult, hcontents⟩ := netQGet_contents queue
    rw [BoundedFifo.step, BufQueue.step, hresult, hcontents]
  | empty =>
    obtain ⟨hresult, hcontents⟩ := netQEmpty_contents queue
    rw [BoundedFifo.step, BufQueue.step, hresult, hcontents]
  | check => rw [BoundedFifo.step, BufQueue.step, netQCheck_contents]

end Queue

/-! ## Owners -/

section Owners

variable {Ptr : Type} {s t : BufferState Ptr}

/-- The buffers in the queues. -/
def BufferState.queued (s : BufferState Ptr) : List Ptr :=
  (s.queue .eventQ).contents ++ (s.queue .generalQ).contents

/-- The buffers not yet freed: in a queue, in a callback or in `netRecv`. -/
def BufferState.owned (s : BufferState Ptr) : List Ptr :=
  s.queued ++ (s.refused.toList ++ s.held.toList)

/-- Every end of `netRecv` frees the buffer once. -/
theorem receiveDatagram_freed (p : Pbuf) (rxTimeStamp : TimeInternal) (buf : Buf)
    (time : TimeInternal) : (receiveDatagram p rxTimeStamp buf time).freed = [p] := by
  unfold receiveDatagram
  split
  · rfl
  split <;> rfl

theorem BufferState.finish_freed (datagram : Pbuf) (rxTimeStamp : TimeInternal) (buf : Buf)
    (time : TimeInternal) (s : BufferState Ptr) :
    (s.finish datagram rxTimeStamp buf time).freed = s.held.toList ++ s.freed := by
  simp [BufferState.finish, receiveDatagram_freed]

theorem BufferState.flush_freed (q : ReceiveQueue) (s : BufferState Ptr) :
    (s.flush q).freed = (s.queue q).contents.reverse ++ s.freed := by
  simp [BufferState.flush, (netQEmpty_contents (s.queue q)).1]

/-- What becomes of the buffers. A callback keeps the one it was given exactly if the queue is full,
and returns with it freed; `netRecv` takes the oldest one and returns with it freed; the flush frees
all of the queue in order. -/
structure BufferState.Disposes (s : BufferState Ptr) : Prop where
  offered (q : ReceiveQueue) (p : Ptr) :
    if (s.queue q).contents.length = queueCapacity then
      (s.receive q p).refused = some p ∧
        ((s.receive q p).queue q).contents = (s.queue q).contents
    else
      (s.receive q p).refused = none ∧
        ((s.receive q p).queue q).contents = (s.queue q).contents ++ [p]
  returned : s.freeRefused.refused = none ∧ s.freeRefused.freed = s.refused.toList ++ s.freed
  taken (q : ReceiveQueue) :
    (s.take q).held = (s.queue q).contents.head? ∧
      ((s.take q).queue q).contents = (s.queue q).contents.tail
  copied (datagram : Pbuf) (rxTimeStamp : TimeInternal) (buf : Buf) (time : TimeInternal) :
    (s.finish datagram rxTimeStamp buf time).held = none ∧
      (s.finish datagram rxTimeStamp buf time).freed = s.held.toList ++ s.freed
  flushed (q : ReceiveQueue) :
    ((s.flush q).queue q).contents = [] ∧
      (s.flush q).freed = (s.queue q).contents.reverse ++ s.freed

/-- **Every end of a buffer frees it.** -/
theorem BufferState.disposes (s : BufferState Ptr) : s.Disposes where
  offered q p := by
    obtain ⟨hresult, hcontents⟩ := netQPut_contents (s.queue q) p
    split
    · simp_all [BufferState.receive]
    · simp_all [BufferState.receive]
  returned := ⟨rfl, rfl⟩
  taken q := by
    obtain ⟨hresult, hcontents⟩ := netQGet_contents (s.queue q)
    simp [BufferState.take, hresult, hcontents]
  copied datagram rxTimeStamp buf time := ⟨rfl, s.finish_freed datagram rxTimeStamp buf time⟩
  flushed q := by
    refine ⟨?_, s.flush_freed q⟩
    simp [BufferState.flush, (netQEmpty_contents (s.queue q)).2]

variable [DecidableEq Ptr]

/-- What has been handed over has been freed or is owned, as often. -/
def BufferState.Balanced (s : BufferState Ptr) : Prop :=
  ∀ p, s.handed.count p = s.freed.count p + s.owned.count p

theorem count_owned (s : BufferState Ptr) (p : Ptr) :
    s.owned.count p = s.queued.count p + (s.refused.toList.count p + s.held.toList.count p) := by
  rw [BufferState.owned, List.count_append, List.count_append]

/-- Replacing one queue. -/
theorem count_queued_update (q : ReceiveQueue) (queue : BufQueue Ptr) (p : Ptr)
    (ht : t.queue = Function.update s.queue q queue) :
    t.queued.count p + (s.queue q).contents.count p =
      s.queued.count p + queue.contents.count p := by
  unfold BufferState.queued
  rw [ht]
  cases q
  · simp [List.count_append]
    omega
  · simp [List.count_append]
    omega

/-- **Every step of the two tasks keeps the balance.** -/
theorem preserves_balanced : Transition.Preserves (@BufferStep Ptr) BufferState.Balanced := by
  intro s t h hs p
  have hp := hs p
  rw [count_owned] at hp ⊢
  cases h with
  | receive q x _ hrefused =>
    obtain ⟨hresult, hcontents⟩ := netQPut_contents (s.queue q) x
    have hqueued := count_queued_update (s := s) (t := s.receive q x) q _ p rfl
    have hhanded : (s.receive q x).handed.count p = s.handed.count p + [x].count p := by
      rw [← List.count_append, List.count_append, add_comm, ← List.count_append]
      rfl
    have hnew : (s.receive q x).refused = if (netQPut (s.queue q) x).1 then none else some x := rfl
    have hfreed : (s.receive q x).freed = s.freed := rfl
    have hheld : (s.receive q x).held = s.held := rfl
    rw [hhanded, hnew, hfreed, hheld, hresult]
    rw [hcontents] at hqueued
    rw [hrefused] at hp
    by_cases hfull : (s.queue q).contents.length = queueCapacity
    · rw [if_pos hfull] at hqueued
      simp [hfull] at hp ⊢
      omega
    · rw [if_neg hfull, List.count_append] at hqueued
      simp [hfull] at hp ⊢
      omega
  | freeRefused =>
    have hfreed : s.freeRefused.freed = s.refused.toList ++ s.freed := rfl
    have hnone : s.freeRefused.refused = none := rfl
    have hqueued : s.freeRefused.queued = s.queued := rfl
    have hhanded : s.freeRefused.handed = s.handed := rfl
    have hheld : s.freeRefused.held = s.held := rfl
    rw [hfreed, hnone, hqueued, hhanded, hheld]
    simp only [List.count_append, Option.toList_none, List.count_nil]
    omega
  | take q _ hheld =>
    obtain ⟨hresult, hcontents⟩ := netQGet_contents (s.queue q)
    have hqueued := count_queued_update (s := s) (t := s.take q) q _ p rfl
    have hfreed : (s.take q).freed = s.freed := rfl
    have hrefused : (s.take q).refused = s.refused := rfl
    have hhanded : (s.take q).handed = s.handed := rfl
    have htaken : (s.take q).held = (netQGet (s.queue q)).1 := rfl
    -- the first buffer of the queue goes to `netRecv`
    have hsplit : (s.queue q).contents.count p =
        (s.queue q).contents.head?.toList.count p + (s.queue q).contents.tail.count p := by
      rw [← List.count_append]
      cases (s.queue q).contents <;> rfl
    rw [hfreed, hrefused, hhanded, htaken, hresult]
    rw [hcontents] at hqueued
    rw [hheld, Option.toList_none, List.count_nil] at hp
    omega
  | finish datagram rxTimeStamp buf time =>
    have hfreed := s.finish_freed datagram rxTimeStamp buf time
    have hqueued : (s.finish datagram rxTimeStamp buf time).queued = s.queued := rfl
    have hrefused : (s.finish datagram rxTimeStamp buf time).refused = s.refused := rfl
    have hhanded : (s.finish datagram rxTimeStamp buf time).handed = s.handed := rfl
    have hnone : (s.finish datagram rxTimeStamp buf time).held = none := rfl
    rw [hfreed, hqueued, hrefused, hhanded, hnone]
    simp only [List.count_append, Option.toList_none, List.count_nil]
    omega
  | flush q _ hheld =>
    have hcontents := (netQEmpty_contents (s.queue q)).2
    have hqueued := count_queued_update (s := s) (t := s.flush q) q _ p rfl
    have hfreed := s.flush_freed q
    have hrefused : (s.flush q).refused = s.refused := rfl
    have hhanded : (s.flush q).handed = s.handed := rfl
    have hheld' : (s.flush q).held = s.held := rfl
    rw [hfreed, hrefused, hhanded, hheld']
    rw [hcontents, List.count_nil] at hqueued
    rw [List.count_append, List.count_reverse]
    omega

/-- **Who owns a buffer**: in every reachable state, every buffer handed over has been freed as
often or is owned. -/
theorem balanced_of_reachable (h : (netBuffers Ptr).Reachable s) : s.Balanced := by
  obtain ⟨s₀, ⟨⟨queue, hqueue⟩, hrefused, hheld, hhanded, hfreed⟩, hr⟩ := h
  refine preserves_balanced.run hr fun p => ?_
  simp [BufferState.owned, BufferState.queued, hqueue, hrefused, hheld, hhanded, hfreed]

/-- A step that frees a buffer, which was handed over only once since it was freed before, frees it
once; nobody owns it afterwards. -/
theorem BufferStep.frees (h : BufferStep s t) (hs : s.Balanced) {p : Ptr}
    (honce : s.handed.count p ≤ s.freed.count p + 1) (hfrees : s.freed.count p < t.freed.count p) :
    t.freed.count p = s.freed.count p + 1 ∧ p ∉ t.owned := by
  have hbalance := preserves_balanced s t h hs p
  have hhanded : t.handed = s.handed := by
    cases h with
    | receive q x _ hrefused => exact absurd hfrees (lt_irrefl _)
    | freeRefused | take | finish | flush => rfl
  rw [hhanded] at hbalance
  have hzero : t.owned.count p = 0 := by omega
  exact ⟨by omega, List.count_eq_zero.mp hzero⟩

/-- **The packet queue is a bounded queue that owns its buffers.** Every sequence of queue
operations after `netQInit` has the results of a first-in first-out queue for three buffers: what
has been accepted has come out in the same order, each buffer once, or is still there. A callback
returns with a refused buffer freed, `netRecv` with the one it has taken, and the flush frees all of
its queue. In every interleaving of callbacks, `netRecv` and flushes every buffer handed over has
been freed exactly as often, or is owned by a queue, a callback or `netRecv`; and no buffer is freed
twice, or while anyone owns it. -/
theorem queues_own_buffers :
    (∀ (queue : BufQueue Ptr) (ops : List (Op Ptr)),
      (run BufQueue.step (netQInit queue) ops).1 =
          (run (BoundedFifo.step queueCapacity) [] ops).1 ∧
        accepted ops (run BufQueue.step (netQInit queue) ops).1 =
          removed (run BufQueue.step (netQInit queue) ops).1 ++
            (run BufQueue.step (netQInit queue) ops).2.contents) ∧
      (∀ s : BufferState Ptr, s.Disposes) ∧
      ∀ s : BufferState Ptr, (netBuffers Ptr).Reachable s →
        (∀ p, s.handed.count p = s.freed.count p + s.owned.count p) ∧
          ∀ t, BufferStep s t → ∀ p, s.handed.count p ≤ s.freed.count p + 1 →
            s.freed.count p < t.freed.count p →
              t.freed.count p = s.freed.count p + 1 ∧ p ∉ t.owned := by
  refine ⟨?_, BufferState.disposes, ?_⟩
  · intro queue ops
    -- the ring is simulated by the bounded queue, whose accounts are those of the library
    have hsimulates := run_simulates BufQueue.contents
      (fun queue op => (queue.step_contents op : BoundedFifo.step _ _ op = _)) ops
      (netQInit queue)
    have hfifo := accepted_eq queueCapacity ops ([] : List Ptr)
    rw [netQInit_contents] at hsimulates
    rw [hsimulates, List.nil_append] at hfifo
    exact ⟨(congrArg Prod.fst hsimulates).symm, hfifo⟩
  · intro s hs
    have hbalanced := balanced_of_reachable hs
    exact ⟨hbalanced, fun t ht p honce hfrees => ht.frees hbalanced honce hfrees⟩

/-- A callback hands over a buffer, and `netRecv` takes it. -/
def takenBuffer : BufferState ℕ :=
  (BufferState.receive .eventQ 7
    { queue := fun _ => netQInit default, refused := none, held := none, handed := []
      freed := [] }).take .eventQ

theorem takenBuffer_reachable : (netBuffers ℕ).Reachable takenBuffer :=
  .next (.next (.init ⟨⟨_, rfl⟩, rfl, rfl, rfl, rfl⟩) (.receive .eventQ 7 _ rfl))
    (.take .eventQ _ rfl)

/-- `netRecv` frees it. -/
theorem queues_own_buffers_takenBuffer :
    let t := takenBuffer.finish default default default default
    t.freed.count 7 = takenBuffer.freed.count 7 + 1 ∧ 7 ∉ t.owned :=
  (queues_own_buffers.2.2 takenBuffer takenBuffer_reachable).2 _
    (.finish default default default default takenBuffer) 7 (by decide) (by decide)

end Owners

end Ptpd

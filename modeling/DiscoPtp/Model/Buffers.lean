import DiscoPtp.Model.Reception
import DiscoPtp.Library.Transition

/-!
# Owners of received buffers

The way of a `pbuf` through `net.c`, by its address: the network thread runs the receive callbacks,
the PTP task runs `netRecv` and flushes a queue. Each queue operation is atomic, and the other task
may run between any two of them and `pbuf_free`.

## Main definitions

* `BufferState`: who holds which `pbuf`, and the calls of `pbuf_free`
* `BufferStep`, `netBuffers`: the steps of the two tasks
-/

namespace Ptpd

/-- The two receive queues. -/
inductive ReceiveQueue
  | eventQ
  | generalQ
  deriving DecidableEq

/-- Who holds the `pbuf`s. -/
structure BufferState (Ptr : Type) where
  queue : ReceiveQueue → BufQueue Ptr
  /-- The `pbuf` that a callback has offered in vain and not yet freed. -/
  refused : Option Ptr
  /-- The `pbuf` that `netRecv` has taken and not yet freed. -/
  held : Option Ptr
  /-- The `pbuf`s handed to the callbacks, the last one first. -/
  handed : List Ptr
  /-- The calls of `pbuf_free`, the last one first. -/
  freed : List Ptr

namespace BufferState

variable {Ptr : Type}

/-- `netRecvEventCallback` and `netRecvGeneralCallback` up to the test of `netQPut`. -/
def receive (q : ReceiveQueue) (p : Ptr) (s : BufferState Ptr) : BufferState Ptr :=
  let r := netQPut (s.queue q) p
  { s with
    queue := Function.update s.queue q r.2
    refused := if r.1 then none else some p
    handed := p :: s.handed }

/-- `pbuf_free` of a callback. -/
def freeRefused (s : BufferState Ptr) : BufferState Ptr :=
  { s with refused := none, freed := s.refused.toList ++ s.freed }

/-- `netQGet` of `netRecv`. -/
def take (q : ReceiveQueue) (s : BufferState Ptr) : BufferState Ptr :=
  let r := netQGet (s.queue q)
  { s with queue := Function.update s.queue q r.2, held := r.1 }

/-- The rest of `netRecv`, for a `pbuf` with the given contents: every `pbuf_free` is one of the
`pbuf` taken. -/
def finish (datagram : Pbuf) (rxTimeStamp : TimeInternal) (buf : Buf) (time : TimeInternal)
    (s : BufferState Ptr) : BufferState Ptr :=
  let frees := (receiveDatagram datagram rxTimeStamp buf time).freed
  { s with held := none, freed := s.held.toList.flatMap (fun p => frees.map fun _ => p) ++ s.freed }

/-- `netQEmpty`, which frees in the order of the queue. -/
def flush (q : ReceiveQueue) (s : BufferState Ptr) : BufferState Ptr :=
  { s with
    queue := Function.update s.queue q (netQEmpty (s.queue q))
    freed := (netQEmptyFrees (s.queue q)).reverse ++ s.freed }

end BufferState

/-- What the two tasks do next. A callback returns before the next one is called, and `netRecv`
before the PTP task goes on. -/
inductive BufferStep {Ptr : Type} : BufferState Ptr → BufferState Ptr → Prop
  | receive (q : ReceiveQueue) (p : Ptr) (s : BufferState Ptr) (h : s.refused = none) :
      BufferStep s (s.receive q p)
  | freeRefused (s : BufferState Ptr) : BufferStep s s.freeRefused
  | take (q : ReceiveQueue) (s : BufferState Ptr) (h : s.held = none) : BufferStep s (s.take q)
  | finish (datagram : Pbuf) (rxTimeStamp : TimeInternal) (buf : Buf) (time : TimeInternal)
      (s : BufferState Ptr) : BufferStep s (s.finish datagram rxTimeStamp buf time)
  | flush (q : ReceiveQueue) (s : BufferState Ptr) (h : s.held = none) : BufferStep s (s.flush q)

/-- The two tasks after `netQInit` of both queues. -/
def netBuffers (Ptr : Type) : Transition.TransitionSystem (BufferState Ptr) where
  init s := (∃ queue : ReceiveQueue → BufQueue Ptr, s.queue = fun q => netQInit (queue q)) ∧
    s.refused = none ∧ s.held = none ∧ s.handed = [] ∧ s.freed = []
  next := BufferStep

end Ptpd

import DiscoPtp.Library.Schedule
import DiscoPtp.Model.EthLibrary
import Mathlib.Logic.Function.Basic

/-!
# Receive buffers

The pool of receive buffers of `ethernetif.c`. The hardware fills buffers that are in descriptors;
the input thread reads the packets, hands them to the stack and gives the descriptors new buffers
from the pool; the stack and the application free the buffers in tasks of their own. Where the pool
is empty the input thread leaves a mark, `RxAllocStatus`, and the next task that frees a buffer
wakes it up.

The descriptors belong to the library, which calls back for each buffer. The first of its calls is
`HAL_ETH_Start_IT`, during which the input thread waits; it is modelled as a call of that thread.

## Main definitions

* `InputPhase`, `Freer`, `FreePhase`: where the input thread stands, and those who free a buffer
* `RxDriver`: the buffers, the mark and the semaphore
* `RxEvent`, `RxDriver.step`: what a task or the hardware does next
* `rxDriver`: the driver as a system of these events
-/

namespace Ptpd

/-- `ETH_RX_BUFFER_CNT`. -/
def ethRxBufferCnt : ℕ := 10

/-- Where the input thread stands in `ethernetif_input_thread`. A packet is the chain of its
buffers. -/
inductive InputPhase
  /-- In `osSemaphoreWait`. -/
  | waiting
  /-- Before the test of `low_level_input`. -/
  | reading
  /-- In the library. -/
  | calling
  /-- In `HAL_ETH_RxAllocateCallback`, before `RxAllocStatus` is set: the pool was empty. -/
  | refused
  /-- In `netif->input`. -/
  | input (packet : List ℕ)
  /-- In `pbuf_free` of a packet that the stack has refused, with the buffers that are left. -/
  | dropping (packet : List ℕ)
  deriving DecidableEq

/-- Who frees buffers: the input thread, and other tasks. -/
inductive Freer
  | input
  | task (n : ℕ)
  deriving DecidableEq

/-- Where a task stands in `pbuf_free_custom`. -/
inductive FreePhase
  | idle
  /-- After `LWIP_MEMPOOL_FREE`. -/
  | freed
  /-- `RxAllocStatus` was set. -/
  | tested
  /-- Before `osSemaphoreRelease`. -/
  | cleared
  deriving DecidableEq

/-- The state of the driver, over a library. -/
structure RxDriver (lib : EthLibrary) where
  thread : InputPhase
  freeing : Freer → FreePhase
  library : lib.State
  /-- `RX_POOL`, with the buffer to be allocated next in front. -/
  pool : List ℕ
  /-- The chain that `HAL_ETH_RxLinkCallback` builds. -/
  chain : List ℕ
  /-- The buffers of the stack and the application. -/
  held : List ℕ
  rxAllocStatus : Bool
  rxPktSemaphore : Bool
  /-- A packet is complete, and the interrupt is still to be served. -/
  interrupt : Bool

/-- What a task or the hardware does next. -/
inductive RxEvent
  /-- A packet that fills `size` buffers is complete. -/
  | receive (size : ℕ)
  /-- `HAL_ETH_RxCpltCallback`, from the interrupt. -/
  | rxCpltCallback
  /-- `osSemaphoreWait` returns. -/
  | waitEnds
  /-- `low_level_input` tests `RxAllocStatus`. -/
  | lowLevelInput
  /-- The library goes on. -/
  | library
  /-- `HAL_ETH_RxAllocateCallback` sets `RxAllocStatus`. -/
  | setStatus
  /-- `netif->input` returns. -/
  | inputEnds (accepted : Bool)
  /-- `LWIP_MEMPOOL_FREE`. -/
  | mempoolFree (freer : Freer) (buffer : ℕ)
  /-- `pbuf_free_custom` tests `RxAllocStatus`. -/
  | testStatus (freer : Freer)
  /-- `pbuf_free_custom` clears `RxAllocStatus`. -/
  | clearStatus (freer : Freer)
  /-- `pbuf_free_custom` releases the semaphore. -/
  | semaphoreRelease (freer : Freer)
  /-- `pbuf_free` of the input thread returns. -/
  | pbufFreeEnds
  deriving DecidableEq

namespace RxDriver

variable {lib : EthLibrary}

/-- The driver when `HAL_ETH_Start_IT` is called. -/
def init (lib : EthLibrary) : RxDriver lib :=
  { thread := .calling
    freeing := fun _ => .idle
    library := lib.start
    pool := List.range ethRxBufferCnt
    chain := []
    held := []
    rxAllocStatus := false
    rxPktSemaphore := false
    interrupt := false }

/-- A task goes on in `pbuf_free_custom`. -/
def goto (s : RxDriver lib) (freer : Freer) (phase : FreePhase) : RxDriver lib :=
  { s with freeing := Function.update s.freeing freer phase }

/-- `HAL_ETH_RxAllocateCallback`, up to the mark. -/
def rxAllocateCallback (s : RxDriver lib) (answer : Option ℕ → lib.State) : RxDriver lib :=
  match s.pool with
  | [] => { s with thread := .refused, library := answer none }
  | buffer :: pool => { s with pool := pool, library := answer (some buffer) }

/-- The input thread with what `low_level_input` has returned, where `[]` stands for `NULL`. -/
def afterInput : List ℕ → InputPhase
  | [] => .waiting
  | buffer :: packet => .input (buffer :: packet)

/-- The library goes on up to its next callback, or returns. -/
def call (s : RxDriver lib) : RxDriver lib :=
  match lib.next s.library with
  | .internal library => { s with library := library }
  | .rxAllocateCallback answer => s.rxAllocateCallback answer
  | .rxLinkCallback buffer library => { s with chain := s.chain ++ [buffer], library := library }
  | .returns false library => { s with thread := .waiting, library := library }
  | .returns true library =>
    { s with thread := afterInput s.chain, chain := [], library := library }

/-- **The steps of the driver.** -/
def step (s : RxDriver lib) : RxEvent → Option (RxDriver lib)
  | .receive size =>
    (lib.receive size s.library).map fun library =>
      { s with library := library, interrupt := true }
  | .rxCpltCallback =>
    if s.interrupt then some { s with interrupt := false, rxPktSemaphore := true } else none
  | .waitEnds =>
    if s.thread = .waiting ∧ s.rxPktSemaphore then
      some { s with thread := .reading, rxPktSemaphore := false }
    else none
  | .lowLevelInput =>
    if s.thread = .reading then
      some
        (if s.rxAllocStatus then { s with thread := .waiting }
        else { s with thread := .calling, library := lib.readData s.library })
    else none
  | .library => if s.thread = .calling then some s.call else none
  | .setStatus =>
    if s.thread = .refused then some { s with thread := .calling, rxAllocStatus := true } else none
  | .inputEnds accepted =>
    match s.thread with
    | .input packet =>
      if accepted then some { s with thread := .reading, held := packet ++ s.held }
      else some { s with thread := .dropping packet }
    | _ => none
  | .mempoolFree .input buffer =>
    match s.thread with
    | .dropping (first :: packet) =>
      if buffer = first ∧ s.freeing .input = .idle then
        some ({ s with thread := .dropping packet, pool := buffer :: s.pool }.goto .input .freed)
      else none
    | _ => none
  | .mempoolFree (.task n) buffer =>
    if buffer ∈ s.held ∧ s.freeing (.task n) = .idle then
      some ({ s with held := s.held.erase buffer, pool := buffer :: s.pool }.goto (.task n) .freed)
    else none
  | .testStatus freer =>
    if s.freeing freer = .freed then
      some (s.goto freer (if s.rxAllocStatus then .tested else .idle))
    else none
  | .clearStatus freer =>
    if s.freeing freer = .tested then
      some ({ s with rxAllocStatus := false }.goto freer .cleared)
    else none
  | .semaphoreRelease freer =>
    if s.freeing freer = .cleared then
      some ({ s with rxPktSemaphore := true }.goto freer .idle)
    else none
  | .pbufFreeEnds =>
    if s.thread = .dropping [] ∧ s.freeing .input = .idle then
      some { s with thread := .reading }
    else none

end RxDriver

/-- The driver over a library. -/
def rxDriver (lib : EthLibrary) : Transition.Eventful (RxDriver lib) RxEvent :=
  { init := .init lib, step := RxDriver.step }

end Ptpd

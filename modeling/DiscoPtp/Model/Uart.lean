import DiscoPtp.Library.Transition

/-!
# UART driver

The transmit half of the UART driver with its message queue. Tasks put octets into the queue and
enable the transmit interrupt when they are done; the interrupt handler takes an octet at a time
and disables the interrupt when there is none.

## Main definitions

* `WritePhase`: where a call of `UART_Write` stands
* `Uart`: the queue, the interrupt enable bit and the data register
* `UartEvent`, `Uart.step`: what a task or the hardware does next
* `Uart.Runs`: runs of the driver whose events satisfy a condition
-/

namespace Ptpd

/-- `UART_QUEUE_SIZE`. -/
def uartQueueSize : ℕ := 256

/-- Where a task stands in `UART_Write`. -/
inductive WritePhase
  | idle
  /-- In the loop, or after it, with these octets left. -/
  | writing (data : List UInt8)
  deriving DecidableEq

/-- The state of the driver. -/
structure Uart where
  /-- The transmit queue, the oldest octet first. -/
  txQueue : List UInt8
  /-- `USART_CR1_TXEIE`. -/
  txeie : Bool
  phase : ℕ → WritePhase
  /-- The octets that `osMessagePut` has accepted, in order. -/
  queued : List UInt8
  /-- The values stored into `TDR`, in order. -/
  transmitted : List UInt8

/-- The driver after `UART_Init`. -/
def Uart.init : Uart :=
  { txQueue := []
    txeie := false
    phase := fun _ => .idle
    queued := []
    transmitted := [] }

/-- What a task or the hardware does next. -/
inductive UartEvent
  /-- A task calls `UART_Write`. -/
  | write (task : ℕ) (data : List UInt8)
  /-- `osMessagePut` of the task succeeds. -/
  | put (task : ℕ)
  /-- `osMessagePut` of the task fails: the queue has been full all the time. -/
  | timeout (task : ℕ)
  /-- The loop of the task has ended: it enables the interrupt and returns. -/
  | finish (task : ℕ)
  /-- `usartHandler` runs with `TXE` set and no error flags. -/
  | interrupt

namespace Uart

/-- A task goes on. -/
def goto (u : Uart) (task : ℕ) (phase : WritePhase) : Uart :=
  { u with phase := Function.update u.phase task phase }

/-- The transmit branch of `usartHandler`. Without a message the value of the event is zero. -/
def usartHandler (u : Uart) : Uart :=
  if u.txeie then
    match u.txQueue with
    | [] => { u with txeie := false, transmitted := u.transmitted ++ [0] }
    | v :: txQueue => { u with txQueue, transmitted := u.transmitted ++ [v] }
  else u

/-- **The steps of the driver.** -/
def step (u : Uart) : UartEvent → Option Uart
  | .write task data =>
    match u.phase task with
    | .idle => some (u.goto task (.writing data))
    | _ => none
  | .put task =>
    match u.phase task with
    | .writing (v :: data) =>
      if u.txQueue.length < uartQueueSize then
        some
          { u.goto task (.writing data) with
            txQueue := u.txQueue ++ [v]
            queued := u.queued ++ [v] }
      else none
    | _ => none
  | .timeout task =>
    match u.phase task with
    | .writing (_ :: _) =>
      if u.txQueue.length < uartQueueSize then none else some (u.goto task .idle)
    | _ => none
  | .finish task =>
    match u.phase task with
    | .writing [] => some { u.goto task .idle with txeie := true }
    | _ => none
  | .interrupt => some u.usartHandler

/-- One step with an event that the condition allows. -/
def Next (C : Uart → UartEvent → Prop) (u u' : Uart) : Prop :=
  ∃ event, C u event ∧ u.step event = some u'

/-- Runs of the driver whose events satisfy the condition. -/
def Runs (C : Uart → UartEvent → Prop) : Transition.TransitionSystem Uart :=
  { init := fun u => u = init, next := Next C }

end Uart

end Ptpd

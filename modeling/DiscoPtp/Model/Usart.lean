import DiscoPtp.Library.Schedule
import DiscoPtp.Model.Uart

/-!
# UART driver, both halves

The receive half of the UART driver, and the interrupt handler as a whole. The handler reads an
octet from the data register and puts it into a queue; the tasks that call `UART_Read` take the
octets from there. The handler returns before its transmit branch when the queue is full, and with
an error flag set it only clears the flags.

The hardware has one data register. An octet that arrives while the last one has not been read is
lost, and the overrun flag is set.

## Main definitions

* `ReadPhase`: where a call of `UART_Read` stands
* `Usart`: the transmit half, the registers and the receive queue
* `UsartEvent`, `Usart.step`: what a task or the hardware does next
* `usart`: the driver as a system of these events
-/

namespace Ptpd

/-- Where a task stands in `UART_Read`. -/
inductive ReadPhase
  | idle
  /-- In the loop, waiting for `UART_Available`, or after it, with this many octets left. -/
  | polling (left : ℕ)
  /-- In `osMessageGet`, with this many octets left after the one it is about to get. -/
  | getting (left : ℕ)
  deriving DecidableEq

/-- The state of the driver. -/
structure Usart where
  tx : Uart
  /-- `RDR`, if `RXNE` is set. -/
  rdr : Option UInt8
  /-- One of the error flags is set. -/
  errorflags : Bool
  /-- The receive queue, the oldest octet first. -/
  rxQueue : List UInt8
  reading : ℕ → ReadPhase
  /-- The octets on the line, in order. -/
  arrived : List UInt8
  /-- The octets that `UART_Read` has stored, with the tasks, in order. -/
  delivered : List (ℕ × UInt8)
  /-- How many octets the calls of a task have asked for. -/
  requested : ℕ → ℕ

/-- The driver after `UART_Init`. -/
def Usart.init : Usart :=
  { tx := .init
    rdr := none
    errorflags := false
    rxQueue := []
    reading := fun _ => .idle
    arrived := []
    delivered := []
    requested := fun _ => 0 }

/-- What a task or the hardware does next. -/
inductive UsartEvent
  /-- An octet arrives, with a parity, framing or noise error or without one. -/
  | arrive (octet : UInt8) (fault : Bool)
  /-- `usartHandler` runs, with `TXE` set or not. -/
  | interrupt (txe : Bool)
  /-- A task calls `UART_Read`. -/
  | read (task len : ℕ)
  /-- The task finds an octet in the queue. -/
  | available (task : ℕ)
  /-- `osMessageGet` of the task returns an octet. -/
  | get (task : ℕ)
  /-- `UART_Read` of the task returns. -/
  | finish (task : ℕ)
  /-- A task goes on in `UART_Write`. -/
  | write (event : UartEvent) (h : event ≠ .interrupt)

namespace Usart

/-- A task goes on in `UART_Read`. -/
def goto (u : Usart) (task : ℕ) (phase : ReadPhase) : Usart :=
  { u with reading := Function.update u.reading task phase }

/-- The transmit branch of `usartHandler`. -/
def transmit (txe : Bool) (u : Usart) : Usart :=
  if txe then { u with tx := u.tx.usartHandler } else u

/-- `usartHandler`. -/
def usartHandler (txe : Bool) (u : Usart) : Usart :=
  if u.errorflags then { u with errorflags := false }
  else
    match u.rdr with
    | none => u.transmit txe
    | some octet =>
      -- `RDR` is read before `osMessagePut` can fail
      if u.rxQueue.length < uartQueueSize then
        transmit txe { u with rdr := none, rxQueue := u.rxQueue ++ [octet] }
      else { u with rdr := none }

/-- The hardware receives an octet. -/
def arrive (octet : UInt8) (fault : Bool) (u : Usart) : Usart :=
  match u.rdr with
  | none =>
    { u with
      rdr := some octet
      errorflags := u.errorflags || fault
      arrived := u.arrived ++ [octet] }
  | some _ => { u with errorflags := true, arrived := u.arrived ++ [octet] }

/-- **The steps of the driver.** -/
def step (u : Usart) : UsartEvent → Option Usart
  | .arrive octet fault => some (u.arrive octet fault)
  | .interrupt txe => some (u.usartHandler txe)
  | .read task len =>
    match u.reading task with
    | .idle =>
      some
        { u.goto task (.polling len) with
          requested := Function.update u.requested task (u.requested task + len) }
    | _ => none
  | .available task =>
    match u.reading task, u.rxQueue with
    | .polling (left + 1), _ :: _ => some (u.goto task (.getting left))
    | _, _ => none
  | .get task =>
    match u.reading task, u.rxQueue with
    | .getting left, octet :: rxQueue =>
      some
        { u.goto task (.polling left) with
          rxQueue
          delivered := u.delivered ++ [(task, octet)] }
    | _, _ => none
  | .finish task =>
    match u.reading task with
    | .polling 0 => some (u.goto task .idle)
    | _ => none
  | .write event _ => (u.tx.step event).map fun tx => { u with tx }

end Usart

/-- The driver as a system of these events. -/
def usart : Transition.Eventful Usart UsartEvent where
  init := .init
  step := Usart.step

end Ptpd

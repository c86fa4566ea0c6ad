import DiscoPtp.Library.Transition
import DiscoPtp.Model.Datatypes

/-!
# Transmission

The transmit half of the Ethernet driver, below `netSend`. Tasks hand frames to the hardware, which
completes them in this order; each completion raises an interrupt. A task that has sent an event
message waits for the transmit semaphore and reads the transmit timestamp of the driver.

## Main definitions

* `Task`, `Phase`: the tasks, and where a task stands in `netSend`
* `Driver`: the frames, the semaphore and the timestamp of the driver
* `DriverEvent`, `Driver.step`: what a task or the hardware does next
* `Driver.Runs`, `Driver.run`: runs of the driver whose events satisfy a condition
-/

namespace Ptpd

/-- The tasks that transmit. -/
inductive Task
  | ptp
  | other (n : ℕ)
  deriving DecidableEq

/-- Where a task stands in `netSend` and in `low_level_output` under it. Event messages are sent
with a time to fill in. -/
inductive Phase
  | idle
  /-- In the loop of `low_level_output`, before `HAL_ETH_Transmit_IT`. -/
  | output (event : Bool)
  /-- The hardware was busy: in `osSemaphoreWait` of the loop. -/
  | busy (event : Bool)
  /-- Before `HAL_ETH_ReleaseTxPacket` of the loop. -/
  | retry (event : Bool)
  /-- The event message is sent as the frame: in `osSemaphoreWait` of
  `ethernetif_ptp_get_tx_timestamp`. -/
  | sent (frame : ℕ)
  /-- Before `HAL_ETH_ReleaseTxPacket` of `ethernetif_ptp_get_tx_timestamp`. -/
  | woken (frame : ℕ)
  /-- Before `TimeStampLow` is read. -/
  | released (frame : ℕ)
  /-- Before `TimeStampHigh` is read. -/
  | readLow (frame : ℕ) (nanoseconds : Int32)
  deriving DecidableEq

/-- The state of the driver. The frames are numbered in the order of their transmission. -/
structure Driver where
  phase : Task → Phase
  /-- The number of frames handed to the hardware. -/
  sent : ℕ
  /-- The transmit timestamps of the completed frames, in the order of their completion. -/
  stamps : List HwTime
  txPktSemaphore : Bool
  /-- `EthHandle.TxTimestamp`. -/
  txTimestamp : HwTime
  /-- The times that `netSend` has returned, with the frames sent, the newest first. -/
  returned : List (ℕ × TimeInternal)

/-- The driver after `ethernetif_init`. -/
def Driver.init : Driver :=
  { phase := fun _ => .idle
    sent := 0
    stamps := []
    txPktSemaphore := false
    txTimestamp := default
    returned := [] }

/-- What a task or the hardware does next. -/
inductive DriverEvent
  /-- `netSend`; only the PTP task sends event messages. -/
  | netSend (task : Task) (event : Bool)
  /-- `HAL_ETH_Transmit_IT` returns `HAL_OK`. -/
  | transmit (task : Task)
  /-- `HAL_ETH_Transmit_IT` fails as the hardware is busy. -/
  | transmitBusy (task : Task)
  /-- `HAL_ETH_Transmit_IT` fails for another reason, or the frame has too many segments. -/
  | transmitFails (task : Task)
  /-- `osSemaphoreWait` returns. -/
  | waitEnds (task : Task)
  /-- `HAL_ETH_ReleaseTxPacket`. -/
  | release (task : Task)
  /-- `TimeStampLow` or `TimeStampHigh` is read. -/
  | read (task : Task)
  /-- The oldest frame that is not completed leaves at `stamp`. -/
  | complete (stamp : HwTime)

namespace Driver

/-- A task goes on. -/
def goto (d : Driver) (task : Task) (phase : Phase) : Driver :=
  { d with phase := Function.update d.phase task phase }

/-- `HAL_ETH_TxCpltCallback`: the semaphore is binary. -/
def txCpltCallback (d : Driver) : Driver := { d with txPktSemaphore := true }

/-- `osSemaphoreWait` when it returns: the semaphore has been taken, or the time is over and there
was none. Nobody looks which. -/
def semaphoreWait (d : Driver) : Driver := { d with txPktSemaphore := false }

/-- `HAL_ETH_ReleaseTxPacket` leaves the timestamp of the frame completed last. -/
def releaseTxPacket (d : Driver) : Driver :=
  { d with txTimestamp := d.stamps.getLast?.getD d.txTimestamp }

/-- **The steps of the driver.** -/
def step (d : Driver) : DriverEvent → Option Driver
  | .netSend task event =>
    if d.phase task = .idle ∧ (event → task = .ptp) then some (d.goto task (.output event))
    else none
  | .transmit task =>
    match d.phase task with
    | .output true => some { d.goto task (.sent d.sent) with sent := d.sent + 1 }
    | .output false => some { d.goto task .idle with sent := d.sent + 1 }
    | _ => none
  | .transmitBusy task =>
    match d.phase task with
    | .output event => some (d.goto task (.busy event))
    | _ => none
  | .transmitFails task =>
    match d.phase task with
    | .output _ => some (d.goto task .idle)
    | _ => none
  | .waitEnds task =>
    match d.phase task with
    | .busy event => some (d.semaphoreWait.goto task (.retry event))
    | .sent frame => some (d.semaphoreWait.goto task (.woken frame))
    | _ => none
  | .release task =>
    match d.phase task with
    | .retry event => some (d.releaseTxPacket.goto task (.output event))
    | .woken frame => some (d.releaseTxPacket.goto task (.released frame))
    | _ => none
  | .read task =>
    match d.phase task with
    | .released frame => some (d.goto task (.readLow frame d.txTimestamp.time.nanoseconds))
    | .readLow frame nanoseconds =>
      some { d.goto task .idle with
        returned := (frame, ⟨d.txTimestamp.time.seconds, nanoseconds⟩) :: d.returned }
    | _ => none
  | .complete stamp =>
    if d.stamps.length < d.sent then
      some { d.txCpltCallback with stamps := d.stamps ++ [stamp] }
    else none

/-- One step with an event that the condition allows. -/
def Next (C : Driver → DriverEvent → Prop) (d d' : Driver) : Prop :=
  ∃ event, C d event ∧ d.step event = some d'

/-- Runs of the driver whose events satisfy the condition. -/
def Runs (C : Driver → DriverEvent → Prop) : Transition.TransitionSystem Driver :=
  { init := fun d => d = init, next := Next C }

/-- The driver after a schedule, if every event of it is possible and allowed. -/
def run (C : Driver → DriverEvent → Prop) [∀ d event, Decidable (C d event)] (d : Driver)
    (schedule : List DriverEvent) : Option Driver :=
  schedule.foldlM (fun d event => if C d event then d.step event else none) d

/-- A schedule is a run. -/
theorem run_reachable {C : Driver → DriverEvent → Prop} [∀ d event, Decidable (C d event)]
    {d d' : Driver} (hd : (Runs C).Reachable d) {schedule : List DriverEvent}
    (h : d.run C schedule = some d') : (Runs C).Reachable d' := by
  induction schedule generalizing d with
  | nil =>
    obtain rfl : d = d' := Option.some.inj h
    exact hd
  | cons event schedule ih =>
    rw [run, List.foldlM_cons, Option.bind_eq_bind, Option.bind_eq_some_iff] at h
    obtain ⟨d₁, hstep, hrest⟩ := h
    split at hstep
    · exact ih (hd.next ⟨event, ‹_›, hstep⟩) hrest
    · cases hstep

end Driver

end Ptpd

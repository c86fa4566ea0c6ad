import DiscoPtp.Model.Protocol
import DiscoPtp.Library.Transition
import DiscoPtp.Library.DoWhile

/-!
# Runs of the daemon

The start-up of the daemon and its runs. The PTP task calls `doState` again and again; between two
calls other tasks and the hardware run.

## Main definitions

* `ptpdOpts`: the options of `ptpd_thread`
* `ptpdStartup`, `boot`: start-up
* `Step`, `daemon`, `Reachable`: the runs
* `Stimulus`, `System.after`: schedules
* `Round`, `processState`: the loop of `ptpd_thread`
* `station`, `announceOf`, `syncOf`, ...: a clock on the network and its messages
* `eventArrival`, `generalArrival`: the arrival of a message
-/

namespace Ptpd

/-- The options `ptpd_thread` starts the daemon with. -/
def ptpdOpts : RunTimeOpts :=
  { announceInterval := 2
    syncInterval := 0
    clockQuality := { clockClass := 248, clockAccuracy := 0xFE, offsetScaledLogVariance := 5000 }
    priority1 := 128
    priority2 := 128
    domainNumber := 0
    slaveOnly := false
    currentUtcOffset := 0
    inboundLatency := ⟨0, 0⟩
    outboundLatency := ⟨0, 0⟩
    maxForeignRecords := 5
    delayMechanism := .e2e
    servo :=
      { noResetClock := false
        noAdjust := false
        ap := 1 / 2
        -- `0.08f`
        ai := 10737418 / 134217728
        sDelay := 6
        sOffset := 0 } }

/-- `ptpdStartup`. -/
def ptpdStartup (env : Env) (rtOpts : RunTimeOpts) (s : System) : System :=
  let rtOpts :=
    if rtOpts.slaveOnly then
      { rtOpts with clockQuality :=
          { rtOpts.clockQuality with clockClass := defaultClockClassSlaveOnly } }
    else rtOpts
  let rtOpts :=
    -- gains below one are raised to one
    { rtOpts with
      servo := { rtOpts.servo with ap := max 1 rtOpts.servo.ap, ai := max 1 rtOpts.servo.ai } }
  toState env .initializing (s.modify fun c => { c with rtOpts })

/-- The state after power-up and `ptpdStartup`. -/
def boot (rtOpts : RunTimeOpts) : System :=
  ptpdStartup default rtOpts { (default : System) with addend := adjFreqBaseAddend }

/-- What happens next: the PTP task calls `doState`, or something happens outside of it. -/
inductive Step : System → System → Prop
  | doState (env : Env) (s : System) : Step s (doState env s)
  | interrupt (i : Interrupt) (s : System) : Step s (interrupt s i)

/-- One item of a schedule: a call of `doState`, or an event outside of the PTP task. -/
inductive Stimulus
  | doState (env : Env)
  | interrupt (i : Interrupt)

/-- The state after one item of a schedule. -/
def System.respond (s : System) : Stimulus → System
  | .doState env => doState env s
  | .interrupt i => interrupt s i

/-- The state after a schedule. -/
def System.after (s : System) (schedule : List Stimulus) : System := schedule.foldl System.respond s

/-- The daemon, started with the options `rtOpts`. -/
def daemon (rtOpts : RunTimeOpts) : Transition.TransitionSystem System :=
  { init := fun s => s = boot rtOpts, next := Step }

/-- A state of a run that starts at boot. -/
abbrev Reachable (rtOpts : RunTimeOpts) (s : System) : Prop := (daemon rtOpts).Reachable s

theorem boot_reachable (rtOpts : RunTimeOpts) : Reachable rtOpts (boot rtOpts) := .init rfl

theorem Reachable.after {rtOpts : RunTimeOpts} {s : System} (hs : Reachable rtOpts s)
    (schedule : List Stimulus) : Reachable rtOpts (s.after schedule) := by
  induction schedule generalizing s with
  | nil => exact hs
  | cons x schedule ih =>
    apply ih
    cases x with
    | doState env => exact hs.next (.doState env s)
    | interrupt i => exact hs.next (.interrupt i s)

/-- One round of the loop of `ptpd_thread`: the environment of its call of `doState`, and what
happens outside between the call and the test of the queues. -/
structure Round where
  env : Env
  interrupts : List Interrupt
  deriving Inhabited

/-- The state at the end of a round. -/
def Round.run (round : Round) (s : System) : System :=
  round.interrupts.foldl interrupt (doState round.env s)

/-- The loop of `ptpd_thread` between two waits: `doState` is called as long as `netSelect` reports
data. The loop is cut off after `fuel` rounds. -/
def processState (rounds : ℕ → Round) (fuel : ℕ) (s : System) : Option System :=
  Loop.doWhile (fun s => 0 < netSelect s.ptpClock.netPath) (fun n => (rounds n).run) fuel s

/-! ## Schedules -/

/-- The call of `doState` of a port with the MAC address `00:80:E1:00:00:00` and a working
network, in which nothing else happens and all transmissions fail. -/
def plainEnv : Env :=
  { (default : Env) with netInit := true, hwaddr := #v[0x00, 0x80, 0xE1, 0, 0, 0] }

/-- A clock on the network, as `initData` leaves it: the MAC address ends in `n`. -/
def station (n : UInt8) (rtOpts : RunTimeOpts) : PtpClock :=
  m1 (initData
    { (default : PtpClock) with rtOpts, portUuidField := #v[0x00, 0x80, 0xE1, 0, 0, n] })

/-- The header template of a clock, as `doInit` packs it. -/
def headerOf (c : PtpClock) : Buf := msgPackHeader c fun _ => 0

/-- The Announce of a clock. -/
def announceOf (c : PtpClock) : List UInt8 :=
  packetOf (msgPackAnnounce c (headerOf c)) announceLength

/-- A Sync of a clock, which sets the two-step flag. -/
def syncOf (c : PtpClock) (sequenceId : Int16) (origin : Timestamp) : List UInt8 :=
  packetOf (msgPackSync { c with sentSyncSequenceId := sequenceId } (headerOf c) origin) syncLength

/-- The Follow_Up to the Sync of a clock. -/
def followUpOf (c : PtpClock) (sequenceId : Int16) (origin : Timestamp) : List UInt8 :=
  packetOf (msgPackFollowUp { c with sentSyncSequenceId := sequenceId + 1 } (headerOf c) origin)
    followUpLength

/-- The DelayResp of a clock to a request. -/
def delayRespOf (c : PtpClock) (request : MsgHeader) (receive : Timestamp) : List UInt8 :=
  packetOf (msgPackDelayResp c (headerOf c) request receive) delayRespLength

/-- A hardware time of whole seconds. -/
def atSecond (seconds : Int32) : HwTime :=
  ⟨⟨seconds, 0⟩, Int32.le_refl 0, (by decide : (0 : Int32) < 1000000000)⟩

/-- A datagram in one segment, carried by a frame received at `stamp`. -/
def datagram (bytes : List UInt8) (stamp : HwTime) : Pbuf :=
  { chain := [⟨fun i => bytes.getD i 0, bytes.length⟩], totLen := bytes.length, stamp }

/-- A datagram arrives on the event port. -/
def eventArrival (bytes : List UInt8) (stamp : HwTime) : List Stimulus :=
  [.interrupt (.frame (datagram bytes stamp)), .interrupt (.recvEvent 0)]

/-- A datagram arrives on the general port. -/
def generalArrival (bytes : List UInt8) (stamp : HwTime) : List Stimulus :=
  [.interrupt (.frame (datagram bytes stamp)), .interrupt (.recvGeneral 0)]

/-- What the start-up leaves: everything as at power-up but the options. -/
theorem boot_eq (rtOpts : RunTimeOpts) :
    ∃ opts : RunTimeOpts,
      boot rtOpts =
        { (default : System) with
          ptpClock := { (default : PtpClock) with rtOpts := opts, messageActivity := true }
          addend := adjFreqBaseAddend } ∧
      opts.inboundLatency = rtOpts.inboundLatency ∧
      opts.outboundLatency = rtOpts.outboundLatency ∧
      opts.maxForeignRecords = rtOpts.maxForeignRecords := by
  unfold boot ptpdStartup
  dsimp only
  split
  · exact ⟨_, rfl, rfl, rfl, rfl⟩
  · exact ⟨_, rfl, rfl, rfl, rfl⟩

end Ptpd

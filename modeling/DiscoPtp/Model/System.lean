import DiscoPtp.Model.Bmc
import DiscoPtp.Model.Msg
import DiscoPtp.Model.Net

/-!
# The state of a port

The `PtpClock` together with what the daemon keeps in other statics and in the hardware: the
expired flags of `timer.c`, the PTP clock and its addend register, the receive timestamp of the
Ethernet driver. A history, newest entry first, records what the port did and measured; no
modelled function reads it.

What a call obtains from outside is an argument `Env`: the outcome of `netInit` and of each
transmission, `rand()`, the contents of uninitialised locals, and what other tasks and the
hardware do while the call runs.

## Main definitions

* `Entry`, `System`: the history entries and the state
* `Env`, `Interrupt`, `Pause`: the outside of one `doState` call
* `timerStart`, `timerStop`, `pow2ms`, `getRand`, `adjTime`: `timer.c` and `sys_time.c`
* `netRecv`, `netSend`: reception and transmission
-/

namespace Ptpd

/-- The outcome of one `netSend`: the failures of `pbuf_alloc`, `pbuf_take` and `udp_sendto`, or a
transmission with its hardware timestamp. -/
inductive SendOutcome
  | allocFailed | takeFailed | sendFailed
  | sent (stamp : HwTime)
  deriving DecidableEq, Inhabited

/-- An entry of the history. -/
inductive Entry
  /-- `HAL_ETH_ReadData` returned a frame received at `stamp`. -/
  | frameRead (stamp : HwTime)
  /-- `handle` passed `time` on for a datagram carried by a frame received at `frame`. -/
  | eventMessage (frame : HwTime) (time : TimeInternal)
  /-- `parentDS.parentPortIdentity` was written. -/
  | parentIs (parent : PortIdentity)
  /-- A two-step Sync was stored for its Follow_Up. -/
  | syncStored (sync : MsgHeader) (ingress : TimeInternal)
  /-- `updateOffset` was called for a one-step Sync or a Follow_Up with the timestamp `stamp`. -/
  | offset (header : MsgHeader) (stamp : Timestamp) (ingress origin correction : TimeInternal)
  /-- `updateDelay` was called for a DelayResp with the timestamp `stamp`. -/
  | delay (resp : MsgHeader) (stamp : Timestamp) (egress receive correction : TimeInternal)
  /-- A two-step PDelayResp with the timestamp `stamp` was stored for its follow-up. -/
  | pdelayStored (resp : MsgHeader) (stamp : Timestamp) (t2 t4 : TimeInternal)
  /-- `updatePeerDelay` was called for a PDelayResp, or for its follow-up with the timestamp and the
  time `t3` given. -/
  | peerDelay (header : MsgHeader) (t1 correction : TimeInternal)
    (t3 : Option (Timestamp × TimeInternal))
  /-- `netSend` was called. -/
  | send (type : MessageType) (packet : List UInt8) (outcome : SendOutcome)
  /-- `initClock` was called. -/
  | clockInit
  /-- `setTime` was called. -/
  | setTime (time : TimeInternal)
  /-- The addend register was programmed. -/
  | adjFreq (addend : UInt32)
  /-- `timerStart` was called; `none` is an interval computed by undefined arithmetic. -/
  | timerStart (timer : Timer) (interval : Option UInt32)
  /-- `timerStop` was called. -/
  | timerStop (timer : Timer)
  /-- `doInit` returned. -/
  | doInit (result : Bool)
  deriving DecidableEq

/-- The state of a port. -/
structure System where
  ptpClock : PtpClock
  /-- `ptpdTimersExpired`. -/
  timersExpired : Timer → Bool
  /-- The time of the PTP clock, `PTPTSHR` and `PTPTSLR`. -/
  time : TimeInternal
  /-- `PTPTSAR`, the addend register. -/
  addend : UInt32
  /-- `EthHandle.RxDescList.TimeStamp`. -/
  rxTimeStamp : HwTime
  /-- The datagrams read from the hardware and not yet handed to a callback. -/
  inFlight : List Pbuf
  /-- The receive time of the frame whose datagram is in `msgIbuf`. -/
  frameStamp : HwTime
  history : List Entry
  deriving Inhabited

/-- What happens outside the PTP task: the input thread reads a frame; the network stack hands the
`n`-th datagram in flight to a callback or discards it; a timer's callback runs; the clock runs
on. -/
inductive Interrupt
  | frame (p : Pbuf)
  | recvEvent (n : ℕ)
  | recvGeneral (n : ℕ)
  | discard (n : ℕ)
  | timerCallback (timer : Timer)
  | tick (time : HwTime)

/-- The points of a call at which other tasks and the hardware are heard of. The PTP task can be
interrupted anywhere; an interruption takes effect at one of these points, where the task is about
to look at its timers or queues. -/
inductive Pause
  /-- Before the actions of the port state. -/
  | actions
  /-- Before a master looks at its Announce timer. -/
  | announceTimer
  /-- Before a message is handled. -/
  | handling
  /-- Before a master looks at the timer of its requests. -/
  | requestTimer

/-- What one call of the PTP task obtains from outside. A call sends at most one message of each
type. -/
structure Env where
  netInit : Bool
  hwaddr : Vector UInt8 6
  send : MessageType → SendOutcome
  rand : UInt32
  /-- The contents of an uninitialised `TimeInternal`. -/
  localTime : TimeInternal
  /-- The contents of an uninitialised `Timestamp`. -/
  localTimestamp : Timestamp
  /-- What happens outside before each of the points. -/
  interrupts : Pause → List Interrupt
  /-- Frames read between the removal of a datagram from its queue and the reading of its
  timestamp. -/
  lateFrames : List Pbuf
  deriving Inhabited

namespace System

/-- The system with its `PtpClock` changed. -/
def modify (s : System) (f : PtpClock → PtpClock) : System := { s with ptpClock := f s.ptpClock }

/-- The system with one more history entry. -/
def log (s : System) (e : Entry) : System := { s with history := e :: s.history }

@[simp] theorem modify_ptpClock (s : System) (f : PtpClock → PtpClock) :
    (s.modify f).ptpClock = f s.ptpClock := rfl
@[simp] theorem modify_history (s : System) (f : PtpClock → PtpClock) :
    (s.modify f).history = s.history := rfl
@[simp] theorem modify_timersExpired (s : System) (f : PtpClock → PtpClock) :
    (s.modify f).timersExpired = s.timersExpired := rfl
@[simp] theorem modify_time (s : System) (f : PtpClock → PtpClock) :
    (s.modify f).time = s.time := rfl
@[simp] theorem modify_addend (s : System) (f : PtpClock → PtpClock) :
    (s.modify f).addend = s.addend := rfl
@[simp] theorem log_ptpClock (s : System) (e : Entry) : (s.log e).ptpClock = s.ptpClock := rfl
@[simp] theorem log_history (s : System) (e : Entry) :
    (s.log e).history = e :: s.history := rfl
@[simp] theorem log_timersExpired (s : System) (e : Entry) :
    (s.log e).timersExpired = s.timersExpired := rfl
@[simp] theorem log_time (s : System) (e : Entry) : (s.log e).time = s.time := rfl
@[simp] theorem log_addend (s : System) (e : Entry) : (s.log e).addend = s.addend := rfl

/-- `portDS.portState`. -/
abbrev portState (s : System) : PtpState := s.ptpClock.portDS.portState

/-- `recommendedState`. -/
abbrev recommendedState (s : System) : PtpState := s.ptpClock.recommendedState

/-- `portDS.delayMechanism`. -/
abbrev delayMechanism (s : System) : DelayMechanism := s.ptpClock.portDS.delayMechanism

/-- `portDS.portState = state`. -/
def setPortState (s : System) (state : PtpState) : System :=
  s.modify fun c => { c with portDS := { c.portDS with portState := state } }

/-- `recommendedState = state`. -/
def setRecommendedState (s : System) (state : PtpState) : System :=
  s.modify fun c => { c with recommendedState := state }

/-- `messageActivity = b`. -/
def setMessageActivity (s : System) (b : Bool) : System :=
  s.modify fun c => { c with messageActivity := b }

end System

/-! ## Timers and time -/

/-- `timerStop`. -/
def timerStop (timer : Timer) (s : System) : System :=
  { s with timersExpired := Function.update s.timersExpired timer false }.log (.timerStop timer)

/-- `timerStart`. -/
def timerStart (timer : Timer) (interval : Option UInt32) (s : System) : System :=
  { s with timersExpired := Function.update s.timersExpired timer false }.log
    (.timerStart timer interval)

/-- `timerExpired`: the flag, which is cleared. -/
def timerExpired (timer : Timer) (s : System) : Bool × System :=
  (s.timersExpired timer,
    { s with timersExpired := Function.update s.timersExpired timer false })

/-- `initTimer`. -/
def initTimer (s : System) : System := { s with timersExpired := fun _ => false }

/-- `pow2ms(a)`: a shift by 32 or more, or out of the range of `int`, is undefined. -/
def pow2ms (a : Int) : Option Int :=
  if 0 < a then
    -- `1000 << a` on `int`
    if a < 32 ∧ 1000 * 2 ^ a.toNat < (2 ^ 31 : Int) then some (1000 * 2 ^ a.toNat) else none
  -- `1000 >> -a`
  else if -a < 32 then some (1000 / 2 ^ (-a).toNat) else none

/-- `getRand(randMax)`: `rand() % randMax`, undefined for zero. -/
def getRand (rand : UInt32) (randMax : Option Int) : Option UInt32 :=
  randMax.bind fun m => if m = 0 then none else some (rand % UInt32.ofInt m)

/-- The announce receipt interval, `announceReceiptTimeout * pow2ms(logAnnounceInterval)`. -/
def announceReceiptInterval (c : PtpClock) : Option UInt32 :=
  (pow2ms c.portDS.logAnnounceInterval.toInt).map fun m =>
    UInt32.ofInt (c.portDS.announceReceiptTimeout.toNat * m)

/-- The delay request interval, `getRand(pow2ms(logMinDelayReqInterval + 1))`. -/
def delayReqInterval (env : Env) (logMinDelayReqInterval : Int8) : Option UInt32 :=
  getRand env.rand (pow2ms (logMinDelayReqInterval.toInt + 1))

/-- The peer delay request interval, `getRand(pow2ms(logMinPdelayReqInterval + 1))`. -/
def pdelayReqInterval (env : Env) (logMinPdelayReqInterval : Int8) : Option UInt32 :=
  getRand env.rand (pow2ms (logMinPdelayReqInterval.toInt + 1))

/-- `getTime`. -/
def getTime (s : System) : TimeInternal := s.time

/-- `ethernetif_ptp_set_time`. -/
def ethernetifPtpSetTime (time : TimeInternal) (s : System) : System :=
  { s with time :=
      -- the sign goes to a bit of its own, and the clock starts from the magnitude
      if time.seconds < 0 ∨ time.seconds = 0 ∧ time.nanoseconds < 0 then
        { seconds := -time.seconds, nanoseconds := -time.nanoseconds }
      else time }

/-- `setTime`. -/
def setTime (time : TimeInternal) (s : System) : System :=
  (ethernetifPtpSetTime time s).log (.setTime time)

/-- The addend `ethernetif_ptp_adj_freq` computes. -/
def adjFreqAddend (adj : Int) : UInt32 :=
  let adj := max (-5120000) (min 5120000 adj)
  UInt32.ofInt
    (275 * adj / 2 ^ 8 * (adjFreqBaseAddend >>> 24).toNat / 2 ^ 6 + adjFreqBaseAddend.toNat)

/-- `ethernetif_ptp_adj_freq`. -/
def ethernetifPtpAdjFreq (adj : Int32) (s : System) : System :=
  { s with addend := adjFreqAddend adj.toInt }.log (.adjFreq (adjFreqAddend adj.toInt))

/-- `adjTime`. -/
def adjTime (adj : Int32) (s : System) : System :=
  ethernetifPtpAdjFreq
    -- the driver clamps once more, ten times as wide
    (if adj > adjFreqMax then adjFreqMax else if adj < -adjFreqMax then -adjFreqMax else adj) s

/-! ## Reception and transmission -/

/-- `HAL_ETH_ReadData` in the input thread. -/
def readFrame (s : System) (p : Pbuf) : System :=
  { s with rxTimeStamp := p.stamp, inFlight := s.inFlight ++ [p] }.log (.frameRead p.stamp)

/-- `netRecvEventCallback`, for the `n`-th datagram in flight. A refused `pbuf` is freed. -/
def netRecvEventCallback (s : System) (n : ℕ) : System :=
  match s.inFlight[n]? with
  | none => s
  | some p =>
    -- a full queue drops the datagram
    { s with inFlight := s.inFlight.eraseIdx n }.modify fun c =>
      { c with netPath := { c.netPath with eventQ := (netQPut c.netPath.eventQ p).2 } }

/-- `netRecvGeneralCallback`, for the `n`-th datagram in flight. -/
def netRecvGeneralCallback (s : System) (n : ℕ) : System :=
  match s.inFlight[n]? with
  | none => s
  | some p =>
    { s with inFlight := s.inFlight.eraseIdx n }.modify fun c =>
      { c with netPath := { c.netPath with generalQ := (netQPut c.netPath.generalQ p).2 } }

/-- `timerCallback`. -/
def timerCallback (timer : Timer) (s : System) : System :=
  { s with timersExpired := Function.update s.timersExpired timer true }

/-- The effect of an interrupt. -/
def interrupt (s : System) : Interrupt → System
  | .frame p => readFrame s p
  | .recvEvent n => netRecvEventCallback s n
  | .recvGeneral n => netRecvGeneralCallback s n
  | .discard n => { s with inFlight := s.inFlight.eraseIdx n }
  | .timerCallback timer => timerCallback timer s
  | .tick time => { s with time := time.time }

/-- What has happened outside by a point of the call. -/
def pause (env : Env) (point : Pause) (s : System) : System :=
  (env.interrupts point).foldl interrupt s

/-- `netRecv` after `netQGet`, on the datagram `p`: the length, and the time when there is one. -/
def netRecv (env : Env) (p : Pbuf) (time : TimeInternal) (s : System) :
    Int × TimeInternal × System :=
  -- too long, or empty: nothing is copied, and the caller sees a zero length
  if p.totLen > packetSize then (0, time, s)
  else if p.totLen = 0 then (0, time, s)
  else
    -- the driver's slot is read last, and belongs to the frame read last
    let s := env.lateFrames.foldl readFrame s
    let s := { s with frameStamp := p.stamp }.modify fun c =>
      { c with msgIbuf := copyPbuf p.totLen c.msgIbuf 0 0 p.chain }
    (p.totLen, s.rxTimeStamp.time, s)

/-- `netRecvEvent`. -/
def netRecvEvent (env : Env) (time : TimeInternal) (s : System) : Int × TimeInternal × System :=
  let r := netQGet s.ptpClock.netPath.eventQ
  let s := s.modify fun c => { c with netPath := { c.netPath with eventQ := r.2 } }
  match r.1 with
  | none => (0, time, s)
  | some p => netRecv env p time s

/-- `netRecvGeneral`. -/
def netRecvGeneral (env : Env) (time : TimeInternal) (s : System) : Int × TimeInternal × System :=
  let r := netQGet s.ptpClock.netPath.generalQ
  let s := s.modify fun c => { c with netPath := { c.netPath with generalQ := r.2 } }
  match r.1 with
  | none => (0, time, s)
  | some p => netRecv env p time s

/-- The bytes `netSend` takes from the output buffer. -/
def packetOf (buf : Buf) (length : Int) : List UInt8 := (List.range length.toNat).map buf

/-- `netSend`: the return value, which is the length on the failure paths too, and the contents of
`time` afterwards. -/
def netSend (env : Env) (type : MessageType) (length : Int) (time : TimeInternal) (s : System) :
    Int × TimeInternal × System :=
  (length,
    match env.send type with
    | .sent stamp => stamp.time
    | _ => time,
    s.log (.send type (packetOf s.ptpClock.msgObuf length) (env.send type)))

end Ptpd

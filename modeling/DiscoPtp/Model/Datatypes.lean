import Mathlib

/-!
# Data types of the PTP daemon

The constants of `constants.h` and `constants_dep.h` and the structures of `datatypes.h` and
`datatypes_dep.h`, with their fixed-width fields. A static object of the C program starts as all
zeros, which is the `default` value of each structure here.

## Main definitions

* `PtpState`, `DelayMechanism`, `Timer`, `MessageType`: the enumerations
* `TimeInternal`, `Timestamp`, `PortIdentity`, `MsgHeader`, `MsgAnnounce`: times and messages
* `Pbuf`, `BufQueue`, `NetPath`: received datagrams and their queues
* `PtpClock`: the main program structure
-/

namespace Ptpd

/-! ## Constants -/

def headerLength : Int := 34
def announceLength : Int := 64
def syncLength : Int := 44
def followUpLength : Int := 44
def pdelayReqLength : Int := 54
def delayReqLength : Int := 44
def delayRespLength : Int := 54
def pdelayRespLength : Int := 54
def pdelayRespFollowUpLength : Int := 54

def packetSize : ℕ := 300

def defaultUtcValid : Bool := false
def defaultPdelayReqInterval : Int8 := 1
def defaultDelayReqInterval : Int8 := 0
def defaultAnnounceReceiptTimeout : UInt8 := 6
def defaultClockClassSlaveOnly : UInt8 := 255
def defaultTwoStepFlag : Bool := true
def defaultTimeSource : UInt8 := 0xA0
def defaultTimeTraceable : Bool := false
def defaultFrequencyTraceable : Bool := false
def defaultCalibratedOffsetNs : Int32 := 10000
def defaultUncalibratedOffsetNs : Int32 := 1000000
def maxAdjOffsetNs : Int32 := 100000000
def adjFreqMax : Int32 := 512000
def adjFreqBaseAddend : UInt32 := 0x40000000
def numberPorts : Int16 := 1
def versionPtp : UInt8 := 2

def flag0TwoStep : UInt8 := 0x02
def flag1Leap61 : UInt8 := 0x01
def flag1Leap59 : UInt8 := 0x02
def flag1UtcOffsetValid : UInt8 := 0x04
def flag1PtpTimescale : UInt8 := 0x08
def flag1TimeTraceable : UInt8 := 0x10
def flag1FrequencyTraceable : UInt8 := 0x20

/-- `getFlag(flagField, mask)`. -/
def getFlag (flagField mask : UInt8) : Bool := flagField &&& mask == mask

/-! ## Enumerations -/

/-- The port states of Table 8, in the order of their codes. -/
inductive PtpState
  | initializing | faulty | disabled | listening | preMaster | master | passive
  | uncalibrated | slave
  deriving DecidableEq, Repr, Inhabited

/-- The delay mechanism: `E2E`, `P2P`, or any other value (every switch has a `default`). -/
inductive DelayMechanism
  | other | e2e | p2p
  deriving DecidableEq, Repr, Inhabited

/-- The PTP timers, in the order of their indices. -/
inductive Timer
  | pdelayReqInterval | delayReqInterval | syncInterval | announceReceipt | announceInterval
  | qualificationTimeout
  deriving DecidableEq, Repr

/-- The messages of Table 19. -/
inductive MessageType
  | sync | delayReq | pdelayReq | pdelayResp | followUp | delayResp | pdelayRespFollowUp
  | announce | signaling | management
  deriving DecidableEq, Repr

/-- The 4-bit code of a message type. -/
def MessageType.code : MessageType → UInt8
  | .sync => 0x0
  | .delayReq => 0x1
  | .pdelayReq => 0x2
  | .pdelayResp => 0x3
  | .followUp => 0x8
  | .delayResp => 0x9
  | .pdelayRespFollowUp => 0xA
  | .announce => 0xB
  | .signaling => 0xC
  | .management => 0xD

/-- The message type a 4-bit code stands for, if any. -/
def MessageType.ofCode (code : UInt8) : Option MessageType :=
  [.sync, .delayReq, .pdelayReq, .pdelayResp, .followUp, .delayResp, .pdelayRespFollowUp,
    .announce, .signaling, .management].find? fun t => t.code == code

@[simp] theorem MessageType.ofCode_code (t : MessageType) : ofCode t.code = some t := by
  cases t <;> decide

/-! ## Times and identities -/

/-- `TimeInternal`: seconds and nanoseconds, both signed 32-bit. -/
structure TimeInternal where
  seconds : Int32
  nanoseconds : Int32
  deriving DecidableEq, Repr, Inhabited

/-- A time read from the hardware: with digital rollover the subsecond counter runs from `0` to
`999999999`. The seconds register has 32 bits and is read into a signed field. -/
structure HwTime where
  time : TimeInternal
  nanoseconds_nonneg : 0 ≤ time.nanoseconds
  nanoseconds_lt : time.nanoseconds < 1000000000
  deriving DecidableEq

instance : Inhabited HwTime := ⟨⟨default, by decide, by decide⟩⟩

/-- `Timestamp`: the 80-bit wire timestamp, its seconds split into `msb` and `lsb`. -/
structure Timestamp where
  secondsMsb : UInt16
  secondsLsb : UInt32
  nanosecondsField : UInt32
  deriving DecidableEq, Repr, Inhabited

/-- `ClockIdentity`: eight octets. -/
abbrev ClockIdentity := Vector UInt8 8

/-- `PortIdentity`. -/
structure PortIdentity where
  clockIdentity : ClockIdentity
  portNumber : Int16
  deriving DecidableEq, Repr, Inhabited

/-- `ClockQuality`. -/
structure ClockQuality where
  clockClass : UInt8
  clockAccuracy : UInt8
  offsetScaledLogVariance : Int16
  deriving DecidableEq, Repr, Inhabited

/-! ## Messages -/

/-- `MsgHeader`: the common header (Table 18). -/
structure MsgHeader where
  transportSpecific : UInt8
  messageType : UInt8
  versionPTP : UInt8
  messageLength : Int16
  domainNumber : UInt8
  flagField0 : UInt8
  flagField1 : UInt8
  correctionfield : Int64
  sourcePortIdentity : PortIdentity
  sequenceId : Int16
  controlField : UInt8
  logMessageInterval : Int8
  deriving DecidableEq, Repr, Inhabited

/-- `MsgAnnounce` (Table 25). -/
structure MsgAnnounce where
  originTimestamp : Timestamp
  currentUtcOffset : Int16
  grandmasterPriority1 : UInt8
  grandmasterClockQuality : ClockQuality
  grandmasterPriority2 : UInt8
  grandmasterIdentity : ClockIdentity
  stepsRemoved : Int16
  timeSource : UInt8
  deriving DecidableEq, Repr, Inhabited

/-- `MsgDelayResp`, `MsgPDelayResp` and `MsgPDelayRespFollowUp` (Tables 30 and 31): a timestamp and
the identity of the port that asked. -/
structure MsgResponse where
  timestamp : Timestamp
  requestingPortIdentity : PortIdentity
  deriving DecidableEq, Repr, Inhabited

/-- A message buffer, `octet_t[PACKET_SIZE]`, by offset. Every offset used by the packers and
unpackers is a literal below `packetSize`, and `netRecv` refuses longer datagrams. -/
abbrev Buf := ℕ → UInt8

/-! ## Data sets -/

/-- `DefaultDS` (8.2.1). -/
structure DefaultDS where
  twoStepFlag : Bool
  clockIdentity : ClockIdentity
  numberPorts : Int16
  clockQuality : ClockQuality
  priority1 : UInt8
  priority2 : UInt8
  domainNumber : UInt8
  slaveOnly : Bool
  transportSpecific : Bool
  deriving DecidableEq, Repr, Inhabited

/-- `CurrentDS` (8.2.2). -/
structure CurrentDS where
  stepsRemoved : Int16
  offsetFromMaster : TimeInternal
  meanPathDelay : TimeInternal
  deriving DecidableEq, Repr, Inhabited

/-- `ParentDS` (8.2.3). -/
structure ParentDS where
  parentPortIdentity : PortIdentity
  parentStats : Bool
  observedParentOffsetScaledLogVariance : Int16
  observedParentClockPhaseChangeRate : Int32
  grandmasterIdentity : ClockIdentity
  grandmasterClockQuality : ClockQuality
  grandmasterPriority1 : UInt8
  grandmasterPriority2 : UInt8
  deriving DecidableEq, Repr, Inhabited

/-- `TimePropertiesDS` (8.2.4). -/
structure TimePropertiesDS where
  currentUtcOffset : Int16
  currentUtcOffsetValid : Bool
  leap59 : Bool
  leap61 : Bool
  timeTraceable : Bool
  frequencyTraceable : Bool
  ptpTimescale : Bool
  timeSource : UInt8
  deriving DecidableEq, Repr, Inhabited

/-- `PortDS` (8.2.5). -/
structure PortDS where
  portIdentity : PortIdentity
  portState : PtpState
  logMinDelayReqInterval : Int8
  peerMeanPathDelay : TimeInternal
  logAnnounceInterval : Int8
  announceReceiptTimeout : UInt8
  logSyncInterval : Int8
  delayMechanism : DelayMechanism
  logMinPdelayReqInterval : Int8
  versionNumber : UInt8
  deriving DecidableEq, Repr, Inhabited

/-- `ForeignMasterRecord`. -/
structure ForeignMasterRecord where
  foreignMasterPortIdentity : PortIdentity
  foreignMasterAnnounceMessages : Int16
  announce : MsgAnnounce
  header : MsgHeader
  deriving DecidableEq, Repr, Inhabited

/-- `ForeignMasterDS`: the record store, by index, and its indices. -/
structure ForeignMasterDS where
  records : ℕ → ForeignMasterRecord
  count : ℕ
  capacity : ℕ
  i : ℕ
  best : ℕ
  deriving Inhabited

/-- `Servo`. The gains are `float`s, taken as the rationals they denote; `sDelay` is only ever
converted to `int16_t`. -/
structure Servo where
  noResetClock : Bool
  noAdjust : Bool
  ap : ℚ
  ai : ℚ
  sDelay : Int16
  sOffset : Int16
  deriving Inhabited

/-- `Filter`: the state of one exponential smoothing. -/
structure Filter where
  yPrev : Int32
  ySum : Int32
  s : Int16
  sPrev : Int16
  n : Int32
  deriving DecidableEq, Repr, Inhabited

/-- `RunTimeOpts`: the options read by the modelled functions. -/
structure RunTimeOpts where
  announceInterval : Int8
  syncInterval : Int8
  clockQuality : ClockQuality
  priority1 : UInt8
  priority2 : UInt8
  domainNumber : UInt8
  slaveOnly : Bool
  currentUtcOffset : Int16
  inboundLatency : TimeInternal
  outboundLatency : TimeInternal
  maxForeignRecords : ℕ
  delayMechanism : DelayMechanism
  servo : Servo
  deriving Inhabited

/-! ## Network buffers -/

/-- One segment of a `pbuf` chain: the memory at its payload and its own length. -/
structure PbufSegment where
  payload : ℕ → UInt8
  len : ℕ
  deriving Inhabited

/-- A `pbuf` chain as handed to the receive callbacks. `stamp` is not part of the chain: it is the
hardware receive time of the frame that carried the datagram. -/
structure Pbuf where
  chain : List PbufSegment
  totLen : ℕ
  stamp : HwTime
  deriving Inhabited

/-- `BufQueue`: a ring of `PBUF_QUEUE_SIZE = 4` slots for pointers, here with what they point to.
Indices are masked with `PBUF_QUEUE_MASK`, so they are residues modulo four. -/
structure BufQueue (α : Type := Pbuf) where
  pbuf : Fin 4 → α
  head : Fin 4
  tail : Fin 4
  deriving Inhabited

/-- `NetPath`: the two receive queues. -/
structure NetPath where
  eventQ : BufQueue
  generalQ : BufQueue
  deriving Inhabited

/-! ## The main program structure -/

/-- The bits of the `events` word that the daemon uses. -/
structure Events where
  stateDecisionEvent : Bool
  synchronizationFault : Bool
  masterClockSelected : Bool
  masterClockChanged : Bool
  deriving DecidableEq, Repr, Inhabited

/-- `PtpClock`: the main program structure. Of the union `msgTmp` only the member `announce` is
kept here: the others are written and read inside one handler. -/
structure PtpClock where
  defaultDS : DefaultDS
  currentDS : CurrentDS
  parentDS : ParentDS
  timePropertiesDS : TimePropertiesDS
  portDS : PortDS
  foreignMasterDS : ForeignMasterDS
  msgTmpHeader : MsgHeader
  msgTmpAnnounce : MsgAnnounce
  msgObuf : Buf
  msgIbuf : Buf
  msgIbufLength : Int
  Tms : TimeInternal
  Tsm : TimeInternal
  pdelayT1 : TimeInternal
  pdelayT2 : TimeInternal
  pdelayT3 : TimeInternal
  pdelayT4 : TimeInternal
  timestampSyncRecieve : TimeInternal
  timestampDelayReqSend : TimeInternal
  timestampDelayReqRecieve : TimeInternal
  correctionFieldSync : TimeInternal
  correctionFieldPDelayResp : TimeInternal
  sentPDelayReqSequenceId : Int16
  sentDelayReqSequenceId : Int16
  sentSyncSequenceId : Int16
  sentAnnounceSequenceId : Int16
  recvSyncSequenceId : Int16
  waitingForFollowUp : Bool
  waitingForPDelayRespFollowUp : Bool
  ofmFilt : Filter
  owdFilt : Filter
  observedDrift : Int32
  messageActivity : Bool
  netPath : NetPath
  recommendedState : PtpState
  portUuidField : Vector UInt8 6
  inboundLatency : TimeInternal
  outboundLatency : TimeInternal
  servo : Servo
  events : Events
  rtOpts : RunTimeOpts
  deriving Inhabited

end Ptpd

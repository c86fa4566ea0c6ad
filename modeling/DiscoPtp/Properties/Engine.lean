import DiscoPtp.Properties.Handling
import DiscoPtp.Properties.Wire
import DiscoPtp.Properties.Identity

/-!
# The engine of a port

What the decisions of a port depend on, without the messages and the buffers: the port state and its
recommendation, the events, the data sets that follow the best master clock algorithm, the running
timers and the state of the servo. One call of `doState` of a port that has been initialised is one
call of its engine.

## Main definitions

* `runningTimers`, `masterMessages`, `offsets`, `clockSteps`: what the history says
* `Engine`, `System.engine`: the engine, and the engine of a state
* `Engine.toState`, `Engine.follow`, `Engine.announceTimeout`: transitions
* `Engine.Decides`, `Engine.Sends`, `Engine.Outcome`, `Engine.Acts`: the parts of a call
* `Engine.Call`: one call
-/

namespace Ptpd

open Relation (ReflTransGen)

/-! ## Views of the history -/

/-- The timers started and not stopped since. -/
def runningTimers : List Entry → Finset Timer
  | [] => ∅
  | .timerStart timer _ :: history => insert timer (runningTimers history)
  | .timerStop timer :: history => (runningTimers history).erase timer
  | _ :: history => runningTimers history

/-- The messages that only a master sends, the newest first. -/
def masterMessages : List Entry → List (MessageType × List UInt8)
  | [] => []
  | .send .announce packet _ :: history => (.announce, packet) :: masterMessages history
  | .send .sync packet _ :: history => (.sync, packet) :: masterMessages history
  | .send .followUp packet _ :: history => (.followUp, packet) :: masterMessages history
  | .send .delayResp packet _ :: history => (.delayResp, packet) :: masterMessages history
  | _ :: history => masterMessages history

/-- The headers of the messages that `updateOffset` was called for, the newest first. -/
def offsets : List Entry → List MsgHeader
  | [] => []
  | .offset header _ _ _ _ :: history => header :: offsets history
  | _ :: history => offsets history

/-- The arguments of the calls of `setTime`, the newest first. -/
def clockSteps : List Entry → List TimeInternal
  | [] => []
  | .setTime time :: history => time :: clockSteps history
  | _ :: history => clockSteps history

/-! ## The engine -/

/-- The engine of a port. -/
structure Engine where
  portState : PtpState
  recommendedState : PtpState
  delayMechanism : DelayMechanism
  events : Events
  foreignMasterDS : ForeignMasterDS
  defaultDS : DefaultDS
  portIdentity : PortIdentity
  parentPortIdentity : PortIdentity
  grandmasterIdentity : ClockIdentity
  grandmasterClockQuality : ClockQuality
  grandmasterPriority1 : UInt8
  grandmasterPriority2 : UInt8
  stepsRemoved : Int16
  offsetFromMaster : TimeInternal
  observedDrift : Int32
  ofmSamples : Int32
  waitingForFollowUp : Bool
  noAdjust : Bool
  addend : UInt32
  sentAnnounceSequenceId : Int16
  /-- The port identity in the output buffer. -/
  sender : PortIdentity
  timers : Finset Timer
  masterMessages : List (MessageType × List UInt8)
  offsets : List MsgHeader
  clockSteps : List TimeInternal

/-- The engine of a state. -/
def System.engine (s : System) : Engine :=
  { portState := s.ptpClock.portDS.portState
    recommendedState := s.ptpClock.recommendedState
    delayMechanism := s.ptpClock.portDS.delayMechanism
    events := s.ptpClock.events
    foreignMasterDS := s.ptpClock.foreignMasterDS
    defaultDS := s.ptpClock.defaultDS
    portIdentity := s.ptpClock.portDS.portIdentity
    parentPortIdentity := s.ptpClock.parentDS.parentPortIdentity
    grandmasterIdentity := s.ptpClock.parentDS.grandmasterIdentity
    grandmasterClockQuality := s.ptpClock.parentDS.grandmasterClockQuality
    grandmasterPriority1 := s.ptpClock.parentDS.grandmasterPriority1
    grandmasterPriority2 := s.ptpClock.parentDS.grandmasterPriority2
    stepsRemoved := s.ptpClock.currentDS.stepsRemoved
    offsetFromMaster := s.ptpClock.currentDS.offsetFromMaster
    observedDrift := s.ptpClock.observedDrift
    ofmSamples := s.ptpClock.ofmFilt.n
    waitingForFollowUp := s.ptpClock.waitingForFollowUp
    noAdjust := s.ptpClock.servo.noAdjust
    addend := s.addend
    sentAnnounceSequenceId := s.ptpClock.sentAnnounceSequenceId
    sender := loadPortIdentity s.ptpClock.msgObuf 20
    timers := runningTimers s.history
    masterMessages := Ptpd.masterMessages s.history
    offsets := Ptpd.offsets s.history
    clockSteps := Ptpd.clockSteps s.history }

namespace Engine

/-- `slaveOnly || clockClass == 255`. -/
def isSlaveOnly (e : Engine) : Bool :=
  e.defaultDS.slaveOnly || e.defaultDS.clockQuality.clockClass == 255

/-- `timerStart`. -/
def start (timer : Timer) (e : Engine) : Engine := { e with timers := insert timer e.timers }

/-- `timerStop`. -/
def stop (timer : Timer) (e : Engine) : Engine := { e with timers := e.timers.erase timer }

/-- `initClock`. -/
def initClock (e : Engine) : Engine :=
  { e with
    observedDrift := 0
    ofmSamples := 0
    waitingForFollowUp := false
    addend := if e.noAdjust then e.addend else adjFreqBaseAddend }

/-- `m1`. -/
def m1 (e : Engine) : Engine :=
  { e with
    stepsRemoved := 0
    offsetFromMaster := ⟨0, 0⟩
    parentPortIdentity := { clockIdentity := e.defaultDS.clockIdentity, portNumber := 0 }
    grandmasterIdentity := e.defaultDS.clockIdentity
    grandmasterClockQuality := e.defaultDS.clockQuality
    grandmasterPriority1 := e.defaultDS.priority1
    grandmasterPriority2 := e.defaultDS.priority2 }

/-- `s1`. -/
def s1 (header : MsgHeader) (announce : MsgAnnounce) (e : Engine) : Engine :=
  { e with
    stepsRemoved := announce.stepsRemoved + 1
    events :=
      if isSamePortIdentity e.parentPortIdentity header.sourcePortIdentity then e.events
      else { e.events with masterClockChanged := true }
    parentPortIdentity := header.sourcePortIdentity
    grandmasterIdentity := announce.grandmasterIdentity
    grandmasterClockQuality := announce.grandmasterClockQuality
    grandmasterPriority1 := announce.grandmasterPriority1
    grandmasterPriority2 := announce.grandmasterPriority2 }

/-! ### State transitions -/

/-- Leaving `PTP_UNCALIBRATED` or `PTP_SLAVE`. -/
def leaveFollower (e : Engine) : Engine :=
  let e := e.stop .announceReceipt
  let e :=
    match e.delayMechanism with
    | .e2e => e.stop .delayReqInterval
    | .p2p => e.stop .pdelayReqInterval
    | .other => e
  e.initClock

/-- The tasks on leaving the present state for `state`. -/
def leave (state : PtpState) (e : Engine) : Engine :=
  match e.portState with
  | .master => ((e.initClock.stop .syncInterval).stop .announceInterval).stop .pdelayReqInterval
  | .uncalibrated | .slave =>
    if state = .uncalibrated ∨ state = .slave then e else e.leaveFollower
  | .passive => (e.initClock.stop .pdelayReqInterval).stop .announceReceipt
  | .listening => e.initClock.stop .announceReceipt
  | .preMaster => e.initClock.stop .qualificationTimeout
  | _ => e

/-- Entering `PTP_MASTER`. -/
def enterMaster (e : Engine) : Engine :=
  let e := (e.start .syncInterval).start .announceInterval
  let e :=
    match e.delayMechanism with
    | .p2p => e.start .pdelayReqInterval
    | _ => e
  { e with portState := .master }

/-- Entering `PTP_PASSIVE`. -/
def enterPassive (e : Engine) : Engine :=
  let e := e.start .announceReceipt
  let e := if e.delayMechanism = .p2p then e.start .pdelayReqInterval else e
  { e with portState := .passive }

/-- Entering `PTP_UNCALIBRATED`. -/
def enterUncalibrated (e : Engine) : Engine :=
  let e := e.start .announceReceipt
  let e :=
    match e.delayMechanism with
    | .e2e => e.start .delayReqInterval
    | .p2p => e.start .pdelayReqInterval
    | .other => e
  { e with portState := .uncalibrated }

/-- The tasks on entering `state`. -/
def enter (state : PtpState) (e : Engine) : Engine :=
  match state with
  | .initializing => { e with portState := .initializing, recommendedState := .initializing }
  | .faulty => { e with portState := .faulty }
  | .disabled => { e with portState := .disabled }
  | .listening =>
    { e.start .announceReceipt with portState := .listening, recommendedState := .listening }
  | .preMaster | .master => e.enterMaster
  | .passive => e.enterPassive
  | .uncalibrated => e.enterUncalibrated
  | .slave => { e with portState := .slave }

/-- `toState`. -/
def toState (state : PtpState) (e : Engine) : Engine := (e.leave state).enter state

/-! ### The second switch -/

/-- `clearFlag(events, MASTER_CLOCK_CHANGED)`. -/
def clearMasterClockChanged (e : Engine) : Engine :=
  { e with events := { e.events with masterClockChanged := false } }

/-- The event `MASTER_CLOCK_SELECTED` in state `PTP_UNCALIBRATED`. -/
def onMasterClockSelected (e : Engine) : Engine :=
  if e.events.masterClockSelected then
    toState .slave { e with events := { e.events with masterClockSelected := false } }
  else e

/-- The event `SYNCHRONIZATION_FAULT` in state `PTP_SLAVE`. -/
def onSynchronizationFault (e : Engine) : Engine :=
  if e.events.synchronizationFault then
    toState .uncalibrated { e with events := { e.events with synchronizationFault := false } }
  else e

/-- The recommendation `PTP_SLAVE` in state `PTP_UNCALIBRATED`. -/
def followSlaveUncalibrated (e : Engine) : Engine :=
  let e := e.onMasterClockSelected
  if e.events.masterClockChanged then e.clearMasterClockChanged else e

/-- The recommendation `PTP_SLAVE` in state `PTP_SLAVE`. -/
def followSlaveSlave (e : Engine) : Engine :=
  let e := e.onSynchronizationFault
  if e.events.masterClockChanged then toState .uncalibrated e.clearMasterClockChanged else e

/-- The port state follows the recommended state, outside `PTP_PRE_MASTER`. -/
def follow (e : Engine) : Engine :=
  match e.recommendedState with
  | .master =>
    match e.portState with
    | .preMaster | .master => e
    | _ => e.toState .preMaster
  | .passive => if e.portState ≠ .passive then e.toState .passive else e
  | .slave =>
    match e.portState with
    | .uncalibrated => e.followSlaveUncalibrated
    | .slave => e.followSlaveSlave
    | _ => e.toState .uncalibrated
  | .listening => if e.portState ≠ .listening then e.toState .listening else e
  | _ => e

/-- The foreign master data set is emptied. -/
def clearForeign (e : Engine) : Engine :=
  { e with foreignMasterDS := { e.foreignMasterDS with count := 0, i := 0 } }

/-- The announce receipt timeout. -/
def announceTimeout (e : Engine) : Engine :=
  if !e.isSlaveOnly then toState .master { e.clearForeign.m1 with recommendedState := .master }
  else if e.portState ≠ .listening then e.clearForeign.toState .listening
  else e.clearForeign

/-! ### The state decision -/

/-- The state decision event is pending in a state that takes it. -/
def Evaluates (e : Engine) : Prop :=
  e.portState ∈ [.listening, .uncalibrated, .slave, .preMaster, .master, .passive] ∧
    e.events.stateDecisionEvent

/-- The event is taken and record `best` is the best one. -/
def evaluated (best : ℕ) (e : Engine) : Engine :=
  { e with
    events := { e.events with stateDecisionEvent := false }
    foreignMasterDS := { e.foreignMasterDS with best } }

/-- A recommendation, with the override of a slave-only clock. -/
def recommend (state : PtpState) (e : Engine) : Engine :=
  { e with recommendedState :=
      if (state = .master ∨ state = .passive) ∧ e.isSlaveOnly then .listening else state }

/-- **The first switch**: the state decision. -/
inductive Decides (e : Engine) : Engine → Prop
  | idle (h : ¬e.Evaluates) : Decides e e
  | listening (best : ℕ) (he : e.Evaluates) (hb : e.foreignMasterDS.count = 0)
      (h : e.portState = .listening) : Decides e ((e.evaluated best).recommend .listening)
  | master (best : ℕ) (he : e.Evaluates)
      (hb : 0 < e.foreignMasterDS.count → best < e.foreignMasterDS.count) :
      Decides e ((e.evaluated best).m1.recommend .master)
  | passive (best : ℕ) (he : e.Evaluates)
      (hb : 0 < e.foreignMasterDS.count → best < e.foreignMasterDS.count)
      (h : e.defaultDS.clockQuality.clockClass < 128) :
      Decides e ((e.evaluated best).recommend .passive)
  | slave (best : ℕ) (he : e.Evaluates)
      (hb : 0 < e.foreignMasterDS.count → best < e.foreignMasterDS.count)
      (h : ¬e.defaultDS.clockQuality.clockClass < 128) :
      Decides e
        (((e.evaluated best).s1 (e.foreignMasterDS.records best).header
          (e.foreignMasterDS.records best).announce).recommend .slave)

/-! ### The third switch -/

/-- `setFlag(events, STATE_DECISION_EVENT)` and `addForeign`. -/
def store (header : MsgHeader) (announce : MsgAnnounce) (e : Engine) : Engine :=
  { e with
    events := { e.events with stateDecisionEvent := true }
    foreignMasterDS := e.foreignMasterDS.add header announce }

/-- What the Announce of the present master says, decoded. -/
structure Announces (e : Engine) (packet : List UInt8) : Prop where
  sequenceId : (headerIn packet).sequenceId = e.sentAnnounceSequenceId
  sourcePortIdentity : (headerIn packet).sourcePortIdentity = e.sender
  grandmasterIdentity : (announceIn packet).grandmasterIdentity = e.grandmasterIdentity
  grandmasterClockQuality :
    (announceIn packet).grandmasterClockQuality = e.defaultDS.clockQuality
  grandmasterPriority1 : (announceIn packet).grandmasterPriority1 = e.grandmasterPriority1
  grandmasterPriority2 : (announceIn packet).grandmasterPriority2 = e.grandmasterPriority2
  stepsRemoved : (announceIn packet).stepsRemoved = e.stepsRemoved

/-- The transmissions of a master by its Sync and Announce timers. -/
inductive Sends (e : Engine) : Engine → Prop
  | sync (packet : List UInt8) (h : e.portState = .master) :
      Sends e { e with masterMessages := (.sync, packet) :: e.masterMessages }
  | followUp (packet : List UInt8) (h : e.portState = .master) :
      Sends e { e with masterMessages := (.followUp, packet) :: e.masterMessages }
  | announce (packet : List UInt8) (h : e.portState = .master) (hp : e.Announces packet) :
      Sends e
        { e with
          masterMessages := (.announce, packet) :: e.masterMessages
          sentAnnounceSequenceId := e.sentAnnounceSequenceId + 1 }

/-- `issueDelayReqTimerExpired` restarts the timer of the requests, or does nothing. -/
inductive Requests (e : Engine) : Engine → Prop
  | none : Requests e e
  | delayReq (hd : e.delayMechanism = .e2e) (h : e.portState = .slave) :
      Requests e (e.start .delayReqInterval)
  | pdelayReq (hd : e.delayMechanism = .p2p)
      (h : e.portState ∈ [.uncalibrated, .slave, .passive, .master, .faulty]) :
      Requests e (e.start .pdelayReqInterval)

/-- The use of a Sync or a Follow_Up with this header: `updateOffset`, then `updateClock`. -/
structure Measures (header : MsgHeader) (e e' : Engine) : Prop where
  eq : ∃ events offset drift samples addend steps, e' =
    { e with
      events
      offsetFromMaster := offset
      observedDrift := drift
      ofmSamples := samples
      waitingForFollowUp := false
      addend
      offsets := header :: e.offsets
      clockSteps := steps }
  stateDecisionEvent : e'.events.stateDecisionEvent = e.events.stateDecisionEvent
  masterClockChanged : e'.events.masterClockChanged = e.events.masterClockChanged
  synchronizationFault : e'.events.synchronizationFault →
    e.events.synchronizationFault ∨ e.portState = .slave
  masterClockSelected : e'.events.masterClockSelected →
    e.events.masterClockSelected ∨
      e.portState = .uncalibrated ∧ e'.offsetFromMaster.seconds = 0 ∧
        abs32 e'.offsetFromMaster.nanoseconds < defaultCalibratedOffsetNs

/-- **The outcomes of `handle`.** -/
inductive Outcome (e : Engine) : Engine → Prop
  | ignored : Outcome e e
  | short : Outcome e (e.toState .faulty)
  | store (header : MsgHeader) (announce : MsgAnnounce)
      (h : e.portState ∈ [.listening, .uncalibrated, .slave, .preMaster, .master]) :
      Outcome e (e.store header announce)
  | storePassive (header : MsgHeader) (announce : MsgAnnounce) (h : e.portState = .passive) :
      Outcome e ((e.start .announceReceipt).store header announce)
  | followParent (header : MsgHeader) (announce : MsgAnnounce) (h : e.portState.Following)
      (hp : e.parentPortIdentity = header.sourcePortIdentity) :
      Outcome e
        ((({ e with events := { e.events with stateDecisionEvent := true } } : Engine).s1 header
          announce).start .announceReceipt)
  | storeSync (h : e.portState.Following) : Outcome e { e with waitingForFollowUp := true }
  | measure (header : MsgHeader) (e₁ e₂ : Engine) (h : e.portState.Following)
      (hp : e.parentPortIdentity = header.sourcePortIdentity) (hm : Measures header e e₁)
      (hr : Requests e₁ e₂) : Outcome e e₂
  | requests (e₁ : Engine) (h : e.portState = .passive) (hr : Requests e e₁) : Outcome e e₁
  | serve (packet : List UInt8) (h : e.portState = .master) :
      Outcome e { e with masterMessages := (.delayResp, packet) :: e.masterMessages }

/-- **The third switch**: the actions of the port state. -/
inductive Acts (e : Engine) : Engine → Prop
  | timeout (h : e.portState.Awaiting) : Acts e e.announceTimeout
  | await (e₁ : Engine) (h : e.portState.Awaiting) (ho : Outcome e e₁) : Acts e e₁
  | master (e₁ e₂ e₃ : Engine) (h : e.portState = .master) (hs : ReflTransGen Sends e e₁)
      (ho : Outcome e₁ e₂) (hr : Requests e₂ e₃) : Acts e e₃

/-- **One call of `doState`** of a port that has been initialised. -/
def Call (e e' : Engine) : Prop := ∃ e₁, Decides e e₁ ∧ Acts e₁.follow e'

/-! ### Port states along a call -/

section PortState

variable {e e' : Engine}

theorem Requests.portState (h : Requests e e') : e'.portState = e.portState := by
  cases h <;> rfl

theorem portState_of_sends (h : ReflTransGen Sends e e') : e'.portState = e.portState := by
  induction h with
  | refl => rfl
  | tail _ hstep ih => cases hstep <;> exact ih

@[simp] theorem initClock_portState (e : Engine) : e.initClock.portState = e.portState := rfl

@[simp] theorem toState_portState (state : PtpState) (e : Engine) :
    (e.toState state).portState = state.entered := by
  cases state <;> rfl

end PortState

end Engine

end Ptpd

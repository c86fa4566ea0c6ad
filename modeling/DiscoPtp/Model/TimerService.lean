import DiscoPtp.Model.Datatypes
import DiscoPtp.Library.Transition

/-!
# Timer service

The timers of `timer.c` over the timer service of the operating system. Starting and stopping a
timer posts a command to the service, a task of lower priority; the service takes the commands in
turn, decides that the countdown of a timer has elapsed, and then runs `timerCallback`, which sets
the flag that `timerExpired` reads. The tasks of higher priority run at any time in between.

The calls of `timerStart` are numbered, and a countdown carries the number of the call it goes back
to. Time is left out: the countdown of a timer in a list may have elapsed whenever the service
looks.

## Main definitions

* `TimerCommand`: the commands of the queue
* `TimerService`: the state of the service and of `timer.c`
* `TimerEvent`, `TimerService.step`: what happens next
* `TimerService.Runs`: runs whose events satisfy a condition
-/

namespace Ptpd

/-- `configTIMER_QUEUE_LENGTH`. -/
def timerQueueLength : ℕ := 10

/-- A command to the timer service. -/
inductive TimerCommand
  /-- `tmrCOMMAND_CHANGE_PERIOD`, which `osTimerStart` posts. -/
  | changePeriod (timer : Timer) (call : ℕ)
  /-- `tmrCOMMAND_STOP`, which `osTimerStop` posts. -/
  | stop (timer : Timer)
  /-- `tmrCOMMAND_START_DONT_TRACE`, which the service posts to itself to reload a timer. -/
  | start (timer : Timer) (call : ℕ)
  /-- A command for a timer of another task. -/
  | foreign
  deriving DecidableEq

/-- The state of the service and of `timer.c`. -/
structure TimerService where
  /-- The commands that wait, the oldest first. -/
  commands : List TimerCommand
  /-- The timers in the active lists, with the call they count down for. -/
  active : Timer → Option ℕ
  /-- The service has decided that the countdown of a timer for a call has elapsed, and the callback
  is to run; a reload command is posted after it if the flag is set. -/
  notice : Option (Timer × ℕ × Bool)
  /-- `ptpdTimersExpired`: a flag that is set carries the call whose countdown has set it. -/
  expired : Timer → Option ℕ
  /-- The number of calls of `timerStart` so far. -/
  calls : ℕ
  /-- The most recent call of `timerStart` for a timer, if it has not been stopped since. -/
  latest : Timer → Option ℕ

/-- The state after `initTimer`. -/
def TimerService.init : TimerService :=
  { commands := []
    active := fun _ => none
    notice := none
    expired := fun _ => none
    calls := 0
    latest := fun _ => none }

/-- How the service keeps a periodic timer running after its countdown has elapsed: it is put back
into a list, or a command is posted before or after the callback. -/
inductive Reload
  | listed | postedBefore | postedAfter
  deriving DecidableEq

/-- What happens next. -/
inductive TimerEvent
  /-- The PTP task calls `timerStart`, `timerStop` or `timerExpired`. -/
  | timerStart (timer : Timer)
  | timerStop (timer : Timer)
  | timerExpired (timer : Timer)
  /-- Another task posts a command. -/
  | foreign
  /-- The service decides that the countdown of a timer has elapsed. -/
  | elapsed (timer : Timer) (reload : Reload)
  /-- `timerCallback` runs. -/
  | callback
  /-- The service takes a command; `late` if the countdown that it starts has elapsed already. -/
  | command (late : Bool)

namespace TimerService

/-- There is room for one more command. -/
def HasRoom (s : TimerService) : Prop := s.commands.length < timerQueueLength

instance (s : TimerService) : Decidable s.HasRoom := inferInstanceAs (Decidable (_ < _))

/-- `xTimerGenericCommand` without waiting: a command that finds no room is lost. -/
def post (c : TimerCommand) (s : TimerService) : TimerService :=
  if s.HasRoom then { s with commands := s.commands ++ [c] } else s

/-- The flag of a timer is cleared. -/
def clearFlag (timer : Timer) (s : TimerService) : TimerService :=
  { s with expired := Function.update s.expired timer none }

/-- `timerStart`. -/
def timerStart (timer : Timer) (s : TimerService) : TimerService :=
  { (s.clearFlag timer).post (.changePeriod timer s.calls) with
    calls := s.calls + 1
    latest := Function.update s.latest timer (some s.calls) }

/-- `timerStop`. -/
def timerStop (timer : Timer) (s : TimerService) : TimerService :=
  { (s.post (.stop timer)).clearFlag timer with latest := Function.update s.latest timer none }

/-- The service decides that the countdown of a timer for a call has elapsed. Without room for the
command that reloads it the system stops. -/
def elapse (timer : Timer) (call : ℕ) (s : TimerService) : Reload → Option TimerService
  | .listed => some { s with notice := some (timer, call, false) }
  | .postedBefore =>
    if s.HasRoom then
      some
        { s.post (.start timer call) with
          active := Function.update s.active timer none
          notice := some (timer, call, false) }
    else none
  | .postedAfter =>
    some
      { s with
        active := Function.update s.active timer none
        notice := some (timer, call, true) }

/-- `timerCallback`, and the reload after it. -/
def timerCallback (timer : Timer) (call : ℕ) (reload : Bool) (s : TimerService) :
    Option TimerService :=
  let s := { s with expired := Function.update s.expired timer (some call), notice := none }
  if reload then if s.HasRoom then some (s.post (.start timer call)) else none else some s

/-- `prvProcessReceivedCommands`, for one command. -/
def process (c : TimerCommand) (late : Bool) (s : TimerService) : TimerService :=
  match c with
  | .changePeriod timer call => { s with active := Function.update s.active timer (some call) }
  | .stop timer => { s with active := Function.update s.active timer none }
  | .start timer call =>
    if late then
      { s with
        active := Function.update s.active timer none
        notice := some (timer, call, true) }
    else { s with active := Function.update s.active timer (some call) }
  | .foreign => s

/-- **The steps.** The service decides and takes commands only between two callbacks. -/
def step (s : TimerService) : TimerEvent → Option TimerService
  | .timerStart timer => some (s.timerStart timer)
  | .timerStop timer => some (s.timerStop timer)
  | .timerExpired timer => some (s.clearFlag timer)
  | .foreign => some (s.post .foreign)
  | .elapsed timer reload =>
    match s.notice, s.active timer with
    | none, some call => s.elapse timer call reload
    | _, _ => none
  | .callback =>
    match s.notice with
    | some (timer, call, reload) => s.timerCallback timer call reload
    | none => none
  | .command late =>
    match s.notice, s.commands with
    | none, c :: commands => some ({ s with commands }.process c late)
    | _, _ => none

/-- One step with an event that the condition allows. -/
def Next (C : TimerService → TimerEvent → Prop) (s s' : TimerService) : Prop :=
  ∃ event, C s event ∧ s.step event = some s'

/-- Runs from `initTimer` on whose events satisfy the condition. -/
def Runs (C : TimerService → TimerEvent → Prop) : Transition.TransitionSystem TimerService :=
  { init := fun s => s = init, next := Next C }

end TimerService

end Ptpd

import DiscoPtp.Library.Transition

/-!
# DHCP server

The server of `dhcp_server.c`. The network thread puts a datagram into one pending slot and gives a
binary semaphore; the server thread takes the semaphore and answers what is in the slot. The network
thread has the higher priority, so its callback runs between any two steps of the server.

## Main definitions

* `scanOptions`, `scanReads`: the search for option 53, and the option octets it reads
* `Dhcps`, `DhcpPhase`: the state of the server, and where its thread stands
* `DhcpEvent`, `Dhcps.step`: what happens next
* `Dhcps.Runs`: runs of the server whose events satisfy a condition
-/

namespace Ptpd

/-- `sizeof(struct dhcp_payload)`. -/
def dhcpPayloadLength : ℕ := 240

/-- `DHCP_MSG_LEN`. -/
def dhcpMsgLen : ℕ := 276

def dhcpDiscover : UInt8 := 1
def dhcpOffer : UInt8 := 2
def dhcpRequest : UInt8 := 3
def dhcpAck : UInt8 := 5

/-! ## The option scan -/

/-- The loop that searches option 53, for at most `fuel` rounds from the cursor `i` on: the message
type, or `none` when it has not ended. -/
def scanOptions (options : ℕ → UInt8) : ℕ → ℕ → Option UInt8
  | 0, _ => none
  | fuel + 1, i =>
    if i < dhcpMsgLen then
      if options i = 53 then some (options (i + 2))
      else scanOptions options fuel ((options (i + 1)).toNat + 2)
    else some 0

/-- The indices into `options` that the loop reads. -/
def scanReads (options : ℕ → UInt8) : ℕ → ℕ → List ℕ
  | 0, _ => []
  | fuel + 1, i =>
    if i < dhcpMsgLen then
      if options i = 53 then [i, i + 2]
      else i :: (i + 1) :: scanReads options fuel ((options (i + 1)).toNat + 2)
    else []

/-! ## The server -/

/-- A datagram as handed to `dhcp_recv_cb`: the sender, the length of its first segment and what
the server looks at. -/
structure DhcpDatagram where
  addr : UInt32
  len : ℕ
  xid : UInt32
  /-- The octets of `chaddr` that the server copies. -/
  chaddr : Vector UInt8 6
  /-- The memory from the options on; what is after the received data is whatever was there. -/
  options : ℕ → UInt8

/-- The number of option octets in the received data. -/
def DhcpDatagram.optionCount (p : DhcpDatagram) : ℕ := p.len - dhcpPayloadLength

/-- A datagram that the callback has accepted, and how many it had accepted before. -/
structure Request extends DhcpDatagram where
  serial : ℕ

/-- What `send_dhcp_reply` sends: the destination and the fields that depend on its arguments. -/
structure DhcpReply where
  addr : UInt32
  xid : UInt32
  msgType : UInt8
  chaddr : Vector UInt8 6

/-- Where the server thread stands. -/
inductive DhcpPhase
  /-- `dhcp_server_start` has not been called. -/
  | notStarted
  /-- In `xSemaphoreTake`. -/
  | waiting
  /-- Before the test of `pending_buf`. -/
  | taken
  /-- Before the payload of `pending_buf` is looked up. -/
  | tested
  /-- In the option scan. -/
  | scanning (msg : Request)
  /-- Before the reply. -/
  | answering (msg : Request) (dhcpType : UInt8)
  /-- Before `pbuf_free`. -/
  | freeing
  /-- Before `pending_buf = NULL`. -/
  | clearing

/-- `dhcps`, the thread, and what has become of the datagrams. -/
structure Dhcps where
  sem : Bool
  pendingBuf : Option Request
  pendingAddr : UInt32
  thread : DhcpPhase
  /-- The datagrams accepted, the newest first. -/
  accepted : List Request
  /-- The datagrams handed to `pbuf_free`. -/
  freed : List Request
  /-- The replies sent. -/
  replies : List DhcpReply

/-- The server after `dhcp_server_init`. -/
def Dhcps.init : Dhcps :=
  { sem := false
    pendingBuf := none
    pendingAddr := 0
    thread := .notStarted
    accepted := []
    freed := []
    replies := [] }

/-- The type of the reply to a message type. -/
def replyType (dhcpType : UInt8) : Option UInt8 :=
  if dhcpType = dhcpDiscover then some dhcpOffer
  else if dhcpType = dhcpRequest then some dhcpAck
  else none

/-- What happens next. -/
inductive DhcpEvent
  /-- `dhcp_server_start`. -/
  | start
  /-- `dhcp_recv_cb`. -/
  | recv (p : DhcpDatagram)
  /-- The server thread takes its next step. The option scan ends within `fuel` rounds; `alloc` says
  whether `pbuf_alloc` has a buffer for the reply. -/
  | run (fuel : ℕ) (alloc : Bool)

namespace Dhcps

/-- `dhcp_recv_cb`. A datagram without a whole payload is freed at once; the semaphore is binary. -/
def recv (d : Dhcps) (p : DhcpDatagram) : Dhcps :=
  if dhcpPayloadLength ≤ p.len then
    let request : Request := { p with serial := d.accepted.length }
    { d with
      pendingBuf := some request
      pendingAddr := p.addr
      sem := true
      accepted := request :: d.accepted }
  else d

/-- `send_dhcp_reply` for a message of this type; the address is read from the slot. -/
def reply (d : Dhcps) (msg : Request) (dhcpType : UInt8) (alloc : Bool) : Dhcps :=
  match replyType dhcpType with
  | none => d
  | some msgType =>
    if alloc then
      { d with replies := ⟨d.pendingAddr, msg.xid, msgType, msg.chaddr⟩ :: d.replies }
    else d

/-- The next step of the server thread. -/
def run (d : Dhcps) (fuel : ℕ) (alloc : Bool) : Option Dhcps :=
  match d.thread with
  | .notStarted => none
  | .waiting => if d.sem then some { d with sem := false, thread := .taken } else none
  | .taken =>
    some { d with thread := if d.pendingBuf.isSome then .tested else .waiting }
  | .tested => d.pendingBuf.map fun msg => { d with thread := .scanning msg }
  | .scanning msg =>
    (scanOptions msg.options fuel 0).map fun dhcpType =>
      { d with thread := .answering msg dhcpType }
  | .answering msg dhcpType => some { d.reply msg dhcpType alloc with thread := .freeing }
  | .freeing =>
    d.pendingBuf.map fun p => { d with freed := p :: d.freed, thread := .clearing }
  | .clearing => some { d with pendingBuf := none, thread := .waiting }

/-- **The steps of the server.** -/
def step (d : Dhcps) : DhcpEvent → Option Dhcps
  | .start =>
    match d.thread with
    | .notStarted => some { d with thread := .waiting }
    | _ => none
  | .recv p => some (d.recv p)
  | .run fuel alloc => d.run fuel alloc

/-- One step with an event that the condition allows. -/
def Next (C : Dhcps → DhcpEvent → Prop) (d d' : Dhcps) : Prop :=
  ∃ event, C d event ∧ d.step event = some d'

/-- Runs of the server whose events satisfy the condition. -/
def Runs (C : Dhcps → DhcpEvent → Prop) : Transition.TransitionSystem Dhcps :=
  { init := fun d => d = init, next := Next C }

end Dhcps

end Ptpd

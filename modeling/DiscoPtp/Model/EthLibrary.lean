import Mathlib.Data.Multiset.Basic

/-!
# The Ethernet library from outside

`ethernetif.c` receives through a driver library that is not part of the repository. The library
owns the descriptors: `HAL_ETH_Start_IT` and `HAL_ETH_ReadData` call back for the buffers of the
descriptors and for each buffer of a packet, and the hardware fills buffers at any time. Here it is
a parameter, and what the driver relies on is a contract.

## Main definitions

* `LibraryCall`: what a call of the library does next
* `EthLibrary`: the library and the hardware behind it
* `EthLibrary.Within`: what has happened in a call so far
* `EthLibrary.Documented`: the contract
-/

namespace Ptpd

/-- What a call of the library does next, with the state of the library after it. -/
inductive LibraryCall (σ : Type)
  /-- Something that the driver does not see. -/
  | internal (s : σ)
  /-- It asks for a buffer, and goes on with the answer. -/
  | rxAllocateCallback (answer : Option ℕ → σ)
  /-- It chains a buffer to the packet. -/
  | rxLinkCallback (buffer : ℕ) (s : σ)
  /-- It returns, and hands out the packet if that is `ready`. -/
  | returns (ready : Bool) (s : σ)

/-- The library and the hardware behind it. The buffers are numbered. -/
structure EthLibrary where
  State : Type
  /-- `ETH_RX_DESC_CNT`. -/
  descriptors : ℕ
  /-- `HAL_ETH_Start_IT` is called. -/
  start : State
  /-- `HAL_ETH_ReadData` is called. -/
  readData : State → State
  /-- The call goes on. -/
  next : State → LibraryCall State
  /-- The hardware completes a packet of so many buffers, if it can. -/
  receive : ℕ → State → Option State
  /-- The buffers in descriptors, empty or filled. -/
  buffers : State → Multiset ℕ
  /-- The number of descriptors without a buffer. -/
  missing : State → ℕ
  /-- The number of packets that are complete and have not been read. -/
  unread : State → ℕ

/-- What has happened since a call of the library began. -/
structure CallLog where
  /-- The hardware has completed a packet. -/
  arrived : Bool := false
  /-- A request for a buffer was refused. -/
  refused : Bool := false
  /-- A buffer has been chained. -/
  linked : Bool := false

namespace EthLibrary

variable (lib : EthLibrary)

/-- What has happened in a call so far, and the state of the library now. -/
inductive Within : CallLog → lib.State → Prop
  | start : Within {} lib.start
  | readData (s : lib.State) : Within {} (lib.readData s)
  | internal {log : CallLog} {s t : lib.State} (h : Within log s)
    (hnext : lib.next s = .internal t) : Within log t
  | granted {log : CallLog} {s : lib.State} {answer : Option ℕ → lib.State} (buffer : ℕ)
    (h : Within log s) (hnext : lib.next s = .rxAllocateCallback answer) :
    Within log (answer (some buffer))
  | refused {log : CallLog} {s : lib.State} {answer : Option ℕ → lib.State} (h : Within log s)
    (hnext : lib.next s = .rxAllocateCallback answer) :
    Within { log with refused := true } (answer none)
  | linked {log : CallLog} {s t : lib.State} {buffer : ℕ} (h : Within log s)
    (hnext : lib.next s = .rxLinkCallback buffer t) : Within { log with linked := true } t
  | received {log : CallLog} {s t : lib.State} (n : ℕ) (h : Within log s)
    (ht : lib.receive n s = some t) : Within { log with arrived := true } t

/-- The descriptors are as before. -/
def SameDescriptors (s t : lib.State) : Prop :=
  lib.buffers t = lib.buffers s ∧ lib.missing t = lib.missing s

/-- **What the driver relies on**: the library keeps account of the buffers in its descriptors; a
call reads a packet if there was one when it began, and gives all descriptors buffers unless a
request is refused. -/
structure Documented : Prop where
  start : lib.buffers lib.start = 0 ∧ lib.missing lib.start = lib.descriptors
  readData (s : lib.State) : lib.SameDescriptors s (lib.readData s)
  internal {s t : lib.State} (hnext : lib.next s = .internal t) : lib.SameDescriptors s t
  refused {s : lib.State} {answer : Option ℕ → lib.State}
    (hnext : lib.next s = .rxAllocateCallback answer) : lib.SameDescriptors s (answer none)
  /-- A buffer that is granted goes into a descriptor. -/
  granted {s : lib.State} {answer : Option ℕ → lib.State} (buffer : ℕ)
    (hnext : lib.next s = .rxAllocateCallback answer) :
    lib.buffers (answer (some buffer)) = buffer ::ₘ lib.buffers s ∧
      lib.missing (answer (some buffer)) + 1 = lib.missing s
  /-- A buffer that is chained leaves its descriptor. -/
  linked {s t : lib.State} {buffer : ℕ} (hnext : lib.next s = .rxLinkCallback buffer t) :
    lib.buffers s = buffer ::ₘ lib.buffers t ∧ lib.missing t = lib.missing s + 1
  returns {s t : lib.State} {ready : Bool} (hnext : lib.next s = .returns ready t) :
    lib.SameDescriptors s t ∧ lib.unread t = lib.unread s
  receive {n : ℕ} {s t : lib.State} (ht : lib.receive n s = some t) : lib.SameDescriptors s t
  /-- A call that hands out no packet has found none. -/
  reads {log : CallLog} {s t : lib.State} (h : lib.Within log s)
    (hnext : lib.next s = .returns false t) (hlog : log.arrived = false) : lib.unread s = 0
  /-- A packet that is handed out has a buffer. -/
  delivers {log : CallLog} {s t : lib.State} (h : lib.Within log s)
    (hnext : lib.next s = .returns true t) : log.linked = true
  fills {log : CallLog} {s t : lib.State} {ready : Bool} (h : lib.Within log s)
    (hnext : lib.next s = .returns ready t) (hlog : log.refused = false) : lib.missing s = 0

end EthLibrary

end Ptpd

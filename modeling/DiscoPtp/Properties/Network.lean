import DiscoPtp.Library.Composition
import DiscoPtp.Properties.Arrivals
import DiscoPtp.Properties.Agreement
import DiscoPtp.Properties.Announcing
import DiscoPtp.Properties.RoundTrip

/-!
# A network of ports

Any number of devices that run the daemon, each with its own options and hardware address, on a
network that loses, delays, reorders and duplicates datagrams. What it carries is a parameter: the
Announces, or all messages, are those that the ports have transmitted. The calls of different ports
overlap.

## Main definitions

* `Device`: the options and the hardware address of a port
* `transmitted`: the packets that a port has put on the network
* `PortStep`, `networkOf`: what the ports do, and a network that hands over certain datagrams
* `Delivered`, `network`: the Announces in the domains of the ports are those of the ports
* `Genuine`, `closedNetwork`: all messages are those of the ports

## Main results

* `announcePackets_of_transmitted`: what looks like an Announce has been sent as one
* `network_placed`: each port runs as that of its device
* `network_transmitted`: what has been transmitted stays so
-/

namespace Ptpd

open Relation (ReflTransGen TransGen)

/-! ## Devices -/

/-- A device: the options that its daemon is started with, and its hardware address. -/
structure Device where
  rtOpts : RunTimeOpts
  hwaddr : Vector UInt8 6

/-- The clock of a device, as `initData` sets it up. -/
def Device.clock (d : Device) : PtpClock :=
  initData
    { (default : PtpClock) with rtOpts := startupOpts d.rtOpts, portUuidField := d.hwaddr }

/-- The attributes by which a device is compared with others: the smaller ones are better. -/
def Device.attributes (d : Device) := (localSet d.clock).attributes

/-- The default data set and the port identity of a device. -/
def Device.identity (d : Device) : DefaultDS × PortIdentity :=
  (d.clock.defaultDS, d.clock.portDS.portIdentity)

theorem EUI48toEUI64_injective : Function.Injective EUI48toEUI64 := by
  intro a b h
  apply Vector.ext
  intro k hk
  have hall (m : ℕ) (hm : m < 8) : (EUI48toEUI64 a)[m] = (EUI48toEUI64 b)[m] := by rw [h]
  -- the octets of the address are the outer ones of the identity
  match k, hk with
  | 0, _ => exact hall 0 (by decide)
  | 1, _ => exact hall 1 (by decide)
  | 2, _ => exact hall 2 (by decide)
  | 3, _ => exact hall 5 (by decide)
  | 4, _ => exact hall 6 (by decide)
  | 5, _ => exact hall 7 (by decide)

section Device

variable {d d' : Device}

theorem Device.hwaddr_eq (h : d.clock.defaultDS.clockIdentity = d'.clock.defaultDS.clockIdentity) :
    d.hwaddr = d'.hwaddr := EUI48toEUI64_injective h

theorem Device.hwaddr_eq_of_attributes (h : d.attributes = d'.attributes) :
    d.hwaddr = d'.hwaddr := Device.hwaddr_eq (clockIdentity_of_attributes h)

/-- The local data set is that of the default data set. -/
theorem localSet_congr {c c' : PtpClock} (h : c.defaultDS = c'.defaultDS) :
    localSet c = localSet c' := by
  unfold localSet copyD0 DataSet.decoded
  rw [h]

end Device

/-! ## What the ports transmit -/

/-- The packets that have been put on the network. -/
def transmitted (history : List Entry) : Set (List UInt8) :=
  {packet | ∃ type stamp, .send type packet (.sent stamp) ∈ history}

theorem transmitted_mono {older history : List Entry} (h : older <:+ history) :
    transmitted older ⊆ transmitted history := by
  rintro packet ⟨type, stamp, hmem⟩
  exact ⟨type, stamp, h.subset hmem⟩

/-- The type of a packet, by its header. -/
def typeIn (packet : List UInt8) : Option MessageType :=
  MessageType.ofCode (headerIn packet).messageType

/-- The octets of an Announce. -/
def IsAnnounce (packet : List UInt8) : Prop := typeIn packet = some .announce

theorem mem_sends {type : MessageType} {packet : List UInt8} {outcome : SendOutcome}
    {history : List Entry} (h : .send type packet outcome ∈ history) :
    (type, packet) ∈ sends history := by
  induction history with
  | nil => cases h
  | cons e history ih =>
    rcases List.mem_cons.mp h with rfl | h
    · exact List.mem_cons_self
    · have hrest := ih h
      cases e with
      | send type' packet' outcome' => exact List.mem_cons_of_mem _ hrest
      | _ => exact hrest

theorem mem_announcePackets {packet : List UInt8} {history : List Entry}
    (h : (.announce, packet) ∈ sends history) : packet ∈ announcePackets history := by
  induction history with
  | nil => cases h
  | cons e history ih =>
    cases e with
    | send type packet' outcome =>
      rcases List.mem_cons.mp h with heq | h
      · obtain ⟨rfl, rfl⟩ := Prod.mk.inj heq
        exact List.mem_cons_self
      · have hrest : packet ∈ announcePackets history := ih h
        cases type with
        | announce => exact List.mem_cons_of_mem packet' hrest
        | _ => exact hrest
    | _ => exact ih h

/-- Every message in the outbox shows its own type. -/
def Outbox.Labelled (o : Outbox) : Prop :=
  ∀ message ∈ o.sent, typeIn message.2 = some message.1

theorem Outbox.labelled_preserved : Transition.Preserves OutboxStep Outbox.Labelled := by
  intro o o' h ho
  cases h with
  | header c => exact ho
  | send call =>
    intro message hmem
    rcases List.mem_cons.mp hmem with rfl | hmem
    · obtain ⟨controlField, interval, hpack⟩ := pack_eq_changes call o.buf
      have hlength : (0 : ℕ) < call.length := by
        cases call <;> simp only [PackCall.length] <;> decide
      have hfirst : (packetOf (call.pack o.buf) call.length).getD 0 0 =
          o.buf 0 &&& 0xF0 ||| call.type.code := by
        rw [getD_packetOf _ hlength, hpack 0 (by omega), msgPackChanges,
          store8_of_ne _ _ (by decide), store8_of_ne _ _ (by decide),
          store16_of_ne _ _ (by decide) (by decide), store16_of_ne _ _ (by decide) (by decide),
          store8_same]
      show MessageType.ofCode ((packetOf (call.pack o.buf) call.length).getD 0 0 &&& 0x0F) = _
      rw [hfirst, type_kept]
      exact MessageType.ofCode_code call.type
    · exact ho message hmem

/-- Every packet that has been sent shows its own type. -/
theorem Visited.labelled {rtOpts : RunTimeOpts} {s : System} (hs : Visited rtOpts s) :
    s.outbox.Labelled := by
  refine hs.of_action (Outbox.labelled_preserved.of_simulates action_simulates_outbox) ?_
  obtain ⟨_, heq, _⟩ := boot_eq rtOpts
  rw [heq]
  intro message hmem
  cases hmem

/-- A transmitted packet has been sent as a message of its type. -/
theorem exists_send_of_transmitted {rtOpts : RunTimeOpts} {s : System} (hs : Reachable rtOpts s)
    {packet : List UInt8} (h : packet ∈ transmitted s.history) {type : MessageType}
    (ht : typeIn packet = some type) : ∃ stamp, .send type packet (.sent stamp) ∈ s.history := by
  obtain ⟨type', stamp, hmem⟩ := h
  have htype : typeIn packet = some type' := hs.visited.labelled (type', packet) (mem_sends hmem)
  rw [ht] at htype
  rw [← Option.some.inj htype] at hmem
  exact ⟨stamp, hmem⟩

/-- A transmitted Announce has been sent as one. -/
theorem announcePackets_of_transmitted {rtOpts : RunTimeOpts} {s : System}
    (hs : Reachable rtOpts s) {packet : List UInt8} (h : packet ∈ transmitted s.history)
    (ha : IsAnnounce packet) : packet ∈ announcePackets s.history := by
  obtain ⟨stamp, hmem⟩ := exists_send_of_transmitted hs h ha
  exact mem_announcePackets (mem_sends hmem)

/-! ## The network -/

variable {ι : Type*}

/-- What a port does in one step of the network: nothing, a call of `doState`, or something outside
of the PTP task. -/
inductive PortStep (d : Device) (delivered : Pbuf → Prop) (s : System) : System → Prop
  | idle : PortStep d delivered s s
  | doState (env : Env) (hwaddr : env.hwaddr = d.hwaddr) (brings : env.Brings delivered) :
      PortStep d delivered s (doState env s)
  | interrupt (i : Interrupt) (brings : i.Brings delivered) :
      PortStep d delivered s (interrupt s i)

/-- **A network** that hands over the datagrams in `delivered`. A frame that is read in a step has
been transmitted by the end of the step, so that the calls of different ports may overlap. -/
def networkOf (delivered : (ι → System) → Pbuf → Prop) (device : ι → Device) :
    Transition.Composition ι System where
  init i s := s = boot (device i).rtOpts
  step ports i := PortStep (device i) (delivered ports)

section Ports

variable {device : ι → Device} {delivered : (ι → System) → Pbuf → Prop} {ports ports' : ι → System}
  {i j : ι}

theorem PortStep.step {d : Device} {delivered : Pbuf → Prop} {s t : System}
    (h : PortStep d delivered s t) : t = s ∨ Step s t := by
  cases h with
  | idle => exact .inl rfl
  | doState env hwaddr brings => exact .inr (.doState env s)
  | interrupt i brings => exact .inr (.interrupt i s)

/-! ## The ports of the devices -/

/-- An initialised port: its default data set and port identity are those of the device. -/
structure Placed (d : Device) (s : System) : Prop where
  settled : s.engine.Settled
  keeps : s.engine.Keeps
  identity : s.engine.identity = d.identity

/-- A success of `doInit` with the hardware address of the device. -/
theorem Device.initialises {d : Device} {env : Env} {s : System} (h : Dormant d.rtOpts s)
    (hnet : env.netInit = true) (hhwaddr : env.hwaddr = d.hwaddr) :
    (doInit env s).2.engine.identity = d.identity := by
  obtain ⟨_, _, hclock, -⟩ := initClock_eq (initTimer ((netInit env s).2.modify initData))
  unfold doInit
  dsimp only
  rw [netInit_fst, if_pos hnet, hclock]
  show ((initData { s.ptpClock with portUuidField := env.hwaddr }).defaultDS,
    (initData { s.ptpClock with portUuidField := env.hwaddr }).portDS.portIdentity) = d.identity
  rw [hhwaddr]
  unfold initData Device.identity Device.clock
  dsimp only
  rw [h.options]
  rfl

/-- **One step of a port**: it is not initialised yet, or runs as that of its device. -/
theorem PortStep.placed {d : Device} {delivered : Pbuf → Prop} {s t : System}
    (hcap : 0 < d.rtOpts.maxForeignRecords) (h : PortStep d delivered s t)
    (hs : Dormant d.rtOpts s ∨ Placed d s) : Dormant d.rtOpts t ∨ Placed d t := by
  cases h with
  | idle => exact hs
  | interrupt i brings =>
    refine hs.imp (fun hdormant => hdormant.interrupts [i]) fun hplaced => ?_
    have hengine := interrupt_engine i s
    exact ⟨hengine ▸ hplaced.settled, hengine ▸ hplaced.keeps, hengine ▸ hplaced.identity⟩
  | doState env hwaddr brings =>
    rcases hs with hdormant | hplaced
    · by_cases hsuccess : (switchCall env s).portState = .initializing ∧ env.netInit = true
      · obtain ⟨u, hu, heq⟩ := hdormant.call_initialises hsuccess.1 hsuccess.2
        have hfresh := hu.initialises hsuccess.2
        have hid := Device.initialises hu hsuccess.2 hwaddr
        have hengine : (Ptpd.doState env s).engine = (doInit env u).2.engine.enter .listening := by
          rw [heq, enterState_engine, setMessageActivity_engine]
        right
        rw [← hengine] at hfresh
        refine ⟨hfresh.settled, hfresh.keeps ?_, ?_⟩
        · rw [startupOpts_maxForeignRecords]
          exact hcap
        · rw [hengine]
          exact hid
      · left
        apply hdormant.call
        rw [not_and_or, Bool.not_eq_true] at hsuccess
        exact hsuccess.symm
    · have hcall := doState_call env hplaced.settled
      exact .inr ⟨hplaced.settled.call hcall, hplaced.keeps.call hplaced.settled hcall,
        (hplaced.settled.call_identity hcall).trans hplaced.identity⟩

/-- Each port runs the daemon. -/
theorem network_reachable (h : (networkOf delivered device).system.Reachable ports) (i : ι) :
    Reachable (device i).rtOpts (ports i) :=
  Transition.Composition.component (C := networkOf delivered device) (S := daemon (device i).rtOpts)
    (fun _ hs => hs) (fun _ _ _ hs => PortStep.step hs) h

/-- Every port of the network is not initialised yet or runs as that of its device. -/
theorem network_placed (hcap : ∀ i, 0 < (device i).rtOpts.maxForeignRecords)
    (h : (networkOf delivered device).system.Reachable ports) (i : ι) :
    Dormant (device i).rtOpts (ports i) ∨ Placed (device i) (ports i) := by
  refine Transition.Composition.invariant (C := networkOf delivered device)
    (I := fun _ i s => Dormant (device i).rtOpts s ∨ Placed (device i) s) ?_ ?_ ?_ h i
  · intro w hw i
    rw [hw i]
    exact .inl (boot_dormant _)
  · exact fun _ _ _ _ _ _ hs => hs
  · exact fun _ i _ _ _ hstep hs => hstep.placed (hcap i) hs

/-- A port only adds to what it has transmitted. -/
theorem network_transmitted (h : (networkOf delivered device).system.next ports ports') (j : ι) :
    transmitted (ports j).history ⊆ transmitted (ports' j).history := by
  rcases PortStep.step (h j) with heq | hstep
  · rw [heq]
  · exact transmitted_mono (history_suffix (.single hstep))

/-! ## What is handed over -/

/-- A datagram whose chain is well formed and without gaps, and which some port has transmitted if
it is a whole Announce in the domain of a port. -/
structure Delivered (device : ι → Device) (ports : ι → System) (p : Pbuf) : Prop where
  wellFormed : p.WellFormed
  noGap : NoGap p.chain
  announce : IsAnnounce (chainBytes p.chain) → announceLength ≤ p.totLen →
    (∃ i, (headerIn (chainBytes p.chain)).domainNumber = (device i).identity.1.domainNumber) →
    ∃ j, chainBytes p.chain ∈ transmitted (ports j).history

/-- A datagram whose chain is well formed and without gaps, and which some port has transmitted if
it is a message. -/
structure Genuine (ports : ι → System) (p : Pbuf) : Prop where
  wellFormed : p.WellFormed
  noGap : NoGap p.chain
  sent : (typeIn (chainBytes p.chain)).isSome →
    ∃ j, chainBytes p.chain ∈ transmitted (ports j).history

/-- **The network** that carries any other traffic besides the Announces of the ports. -/
abbrev network (device : ι → Device) : Transition.Composition ι System :=
  networkOf (Delivered device) device

/-- **The closed network**: only the ports send messages. -/
abbrev closedNetwork (device : ι → Device) : Transition.Composition ι System :=
  networkOf Genuine device

theorem Delivered.mono {p : Pbuf} (h : Delivered device ports p)
    (hsent : ∀ j, transmitted (ports j).history ⊆ transmitted (ports' j).history) :
    Delivered device ports' p :=
  ⟨h.wellFormed, h.noGap, fun ha hl hd => (h.announce ha hl hd).imp fun j hj => hsent j hj⟩

theorem Genuine.mono {p : Pbuf} (h : Genuine ports p)
    (hsent : ∀ j, transmitted (ports j).history ⊆ transmitted (ports' j).history) :
    Genuine ports' p :=
  ⟨h.wellFormed, h.noGap, fun ht => (h.sent ht).imp fun j hj => hsent j hj⟩

theorem Delivered.next {p : Pbuf} (h : Delivered device ports p)
    (hnext : (network device).system.next ports ports') : Delivered device ports' p :=
  h.mono (network_transmitted hnext)

/-! ## One port after the other -/

/-- What a schedule may contain for a port. -/
def Stimulus.Allowed (d : Device) (delivered : Pbuf → Prop) : Stimulus → Prop
  | .doState env => env.hwaddr = d.hwaddr ∧ env.Brings delivered
  | .interrupt i => i.Brings delivered

theorem Stimulus.Allowed.step {d : Device} {delivered : Pbuf → Prop} {x : Stimulus} {s : System}
    (h : x.Allowed d delivered) : PortStep d delivered s (s.respond x) := by
  cases x with
  | doState env => exact .doState env h.1 h.2
  | interrupt i => exact .interrupt i h

/-- **One port runs on** by a schedule while the others wait. -/
theorem network_after [DecidableEq ι]
    (hmore : ∀ (ports ports' : ι → System) (p : Pbuf), delivered ports p →
      (∀ j, transmitted (ports j).history ⊆ transmitted (ports' j).history) → delivered ports' p)
    (h : (networkOf delivered device).system.Reachable ports) (i : ι) (schedule : List Stimulus)
    (hallowed : ∀ x ∈ schedule, x.Allowed (device i) (delivered ports)) :
    (networkOf delivered device).system.Reachable
      (Function.update ports i ((ports i).after schedule)) := by
  induction schedule generalizing ports with
  | nil =>
    rw [show (ports i).after [] = ports i from rfl, Function.update_eq_self]
    exact h
  | cons x schedule ih =>
    have hx := hallowed x List.mem_cons_self
    -- what has been delivered before is delivered afterwards as well
    have hmono (p : Pbuf) (hp : delivered ports p) :
        delivered (Function.update ports i ((ports i).respond x)) p := by
      refine hmore _ _ p hp fun j => ?_
      by_cases hji : j = i
      · rw [hji, Function.update_self]
        refine transmitted_mono (history_suffix ?_)
        rcases hx.step.step with heq | hstep
        · rw [heq]
        · exact .single hstep
      · rw [Function.update_of_ne hji]
    have hbrings {y : Stimulus} (hy : y.Allowed (device i) (delivered ports)) :
        y.Allowed (device i) (delivered (Function.update ports i ((ports i).respond x))) := by
      cases y with
      | doState env =>
        exact ⟨hy.1, fun point k hk p hp => hmono p (hy.2.interrupts point k hk p hp),
          fun p hp => hmono p (hy.2.lateFrames p hp)⟩
      | interrupt k => exact fun p hp => hmono p (hy p hp)
    have hnext : (networkOf delivered device).system.next ports
        (Function.update ports i ((ports i).respond x)) := by
      intro j
      by_cases hji : j = i
      · rw [hji, Function.update_self]
        exact (hbrings hx).step
      · rw [Function.update_of_ne hji]
        exact .idle
    have hrest := ih (h.next hnext) fun y hy => hbrings (hallowed y (List.mem_cons_of_mem x hy))
    rw [Function.update_self, Function.update_idem] at hrest
    exact hrest

end Ports

end Ptpd

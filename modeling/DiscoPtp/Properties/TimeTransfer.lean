import DiscoPtp.Properties.Pairing
import DiscoPtp.Properties.TimestampRange
import DiscoPtp.Properties.Topology
import DiscoPtp.Properties.Usage

/-!
# Time transfer

What the measured times are about where only the ports send messages, and whatever of these is
lost, delayed, reordered or duplicated. The two times of an offset are those of one Sync: the one
that `netSend` returned for it and the one noted on its reception. The two times of a delay are
those of one DelayReq: the one that `netSend` returned for it and the one noted on its reception by
the port that answered it.

## Main definitions

* `Recorded`: what the entries of a port go back to

## Main results

* `closedNetwork_recorded`: the invariant
* `send_unique`: a number and a type determine a message, up to `2 ^ 16` of them
* `offset_of_one_sync`, `delay_of_one_request`: what is measured
-/

namespace Ptpd

open History

/-! ## Entries about messages -/

theorem messageEntries_append (newer older : List Entry) :
    messageEntries (newer ++ older) = messageEntries newer ++ messageEntries older := by
  induction newer with
  | nil => rfl
  | cons e newer ih =>
    cases e with
    | send | eventMessage | syncStored | offset | delay | pdelayStored | peerDelay =>
      exact congrArg (List.cons _) ih
    | _ => exact ih

theorem messageEntries_suffix {older history : List Entry} (h : older <:+ history) :
    messageEntries older <:+ messageEntries history := by
  obtain ⟨newer, rfl⟩ := h
  exact ⟨messageEntries newer, (messageEntries_append newer older).symm⟩

/-- The Sync that is stored has been stored. -/
theorem lastSync_suffix {history before : List Entry} {sync : MsgHeader} {time : TimeInternal}
    (h : lastSync history = some (sync, time, before)) :
    .syncStored sync time :: before <:+ history := by
  induction history with
  | nil => cases h
  | cons e history ih =>
    cases e with
    | syncStored sync' time' =>
      obtain ⟨rfl, rfl, rfl⟩ : sync' = sync ∧ time' = time ∧ history = before := by
        simpa [lastSync] using h
      exact List.suffix_refl _
    | _ => exact (ih h).trans (List.suffix_cons _ _)

/-! ## Conversions -/

/-- A time that a timestamp carries from one port to another. -/
structure TimeInternal.Carried (t : TimeInternal) : Prop where
  nonneg : 0 ≤ t.seconds
  lt : t.seconds < 2147483647
  nanoseconds : 0 ≤ t.nanoseconds

instance (t : TimeInternal) : Decidable t.Carried :=
  decidable_of_iff (0 ≤ t.seconds ∧ t.seconds < 2147483647 ∧ 0 ≤ t.nanoseconds)
    ⟨fun h => ⟨h.1, h.2.1, h.2.2⟩, fun h => ⟨h.nonneg, h.lt, h.nanoseconds⟩⟩

theorem Timestamp.Tells.toInternalTime {stamp : Timestamp} {t : TimeInternal} (h : stamp.Tells t)
    (ht : t.Carried) (old : TimeInternal) : Ptpd.toInternalTime old stamp = t := by
  obtain ⟨hseconds, hnanoseconds⟩ := h ht.nonneg ht.nanoseconds
  have hlt := Int32.lt_iff_toInt_lt.mp ht.lt
  have hlimit : (2147483647 : Int32).toInt = 2147483647 := by decide
  have hlimit' : (2147483647 : UInt32).toNat = 2147483647 := by decide
  have hns := Int32.toInt_lt t.nanoseconds
  rw [hlimit] at hlt
  unfold Ptpd.toInternalTime
  rw [if_pos (by rw [UInt32.lt_iff_toNat_lt, hlimit']; omega)]
  have hs : stamp.secondsLsb.toInt32 = t.seconds := by
    rw [← Int32.toInt_inj, toInt_toInt32_of_lt (by omega)]
    omega
  have hn : stamp.nanosecondsField.toInt32 = t.nanoseconds := by
    rw [← Int32.toInt_inj, toInt_toInt32_of_lt (by omega)]
    omega
  rw [hs, hn]

/-- What is measured with comes out of the timestamp of the message. -/
def IsConverted : Entry → List Entry → Prop
  | .offset _ stamp _ origin _, _ => ∃ old, origin = toInternalTime old stamp
  | .delay _ stamp _ receive _, _ => ∃ old, receive = toInternalTime old stamp
  | _, _ => True

theorem Visited.converted {rtOpts : RunTimeOpts} {s : System} (hs : Visited rtOpts s) :
    Every IsConverted s.history := by
  have hother {e : Entry} (he : e.IsOther) (older : List Entry) : IsConverted e older := by
    cases e <;> trivial
  have hkeep : Transition.Preserves LedgerStep fun l => Every IsConverted l.history := by
    intro l l' h hl
    cases h
    case other e he => exact every_cons.mpr ⟨hother he _, hl⟩
    case syncOffset sync stamp time old correction h => exact every_cons.mpr ⟨⟨old, rfl⟩, hl⟩
    case followUpOffset followUp stamp old h hw hp hs => exact every_cons.mpr ⟨⟨old, rfl⟩, hl⟩
    case delay resp stamp old correction h => exact every_cons.mpr ⟨⟨old, rfl⟩, hl⟩
    case initData => exact hl
    case resetDelayReqInterval => exact hl
    all_goals exact every_cons.mpr ⟨trivial, hl⟩
  refine hs.of_ledger hkeep ?_
  obtain ⟨_, heq, -⟩ := boot_eq rtOpts
  rw [heq]
  exact every_nil _

/-! ## Numbers -/

theorem mem_sendsOf {type : MessageType} {packet : List UInt8} {outcome : SendOutcome}
    {history : List Entry} (h : .send type packet outcome ∈ history) :
    (packet, outcome) ∈ sendsOf type history :=
  List.mem_filterMap.mpr ⟨_, h, if_pos rfl⟩

theorem sendsOf_packets (type : MessageType) (history : List Entry) :
    (sendsOf type history).map Prod.fst = packetsOf type history := by
  induction history with
  | nil => rfl
  | cons e history ih =>
    cases e with
    | send type' packet outcome =>
      by_cases h : type' = type
      · subst h
        have hcons : sendsOf type' (.send type' packet outcome :: history) =
            (packet, outcome) :: sendsOf type' history := by
          simp [sendsOf]
        rw [hcons, List.map_cons, ih]
        exact ofType_cons_self.symm
      · have hcons : sendsOf type (.send type' packet outcome :: history) =
            sendsOf type history := by
          simp [sendsOf, h]
        rw [hcons, ih]
        exact (ofType_cons_of_ne fun heq => h heq.symm).symm
    | _ => exact ih

theorem mem_packetsOf {type : MessageType} {packet : List UInt8} {outcome : SendOutcome}
    {history : List Entry} (h : .send type packet outcome ∈ history) :
    packet ∈ packetsOf type history := by
  rw [← sendsOf_packets]
  exact List.mem_map_of_mem (mem_sendsOf h)

section Numbers

variable {rtOpts : RunTimeOpts} {s : System} {type : MessageType} {packets : List (List UInt8)}
  {next : Int16}

/-- The numbers in use. -/
theorem Numbered.exists_number (h : Numbered type next packets) {packet : List UInt8}
    (hmem : packet ∈ packets) : ∃ k < packets.length, sequenceIdOf packet = Int16.ofNat k := by
  have hid : sequenceIdOf packet ∈ packets.reverse.map sequenceIdOf :=
    List.mem_map_of_mem (List.mem_reverse.mpr hmem)
  rw [h.ids] at hid
  obtain ⟨k, hk, heq⟩ := List.mem_map.mp hid
  exact ⟨k, List.mem_range.mp hk, heq.symm⟩

/-- Up to `2 ^ 16` messages have different numbers. -/
theorem Numbered.nodup (h : Numbered type next packets) (hcount : packets.length ≤ 2 ^ 16) :
    (packets.map sequenceIdOf).Nodup := by
  have hrange : ((List.range packets.length).map Int16.ofNat).Nodup := by
    refine List.Nodup.map_on (fun m hm n hn heq => ?_) List.nodup_range
    have hmod := SignedWord.ofNat_int16_inj.mp heq
    rw [List.mem_range] at hm hn
    rwa [Nat.mod_eq_of_lt (by omega), Nat.mod_eq_of_lt (by omega)] at hmod
  rw [← h.ids, List.map_reverse] at hrange
  exact List.nodup_reverse.mp hrange

/-- **A number determines a message** of its type, and how it was sent. -/
theorem send_unique (hs : Visited rtOpts s) {id : Int16}
    (hid : s.ptpClock.counters.of type = some id)
    (hcount : (packetsOf type s.history).length ≤ 2 ^ 16) {packet packet' : List UInt8}
    {outcome outcome' : SendOutcome} (h : .send type packet outcome ∈ s.history)
    (h' : .send type packet' outcome' ∈ s.history)
    (heq : sequenceIdOf packet = sequenceIdOf packet') :
    packet = packet' ∧ outcome = outcome' := by
  have hnumbered : Numbered type id (packetsOf type s.history) := hs.numbered type id hid
  have hnodup := hnumbered.nodup hcount
  rw [← sendsOf_packets, List.map_map] at hnodup
  exact Prod.mk.inj (List.inj_on_of_nodup_map hnodup (mem_sendsOf h) (mem_sendsOf h') heq)

/-- **The request that a delay is computed with** is the last one, and has the number of the
response. Up to `2 ^ 16` requests, any request with this number is the last one. -/
theorem Reachable.last_answered (hs : Reachable rtOpts s) {header : MsgHeader} {stamp : Timestamp}
    {egress receive correction : TimeInternal} {older : List Entry}
    (h : .delay header stamp egress receive correction :: older <:+ s.history)
    (hcount : (packetsOf .delayReq s.history).length < 2 ^ 16) {req : List UInt8} {left : HwTime}
    (hsent : .send .delayReq req (.sent left) ∈ s.history)
    (hnumber : header.sequenceId = sequenceIdOf req) :
    ∃ since before, older = since ++ .send .delayReq req (.sent left) :: before ∧
      (∀ e ∈ since, e.request? .delayReq = none) ∧
      (left.time.seconds ≠ 0 → egress = addTime left.time rtOpts.outboundLatency) := by
  obtain ⟨hkeeps, hturn, hlast⟩ := hs.answersLast _ _ h
    ⟨.delayReq, header.sequenceId, egress, false⟩ rfl
  dsimp only at hkeeps hturn hlast
  have hpos : 0 < requestCount .delayReq older := by
    rw [Nat.pos_iff_ne_zero]
    intro hzero
    -- the number before that of the first request is not in use
    have hnumbered : Numbered .delayReq _ (packetsOf .delayReq s.history) :=
      hs.visited.numbered .delayReq _ rfl
    obtain ⟨n, hn, hnid⟩ := hnumbered.exists_number (mem_packetsOf hsent)
    rw [hzero, hnumber, hnid, show (1 : Int16) = Int16.ofNat 1 from rfl, ← Int16.ofNat_add,
      SignedWord.ofNat_int16_inj] at hturn
    omega
  obtain ⟨packet, hpacket⟩ := exists_lastRequest hpos
  obtain ⟨since, e, before, hsplit, he, hnone⟩ := latest_eq_some_iff.mp hpacket
  obtain ⟨outcome, rfl⟩ : ∃ outcome, e = .send .delayReq packet outcome := by
    cases e <;> simp [Entry.request?] at he
    exact ⟨_, by rw [he.1, he.2]⟩
  have hmem : .send .delayReq packet outcome ∈ s.history := by
    refine ((List.suffix_cons _ older).trans h).subset ?_
    rw [hsplit]
    exact List.mem_append_right _ List.mem_cons_self
  obtain ⟨rfl, rfl⟩ := send_unique hs.visited rfl hcount.le hmem hsent
    ((hlast packet hpacket).trans hnumber)
  refine ⟨since, before, hsplit, hnone, fun hvalid => ?_⟩
  rw [hkeeps left (last_of_since hsplit hnone).2 hvalid]
  exact if_neg fun hboth => absurd hboth.1 (by decide)

end Numbers

/-! ## What the ports record -/

section Ports

variable {ι : Type*} {device : ι → Device} {ports ports' : ι → System} {i j : ι} {s t : System}

/-- What the entries of a port about messages go back to. -/
structure Recorded (device : ι → Device) (ports : ι → System) (i : ι) (s : System) : Prop where
  reachable : Reachable (device i).rtOpts s
  placed : Dormant (device i).rtOpts s ∨ Placed (device i) s
  holds : s.Holds fun p => p.totLen = 0 ∨ Genuine ports p
  used : Every (Takes (Genuine ports) (device i).identity.2) (messageEntries s.history)

theorem Recorded.next (h : Recorded device ports i s)
    (hnext : (closedNetwork device).system.next ports ports') : Recorded device ports' i s := by
  have hgenuine (p : Pbuf) (hp : Genuine ports p) : Genuine ports' p :=
    hp.mono (network_transmitted hnext)
  exact ⟨h.reachable, h.placed, h.holds.mono fun p hp => hp.imp_right (hgenuine p),
    h.used.imp fun _ _ htakes => htakes.mono hgenuine⟩

/-- A port of a device sends in its name. -/
theorem Placed.signs (h : Placed (device i) s) (hs : Reachable (device i).rtOpts s) :
    s.engine.Signs (device i).identity.2 := by
  have hport : s.engine.portIdentity = (device i).identity.2 := congrArg Prod.snd h.identity
  refine ⟨hport, ?_⟩
  have hannouncer := hs.dormant_or (fun _ hfresh => hfresh.announcer)
    (Engine.Settled.call_of_move Engine.Announcer.move)
  rcases hannouncer with hdormant | hannouncer
  · -- a settled port has a recommendation
    have hrecommended := h.settled.recommended
    rw [show s.engine.recommendedState = .initializing from hdormant.unready.2] at hrecommended
    exact absurd hrecommended (by decide)
  · exact hannouncer.sender.trans hport

/-- **One step of a port** keeps what its entries go back to. -/
theorem PortStep.recorded (hcap : ∀ i, 0 < (device i).rtOpts.maxForeignRecords)
    (hstep : PortStep (device i) (Genuine ports) s t) (h : Recorded device ports i s) :
    Recorded device ports i t := by
  have hwf (p : Pbuf) (hp : p.totLen = 0 ∨ Genuine ports p) (hne : p.totLen ≠ 0) :
      p.WellFormed ∧ NoGap p.chain :=
    have hd := hp.resolve_left hne
    ⟨hd.wellFormed, hd.noGap⟩
  have hreachable : Reachable (device i).rtOpts t := by
    rcases hstep.step with rfl | hnext
    · exact h.reachable
    · exact h.reachable.next hnext
  have hplaced := hstep.placed (hcap i) h.placed
  cases hstep with
  | idle => exact h
  | interrupt k brings =>
    refine ⟨hreachable, hplaced, h.holds.interrupt (brings.mono fun _ => .inr), ?_⟩
    rw [interrupt_messages]
    exact h.used
  | doState env hwaddr brings =>
    have hmore : env.Brings fun p => p.totLen = 0 ∨ Genuine ports p := brings.mono fun _ => .inr
    refine ⟨hreachable, hplaced, h.holds.doState hmore, ?_⟩
    rcases h.placed with hdormant | hold
    · rw [hdormant.doState_messages env]
      exact h.used
    · exact h.used.grows (doState_takes_datagram hold.settled (hold.signs h.reachable) h.holds hmore
        hwf fun p hp hne => hp.resolve_left hne)

/-- **What the entries go back to**, in every reachable state of the closed network. -/
theorem closedNetwork_recorded (hcap : ∀ i, 0 < (device i).rtOpts.maxForeignRecords)
    (hports : (closedNetwork device).system.Reachable ports) (i : ι) :
    Recorded device ports i (ports i) := by
  refine Transition.Composition.invariant (C := closedNetwork device)
    (I := fun w i s => Recorded device w i s) ?_ ?_ ?_ hports i
  · intro w hw i
    rw [hw i]
    refine ⟨boot_reachable _, .inl (boot_dormant _), ?_, ?_⟩
    · obtain ⟨_, hboot, -⟩ := boot_eq (device i).rtOpts
      rw [hboot]
      exact ⟨by rintro p ⟨⟩, fun k => .inl rfl, fun k => .inl rfl⟩
    · obtain ⟨_, hboot, -⟩ := boot_eq (device i).rtOpts
      rw [hboot]
      exact every_nil _
  · exact fun _ _ _ hnext _ _ hs => hs.next hnext
  · exact fun _ _ _ _ _ hstep hs => hstep.recorded hcap hs

/-- What a port has stored of a Sync, and the time, are those of one datagram: it is stored right
after its reception has been noted. -/
theorem Recorded.stored (h : Recorded device ports i s) {sync : MsgHeader} {time : TimeInternal}
    {before : List Entry} (hstored : .syncStored sync time :: before <:+ s.history) :
    ∃ p, Genuine ports p ∧ typeIn (chainBytes p.chain) = some .sync ∧
      sync = headerIn (chainBytes p.chain) ∧
      (messageEntries before).head? = some (.eventMessage p.stamp time) := by
  have hused := h.used _ _ (messageEntries_suffix hstored)
  generalize messageEntries before = entries at hused
  cases hused with
  | passing hpass _ => exact hpass.elim
  | syncStored p hp _ ht => exact ⟨p, hp, ht, rfl, rfl⟩

/-- The origin of an offset that a Follow_Up completes is the one that it bore. -/
theorem Recorded.followUp (h : Recorded device ports i s) {header : MsgHeader} {stamp : Timestamp}
    {ingress origin correction : TimeInternal} {older : List Entry}
    (hoffset : .offset header stamp ingress origin correction :: older <:+ s.history)
    (htype : MessageType.ofCode header.messageType = some .followUp) :
    ∃ p, Genuine ports p ∧ typeIn (chainBytes p.chain) = some .followUp ∧
      header = headerIn (chainBytes p.chain) ∧ stamp = preciseOriginIn (chainBytes p.chain) := by
  cases h.used _ _ (messageEntries_suffix hoffset) with
  | passing hpass _ => exact hpass.elim
  | syncOffset _ _ _ _ _ ht =>
    rw [ht] at htype
    cases htype
  | followUpOffset p hp _ _ _ ht => exact ⟨p, hp, ht, rfl, rfl⟩

/-- The receive time of a delay is the one that a response to the port bore. -/
theorem Recorded.response (h : Recorded device ports i s) {header : MsgHeader} {stamp : Timestamp}
    {egress receive correction : TimeInternal} {older : List Entry}
    (hdelay : .delay header stamp egress receive correction :: older <:+ s.history) :
    ∃ p, Genuine ports p ∧ typeIn (chainBytes p.chain) = some .delayResp ∧
      header = headerIn (chainBytes p.chain) ∧
      stamp = (responseIn (chainBytes p.chain)).timestamp ∧
      (responseIn (chainBytes p.chain)).requestingPortIdentity = (device i).identity.2 := by
  cases h.used _ _ (messageEntries_suffix hdelay) with
  | passing hpass _ => exact hpass.elim
  | delay p hp _ _ _ ht hr => exact ⟨p, hp, ht, rfl, rfl, hr⟩

/-- A DelayResp answers a request that the port has received, right after it has noted the time of
its reception: it has the number of the request, names its sender and tells this time. -/
theorem Recorded.answered (h : Recorded device ports i s) {packet : List UInt8}
    {outcome : SendOutcome} (hsend : .send .delayResp packet outcome ∈ s.history) :
    ∃ q time older, Genuine ports q ∧ typeIn (chainBytes q.chain) = some .delayReq ∧
      sequenceIdOf packet = sequenceIdOf (chainBytes q.chain) ∧
      (responseIn packet).requestingPortIdentity =
        (headerIn (chainBytes q.chain)).sourcePortIdentity ∧
      (responseIn packet).timestamp.Tells time ∧
      .send .delayResp packet outcome :: .eventMessage q.stamp time :: older <:+
        messageEntries s.history := by
  obtain ⟨newer, older, heq⟩ := List.append_of_mem hsend
  have hsuffix := messageEntries_suffix ⟨newer, heq.symm⟩
  have hused := h.used _ _ hsuffix
  change .send .delayResp packet outcome :: messageEntries older <:+ _ at hsuffix
  generalize messageEntries older = entries at hused hsuffix
  cases hused with
  | passing hpass _ => exact hpass.elim
  | delayResp q hq _ _ time ht hs hid hr hstamp =>
    exact ⟨q, time, _, hq, ht, hid, hr, hstamp, hsuffix⟩

/-! ## Whose messages they are -/

/-- What a port has sent shows its identity. -/
theorem Recorded.source (h : Recorded device ports i s) {type : MessageType}
    {packet : List UInt8} {outcome : SendOutcome} (hmem : .send type packet outcome ∈ s.history) :
    (headerIn packet).sourcePortIdentity = (device i).identity.2 := by
  obtain ⟨newer, older, heq⟩ := List.append_of_mem hmem
  have hused := h.used _ _ (messageEntries_suffix ⟨newer, heq.symm⟩)
  generalize messageEntries older = entries at hused
  cases hused with
  | passing _ hs => exact hs
  | delayResp _ _ _ _ _ _ hs => exact hs

/-- **The sender of a datagram**: some port has sent it as a message of its type, the one with the
identity in the header. -/
theorem Genuine.sender (hcap : ∀ i, 0 < (device i).rtOpts.maxForeignRecords)
    (hports : (closedNetwork device).system.Reachable ports) {p : Pbuf} (h : Genuine ports p)
    {type : MessageType} (ht : typeIn (chainBytes p.chain) = some type) :
    ∃ j stamp, .send type (chainBytes p.chain) (.sent stamp) ∈ (ports j).history ∧
      (headerIn (chainBytes p.chain)).sourcePortIdentity = (device j).identity.2 := by
  obtain ⟨j, hj⟩ := h.sent (Option.isSome_iff_exists.mpr ⟨type, ht⟩)
  have hrecorded := closedNetwork_recorded hcap hports j
  obtain ⟨stamp, hsend⟩ := exists_send_of_transmitted hrecorded.reachable hj ht
  exact ⟨j, stamp, hsend, hrecorded.source hsend⟩

theorem Device.eq_of_identity (hid : Function.Injective fun i => (device i).hwaddr)
    (h : (device i).identity.2 = (device j).identity.2) : i = j :=
  hid (Device.hwaddr_eq (congrArg PortIdentity.clockIdentity h))

/-! ## What is measured -/

/-- **An offset is that of one Sync.** The origin that it is computed from is the time that
`netSend` has returned for a transmitted Sync of the parent, with the outbound latency. The Sync
that the port has stored last is this one, with the ingress time of the offset, which was noted on
its reception right before: if the parent is the one that it was when the Sync was stored, and has
handed no more than `2 ^ 16` Syncs to `netSend`. -/
theorem offset_of_one_sync (hcap : ∀ i, 0 < (device i).rtOpts.maxForeignRecords)
    (hid : Function.Injective fun i => (device i).hwaddr)
    (hports : (closedNetwork device).system.Reachable ports) {header : MsgHeader}
    {stamp : Timestamp} {ingress origin correction : TimeInternal} {older : List Entry}
    (h : .offset header stamp ingress origin correction :: older <:+ (ports i).history)
    (htype : MessageType.ofCode header.messageType = some .followUp)
    (hkept : ParentKeptSinceSync older) :
    ∃ j, header.sourcePortIdentity = (device j).identity.2 ∧
      ((packetsOf .sync (ports j).history).length ≤ 2 ^ 16 →
        ∃ sync left, .send .sync sync (.sent left) ∈ (ports j).history ∧
          sequenceIdOf sync = header.sequenceId ∧
          ((addTime left.time (device j).rtOpts.outboundLatency).Carried →
            origin = addTime left.time (device j).rtOpts.outboundLatency) ∧
          ∃ p before, Genuine ports p ∧ chainBytes p.chain = sync ∧
            lastSync older = some (headerIn sync, ingress, before) ∧
            (messageEntries before).head? = some (.eventMessage p.stamp ingress)) := by
  have hi := closedNetwork_recorded hcap hports i
  -- the datagram of the Follow_Up and its sender
  obtain ⟨p, hp, hpt, hheader, hstamp⟩ := hi.followUp h htype
  obtain ⟨j, sentAt, hsend, hsource⟩ := hp.sender hcap hports hpt
  refine ⟨j, hheader ▸ hsource, fun hcount => ?_⟩
  have hj := closedNetwork_recorded hcap hports j
  -- the Sync that the port has stored is one of the same sender
  have hpairing : PairingInv (ports i).ledger :=
    hi.reachable.visited.of_ledger preserves_pairingInv (boot_pairingInv _)
  obtain ⟨sync, saved, before, hstored, -, hseq, hparent⟩ := hpairing.used _ _ h htype
  obtain ⟨sync', time, before', hlast, hcurrent⟩ := hkept
  obtain ⟨rfl, rfl, rfl⟩ : sync = sync' ∧ ingress = time ∧ before = before' := by
    simpa [hstored.last] using hlast
  have hsame : sync.sourcePortIdentity = (device j).identity.2 := by
    rw [← hstored.parent, ← hcurrent, hparent, hheader, hsource]
  have hsuffix := lastSync_suffix hstored.last
  obtain ⟨q, hq, hqt, rfl, hnoted⟩ := hi.stored (hsuffix.trans ((List.suffix_cons _ older).trans h))
  obtain ⟨k, left, hleft, hqsource⟩ := hq.sender hcap hports hqt
  obtain rfl := Device.eq_of_identity hid (hqsource.symm.trans hsame)
  -- the round of the Follow_Up is about the Sync with its number
  have hround : .send .followUp (chainBytes p.chain) (.sent sentAt) ∈
      syncSends (ports k).history := List.mem_filter.mpr ⟨hsend, rfl⟩
  obtain ⟨packet, outcome, now, hmem, hnumber, htells⟩ :=
    (ReadingStep.rounds hj.reachable.readings).of_followUp hround
  have hnumbers : sequenceIdOf packet = sequenceIdOf (chainBytes q.chain) := by
    rw [hnumber]
    show (headerIn (chainBytes p.chain)).sequenceId = _
    rw [← hheader]
    exact hseq.symm
  obtain ⟨rfl, rfl⟩ := send_unique hj.reachable.visited rfl hcount
    (List.mem_filter.mp hmem).1 hleft hnumbers
  obtain ⟨old, rfl⟩ := hi.reachable.visited.converted _ _ h
  refine ⟨chainBytes q.chain, left, hleft, hseq, fun hcarried => ?_, q, before, hq, rfl, hlast,
    hnoted⟩
  rw [hstamp]
  exact htells.toInternalTime hcarried old

/-- **A delay is that of one DelayReq.** The request is the last one that the port has handed to
`netSend`. The one time of the delay is that which `netSend` has returned for it, with the outbound
latency. The other time is the one that a port has noted on the reception of the same request, which
it has answered right then, by the DelayResp that the delay is computed from: if the port has handed
less than `2 ^ 16` requests to `netSend`. -/
theorem delay_of_one_request (hcap : ∀ i, 0 < (device i).rtOpts.maxForeignRecords)
    (hid : Function.Injective fun i => (device i).hwaddr)
    (hports : (closedNetwork device).system.Reachable ports) {header : MsgHeader}
    {stamp : Timestamp} {egress receive correction : TimeInternal} {older : List Entry}
    (h : .delay header stamp egress receive correction :: older <:+ (ports i).history)
    (hcount : (packetsOf .delayReq (ports i).history).length < 2 ^ 16) :
    ∃ req left since before, older = since ++ .send .delayReq req (.sent left) :: before ∧
      (∀ e ∈ since, e.request? .delayReq = none) ∧
      (left.time.seconds ≠ 0 →
        egress = addTime left.time (device i).rtOpts.outboundLatency) ∧
      ∃ j time, header.sourcePortIdentity = (device j).identity.2 ∧
        (time.Carried → receive = time) ∧
        ∃ p resp sentAt answered, Genuine ports p ∧ chainBytes p.chain = req ∧
          headerIn resp = header ∧ (responseIn resp).timestamp = stamp ∧
          (responseIn resp).requestingPortIdentity = (headerIn req).sourcePortIdentity ∧
          .send .delayResp resp (.sent sentAt) :: .eventMessage p.stamp time :: answered <:+
            messageEntries (ports j).history := by
  have hi := closedNetwork_recorded hcap hports i
  obtain ⟨p, hp, hpt, hheader, hstamp, hrequesting⟩ := hi.response h
  obtain ⟨j, sentAt, hsend, hsource⟩ := hp.sender hcap hports hpt
  -- the sender of the response has answered a request of this port
  have hj := closedNetwork_recorded hcap hports j
  obtain ⟨q, time, answered, hq, hqt, hsequence, hnamed, htells, hnoted⟩ := hj.answered hsend
  have hnumber : header.sequenceId = sequenceIdOf (chainBytes q.chain) := by
    rw [hheader]
    exact hsequence
  obtain ⟨k, left, hleft, hksource⟩ := hq.sender hcap hports hqt
  obtain rfl := Device.eq_of_identity hid (hksource.symm.trans (hnamed.symm.trans hrequesting))
  obtain ⟨since, before, hsplit, hnone, hegress⟩ :=
    hi.reachable.last_answered h hcount hleft hnumber
  obtain ⟨old, rfl⟩ := hi.reachable.visited.converted _ _ h
  refine ⟨_, left, since, before, hsplit, hnone, hegress, j, time, hheader ▸ hsource,
    fun hcarried => ?_, q, _, sentAt, answered, hq, rfl, hheader.symm, hstamp.symm, hnamed, hnoted⟩
  rw [hstamp]
  exact htells.toInternalTime hcarried old

end Ports

/-! ## An exchange between two ports -/

/-- Port 0 announces itself and sends a Sync. -/
def pairMaster : System :=
  pairLeader.after [.interrupt (.timerCallback .syncInterval), leaderCall]

/-- The Sync of port 0 and its Follow_Up. -/
def pairSync : List UInt8 := syncOf (station 0 ptpdOpts) 0 ⟨0, 0, 0⟩

def pairFollowUp : List UInt8 := followUpOf (station 0 ptpdOpts) 0 ⟨0, 5, 0⟩

/-- The Sync and the Follow_Up of port 0 arrive. -/
def pairRound : List Stimulus :=
  eventArrival pairSync (atSecond 5) ++ [followerCall] ++
    generalArrival pairFollowUp (atSecond 5) ++ [followerCall]

/-- Port 1 measures its offset. -/
def pairSynced : System := pairFollower.after pairRound

/-- The two messages arrive once more, and port 1 sends a request. -/
def pairRequesting : System :=
  pairSynced.after ([.interrupt (.timerCallback .delayReqInterval)] ++ pairRound)

/-- The request of port 1. -/
def pairRequest : List UInt8 :=
  packetOf (msgPackDelayReq (station 1 ptpdOpts) (headerOf (station 1 ptpdOpts)) ⟨0, 0, 0⟩)
    delayReqLength

/-- Port 0 answers the request. -/
def pairAnswering : System :=
  pairMaster.after (eventArrival pairRequest (atSecond 6) ++ [leaderCall])

/-- The answer of port 0. -/
def pairResponse : List UInt8 :=
  delayRespOf (station 0 ptpdOpts) (headerIn pairRequest) ⟨0, 6, 0⟩

/-- Port 1 measures the delay. -/
def pairMeasured : System :=
  pairRequesting.after (generalArrival pairResponse (atSecond 7) ++ [followerCall])

/-- The two ports in given states. -/
def pairOf (s t : System) : Fin 2 → System
  | 0 => s
  | 1 => t

def pairExchange : Fin 2 → System := pairOf pairAnswering pairMeasured

section Pair

variable {d : Device} {ports : Fin 2 → System} {j : Fin 2} {packet : List UInt8}

theorem transmitted_of_sentOf (type : MessageType) {history : List Entry}
    (h : packet ∈ sentOf type history) : packet ∈ transmitted history := by
  obtain ⟨⟨packet', outcome⟩, hmem, rfl⟩ := List.mem_map.mp h
  obtain ⟨hmem, hleft⟩ := List.mem_filter.mp hmem
  obtain ⟨e, he, hsome⟩ := List.mem_filterMap.mp hmem
  cases e with
  | send type' packet' outcome' =>
    dsimp only at hsome
    split at hsome
    · obtain ⟨rfl, rfl⟩ := Prod.mk.inj (Option.some.inj hsome)
      cases outcome' with
      | sent stamp => exact ⟨type', stamp, he⟩
      | _ => cases hleft
    · cases hsome
  | _ => cases hsome

theorem genuine_datagram {stamp : HwTime} (h : packet ∈ transmitted (ports j).history) :
    Genuine ports (datagram packet stamp) := by
  refine ⟨⟨by simp [datagram], by simp [datagram, chainLength]⟩, by simp [NoGap, datagram], ?_⟩
  intro _
  refine ⟨j, ?_⟩
  rw [chainBytes_datagram]
  exact h

/-- What port 0 has transmitted, and what port 1 has. -/
theorem genuine_pair {s t : System} {stamp : HwTime}
    (h : packet ∈ transmitted s.history ∨ packet ∈ transmitted t.history) :
    Genuine (pairOf s t) (datagram packet stamp) := by
  rcases h with h | h
  · exact genuine_datagram (j := 0) h
  · exact genuine_datagram (j := 1) h

theorem arrival_allowed {stamp : HwTime} {Q : Pbuf → Prop} (h : Q (datagram packet stamp)) :
    (∀ x ∈ eventArrival packet stamp, x.Allowed d Q) ∧
      ∀ x ∈ generalArrival packet stamp, x.Allowed d Q := by
  have hframe : (Interrupt.frame (datagram packet stamp)).Brings Q := by
    rintro p hp
    obtain rfl := Interrupt.frame.inj hp
    exact h
  constructor
  · simp only [eventArrival, List.forall_mem_cons]
    refine ⟨hframe, ?_, List.forall_mem_nil _⟩
    rintro p ⟨⟩
  · simp only [generalArrival, List.forall_mem_cons]
    refine ⟨hframe, ?_, List.forall_mem_nil _⟩
    rintro p ⟨⟩

theorem call_allowed (i : Fin 2) (Q : Pbuf → Prop) :
    ∀ x ∈ [Stimulus.doState (pairEnv i)], x.Allowed (pairDevice i) Q := by
  intro x hx
  obtain rfl := List.mem_singleton.mp hx
  exact ⟨rfl, pairEnv_brings i Q⟩

theorem timer_allowed (timer : Timer) (Q : Pbuf → Prop) :
    ∀ x ∈ [Stimulus.interrupt (.timerCallback timer)], x.Allowed d Q := by
  intro x hx
  obtain rfl := List.mem_singleton.mp hx
  rintro p ⟨⟩

theorem after_suffix (s : System) (schedule : List Stimulus) :
    s.history <:+ (s.after schedule).history := by
  induction schedule generalizing s with
  | nil => exact List.suffix_refl _
  | cons x schedule ih =>
    refine List.IsSuffix.trans ?_ (ih (s.respond x))
    cases x with
    | doState env => exact history_suffix (.single (.doState env s))
    | interrupt i => exact history_suffix (.single (.interrupt i s))

/-- Port 0 runs on. -/
theorem leader_after {s t : System} (h : (closedNetwork pairDevice).system.Reachable (pairOf s t))
    (schedule : List Stimulus)
    (hallowed : ∀ x ∈ schedule, x.Allowed (pairDevice 0) (Genuine (pairOf s t))) :
    (closedNetwork pairDevice).system.Reachable (pairOf (s.after schedule) t) := by
  have hupdate (s' : System) : Function.update (pairOf s t) 0 s' = pairOf s' t := by
    funext i
    fin_cases i <;> rfl
  have hafter := network_after (fun _ _ _ hp hsent => hp.mono hsent) h 0 schedule hallowed
  rw [hupdate] at hafter
  exact hafter

/-- Port 1 runs on. -/
theorem follower_after {s t : System}
    (h : (closedNetwork pairDevice).system.Reachable (pairOf s t)) (schedule : List Stimulus)
    (hallowed : ∀ x ∈ schedule, x.Allowed (pairDevice 1) (Genuine (pairOf s t))) :
    (closedNetwork pairDevice).system.Reachable (pairOf s (t.after schedule)) := by
  have hupdate (t' : System) : Function.update (pairOf s t) 1 t' = pairOf s t' := by
    funext i
    fin_cases i <;> rfl
  have hafter := network_after (fun _ _ _ hp hsent => hp.mono hsent) h 1 schedule hallowed
  rw [hupdate] at hafter
  exact hafter

end Pair

theorem pairExchange_reachable : (closedNetwork pairDevice).system.Reachable pairExchange := by
  have hstart : (closedNetwork pairDevice).system.Reachable
      (pairOf (boot ptpdOpts) (boot ptpdOpts)) := by
    refine .init fun i => ?_
    fin_cases i <;> rfl
  -- port 0 announces itself and sends a Sync
  have hleader : (closedNetwork pairDevice).system.Reachable
      (pairOf pairLeader (boot ptpdOpts)) := by
    refine leader_after hstart _ ?_
    simp only [List.forall_mem_cons]
    exact ⟨⟨rfl, pairEnv_brings 0 _⟩, nofun, ⟨rfl, pairEnv_brings 0 _⟩, nofun,
      ⟨rfl, pairEnv_brings 0 _⟩, nofun⟩
  have hmaster : (closedNetwork pairDevice).system.Reachable
      (pairOf pairMaster (boot ptpdOpts)) := by
    refine leader_after hleader _ ?_
    simp only [List.forall_mem_cons]
    exact ⟨nofun, ⟨rfl, pairEnv_brings 0 _⟩, nofun⟩
  -- port 1 follows it and measures its offset twice
  have hannounce : announceOf (station 0 ptpdOpts) ∈ transmitted pairMaster.history :=
    transmitted_of_sentOf .announce (by decide +kernel)
  have hsync : pairSync ∈ transmitted pairMaster.history :=
    transmitted_of_sentOf .sync (by decide +kernel)
  have hfollowUp : pairFollowUp ∈ transmitted pairMaster.history :=
    transmitted_of_sentOf .followUp (by decide +kernel)
  have hfollower : (closedNetwork pairDevice).system.Reachable
      (pairOf pairMaster pairFollower) := by
    refine follower_after hmaster _ ?_
    simp only [List.forall_mem_append]
    refine ⟨⟨call_allowed 1 _, (arrival_allowed (genuine_pair (.inl hannounce))).2⟩, ?_⟩
    simp only [List.forall_mem_cons]
    exact ⟨⟨rfl, pairEnv_brings 1 _⟩, ⟨rfl, pairEnv_brings 1 _⟩, nofun⟩
  have hround (t : System) : ∀ x ∈ pairRound,
      x.Allowed (pairDevice 1) (Genuine (pairOf pairMaster t)) := by
    unfold pairRound
    simp only [List.forall_mem_append]
    exact ⟨⟨⟨(arrival_allowed (genuine_pair (.inl hsync))).1, call_allowed 1 _⟩,
      (arrival_allowed (genuine_pair (.inl hfollowUp))).2⟩, call_allowed 1 _⟩
  have hsynced : (closedNetwork pairDevice).system.Reachable (pairOf pairMaster pairSynced) :=
    follower_after hfollower pairRound (hround _)
  have hrequesting : (closedNetwork pairDevice).system.Reachable
      (pairOf pairMaster pairRequesting) := by
    refine follower_after hsynced _ ?_
    rw [List.forall_mem_append]
    exact ⟨timer_allowed .delayReqInterval _, hround _⟩
  -- port 0 answers the request
  have hrequest : pairRequest ∈ transmitted pairRequesting.history :=
    transmitted_of_sentOf .delayReq (by decide +kernel)
  have hanswering : (closedNetwork pairDevice).system.Reachable
      (pairOf pairAnswering pairRequesting) := by
    refine leader_after hrequesting _ ?_
    rw [List.forall_mem_append]
    exact ⟨(arrival_allowed (genuine_pair (.inr hrequest))).1, call_allowed 0 _⟩
  have hresponse : pairResponse ∈ transmitted pairAnswering.history :=
    transmitted_of_sentOf .delayResp (by decide +kernel)
  refine follower_after hanswering _ ?_
  rw [List.forall_mem_append]
  exact ⟨(arrival_allowed (genuine_pair (.inl hresponse))).2, call_allowed 1 _⟩

/-- The offset that port 1 has measured first. -/
theorem pairExchange_offset :
    .offset (headerIn pairFollowUp) ⟨0, 5, 0⟩ ⟨5, 0⟩ ⟨5, 0⟩ ⟨0, 0⟩ ::
      pairSynced.history.tail.tail <:+ (pairExchange 1).history := by
  have hsynced : pairSynced.history = .adjFreq adjFreqBaseAddend ::
      .offset (headerIn pairFollowUp) ⟨0, 5, 0⟩ ⟨5, 0⟩ ⟨5, 0⟩ ⟨0, 0⟩ ::
        pairSynced.history.tail.tail := by decide +kernel
  have hlater : pairSynced.history <:+ (pairExchange 1).history :=
    (after_suffix pairSynced _).trans (after_suffix pairRequesting _)
  exact List.IsSuffix.trans ⟨[.adjFreq adjFreqBaseAddend], hsynced.symm⟩ hlater

theorem pairExchange_parentKept : ParentKeptSinceSync pairSynced.history.tail.tail := by
  have hkept : (lastSync pairSynced.history.tail.tail).map (fun r => currentParent r.2.2) =
      some (currentParent pairSynced.history.tail.tail) := by decide +kernel
  obtain ⟨⟨sync, time, before⟩, hlast, hparent⟩ := Option.map_eq_some_iff.mp hkept
  exact ⟨sync, time, before, hlast, hparent.symm⟩

/-- The delay that port 1 has measured. -/
theorem pairExchange_delay :
    .delay (headerIn pairResponse) ⟨0, 6, 0⟩ ⟨5, 0⟩ ⟨6, 0⟩ ⟨0, 0⟩ ::
      pairMeasured.history.tail <:+ (pairExchange 1).history := by
  have hmeasured : pairMeasured.history =
      .delay (headerIn pairResponse) ⟨0, 6, 0⟩ ⟨5, 0⟩ ⟨6, 0⟩ ⟨0, 0⟩ ::
        pairMeasured.history.tail := by decide +kernel
  exact ⟨[], hmeasured.symm⟩

theorem offset_of_one_sync_pair :
    ∃ j, (headerIn pairFollowUp).sourcePortIdentity = (pairDevice j).identity.2 ∧
      ((packetsOf .sync (pairExchange j).history).length ≤ 2 ^ 16 →
        ∃ sync left, .send .sync sync (.sent left) ∈ (pairExchange j).history ∧
          sequenceIdOf sync = (headerIn pairFollowUp).sequenceId ∧
          ((addTime left.time (pairDevice j).rtOpts.outboundLatency).Carried →
            ⟨5, 0⟩ = addTime left.time (pairDevice j).rtOpts.outboundLatency) ∧
          ∃ p before, Genuine pairExchange p ∧ chainBytes p.chain = sync ∧
            lastSync pairSynced.history.tail.tail = some (headerIn sync, ⟨5, 0⟩, before) ∧
            (messageEntries before).head? = some (.eventMessage p.stamp ⟨5, 0⟩)) :=
  offset_of_one_sync pairDevice_capacity pairDevice_hwaddr pairExchange_reachable
    pairExchange_offset (by decide +kernel) pairExchange_parentKept

theorem delay_of_one_request_pair :
    ∃ req left since before,
      pairMeasured.history.tail = since ++ .send .delayReq req (.sent left) :: before ∧
      (∀ e ∈ since, e.request? .delayReq = none) ∧
      (left.time.seconds ≠ 0 →
        ⟨5, 0⟩ = addTime left.time (pairDevice 1).rtOpts.outboundLatency) ∧
      ∃ j time, (headerIn pairResponse).sourcePortIdentity = (pairDevice j).identity.2 ∧
        (time.Carried → ⟨6, 0⟩ = time) ∧
        ∃ p resp sentAt answered, Genuine pairExchange p ∧ chainBytes p.chain = req ∧
          headerIn resp = headerIn pairResponse ∧ (responseIn resp).timestamp = ⟨0, 6, 0⟩ ∧
          (responseIn resp).requestingPortIdentity = (headerIn req).sourcePortIdentity ∧
          .send .delayResp resp (.sent sentAt) :: .eventMessage p.stamp time :: answered <:+
            messageEntries (pairExchange j).history :=
  delay_of_one_request pairDevice_capacity pairDevice_hwaddr pairExchange_reachable
    pairExchange_delay (by decide +kernel)

end Ptpd

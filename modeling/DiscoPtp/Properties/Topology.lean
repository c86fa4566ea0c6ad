import DiscoPtp.Properties.Network

/-!
# Who follows whom

The ports of a network know of each other by their Announces. Only a master announces, and it
announces itself; `bmc` follows a record only if it is better than the own data set. So whatever is
lost, delayed, reordered or duplicated, a port follows better ports only. The Announces that a port
once stored stay true, since the data that they show never changes.

## Main definitions

* `AnnouncedBy`: an Announce that a port has transmitted
* `ParentOf`, `Informed`: what a port knows of the others
* `Follows`: a port follows another one

## Main results

* `network_informed`: the invariant
* `follower_parent`: the parent of a port is a port of the network, and better
* `no_timing_loop`: no port follows itself along other ports
-/

namespace Ptpd

open Relation (ReflTransGen TransGen)

variable {ι : Type*}

section Ports

variable {device : ι → Device} {ports ports' : ι → System} {i j : ι}

/-! ## The Announces of the ports -/

/-- An Announce that a port has transmitted, as a receiver unpacks it. -/
def AnnouncedBy (ports : ι → System) (j : ι) (header : MsgHeader) (announce : MsgAnnounce) : Prop :=
  ∃ packet ∈ transmitted (ports j).history, IsAnnounce packet ∧ header = headerIn packet ∧
    announce = announceIn packet

theorem AnnouncedBy.next {header : MsgHeader} {announce : MsgAnnounce}
    (h : AnnouncedBy ports j header announce) (hnext : (network device).system.next ports ports') :
    AnnouncedBy ports' j header announce := by
  obtain ⟨packet, hmem, ha⟩ := h
  exact ⟨packet, network_transmitted hnext j hmem, ha⟩

/-- A receiver compares the numbers of the local data set of the device. -/
theorem OwnAnnounce.decoded {d : Device} {packet : List UInt8}
    (h : OwnAnnounce d.identity.1 d.identity.2 packet) :
    DataSet.decoded (headerIn packet) (announceIn packet) = localSet d.clock := by
  unfold DataSet.decoded
  rw [h.sourcePortIdentity, h.grandmasterIdentity, h.grandmasterPriority1,
    h.grandmasterPriority2, h.grandmasterClockQuality, h.stepsRemoved]
  rfl

/-- **The Announces of a port** tell of its device. -/
theorem AnnouncedBy.own (hcap : ∀ i, 0 < (device i).rtOpts.maxForeignRecords)
    (hports : (network device).system.Reachable ports) {header : MsgHeader} {announce : MsgAnnounce}
    (h : AnnouncedBy ports j header announce) :
    Placed (device j) (ports j) ∧ ∃ packet ∈ transmitted (ports j).history, IsAnnounce packet ∧
      OwnAnnounce (device j).identity.1 (device j).identity.2 packet ∧
      header = headerIn packet ∧ announce = announceIn packet := by
  obtain ⟨packet, hmem, htype, hheader, hannounce⟩ := h
  have hs := network_reachable hports j
  have hsent := announcePackets_of_transmitted hs hmem htype
  -- a port that has sent an Announce is initialised
  have hnot (hdormant : Dormant (device j).rtOpts (ports j)) : False := by
    unfold announcePackets at hsent
    rw [hdormant.masterMessages] at hsent
    cases hsent
  have hplaced := (network_placed hcap hports j).resolve_left hnot
  have hannouncer := (hs.dormant_or (fun _ hfresh => hfresh.announcer)
    (Engine.Settled.call_of_move Engine.Announcer.move)).resolve_left hnot
  refine ⟨hplaced, packet, hmem, htype, ?_, hheader, hannounce⟩
  have hown := hannouncer.own packet hsent
  rw [← hplaced.identity]
  exact hown

/-! ## What the ports know of each other -/

/-- A parent among the other ports, better than the port itself, and what it has announced. -/
def ParentOf (device : ι → Device) (ports : ι → System) (i : ι)
    (announced : PortIdentity × AnnouncedData) : Prop :=
  ∃ j ≠ i, (device j).attributes < (device i).attributes ∧
    ∃ header announce, AnnouncedBy ports j header announce ∧
      announced = (header.sourcePortIdentity, announcedBy header announce)

/-- What a port knows of the others: the datagrams that wait at it have been delivered, its records
are Announces of other ports, and what it takes from a parent is what a better port announces. -/
structure Informed (device : ι → Device) (ports : ι → System) (i : ι) (s : System) : Prop where
  holds : s.Holds fun p => p.totLen = 0 ∨ Delivered device ports p
  records : ∀ k < s.ptpClock.foreignMasterDS.count, ∃ j ≠ i,
    AnnouncedBy ports j (dataSetAt s.ptpClock k).1 (dataSetAt s.ptpClock k).2
  parent : s.recommendedState = .slave → ParentOf device ports i s.announced

theorem ParentOf.next {announced : PortIdentity × AnnouncedData}
    (h : ParentOf device ports i announced) (hnext : (network device).system.next ports ports') :
    ParentOf device ports' i announced := by
  obtain ⟨j, hji, hbetter, header, announce, ha, heq⟩ := h
  exact ⟨j, hji, hbetter, header, announce, ha.next hnext, heq⟩

/-- The steps of the other ports do not end what a port knows. -/
theorem Informed.next {s : System} (h : Informed device ports i s)
    (hnext : (network device).system.next ports ports') : Informed device ports' i s := by
  refine ⟨h.holds.mono fun p hp => hp.imp_right fun hd => hd.next hnext, fun k hk => ?_,
    fun hr => (h.parent hr).next hnext⟩
  obtain ⟨j, hji, hj⟩ := h.records k hk
  exact ⟨j, hji, hj.next hnext⟩

/-- An Announce that a port hears comes from another port of the network. -/
theorem Hears.announcedBy (hcap : ∀ i, 0 < (device i).rtOpts.maxForeignRecords)
    (hports : (network device).system.Reachable ports) {s : System} (hs : Placed (device i) s)
    {header : MsgHeader} {announce : MsgAnnounce}
    (h : Hears (fun p => p.totLen = 0 ∨ Delivered device ports p) s.engine.identity header
      announce) : ∃ j ≠ i, AnnouncedBy ports j header announce := by
  obtain ⟨p, hp, hlength, hheader, hannounce, htype, hdomain, hother⟩ := h
  have hdelivered : Delivered device ports p := by
    refine hp.resolve_left fun hzero => ?_
    rw [hzero] at hlength
    exact absurd hlength (by decide)
  rw [hheader] at htype
  rw [hs.identity, hheader] at hdomain
  obtain ⟨j, hj⟩ := hdelivered.announce htype hlength ⟨i, hdomain⟩
  have hby : AnnouncedBy ports j header announce := ⟨_, hj, htype, hheader, hannounce⟩
  refine ⟨j, ?_, hby⟩
  -- its own Announces a port takes for its own
  rintro rfl
  obtain ⟨-, packet, -, -, hown, heq, -⟩ := hby.own hcap hports
  refine hother ?_
  rw [hs.identity, heq]
  exact hown.sourcePortIdentity

/-- Before its initialisation a port knows nothing, and follows nobody. -/
theorem Dormant.unaware {rtOpts : RunTimeOpts} {s : System} (h : Dormant rtOpts s) :
    s.ptpClock.foreignMasterDS.count = 0 ∧ s.recommendedState ≠ .slave := by
  obtain ⟨state, -, heq⟩ := h.engine
  obtain ⟨_, hboot, -⟩ := boot_eq rtOpts
  rw [hboot] at heq
  have hcount : s.ptpClock.foreignMasterDS.count = 0 := by
    rw [foreignMasterDS_of_engine heq]
    rfl
  refine ⟨hcount, fun hr => ?_⟩
  have hinitial := h.unready.2
  rw [hr] at hinitial
  cases hinitial

/-! ## The invariant -/

section Informed

variable {s : System} {env : Env}

/-- `bmc` is called with the identity of the port. -/
theorem bmcCall_identity {u : System} (h : bmcCall s = some u) :
    u.engine.identity = s.engine.identity := by
  have htaken (hevent : (if s.ptpClock.events.stateDecisionEvent then
      some (taken (s.setMessageActivity false)) else none) = some u) :
      u.engine.identity = s.engine.identity := by
    split at hevent
    · rw [← Option.some.inj hevent]
      rfl
    · cases hevent
  unfold bmcCall at h
  split at h
  case h_7 => cases h
  all_goals exact htaken h

/-- A decision to follow is the result of `bmc`. -/
theorem takeDecision_recommends {u : System}
    (h : (takeDecision (bmc u.ptpClock) u).recommendedState = .slave) :
    (bmc u.ptpClock).1 = .slave := by
  unfold takeDecision at h
  dsimp only at h
  split at h
  · cases h
  · exact h

/-- Only a clock of a class from 128 on follows. -/
theorem clockClass_of_slave {c : PtpClock} (h : (bmc c).1 = .slave) :
    ¬c.defaultDS.clockQuality.clockClass < 128 := by
  rcases bmc_cases c with ⟨-, -, hb⟩ | hb | ⟨-, hb⟩ | ⟨hclass, -⟩
  · rw [hb] at h
    cases h
  · rw [hb] at h
    cases h
  · rw [hb] at h
    cases h
  · exact hclass

/-- The port of a device is number 1 of its clock. -/
theorem portIdentity_of_identity {u : System} {d : Device} (h : u.engine.identity = d.identity) :
    u.ptpClock.portDS.portIdentity =
      { clockIdentity := u.ptpClock.defaultDS.clockIdentity, portNumber := numberPorts } := by
  have hport : u.ptpClock.portDS.portIdentity = d.identity.2 := congrArg Prod.snd h
  have hdefault : u.ptpClock.defaultDS = d.identity.1 := congrArg Prod.fst h
  rw [hport, hdefault]
  rfl

/-- **The state decision** is to follow better ports only. -/
theorem Informed.decides (hcap : ∀ i, 0 < (device i).rtOpts.maxForeignRecords)
    (hid : Function.Injective fun i => (device i).hwaddr)
    (hports : (network device).system.Reachable ports) (hs : Placed (device i) s)
    (h : Informed device ports i s)
    (hr : (stateDecision (s.setMessageActivity false)).recommendedState = .slave) :
    ParentOf device ports i (stateDecision (s.setMessageActivity false)).announced := by
  have hdecision := stateDecision_of_bmcCall s
  cases hbmc : bmcCall s with
  | none =>
    rw [hbmc] at hdecision
    rw [hdecision] at hr ⊢
    exact h.parent hr
  | some u =>
    rw [hbmc] at hdecision
    dsimp only at hdecision
    rw [hdecision] at hr ⊢
    obtain ⟨hevaluates, hds⟩ := bmcCall_spec hbmc
    have hself : u.engine.identity = (device i).identity :=
      (bmcCall_identity hbmc).trans hs.identity
    have hslave := takeDecision_recommends hr
    -- the best record is an Announce of another port
    have hcount : 1 ≤ u.ptpClock.foreignMasterDS.count := by
      rw [hds]
      exact hs.keeps.pending hevaluates.2
    have hbest : selectBest u.ptpClock < s.ptpClock.foreignMasterDS.count := by
      rw [← hds]
      exact selectBest_lt u.ptpClock hcount
    obtain ⟨j, hji, hj⟩ := h.records _ hbest
    have hrecord : dataSetAt s.ptpClock (selectBest u.ptpClock) =
        dataSetAt u.ptpClock (selectBest u.ptpClock) := by
      unfold dataSetAt
      rw [hds]
    rw [hrecord] at hj
    obtain ⟨-, packet, -, -, hown, hheader, hannounce⟩ := hj.own hcap hports
    -- so `bmc` has found the port no better than the other one
    have hordinary : OrdinaryClock u.ptpClock :=
      ⟨portIdentity_of_identity hself, clockClass_of_slave hslave⟩
    have hlocal : localSet u.ptpClock = localSet (device i).clock :=
      localSet_congr (congrArg Prod.fst hself)
    have hother : (dataSetAt u.ptpClock (selectBest u.ptpClock)).2.grandmasterIdentity ≠
        u.ptpClock.defaultDS.clockIdentity := by
      rw [hannounce, hown.grandmasterIdentity]
      intro heq
      have hsame := congrArg (fun identity => identity.1.clockIdentity) hself
      exact hji (hid (Device.hwaddr_eq (heq.trans hsame)))
    have hdecides := (bmc_decides hordinary hcount hother).1
    rw [hheader, hannounce, hown.decoded, hlocal] at hdecides
    have hnot : ¬(device i).attributes < (device j).attributes := fun hlt => by
      have hmaster := hdecides hlt
      rw [hslave] at hmaster
      cases hmaster
    refine ⟨j, hji, lt_of_le_of_ne (not_lt.mp hnot) fun heq => ?_, _, _, hj,
      takeDecision_slave hr⟩
    exact hji (hid (Device.hwaddr_eq_of_attributes heq))

/-- At the third switch the parent is still the one of the decision. -/
theorem Informed.switches (hcap : ∀ i, 0 < (device i).rtOpts.maxForeignRecords)
    (hid : Function.Injective fun i => (device i).hwaddr)
    (hports : (network device).system.Reachable ports) (hs : Placed (device i) s)
    (h : Informed device ports i s) (hr : (switchCall env s).recommendedState = .slave) :
    ParentOf device ports i (switchCall env s).announced := by
  rw [switchCall_recommendedState env hs.settled] at hr
  rw [switchCall_announced]
  exact h.decides hcap hid hports hs hr

/-- An Announce of the parent comes from the port that has been the parent before. -/
theorem parentAnnounceCall_from {header : MsgHeader} {announce : MsgAnnounce}
    (hs : s.engine.Settled) (h : parentAnnounceCall env s = some (header, announce)) :
    (switchCall env s).recommendedState = .slave ∧
      (switchCall env s).announced.1 = header.sourcePortIdentity := by
  obtain ⟨v, hv, hparent⟩ := Option.bind_eq_some_iff.mp h
  obtain ⟨u, hu, hfollowing, hfrom, hheader, -, -⟩ := parentAnnounce_spec hparent
  obtain ⟨hstate, hannounced, -⟩ := handleCall_kept hv
  constructor
  · obtain ⟨e₁, -, hdecided, hswitch⟩ := switchCall_engine env hs
    have hready := hdecided.follow
    rw [← hswitch] at hready
    rw [hu.portState, hstate] at hfollowing
    exact hready.agrees.recommends_slave hfollowing
  · have hsource : u.ptpClock.parentDS.parentPortIdentity =
        u.ptpClock.msgTmpHeader.sourcePortIdentity := isSamePortIdentity_iff.mp hfrom
    obtain ⟨_, _, _, _, _, heq⟩ := hu.ptpClock
    rw [← hannounced, ← hheader, ← hsource, heq]
    rfl

/-- **A call** of an initialised port. -/
theorem Informed.doState (hcap : ∀ i, 0 < (device i).rtOpts.maxForeignRecords)
    (hid : Function.Injective fun i => (device i).hwaddr)
    (hports : (network device).system.Reachable ports) (hs : Placed (device i) s)
    (h : Informed device ports i s) (hbrings : env.Brings (Delivered device ports)) :
    Informed device ports i (doState env s) := by
  have hmore : env.Brings fun p => p.totLen = 0 ∨ Delivered device ports p :=
    hbrings.mono fun _ => .inr
  have hwf (p : Pbuf) (hp : p.totLen = 0 ∨ Delivered device ports p) (hne : p.totLen ≠ 0) :
      p.WellFormed ∧ NoGap p.chain :=
    have hd := hp.resolve_left hne
    ⟨hd.wellFormed, hd.noGap⟩
  refine ⟨h.holds.doState hmore, fun k hk => ?_, fun hr => ?_⟩
  · cases hu : addForeignCall env s with
    | none =>
      obtain ⟨hrecords, hcount⟩ := doState_of_addForeignCall_none hs.settled hu
      have hold := h.records k (hk.trans_le hcount)
      unfold dataSetAt at hold ⊢
      rw [hrecords]
      exact hold
    | some u =>
      obtain ⟨hfound, -⟩ := addForeignCall_spec hu
      obtain ⟨-, k₀, hstores⟩ := addForeignCall_stores hs.settled hs.keeps hu
      by_cases hnew : k = k₀
      · -- the record is the Announce at hand
        have hheard := addForeignCall_hears hs.settled h.holds hmore hwf hu
        unfold dataSetAt
        rw [hnew, hstores.header_eq, hstores.announce_eq]
        exact hheard.announcedBy hcap hports hs
      · obtain ⟨hlt, hrecord⟩ := hstores.others k hk hnew
        obtain ⟨hrecords, hcount⟩ := switchCall_foreignMasterDS env hs.settled
        rw [hfound, hcount] at hlt
        have hold := h.records k hlt
        unfold dataSetAt at hold ⊢
        rw [hrecord, hfound, hrecords]
        exact hold
  · cases hparent : parentAnnounceCall env s with
    | none =>
      obtain ⟨hrec, hannounced⟩ := doState_announced hs.settled hparent hr
      rw [hannounced]
      exact h.decides hcap hid hports hs hrec
    | some message =>
      obtain ⟨header, announce⟩ := message
      obtain ⟨hrec, hfrom⟩ := parentAnnounceCall_from hs.settled hparent
      obtain ⟨-, -, hannounced, -⟩ := doState_parentAnnounce hs.settled hparent
      obtain ⟨j, hji, hj⟩ :=
        (parentAnnounceCall_hears hs.settled h.holds hmore hwf hparent).announcedBy hcap hports hs
      obtain ⟨l, -, hbetter, header', announce', hl, heq⟩ := h.switches hcap hid hports hs hrec
      -- the sender is the port that has been the parent before
      obtain ⟨-, _, -, -, hownj, hheader, -⟩ := hj.own hcap hports
      obtain ⟨-, _, -, -, hownl, hheader', -⟩ := hl.own hcap hports
      have hsame : (device j).identity.2 = (device l).identity.2 := by
        rw [← hownj.sourcePortIdentity, ← hownl.sourcePortIdentity, ← hheader, ← hheader', ← hfrom,
          heq]
      obtain rfl : j = l := hid (Device.hwaddr_eq (congrArg PortIdentity.clockIdentity hsame))
      exact ⟨j, hji, hbetter, header, announce, hj, hannounced⟩

/-- **One step of a port** keeps what it knows. -/
theorem PortStep.informed {t : System} (hcap : ∀ i, 0 < (device i).rtOpts.maxForeignRecords)
    (hid : Function.Injective fun i => (device i).hwaddr)
    (hports : (network device).system.Reachable ports)
    (hstep : PortStep (device i) (Delivered device ports) s t)
    (hs : Dormant (device i).rtOpts s ∨ Placed (device i) s) (h : Informed device ports i s) :
    Informed device ports i t := by
  cases hstep with
  | idle => exact h
  | interrupt k brings =>
    have hmore : k.Brings fun p => p.totLen = 0 ∨ Delivered device ports p :=
      brings.mono fun _ => .inr
    obtain ⟨netPath, hclock⟩ := interrupts_ptpClock [k] s
    change (Ptpd.interrupt s k).ptpClock = _ at hclock
    refine ⟨h.holds.interrupt hmore, fun m hm => ?_, fun hr => ?_⟩
    · rw [hclock] at hm ⊢
      exact h.records m hm
    · unfold System.recommendedState at hr
      unfold System.announced
      rw [hclock] at hr ⊢
      exact h.parent hr
  | doState env hwaddr brings =>
    rcases hs with hdormant | hplaced
    · have hmore : env.Brings fun p => p.totLen = 0 ∨ Delivered device ports p :=
        brings.mono fun _ => .inr
      -- a port that has just been initialised has no records either
      have hnone : (Ptpd.doState env s).ptpClock.foreignMasterDS.count = 0 ∧
          (Ptpd.doState env s).recommendedState ≠ .slave := by
        rcases hdormant.step (.doState env s) with hafter | ⟨hfresh, -⟩
        · exact hafter.unaware
        · refine ⟨hfresh.foreignCount, fun hr => ?_⟩
          have hlistening := hfresh.recommendedState
          rw [show (Ptpd.doState env s).engine.recommendedState = .slave from hr] at hlistening
          cases hlistening
      refine ⟨h.holds.doState hmore, fun k hk => ?_, fun hr => absurd hr hnone.2⟩
      rw [hnone.1] at hk
      exact absurd hk (Nat.not_lt_zero k)
    · exact h.doState hcap hid hports hplaced brings

end Informed

/-- **What the ports know of each other**, in every reachable state of the network. -/
theorem network_informed (hcap : ∀ i, 0 < (device i).rtOpts.maxForeignRecords)
    (hid : Function.Injective fun i => (device i).hwaddr)
    (hports : (network device).system.Reachable ports) (i : ι) :
    Informed device ports i (ports i) := by
  have hboth := Transition.Composition.invariant (C := network device)
    (I := fun w i s => (Dormant (device i).rtOpts s ∨ Placed (device i) s) ∧
      Informed device w i s) ?_ ?_ ?_ hports i
  · exact hboth.2
  · intro w hw i
    have hdormant : Dormant (device i).rtOpts (w i) := by
      rw [hw i]
      exact boot_dormant _
    obtain ⟨hcount, hrec⟩ := hdormant.unaware
    refine ⟨.inl hdormant, ?_, fun k hk => ?_, fun hr => absurd hr hrec⟩
    · obtain ⟨_, hboot, -⟩ := boot_eq (device i).rtOpts
      rw [hw i, hboot]
      exact ⟨by rintro p ⟨⟩, fun k => .inl rfl, fun k => .inl rfl⟩
    · rw [hcount] at hk
      exact absurd hk (Nat.not_lt_zero k)
  · exact fun _ _ _ hnext _ _ hs => ⟨hs.1, hs.2.next hnext⟩
  · exact fun w i s t hw hstep hs =>
      ⟨hstep.placed (hcap i) hs.1, hstep.informed hcap hid hw hs.1 hs.2⟩

/-! ## Who follows whom -/

/-- Port `i` follows port `j`: its parent has the port identity of `j`. -/
def Follows (ports : ι → System) (i j : ι) : Prop :=
  (ports i).portState.Following ∧
    (ports i).ptpClock.parentDS.parentPortIdentity = (ports j).ptpClock.portDS.portIdentity

/-- A port that follows another one is initialised, and recommended to do so. -/
theorem network_following (hcap : ∀ i, 0 < (device i).rtOpts.maxForeignRecords)
    (hports : (network device).system.Reachable ports) (hf : (ports i).portState.Following) :
    Placed (device i) (ports i) ∧ (ports i).recommendedState = .slave := by
  rcases network_placed hcap hports i with hdormant | hplaced
  · -- an uninitialised port follows nobody
    rcases hdormant.unready.1 with hs | hs
    · rw [hs] at hf
      exact absurd hf (by decide)
    · rw [hs] at hf
      exact absurd hf (by decide)
  · refine ⟨hplaced, ?_⟩
    rcases hplaced.settled.agrees with hagrees | ⟨hfaulty, -⟩
    · exact hagrees.recommends_slave hf
    · rw [show (ports i).portState = .faulty from hfaulty] at hf
      exact absurd hf (by decide)

/-- The parent of a port that follows is a better port of the network, which has put an Announce on
the network.
The data sets show the default data set of that port as the grandmaster's, one step away. -/
theorem follower_parent (hcap : ∀ i, 0 < (device i).rtOpts.maxForeignRecords)
    (hid : Function.Injective fun i => (device i).hwaddr)
    (hports : (network device).system.Reachable ports) (hf : (ports i).portState.Following) :
    ∃ j, Follows ports i j ∧ (device j).attributes < (device i).attributes ∧
      (∃ packet ∈ transmitted (ports j).history, IsAnnounce packet) ∧
      (ports i).announced.2.grandmasterIdentity = (ports j).ptpClock.defaultDS.clockIdentity ∧
      (ports i).announced.2.grandmasterPriority1 = (ports j).ptpClock.defaultDS.priority1 ∧
      (ports i).announced.2.grandmasterClockQuality = (ports j).ptpClock.defaultDS.clockQuality ∧
      (ports i).announced.2.grandmasterPriority2 = (ports j).ptpClock.defaultDS.priority2 ∧
      (ports i).announced.2.stepsRemoved = 1 := by
  obtain ⟨-, hslave⟩ := network_following hcap hports hf
  obtain ⟨j, -, hbetter, header, announce, hby, heq⟩ :=
    (network_informed hcap hid hports i).parent hslave
  obtain ⟨hplaced, packet, hpacket, htype, hown, hheader, hannounce⟩ := hby.own hcap hports
  rw [← hplaced.identity] at hown
  refine ⟨j, ⟨hf, ?_⟩, hbetter, ⟨packet, hpacket, htype⟩, ?_⟩
  · have hparent : (ports i).announced.1 = header.sourcePortIdentity := congrArg Prod.fst heq
    rw [hheader, hown.sourcePortIdentity] at hparent
    exact hparent
  · rw [heq, hannounce]
    refine ⟨hown.grandmasterIdentity, hown.grandmasterPriority1, hown.grandmasterClockQuality,
      hown.grandmasterPriority2, ?_⟩
    show (announceIn packet).stepsRemoved + 1 = 1
    rw [hown.stepsRemoved]
    rfl

/-- A port that is followed is initialised: before, its port identity is that of no device. -/
theorem Follows.better (hcap : ∀ i, 0 < (device i).rtOpts.maxForeignRecords)
    (hid : Function.Injective fun i => (device i).hwaddr)
    (hports : (network device).system.Reachable ports) (h : Follows ports i j) :
    (device j).attributes < (device i).attributes := by
  obtain ⟨-, hslave⟩ := network_following hcap hports h.1
  obtain ⟨l, -, hbetter, header, announce, hby, heq⟩ :=
    (network_informed hcap hid hports i).parent hslave
  obtain ⟨-, packet, -, -, hown, hheader, -⟩ := hby.own hcap hports
  have hparent : (ports j).ptpClock.portDS.portIdentity = (device l).identity.2 := by
    rw [← h.2, ← hown.sourcePortIdentity, ← hheader]
    exact congrArg Prod.fst heq
  rcases network_placed hcap hports j with hdormant | hplaced
  · exfalso
    obtain ⟨state, -, hengine⟩ := hdormant.engine
    obtain ⟨_, hboot, -⟩ := boot_eq (device j).rtOpts
    rw [hboot] at hengine
    have hport : (ports j).ptpClock.portDS.portIdentity = default :=
      congrArg Engine.portIdentity hengine
    rw [hport] at hparent
    -- the fourth octet of an identity made of a hardware address is not zero
    have hoctet := congrArg (fun port : PortIdentity => port.clockIdentity[3]) hparent
    exact absurd hoctet (by decide : ¬(0 : UInt8) = 0xff)
  · have hself : (ports j).ptpClock.portDS.portIdentity = (device j).identity.2 :=
      congrArg Prod.snd hplaced.identity
    have hsame := hself.symm.trans hparent
    rw [hid (Device.hwaddr_eq (congrArg PortIdentity.clockIdentity hsame))]
    exact hbetter

/-- No port follows itself, neither directly nor along any number of other ports, at any moment:
also while ports take over and lose their parents. -/
theorem no_timing_loop (hcap : ∀ i, 0 < (device i).rtOpts.maxForeignRecords)
    (hid : Function.Injective fun i => (device i).hwaddr)
    (hports : (network device).system.Reachable ports) (i : ι) :
    ¬TransGen (Follows ports) i i := by
  intro hloop
  have hbetter {i j : ι} (h : TransGen (Follows ports) i j) :
      (device j).attributes < (device i).attributes := by
    induction h with
    | single h => exact h.better hcap hid hports
    | tail _ h ih => exact (h.better hcap hid hports).trans ih
  exact lt_irrefl _ (hbetter hloop)

end Ports

/-! ## Two ports -/

/-- Two devices with the default options. -/
def pairDevice (i : Fin 2) : Device :=
  { rtOpts := ptpdOpts, hwaddr := #v[0x00, 0x80, 0xE1, 0, 0, UInt8.ofNat i] }

/-- A call in which nothing happens outside and all transmissions succeed. -/
def pairEnv (i : Fin 2) : Env :=
  { plainEnv with hwaddr := (pairDevice i).hwaddr, send := fun _ => .sent (atSecond 5) }

/-- Such a call of port 0. -/
def leaderCall : Stimulus := .doState (pairEnv 0)

/-- Such a call of port 1. -/
def followerCall : Stimulus := .doState (pairEnv 1)

/-- Port 0 becomes master by the announce receipt timeout and announces itself. -/
def pairLeader : System :=
  (boot ptpdOpts).after
    [leaderCall, .interrupt (.timerCallback .announceReceipt), leaderCall,
      .interrupt (.timerCallback .announceInterval), leaderCall]

/-- Port 1 hears the Announce and decides on it. -/
def pairFollower : System :=
  (boot ptpdOpts).after
    ([followerCall] ++ generalArrival (announceOf (station 0 ptpdOpts)) (atSecond 6) ++
      [followerCall, followerCall])

def pairPorts : Fin 2 → System :=
  Function.update (Function.update (fun i => boot (pairDevice i).rtOpts) 0 pairLeader) 1
    pairFollower

theorem pairDevice_hwaddr : Function.Injective fun i => (pairDevice i).hwaddr := by
  decide

theorem pairDevice_capacity (i : Fin 2) : 0 < (pairDevice i).rtOpts.maxForeignRecords :=
  (by decide : 0 < ptpdOpts.maxForeignRecords)

theorem pairEnv_brings (i : Fin 2) (Q : Pbuf → Prop) : (pairEnv i).Brings Q :=
  ⟨fun _ => List.forall_mem_nil _, List.forall_mem_nil _⟩

theorem chainBytes_datagram (bytes : List UInt8) (stamp : HwTime) :
    chainBytes (datagram bytes stamp).chain = bytes := by
  apply List.ext_getElem
  · simp [chainBytes, datagram]
  · intro k hk hk'
    simp [chainBytes, datagram, List.getElem?_eq_getElem hk']

theorem pairPorts_reachable : (network pairDevice).system.Reachable pairPorts := by
  have hstart : (network pairDevice).system.Reachable fun i => boot (pairDevice i).rtOpts :=
    .init fun _ => rfl
  have hleader : (network pairDevice).system.Reachable
      (Function.update (fun i => boot (pairDevice i).rtOpts) 0 pairLeader) := by
    refine network_after (fun _ _ _ hp => hp.mono) hstart 0 _ fun x hx => ?_
    simp only [List.mem_cons, List.not_mem_nil, or_false] at hx
    rcases hx with rfl | rfl | rfl | rfl | rfl
    · exact ⟨rfl, pairEnv_brings 0 _⟩
    · rintro p ⟨⟩
    · exact ⟨rfl, pairEnv_brings 0 _⟩
    · rintro p ⟨⟩
    · exact ⟨rfl, pairEnv_brings 0 _⟩
  -- the Announce that port 1 hears is the one that port 0 has sent
  have hsent : announceOf (station 0 ptpdOpts) ∈ transmitted pairLeader.history :=
    ⟨.announce, atSecond 5, by decide +kernel⟩
  refine network_after (fun _ _ _ hp => hp.mono) hleader 1 _ fun x hx => ?_
  simp only [generalArrival, List.cons_append, List.nil_append, List.mem_cons, List.not_mem_nil,
    or_false] at hx
  rcases hx with rfl | rfl | rfl | rfl | rfl
  · exact ⟨rfl, pairEnv_brings 1 _⟩
  · rintro p hp
    obtain rfl := Interrupt.frame.inj hp
    refine ⟨⟨by simp [datagram], by simp [datagram, chainLength]⟩, by simp [NoGap, datagram], ?_⟩
    intro _ _ _
    refine ⟨0, ?_⟩
    rw [chainBytes_datagram]
    exact hsent
  · rintro p ⟨⟩
  · exact ⟨rfl, pairEnv_brings 1 _⟩
  · exact ⟨rfl, pairEnv_brings 1 _⟩

theorem pairPorts_following : (pairPorts 1).portState.Following := by
  have hstate : pairFollower.portState = .uncalibrated := by decide +kernel
  exact .inl hstate

theorem follower_parent_pair :
    ∃ j, Follows pairPorts 1 j ∧ (pairDevice j).attributes < (pairDevice 1).attributes ∧
      (∃ packet ∈ transmitted (pairPorts j).history, IsAnnounce packet) ∧
      (pairPorts 1).announced.2.grandmasterIdentity =
        (pairPorts j).ptpClock.defaultDS.clockIdentity ∧
      (pairPorts 1).announced.2.grandmasterPriority1 = (pairPorts j).ptpClock.defaultDS.priority1 ∧
      (pairPorts 1).announced.2.grandmasterClockQuality =
        (pairPorts j).ptpClock.defaultDS.clockQuality ∧
      (pairPorts 1).announced.2.grandmasterPriority2 = (pairPorts j).ptpClock.defaultDS.priority2 ∧
      (pairPorts 1).announced.2.stepsRemoved = 1 :=
  follower_parent pairDevice_capacity pairDevice_hwaddr pairPorts_reachable pairPorts_following

theorem no_timing_loop_pair : ¬TransGen (Follows pairPorts) 1 1 :=
  no_timing_loop pairDevice_capacity pairDevice_hwaddr pairPorts_reachable 1

end Ptpd

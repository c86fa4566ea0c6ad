import DiscoPtp.Properties.Emissions
import DiscoPtp.Properties.NewestAnnounce
import DiscoPtp.Properties.Copying

/-!
# What a port hears

Every datagram that a port handles has arrived at it: the datagrams in flight, those in the queues
and the one in the input buffer come from the frames that the network has handed over. An Announce
that is stored or taken over is decoded from one of them, whatever the input buffer held before.

## Main definitions

* `System.Holds`: all datagrams that wait at the port have a property
* `Env.Brings`: so have all frames that are read during a call
* `Bears`: the datagram that is in the input buffer
* `AtHand`: the Announce that `handle` acts on
* `Hears`: an Announce decoded from a datagram with the property

## Main results

* `System.Holds.doState`: a call keeps the property
* `addForeignCall_hears`, `parentAnnounceCall_hears`: what is stored and taken over has arrived
-/

namespace Ptpd

/-- All datagrams that wait at the port, in flight and in the slots of the queues. -/
structure System.Holds (s : System) (Q : Pbuf → Prop) : Prop where
  inFlight : ∀ p ∈ s.inFlight, Q p
  eventQ : ∀ k, Q (s.ptpClock.netPath.eventQ.pbuf k)
  generalQ : ∀ k, Q (s.ptpClock.netPath.generalQ.pbuf k)

/-- All frames that an interrupt reads. -/
def Interrupt.Brings (i : Interrupt) (Q : Pbuf → Prop) : Prop := ∀ p, i = .frame p → Q p

/-- All frames that are read during a call. -/
structure Env.Brings (env : Env) (Q : Pbuf → Prop) : Prop where
  interrupts : ∀ point, ∀ i ∈ env.interrupts point, i.Brings Q
  lateFrames : ∀ p ∈ env.lateFrames, Q p

/-! ## The datagrams along a call -/

section Holds

variable {Q Q' : Pbuf → Prop} {env : Env} {s t : System} {types : List MessageType}

theorem System.Holds.mono (h : s.Holds Q) (hQ : ∀ p, Q p → Q' p) : s.Holds Q' :=
  ⟨fun p hp => hQ p (h.inFlight p hp), fun k => hQ _ (h.eventQ k), fun k => hQ _ (h.generalQ k)⟩

theorem Interrupt.Brings.mono {i : Interrupt} (h : i.Brings Q) (hQ : ∀ p, Q p → Q' p) :
    i.Brings Q' := fun p hp => hQ p (h p hp)

theorem Env.Brings.mono (h : env.Brings Q) (hQ : ∀ p, Q p → Q' p) : env.Brings Q' :=
  ⟨fun point i hi => (h.interrupts point i hi).mono hQ, fun p hp => hQ p (h.lateFrames p hp)⟩

theorem System.Holds.emits (h : s.Holds Q) (he : Emits s t types) : t.Holds Q := by
  constructor
  · rw [he.inFlight]
    exact h.inFlight
  · rw [he.eventQ]
    exact h.eventQ
  · rw [he.generalQ]
    exact h.generalQ

theorem System.Holds.silent (h : s.Holds Q) (he : Silent s t) : t.Holds Q := h.emits he.emits

theorem System.Holds.emitsSome (h : s.Holds Q) (he : EmitsSome s t types) : t.Holds Q := by
  obtain ⟨_, hsent, -⟩ := he
  exact h.emits hsent

theorem System.Holds.readFrame (h : s.Holds Q) {p : Pbuf} (hp : Q p) :
    (readFrame s p).Holds Q := by
  refine ⟨fun q hq => ?_, h.eventQ, h.generalQ⟩
  rcases List.mem_append.mp hq with hq | hq
  · exact h.inFlight q hq
  · rw [List.mem_singleton.mp hq]
    exact hp

theorem System.Holds.readFrames {frames : List Pbuf} (hframes : ∀ p ∈ frames, Q p) :
    ∀ {s : System}, s.Holds Q → (frames.foldl Ptpd.readFrame s).Holds Q := by
  induction frames with
  | nil => exact fun h => h
  | cons p frames ih =>
    intro s h
    exact ih (fun q hq => hframes q (List.mem_cons_of_mem p hq))
      (h.readFrame (hframes p List.mem_cons_self))

/-- A queue holds what it held before and what is put into it. -/
theorem netQPut_holds {queue : BufQueue} {p : Pbuf} (h : ∀ k, Q (queue.pbuf k)) (hp : Q p) :
    ∀ k, Q ((netQPut queue p).2.pbuf k) := by
  intro k
  unfold netQPut
  split
  · show Q (Function.update queue.pbuf (queue.head + 1) p k)
    rw [Function.update_apply]
    split
    · exact hp
    · exact h k
  · exact h k

theorem netQGet_pbuf (queue : BufQueue) : (netQGet queue).2.pbuf = queue.pbuf := by
  unfold netQGet
  split <;> rfl

theorem System.Holds.interrupt (h : s.Holds Q) {i : Interrupt} (hi : i.Brings Q) :
    (interrupt s i).Holds Q := by
  -- a datagram that leaves the flight goes to a queue or is discarded
  have herase (n : ℕ) : ∀ p ∈ s.inFlight.eraseIdx n, Q p :=
    fun p hp => h.inFlight p (List.mem_of_mem_eraseIdx hp)
  cases i with
  | frame p => exact h.readFrame (hi p rfl)
  | recvEvent n =>
    simp only [Ptpd.interrupt, netRecvEventCallback]
    split
    · exact h
    next p hp =>
      exact ⟨herase n, netQPut_holds h.eventQ (h.inFlight p (List.mem_of_getElem? hp)), h.generalQ⟩
  | recvGeneral n =>
    simp only [Ptpd.interrupt, netRecvGeneralCallback]
    split
    · exact h
    next p hp =>
      exact ⟨herase n, h.eventQ, netQPut_holds h.generalQ (h.inFlight p (List.mem_of_getElem? hp))⟩
  | discard n => exact ⟨herase n, h.eventQ, h.generalQ⟩
  | timerCallback timer => exact ⟨h.inFlight, h.eventQ, h.generalQ⟩
  | tick time => exact ⟨h.inFlight, h.eventQ, h.generalQ⟩

theorem System.Holds.interrupts {is : List Interrupt} (his : ∀ i ∈ is, i.Brings Q) :
    ∀ {s : System}, s.Holds Q → (is.foldl Ptpd.interrupt s).Holds Q := by
  induction is with
  | nil => exact fun h => h
  | cons i is ih =>
    intro s h
    exact ih (fun j hj => his j (List.mem_cons_of_mem i hj))
      (h.interrupt (his i List.mem_cons_self))

theorem System.Holds.pause (h : s.Holds Q) (henv : env.Brings Q) (point : Pause) :
    (pause env point s).Holds Q :=
  System.Holds.interrupts (henv.interrupts point) h

theorem System.Holds.netRecv (h : s.Holds Q) (hlate : ∀ p ∈ env.lateFrames, Q p) (p : Pbuf)
    (time : TimeInternal) : (netRecv env p time s).2.2.Holds Q := by
  unfold Ptpd.netRecv
  split
  · exact h
  split
  · exact h
  · have hread := System.Holds.readFrames hlate h
    exact ⟨hread.inFlight, hread.eventQ, hread.generalQ⟩

/-- Reception takes a datagram from its queue and reads the frames that arrive meanwhile. -/
theorem System.Holds.receive (h : s.Holds Q) (hlate : ∀ p ∈ env.lateFrames, Q p) :
    (receive env s).2.Holds Q := by
  have hevent (time : TimeInternal) (u : System) (hu : u.Holds Q) :
      (netRecvEvent env time u).2.2.Holds Q := by
    have hget : (u.modify fun c =>
        { c with netPath := { c.netPath with eventQ := (netQGet c.netPath.eventQ).2 } }).Holds Q :=
      ⟨hu.inFlight, by
        show ∀ k, Q ((netQGet u.ptpClock.netPath.eventQ).2.pbuf k)
        rw [netQGet_pbuf]
        exact hu.eventQ, hu.generalQ⟩
    unfold netRecvEvent
    dsimp only
    split
    · exact hget
    · exact hget.netRecv hlate _ time
  have hgeneral (time : TimeInternal) (u : System) (hu : u.Holds Q) :
      (netRecvGeneral env time u).2.2.Holds Q := by
    have hget : (u.modify fun c =>
        { c with
          netPath := { c.netPath with generalQ := (netQGet c.netPath.generalQ).2 } }).Holds Q :=
      ⟨hu.inFlight, hu.eventQ, by
        show ∀ k, Q ((netQGet u.ptpClock.netPath.generalQ).2.pbuf k)
        rw [netQGet_pbuf]
        exact hu.generalQ⟩
    unfold netRecvGeneral
    dsimp only
    split
    · exact hget
    · exact hget.netRecv hlate _ time
  have hlength (n : Int) (u : System) (hu : u.Holds Q) :
      (u.modify fun c => { c with msgIbufLength := n }).Holds Q :=
    ⟨hu.inFlight, hu.eventQ, hu.generalQ⟩
  unfold Ptpd.receive
  dsimp only
  split
  · exact hlength _ _ (hevent _ s h)
  · exact hlength _ _ (hgeneral _ _ (hlength _ _ (hevent _ s h)))

theorem System.Holds.handle (h : s.Holds Q) (hlate : ∀ p ∈ env.lateFrames, Q p) :
    (handle env s).Holds Q := by
  have hreceive := h.receive hlate
  unfold Ptpd.handle
  dsimp only
  split
  · exact h.silent (toState_silent env s .faulty)
  split
  · exact h
  split
  · exact hreceive.silent (toState_silent env _ .faulty)
  split
  · exact hreceive
  · exact hreceive.emitsSome (process_emits env _ _)

theorem System.Holds.switchCall (h : s.Holds Q) (henv : env.Brings Q) :
    (switchCall env s).Holds Q := by
  have hactive : s.setMessageActivity false |>.Holds Q := ⟨h.inFlight, h.eventQ, h.generalQ⟩
  exact System.Holds.pause
    ((hactive.silent (stateDecision_silent _)).silent (followRecommendation_silent env _)) henv _

/-- The Sync and Announce timers of a master precede `handle`. -/
theorem System.Holds.masterHandleCall (h : s.Holds Q) (henv : env.Brings Q) :
    (masterHandleCall env s).Holds Q := by
  have hsync := (h.emitsSome (syncTimerActions_emits env s)).pause henv .announceTimer
  exact (hsync.emitsSome (announceTimerActions_emits env _)).pause henv .handling

theorem System.Holds.timerExpired (h : s.Holds Q) (timer : Timer) :
    (timerExpired timer s).2.Holds Q :=
  h.silent ⟨rfl, rfl, rfl, rfl, rfl⟩

/-- What precedes `handle` in the third switch. -/
theorem System.Holds.handleCall (h : s.Holds Q) (henv : env.Brings Q) {u : System}
    (hu : handleCall env s = some u) : u.Holds Q := by
  unfold Ptpd.handleCall at hu
  split at hu
  · rw [← Option.some.inj hu]
    exact h
  case h_6 =>
    rw [← Option.some.inj hu]
    exact h.masterHandleCall henv
  case h_7 => cases hu
  all_goals
    dsimp only at hu
    split at hu
    · cases hu
    · rw [← Option.some.inj hu]
      exact (h.timerExpired .announceReceipt).pause henv .handling

theorem System.Holds.portActions (h : s.Holds Q) (henv : env.Brings Q) :
    (portActions env s).Holds Q := by
  have hawait : (awaitAnnounce env s).Holds Q := by
    have hread := h.timerExpired .announceReceipt
    unfold awaitAnnounce
    dsimp only
    split
    · exact hread.silent (announceTimeout_silent env _)
    · exact (hread.pause henv .handling).handle henv.lateFrames
  unfold Ptpd.portActions
  split
  · dsimp only
    split
    · exact (h.emits (doInit_emits env s)).silent (toState_silent env _ .listening)
    · exact (h.emits (doInit_emits env s)).silent (toState_silent env _ .faulty)
  · exact h.silent (toState_silent env s .initializing)
  · exact h.handle henv.lateFrames
  · exact hawait
  · exact hawait
  · exact hawait
  · exact hawait
  · have hhandled := ((h.masterHandleCall henv).handle henv.lateFrames).pause henv .requestTimer
    exact hhandled.emitsSome (issueDelayReqTimerExpired_emits env _)
  · exact h

/-- **A call** keeps what holds of all datagrams that arrive. -/
theorem System.Holds.doState (h : s.Holds Q) (henv : env.Brings Q) : (doState env s).Holds Q :=
  (h.switchCall henv).portActions henv

end Holds

/-! ## The message at hand -/

/-- What a port never changes once it has been initialised. -/
def Engine.identity (e : Engine) : DefaultDS × PortIdentity := (e.defaultDS, e.portIdentity)

/-- The Announce that `handle` acts on in the state after reception: it is long enough, of the
domain of the port and from another port. -/
structure AtHand (s : System) (header : MsgHeader) (announce : MsgAnnounce) : Prop where
  length : announceLength ≤ s.ptpClock.msgIbufLength
  header_eq : header = msgUnpackHeader s.ptpClock.msgIbuf
  announce_eq : announce = msgUnpackAnnounce s.ptpClock.msgIbuf
  type : MessageType.ofCode header.messageType = some .announce
  domain : header.domainNumber = s.engine.identity.1.domainNumber
  other : header.sourcePortIdentity ≠ s.engine.identity.2

section AtHand

variable {Q : Pbuf → Prop} {env : Env} {s u : System} {header : MsgHeader} {announce : MsgAnnounce}

/-- The datagram is the one in the input buffer. -/
structure Bears (s : System) (p : Pbuf) : Prop where
  length : s.ptpClock.msgIbufLength = p.totLen
  octets : AgreeBelow p.totLen (octetsOf (chainBytes p.chain)) s.ptpClock.msgIbuf
  frame : s.frameStamp = p.stamp

/-- The octets of a datagram, copied. -/
theorem copyPbuf_agreeBelow {p : Pbuf} (hwf : p.WellFormed) (hgap : NoGap p.chain) (buf : Buf) :
    AgreeBelow p.totLen (octetsOf (chainBytes p.chain)) (copyPbuf p.totLen buf 0 0 p.chain) := by
  intro k hk
  have hbytes : (chainBytes p.chain).length = p.totLen := by
    rw [← chainReads_bytes, List.length_map, length_chainReads, hwf.totLen]
  rw [hwf.totLen, copyPbuf_chain hgap, List.getElem?_eq_getElem (by omega), Option.getD_some,
    octetsOf, List.getD_eq_getElem _ _ (by omega)]

/-- The datagram in the input buffer was waiting at the port. -/
theorem receive_bears (env : Env) (h : s.Holds Q)
    (hQ : ∀ p, Q p → p.totLen ≠ 0 → p.WellFormed ∧ NoGap p.chain)
    (hlength : (receive env s).2.ptpClock.msgIbufLength ≠ 0) :
    ∃ p, Q p ∧ Bears (receive env s).2 p := by
  -- a length other than zero is that of a datagram that has been copied
  have hrecv (p : Pbuf) (hp : Q p) (time : TimeInternal) (v : System)
      (hn : (netRecv env p time v).1 ≠ 0) : Bears ((netRecv env p time v).2.2.modify fun c =>
        { c with msgIbufLength := (netRecv env p time v).1 }) p := by
    unfold netRecv at hn ⊢
    split at hn
    · exact absurd rfl hn
    next hfits =>
    split at hn
    · exact absurd rfl hn
    next hsome =>
    obtain ⟨hwf, hgap⟩ := hQ p hp hsome
    rw [if_neg hfits, if_neg hsome]
    exact ⟨rfl, copyPbuf_agreeBelow hwf hgap _, rfl⟩
  -- what the queue yields is in one of its slots
  have hget (queue : BufQueue) (hq : ∀ k, Q (queue.pbuf k)) {p : Pbuf}
      (hp : (netQGet queue).1 = some p) : Q p := by
    unfold netQGet at hp
    split at hp
    · rw [← Option.some.inj hp]
      exact hq _
    · cases hp
  have hgeneralQ : (netRecvEvent env ⟨0, 0⟩ s).2.2.ptpClock.netPath.generalQ =
      s.ptpClock.netPath.generalQ := by
    rw [netRecvEvent_netPath]
  unfold receive at hlength ⊢
  dsimp only at hlength ⊢
  split
  next hevent =>
    show ∃ p, Q p ∧ Bears ((netRecvEvent env ⟨0, 0⟩ s).2.2.modify fun c =>
      { c with msgIbufLength := (netRecvEvent env ⟨0, 0⟩ s).1 }) p
    unfold netRecvEvent at hevent ⊢
    dsimp only at hevent ⊢
    split at hevent
    · exact absurd rfl hevent
    next p hp =>
      have hq := hget _ h.eventQ hp
      exact ⟨p, hq, hrecv p hq ⟨0, 0⟩ _ hevent⟩
  next hevent =>
    rw [if_neg hevent] at hlength
    -- the event queue has yielded nothing, and has left the other queue alone
    generalize netRecvEvent env ⟨0, 0⟩ s = r at *
    obtain ⟨n, time, v⟩ := r
    dsimp only at hgeneralQ hlength ⊢
    change (netRecvGeneral env time (v.modify _)).1 ≠ 0 at hlength
    unfold netRecvGeneral at hlength ⊢
    dsimp only at hlength ⊢
    split at hlength
    · exact absurd rfl hlength
    next p hp =>
      have hq : Q p := by
        refine hget s.ptpClock.netPath.generalQ h.generalQ ?_
        rw [← hgeneralQ]
        exact hp
      exact ⟨p, hq, hrecv p hq time _ hlength⟩

/-- The checks that `handleAnnounce` makes before it stores an Announce. -/
theorem handleAnnounceStores_spec {fromSelf : Bool} (h : handleAnnounceStores fromSelf s = some u) :
    announceLength ≤ s.ptpClock.msgIbufLength ∧ fromSelf = false ∧
      u.ptpClock.msgTmpHeader = s.ptpClock.msgTmpHeader ∧
      u.ptpClock.msgTmpAnnounce = msgUnpackAnnounce s.ptpClock.msgIbuf := by
  have htake (v : System) (hv : some (takeAnnounce v) = some u) (hclock : v.ptpClock = s.ptpClock) :
      u.ptpClock.msgTmpHeader = s.ptpClock.msgTmpHeader ∧
        u.ptpClock.msgTmpAnnounce = msgUnpackAnnounce s.ptpClock.msgIbuf := by
    rw [← Option.some.inj hv, ← hclock]
    exact ⟨rfl, rfl⟩
  unfold handleAnnounceStores at h
  split at h
  · cases h
  next hlength =>
  split at h
  · cases h
  next hself =>
  refine ⟨not_lt.mp hlength, Bool.not_eq_true _ ▸ hself, ?_⟩
  split at h
  · cases h
  · cases h
  · cases h
  · split at h
    · cases h
    · exact htake _ h rfl
  · split at h
    · cases h
    · exact htake _ h rfl
  · refine htake _ h ?_
    split <;> rfl

/-- The checks that `handleAnnounce` makes before it takes over an Announce of the parent. -/
theorem handleAnnounceOfParent_checks {fromSelf : Bool}
    (h : handleAnnounceOfParent fromSelf s = some (header, announce)) :
    announceLength ≤ s.ptpClock.msgIbufLength ∧ fromSelf = false ∧
      header = s.ptpClock.msgTmpHeader ∧ announce = msgUnpackAnnounce s.ptpClock.msgIbuf := by
  have htake (hp : (if isFromCurrentParent s.ptpClock then
      some (s.ptpClock.msgTmpHeader, msgUnpackAnnounce s.ptpClock.msgIbuf) else none) =
        some (header, announce)) :
      header = s.ptpClock.msgTmpHeader ∧ announce = msgUnpackAnnounce s.ptpClock.msgIbuf := by
    split at hp
    · obtain ⟨hheader, hannounce⟩ := Prod.mk.inj (Option.some.inj hp)
      exact ⟨hheader.symm, hannounce.symm⟩
    · cases hp
  unfold handleAnnounceOfParent at h
  split at h
  · cases h
  next hlength =>
  split at h
  · cases h
  next hself =>
  refine ⟨not_lt.mp hlength, Bool.not_eq_true _ ▸ hself, ?_⟩
  split at h
  · exact htake h
  · exact htake h
  · cases h

/-- The state in which the message at hand is dispatched. -/
abbrev dispatched (s : System) : System := unpackHeader (s.setMessageActivity true)

/-- A message that passes the checks of `handleAnnounce` in the state of the dispatch. -/
theorem atHand_of_dispatched
    (hlength : announceLength ≤ (dispatched s).ptpClock.msgIbufLength)
    (htype : MessageType.ofCode (dispatched s).ptpClock.msgTmpHeader.messageType = some .announce)
    (hdomain : (dispatched s).ptpClock.msgTmpHeader.domainNumber =
      (dispatched s).ptpClock.defaultDS.domainNumber)
    (hself : isFromSelf (dispatched s).ptpClock = false)
    (hheader : header = (dispatched s).ptpClock.msgTmpHeader)
    (hannounce : announce = msgUnpackAnnounce (dispatched s).ptpClock.msgIbuf) :
    AtHand s header announce := by
  refine ⟨hlength, hheader, hannounce, ?_, ?_, fun heq => ?_⟩
  · rw [hheader]
    exact htype
  · rw [hheader]
    exact hdomain
  · have hfrom : isFromSelf (dispatched s).ptpClock = true := by
      rw [hheader] at heq
      exact isSamePortIdentity_iff.mpr heq.symm
    rw [hfrom] at hself
    cases hself

theorem processStores_atHand (h : processStores s = some u) :
    AtHand s u.ptpClock.msgTmpHeader u.ptpClock.msgTmpAnnounce := by
  unfold processStores at h
  dsimp only at h
  split at h
  · cases h
  split at h
  · cases h
  split at h
  · cases h
  next hdomain =>
  split at h
  next htype =>
    obtain ⟨hlength, hself, hheader, hannounce⟩ :=
      handleAnnounceStores_spec (s := dispatched s) h
    exact atHand_of_dispatched hlength htype (not_not.mp hdomain) hself hheader hannounce
  · cases h

theorem processAnnounceOfParent_atHand (h : processAnnounceOfParent s = some (header, announce)) :
    AtHand s header announce := by
  unfold processAnnounceOfParent at h
  dsimp only at h
  split at h
  · cases h
  split at h
  · cases h
  split at h
  · cases h
  next hdomain =>
  split at h
  next htype =>
    obtain ⟨hlength, hself, hheader, hannounce⟩ :=
      handleAnnounceOfParent_checks (s := dispatched s) h
    exact atHand_of_dispatched hlength htype (not_not.mp hdomain) hself hheader hannounce
  · cases h

theorem handleStores_atHand (h : handleStores env s = some u) :
    AtHand (receive env s).2 u.ptpClock.msgTmpHeader u.ptpClock.msgTmpAnnounce := by
  unfold handleStores at h
  dsimp only at h
  split at h
  · cases h
  split at h
  · cases h
  split at h
  · cases h
  split at h
  · cases h
  · exact processStores_atHand h

theorem parentAnnounce_atHand (h : parentAnnounce env s = some (header, announce)) :
    AtHand (receive env s).2 header announce := by
  unfold parentAnnounce at h
  dsimp only at h
  split at h
  · cases h
  split at h
  · cases h
  split at h
  · cases h
  split at h
  · cases h
  · exact processAnnounceOfParent_atHand h

/-- A port with the identity `self` hears an Announce of another one, of its own domain, in a
datagram with the property. -/
def Hears (Q : Pbuf → Prop) (self : DefaultDS × PortIdentity) (header : MsgHeader)
    (announce : MsgAnnounce) : Prop :=
  ∃ p, Q p ∧ announceLength ≤ p.totLen ∧ header = headerIn (chainBytes p.chain) ∧
    announce = announceIn (chainBytes p.chain) ∧
    MessageType.ofCode header.messageType = some .announce ∧
    header.domainNumber = self.1.domainNumber ∧ header.sourcePortIdentity ≠ self.2

/-- **The Announce at hand** is decoded from a datagram that was waiting at the port. -/
theorem AtHand.hears (h : AtHand (receive env s).2 header announce) (hs : s.Holds Q)
    (hQ : ∀ p, Q p → p.totLen ≠ 0 → p.WellFormed ∧ NoGap p.chain) :
    Hears Q s.engine.identity header announce := by
  have hlength := h.length
  obtain ⟨p, hp, hbears⟩ := receive_bears env hs hQ (by
    intro hzero
    rw [hzero] at hlength
    exact absurd hlength (by decide))
  rw [hbears.length] at hlength
  have hagree := hbears.octets.mono hlength
  have hself : (receive env s).2.engine.identity = s.engine.identity :=
    congrArg Engine.identity (receive_receives env s).engine
  refine ⟨p, hp, hlength, ?_, ?_, h.type, ?_, ?_⟩
  · rw [h.header_eq]
    exact (hagree.header (by decide)).symm
  · rw [h.announce_eq]
    exact (hagree.announce (le_refl _)).symm
  · rw [← hself]
    exact h.domain
  · rw [← hself]
    exact h.other

/-! ## The calls -/

theorem Engine.toState_identity (state : PtpState) (e : Engine) :
    (e.toState state).identity = e.identity := by
  obtain ⟨_, _, _, _, _, heq⟩ := Engine.toState_eq state e
  rw [heq]
  rfl

/-- **Every move** keeps the identity. -/
theorem Engine.Move.identity {e e' : Engine} (h : Engine.Move e e') :
    e'.identity = e.identity := by
  cases h with
  | decides _ hd => cases hd <;> rfl
  | events events => rfl
  | enter state hw hen => exact Engine.toState_identity state e
  | timeout hs =>
    unfold Engine.announceTimeout
    split
    · exact Engine.toState_identity .master _
    split
    · exact Engine.toState_identity .listening _
    · rfl
  | sends _ ha hs => cases hs <;> rfl
  | outcome _ ha ho =>
    cases ho with
    | short => exact Engine.toState_identity .faulty e
    | measure header e₁ _ hs hp hm hr =>
      obtain ⟨_, rfl⟩ := hr.eq
      obtain ⟨_, _, _, _, _, _, rfl⟩ := hm.eq
      rfl
    | requests _ hs hr =>
      obtain ⟨_, rfl⟩ := hr.eq
      rfl
    | _ => rfl
  | requests _ hr =>
    obtain ⟨_, rfl⟩ := hr.eq
    rfl

theorem Engine.Settled.call_identity {e e' : Engine} (h : e.Settled) (hc : Engine.Call e e') :
    e'.identity = e.identity :=
  Transition.Preserves.run (P := fun e₁ : Engine => e₁.identity = e.identity)
    (fun _ _ hm hi => hm.identity.trans hi) (h.call_moves hc) rfl

/-- The identity in the state in which `handle` is called. -/
theorem handleCall_identity (hs : s.engine.Settled)
    (hu : handleCall env (switchCall env s) = some u) :
    u.engine.identity = s.engine.identity := by
  have hswitch : (switchCall env s).engine.identity = s.engine.identity := by
    obtain ⟨e₁, hd, hdecided, heq⟩ := switchCall_engine env hs
    obtain ⟨_, _, _, _, _, _, _, hfollow⟩ := Engine.follow_followed e₁
    rw [heq, hfollow]
    cases hd <;> rfl
  refine Eq.trans ?_ hswitch
  generalize switchCall env s = v at hu
  unfold handleCall at hu
  split at hu
  · rw [← Option.some.inj hu]
  case h_6 hmaster =>
    obtain ⟨_, _, heq⟩ := Engine.sends_eq (masterHandleCall_sends env hmaster)
    rw [← Option.some.inj hu, heq]
    rfl
  case h_7 => cases hu
  all_goals
    dsimp only at hu
    split at hu
    · cases hu
    · rw [← Option.some.inj hu]
      exact congrArg Engine.identity (pause_engine env .handling _)

/-- **What `addForeign` stores** has arrived from another port. -/
theorem addForeignCall_hears (hs : s.engine.Settled) (h : s.Holds Q) (henv : env.Brings Q)
    (hQ : ∀ p, Q p → p.totLen ≠ 0 → p.WellFormed ∧ NoGap p.chain)
    (hu : addForeignCall env s = some u) :
    Hears Q s.engine.identity u.ptpClock.msgTmpHeader u.ptpClock.msgTmpAnnounce := by
  obtain ⟨v, hv, hstores⟩ := Option.bind_eq_some_iff.mp hu
  have hheard := (handleStores_atHand hstores).hears ((h.switchCall henv).handleCall henv hv) hQ
  rw [handleCall_identity hs hv] at hheard
  exact hheard

/-- **What is taken over from the parent** has arrived from another port. -/
theorem parentAnnounceCall_hears (hs : s.engine.Settled) (h : s.Holds Q) (henv : env.Brings Q)
    (hQ : ∀ p, Q p → p.totLen ≠ 0 → p.WellFormed ∧ NoGap p.chain)
    (hu : parentAnnounceCall env s = some (header, announce)) :
    Hears Q s.engine.identity header announce := by
  obtain ⟨v, hv, hparent⟩ := Option.bind_eq_some_iff.mp hu
  have hheard := (parentAnnounce_atHand hparent).hears ((h.switchCall henv).handleCall henv hv) hQ
  rw [handleCall_identity hs hv] at hheard
  exact hheard

end AtHand

end Ptpd

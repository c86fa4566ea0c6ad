import DiscoPtp.Library.History
import DiscoPtp.Library.SignedWord
import DiscoPtp.Properties.Initialised

/-!
# The Announces of a master

A master announces itself. The packer reads the grandmaster from `parentDS` and the number of steps
from `currentDS`, which `s1` writes while the port follows another master; a recommendation to be
master is only ever made together with `m1`, which puts the own values back.

`issueAnnounce` counts an Announce also if its transmission fails. The Announces that leave the port
are therefore numbered one after the other only if none is lost between them.

## Main definitions

* `sendsOf`, `sentOf`: the messages of a type handed to `netSend`, and those that left the port
* `announcePackets`: the Announces that have been handed to `netSend`
* `OwnAnnounce`: an Announce of the own data sets
* `NoneLost`: no transmission fails between two that succeed
* `Engine.Announcer`: the invariant

## Main results

* `Engine.Announcer.move`: every move keeps the invariant
* `Consecutive.sent_iff`: the numbers of the messages that left the port
* `announces_itself_iff`: the Announces of a run
-/

namespace Ptpd

/-! ## What has been sent -/

/-- The messages of a type that have been handed to `netSend`, with the outcomes, the newest
first. -/
def sendsOf (type : MessageType) (history : List Entry) : List (List UInt8 × SendOutcome) :=
  history.filterMap fun
    | .send type' packet outcome => if type' = type then some (packet, outcome) else none
    | _ => none

/-- The message has left the port. -/
def hasLeft (send : List UInt8 × SendOutcome) : Bool :=
  match send.2 with
  | .sent _ => true
  | _ => false

/-- The messages of a type that have left the port, the newest first. -/
def sentOf (type : MessageType) (history : List Entry) : List (List UInt8) :=
  ((sendsOf type history).filter hasLeft).map Prod.fst

/-- The Announces that have been handed to `netSend`, the newest first. -/
def announcePackets (history : List Entry) : List (List UInt8) :=
  (masterMessages history).filterMap fun message =>
    if message.1 = .announce then some message.2 else none

theorem sendsOf_announce (history : List Entry) :
    (sendsOf .announce history).map Prod.fst = announcePackets history := by
  induction history with
  | nil => rfl
  | cons e history ih =>
    cases e with
    | send type packet outcome =>
      cases type with
      | announce => exact congrArg (packet :: ·) ih
      | _ => exact ih
    | _ => exact ih

/-- An Announce, decoded by `msgUnpackHeader` and `msgUnpackAnnounce`, shows the own data sets. -/
structure OwnAnnounce (defaultDS : DefaultDS) (portIdentity : PortIdentity)
    (packet : List UInt8) : Prop where
  grandmasterIdentity : (announceIn packet).grandmasterIdentity = defaultDS.clockIdentity
  grandmasterPriority1 : (announceIn packet).grandmasterPriority1 = defaultDS.priority1
  grandmasterPriority2 : (announceIn packet).grandmasterPriority2 = defaultDS.priority2
  grandmasterClockQuality : (announceIn packet).grandmasterClockQuality = defaultDS.clockQuality
  stepsRemoved : (announceIn packet).stepsRemoved = 0
  sourcePortIdentity : (headerIn packet).sourcePortIdentity = portIdentity

/-- The sequence ids of packets, the newest first, increase by one modulo `2 ^ 16`. -/
def Consecutive (packets : List (List UInt8)) : Prop :=
  packets.IsChain fun newer older =>
    (headerIn newer).sequenceId = (headerIn older).sequenceId + 1

/-- Between two messages that leave the port one after the other no transmission fails, or else a
multiple of `2 ^ 16` of them. -/
def NoneLost (sends : List (List UInt8 × SendOutcome)) : Prop :=
  ∀ newer e failed e' older, sends = newer ++ e :: (failed ++ e' :: older) → hasLeft e →
    hasLeft e' → (∀ x ∈ failed, ¬hasLeft x) → 65536 ∣ failed.length

/-- Numbers that are handed on from one message to the next. -/
theorem Consecutive.sequenceId_eq {newer older : List UInt8} {between rest : List (List UInt8)}
    (h : Consecutive (newer :: (between ++ older :: rest))) :
    (headerIn newer).sequenceId =
      (headerIn older).sequenceId + Int16.ofNat (between.length + 1) := by
  induction between generalizing newer with
  | nil => exact (List.isChain_cons_cons.mp h).1
  | cons packet between ih =>
    obtain ⟨hnewer, hrest⟩ := List.isChain_cons_cons.mp h
    rw [hnewer, ih hrest, List.length_cons, Int16.ofNat_add (between.length + 1) 1,
      Int16.add_assoc]
    rfl

/-- **The numbers of the messages that left the port**, where every call of `netSend` counts. -/
theorem Consecutive.sent_iff {sends : List (List UInt8 × SendOutcome)}
    (h : Consecutive (sends.map Prod.fst)) :
    Consecutive ((sends.filter hasLeft).map Prod.fst) ↔ NoneLost sends := by
  unfold Consecutive at h ⊢
  rw [List.isChain_map, History.isChain_filter_iff]
  refine forall_congr' fun newer => forall_congr' fun e => forall_congr' fun failed =>
    forall_congr' fun e' => forall_congr' fun older => forall_congr' fun heq => ?_
  -- between the two there are as many numbers as failures
  have hid : (headerIn e.1).sequenceId =
      (headerIn e'.1).sequenceId + Int16.ofNat (failed.length + 1) := by
    rw [heq, List.map_append, List.map_cons, List.map_append, List.map_cons] at h
    have hturn := Consecutive.sequenceId_eq h.right_of_append
    rwa [List.length_map] at hturn
  have hnext : (headerIn e.1).sequenceId = (headerIn e'.1).sequenceId + 1 ↔
      65536 ∣ failed.length := by
    rw [hid, Int16.add_right_inj, show (1 : Int16) = Int16.ofNat 1 from rfl,
      SignedWord.ofNat_int16_inj]
    omega
  rw [hnext]

namespace Engine

variable {e e' : Engine}

/-- The Announces that have been handed to `netSend`. -/
def announces (e : Engine) : List (List UInt8) :=
  e.masterMessages.filterMap fun message =>
    if message.1 = .announce then some message.2 else none

/-- The data sets show the own clock as grandmaster, as `m1` leaves them. -/
structure Grandmaster (e : Engine) : Prop where
  grandmasterIdentity : e.grandmasterIdentity = e.defaultDS.clockIdentity
  grandmasterPriority1 : e.grandmasterPriority1 = e.defaultDS.priority1
  grandmasterPriority2 : e.grandmasterPriority2 = e.defaultDS.priority2
  stepsRemoved : e.stepsRemoved = 0

/-- **The invariant** of the Announces: a port that is recommended to be master has its own data
sets as the grandmaster's, and the next sequence id is the one after the newest Announce's. -/
structure Announcer (e : Engine) : Prop where
  grandmaster : e.recommendedState = .master → e.Grandmaster
  sender : e.sender = e.portIdentity
  own : ∀ packet ∈ e.announces, OwnAnnounce e.defaultDS e.portIdentity packet
  consecutive : Consecutive e.announces
  next : ∀ packet ∈ e.announces.head?,
    (headerIn packet).sequenceId + 1 = e.sentAnnounceSequenceId

/-- What the invariant reads, but for the recommendation. -/
def announcing (e : Engine) :=
  (e.defaultDS, e.portIdentity, e.grandmasterIdentity, e.grandmasterPriority1,
    e.grandmasterPriority2, e.stepsRemoved, e.sender, e.announces, e.sentAnnounceSequenceId)

theorem Announcer.congr (h : e.Announcer) (heq : e'.announcing = e.announcing)
    (hrec : e'.recommendedState = .master → e.recommendedState = .master) : e'.Announcer := by
  simp only [announcing, Prod.mk.injEq] at heq
  obtain ⟨hds, hport, hgi, hp1, hp2, hsteps, hsender, hann, hseq⟩ := heq
  constructor
  · intro hr
    have hgm := h.grandmaster (hrec hr)
    constructor
    · rw [hgi, hds, hgm.grandmasterIdentity]
    · rw [hp1, hds, hgm.grandmasterPriority1]
    · rw [hp2, hds, hgm.grandmasterPriority2]
    · rw [hsteps, hgm.stepsRemoved]
  · rw [hsender, hport, h.sender]
  · rw [hann, hds, hport]
    exact h.own
  · rw [hann]
    exact h.consecutive
  · rw [hann, hseq]
    exact h.next

theorem Announcer.toState (h : e.Announcer) (state : PtpState) : (e.toState state).Announcer := by
  obtain ⟨_, _, _, _, _, heq⟩ := toState_eq state e
  rw [heq]
  refine h.congr rfl fun hr => ?_
  -- an entry never recommends the port to be master
  dsimp only at hr
  unfold recommendedOn at hr
  split at hr
  next hs =>
    rw [hr] at hs
    simp at hs
  · exact hr

/-- The state decision. -/
theorem Announcer.decides (h : e.Announcer) (hd : Decides e e') : e'.Announcer := by
  -- an override by the slave-only clock is no recommendation to be master
  have hrecommend (state : PtpState) (e₁ : Engine) (hne : state ≠ .master) :
      (e₁.recommend state).recommendedState ≠ .master := by
    unfold recommend
    dsimp only
    split
    · decide
    · exact hne
  cases hd with
  | idle hidle => exact h
  | listening best he hb hl => exact h.congr rfl fun hr => absurd hr (hrecommend _ _ (by decide))
  | master best he hb =>
    exact ⟨fun _ => ⟨rfl, rfl, rfl, rfl⟩, h.sender, h.own, h.consecutive, h.next⟩
  | passive best he hb hclass =>
    exact h.congr rfl fun hr => absurd hr (hrecommend _ _ (by decide))
  | slave best he hb hclass =>
    exact ⟨fun hr => absurd hr (hrecommend _ _ (by decide)), h.sender, h.own, h.consecutive,
      h.next⟩

/-- The announce receipt timeout. -/
theorem Announcer.announceTimeout (h : e.Announcer) : e.announceTimeout.Announcer := by
  have hclear : e.clearForeign.Announcer := h.congr rfl id
  unfold Engine.announceTimeout
  split
  · have hm1 : ({ e.clearForeign.m1 with recommendedState := .master } : Engine).Announcer :=
      ⟨fun _ => ⟨rfl, rfl, rfl, rfl⟩, h.sender, h.own, h.consecutive, h.next⟩
    exact hm1.toState _
  split
  · exact hclear.toState _
  · exact hclear

/-- What a master sends by its timers: its recommendation is to be master. -/
theorem Announcer.sends (h : e.Announcer) (ha : e.Agrees) (hs : Sends e e') : e'.Announcer := by
  cases hs with
  | sync packet hmaster => exact h.congr rfl id
  | followUp packet hmaster => exact h.congr rfl id
  | announce packet hmaster hp =>
    -- only a port that recommends itself as master announces
    have hgm := h.grandmaster (ha.recommends_master hmaster)
    -- the packet carries the parent data set, which is the own one by the invariant
    have hown : OwnAnnounce e.defaultDS e.portIdentity packet := by
      constructor
      · exact hp.grandmasterIdentity.trans hgm.grandmasterIdentity
      · exact hp.grandmasterPriority1.trans hgm.grandmasterPriority1
      · exact hp.grandmasterPriority2.trans hgm.grandmasterPriority2
      · exact hp.grandmasterClockQuality
      · exact hp.stepsRemoved.trans hgm.stepsRemoved
      · exact hp.sourcePortIdentity.trans h.sender
    refine ⟨fun _ => ⟨hgm.1, hgm.2, hgm.3, hgm.4⟩, h.sender, ?_, ?_, ?_⟩
    · intro packet' hmem
      rcases List.mem_cons.mp hmem with rfl | hmem
      · exact hown
      · exact h.own _ hmem
    · show Consecutive (packet :: e.announces)
      refine List.isChain_cons.mpr ⟨fun older holder => ?_, h.consecutive⟩
      rw [hp.sequenceId, h.next older holder]
    · intro packet' hmem
      obtain rfl : packet = packet' := by simpa [announces] using hmem
      rw [hp.sequenceId]

/-- The handling of a message. -/
theorem Announcer.outcome (h : e.Announcer) (ha : e.Agrees) (ho : Outcome e e') :
    e'.Announcer := by
  cases ho with
  | ignored => exact h
  | short => exact h.toState _
  | store header announce hs => exact h.congr rfl id
  | storePassive header announce hs => exact h.congr rfl id
  | followParent header announce hs hp =>
    -- the port follows a master, so it is not recommended to be one
    refine ⟨fun hr => ?_, h.sender, h.own, h.consecutive, h.next⟩
    have hslave := ha.recommends_slave hs
    exact absurd (hslave.symm.trans hr) (by decide)
  | storeSync hs => exact h.congr rfl id
  | measure header e₁ _ hs hp hm hr =>
    obtain ⟨_, _, _, _, _, _, rfl⟩ := hm.eq
    obtain ⟨_, rfl⟩ := hr.eq
    exact h.congr rfl id
  | requests _ hs hr =>
    obtain ⟨_, rfl⟩ := hr.eq
    exact h.congr rfl id
  | serve packet hs => exact h.congr rfl id

theorem Announcer.move : Transition.Preserves Move Announcer := by
  intro e e' hm h
  cases hm with
  | decides _ hd => exact h.decides hd
  | events events => exact h.congr rfl id
  | enter state hw hen => exact h.toState state
  | timeout hs => exact h.announceTimeout
  | sends _ ha hs => exact h.sends ha hs
  | outcome _ ha ho => exact h.outcome ha ho
  | requests _ hr =>
    obtain ⟨_, rfl⟩ := hr.eq
    exact h.congr rfl id

theorem Fresh.announcer {opts : RunTimeOpts} (h : e.Fresh opts) : e.Announcer := by
  have hnone : e.announces = [] := by rw [announces, h.masterMessages, List.filterMap_nil]
  constructor
  · intro hr
    rw [h.recommendedState] at hr
    cases hr
  · exact h.sender
  · simp [hnone]
  · rw [hnone]
    exact .nil
  · simp [hnone]

end Engine

/-- **A master announces itself and nothing else**, whichever masters the port has followed and
whichever faults it has gone through. The Announces that have left the port are numbered one after
the other if and only if no transmission has failed between two of them. -/
theorem announces_itself_iff {rtOpts : RunTimeOpts} {s : System} (hs : Reachable rtOpts s) :
    (∀ packet ∈ sentOf .announce s.history,
        OwnAnnounce s.ptpClock.defaultDS s.ptpClock.portDS.portIdentity packet) ∧
      (Consecutive (sentOf .announce s.history) ↔ NoneLost (sendsOf .announce s.history)) := by
  have hboth : (∀ packet ∈ announcePackets s.history,
      OwnAnnounce s.ptpClock.defaultDS s.ptpClock.portDS.portIdentity packet) ∧
        Consecutive (announcePackets s.history) := by
    rcases hs.dormant_or (fun _ h => h.announcer)
      (Engine.Settled.call_of_move Engine.Announcer.move) with h | h
    · have hnone : announcePackets s.history = [] := by
        rw [announcePackets, h.masterMessages, List.filterMap_nil]
      rw [hnone]
      exact ⟨by simp, .nil⟩
    · exact ⟨h.own, h.consecutive⟩
  rw [← sendsOf_announce] at hboth
  refine ⟨fun packet hmem => hboth.1 packet ?_, hboth.2.sent_iff⟩
  exact ((List.filter_sublist).map Prod.fst).subset hmem

/-! ## A master that has announced itself -/

/-- The interval of the Announces expires, and the Announce is sent with this outcome. -/
def announceRound (outcome : SendOutcome) : List Stimulus :=
  [.interrupt (.timerCallback .announceInterval),
    .doState { plainEnv with send := fun _ => outcome }]

/-- A master that has announced itself twice. -/
def announced : System :=
  timedOut.after (announceRound (.sent (atSecond 1)) ++ announceRound (.sent (atSecond 5)))

theorem announced_reachable : Reachable ptpdOpts announced := timedOut_reachable.after _

example : (sentOf .announce announced.history).map sequenceIdOf = [1, 0] := by decide +kernel

theorem announces_itself_announced :
    (∀ packet ∈ sentOf .announce announced.history,
        OwnAnnounce announced.ptpClock.defaultDS announced.ptpClock.portDS.portIdentity packet) ∧
      (Consecutive (sentOf .announce announced.history) ↔
        NoneLost (sendsOf .announce announced.history)) :=
  announces_itself_iff announced_reachable

/-- A master that announces itself three times, and has no buffer for the second Announce. -/
def announcedTwice : System :=
  timedOut.after (announceRound (.sent (atSecond 1)) ++ announceRound .allocFailed ++
    announceRound (.sent (atSecond 9)))

/-- The Announces that have left it have the numbers 0 and 2. -/
theorem announce_lost :
    Reachable ptpdOpts announcedTwice ∧
      (sentOf .announce announcedTwice.history).map sequenceIdOf = [2, 0] ∧
      ¬Consecutive (sentOf .announce announcedTwice.history) := by
  have hids : (sentOf .announce announcedTwice.history).map sequenceIdOf = [2, 0] := by
    decide +kernel
  refine ⟨timedOut_reachable.after _, hids, fun h => ?_⟩
  have hchain : ((sentOf .announce announcedTwice.history).map sequenceIdOf).IsChain
      fun newer older => newer = older + 1 := (List.isChain_map sequenceIdOf).mpr h
  rw [hids] at hchain
  exact absurd hchain (by decide)

end Ptpd

import DiscoPtp.Properties.Announcing
import DiscoPtp.Properties.RoundTrip

/-!
# The numbering of the messages

Announces, Syncs, DelayReqs and PDelayReqs are numbered by a counter each. The counters are never
reset: they run through faults and new initialisations, and through transmissions that fail.

## Main definitions

* `Counters`: the four counters
* `Tally`, `TallyStep`: the counters and what has been handed to `netSend`
* `packetsOf`: the messages of a type that have been handed to `netSend`

## Main results

* `sequenceIdOf_pack`: the sequence id in a packet
* `action_simulates_tally`: every action sends one message or leaves the tally as it is
* `messages_numbered`: the messages of a run are numbered consecutively
-/

namespace Ptpd

/-! ## Counters -/

/-- The counters of a `PtpClock`. -/
structure Counters where
  sentAnnounceSequenceId : Int16
  sentSyncSequenceId : Int16
  sentDelayReqSequenceId : Int16
  sentPDelayReqSequenceId : Int16

/-- The counter of a message type, if it has one. -/
def Counters.of (c : Counters) : MessageType → Option Int16
  | .announce => some c.sentAnnounceSequenceId
  | .sync => some c.sentSyncSequenceId
  | .delayReq => some c.sentDelayReqSequenceId
  | .pdelayReq => some c.sentPDelayReqSequenceId
  | _ => none

/-- The counters after a message. -/
def Counters.count (c : Counters) : MessageType → Counters
  | .announce => { c with sentAnnounceSequenceId := c.sentAnnounceSequenceId + 1 }
  | .sync => { c with sentSyncSequenceId := c.sentSyncSequenceId + 1 }
  | .delayReq => { c with sentDelayReqSequenceId := c.sentDelayReqSequenceId + 1 }
  | .pdelayReq => { c with sentPDelayReqSequenceId := c.sentPDelayReqSequenceId + 1 }
  | _ => c

def PtpClock.counters (c : PtpClock) : Counters :=
  { sentAnnounceSequenceId := c.sentAnnounceSequenceId
    sentSyncSequenceId := c.sentSyncSequenceId
    sentDelayReqSequenceId := c.sentDelayReqSequenceId
    sentPDelayReqSequenceId := c.sentPDelayReqSequenceId }

theorem Counters.of_count_self {c : Counters} {type : MessageType} {id : Int16}
    (h : c.of type = some id) : (c.count type).of type = some (id + 1) := by
  cases type
  case sync | delayReq | pdelayReq | announce =>
    obtain rfl := Option.some.inj h
    rfl
  all_goals cases h

theorem Counters.of_count_of_ne (c : Counters) {type type' : MessageType} (h : type' ≠ type) :
    (c.count type).of type' = c.of type' := by
  cases type <;> cases type' <;> first | rfl | exact absurd rfl h

/-- The packet of a packer shows the sequence id that it packs. -/
theorem sequenceIdOf_pack (call : PackCall) (buf : Buf) :
    sequenceIdOf (packetOf (call.pack buf) call.length) = call.sequenceId := by
  have hagree := packetOf_agreeBelow (call.pack buf) call.length
  have hheader : headerIn (packetOf (call.pack buf) call.length) =
      msgUnpackHeader (call.pack buf) :=
    hagree.header (le_trans (by decide) (syncLength_le call))
  rw [sequenceIdOf, hheader, sequenceId_pack]

/-! ## Tallies -/

/-- The counters, and the messages that have been handed to `netSend`. -/
structure Tally where
  counters : Counters
  sent : List (MessageType × List UInt8)

/-- The tally of a state. -/
def System.tally (s : System) : Tally := ⟨s.ptpClock.counters, sends s.history⟩

/-- A message is handed to `netSend`; if its type has a counter, it carries its value. -/
inductive TallyStep (t : Tally) : Tally → Prop
  | send (type : MessageType) (packet : List UInt8)
      (h : ∀ id, t.counters.of type = some id → sequenceIdOf packet = id) :
      TallyStep t ⟨t.counters.count type, (type, packet) :: t.sent⟩

/-- The messages of a type. -/
def ofType (type : MessageType) (sent : List (MessageType × List UInt8)) : List (List UInt8) :=
  sent.filterMap fun message => if message.1 = type then some message.2 else none

/-- The messages of a type that have been handed to `netSend`, the newest first. A message counts
also if its transmission fails. -/
def packetsOf (type : MessageType) (history : List Entry) : List (List UInt8) :=
  ofType type (sends history)

section Tally

variable {type type' : MessageType} {packet : List UInt8}
  {sent : List (MessageType × List UInt8)}

@[simp] theorem ofType_cons_self : ofType type ((type, packet) :: sent) =
    packet :: ofType type sent := by
  simp [ofType]

theorem ofType_cons_of_ne (h : type' ≠ type) : ofType type' ((type, packet) :: sent) =
    ofType type' sent := by
  simp [ofType, h.symm]

/-- **The numbering**: the messages of a type carry the numbers from zero on, modulo `2 ^ 16`, and
the counter is the next one. -/
structure Numbered (type : MessageType) (next : Int16) (packets : List (List UInt8)) : Prop where
  next : next = Int16.ofNat packets.length
  ids : packets.reverse.map sequenceIdOf = (List.range packets.length).map Int16.ofNat

theorem Numbered.cons {id : Int16} {packets : List (List UInt8)} (h : Numbered type id packets)
    (hid : sequenceIdOf packet = id) : Numbered type (id + 1) (packet :: packets) := by
  constructor
  · rw [h.next, List.length_cons, Int16.ofNat_add]
    rfl
  · rw [List.reverse_cons, List.map_append, h.ids, List.length_cons, List.range_succ,
      List.map_append, List.map_singleton, List.map_singleton, hid, h.next]

/-- Every counter numbers its messages. -/
def Tally.Numbered (t : Tally) : Prop :=
  ∀ type id, t.counters.of type = some id → Ptpd.Numbered type id (ofType type t.sent)

theorem Tally.numbered_preserved : Transition.Preserves TallyStep Tally.Numbered := by
  intro t t' h ht
  cases h with
  | send type packet hpacket =>
    intro type' id hid
    by_cases hne : type' = type
    · subst hne
      cases hold : t.counters.of type' with
      | none =>
        -- a type without a counter has none afterwards either
        have hnone : (t.counters.count type').of type' = none := by
          cases type' <;> first | rfl | cases hold
        rw [show (t.counters.count type').of type' = some id from hid] at hnone
        cases hnone
      | some id' =>
        rw [Counters.of_count_self hold] at hid
        obtain rfl := Option.some.inj hid
        show Ptpd.Numbered type' (id' + 1) (ofType type' ((type', packet) :: t.sent))
        rw [ofType_cons_self]
        exact (ht type' id' hold).cons (hpacket id' hold)
    · rw [Counters.of_count_of_ne _ hne] at hid
      show Ptpd.Numbered type' id (ofType type' ((type, packet) :: t.sent))
      rw [ofType_cons_of_ne hne]
      exact ht type' id hid

end Tally

/-! ## The simulation -/

section Simulation

variable {s t : System}

/-- A packer that is called on the output buffer, and its packet sent. -/
theorem TallyStep.of_call (call : PackCall)
    (hid : ∀ id, s.ptpClock.counters.of call.type = some id → call.sequenceId = id)
    (ht : t.tally = ⟨s.ptpClock.counters.count call.type,
      (call.type, packetOf (call.pack s.ptpClock.msgObuf) call.length) :: sends s.history⟩) :
    TallyStep s.tally t.tally := by
  rw [ht]
  exact .send call.type _ fun id h => (sequenceIdOf_pack call _).trans (hid id h)

/-- **Every action** sends one message or leaves the tally as it is. -/
theorem action_simulates_tally {P : PtpState → Prop} :
    Transition.Simulates System.tally (Action P) TallyStep := by
  intro s t h
  cases h
  case issueAnnounce env =>
    exact .inr (.of_call (.announce s.ptpClock) (fun _ h => Option.some.inj h) rfl)
  case sentSync env =>
    exact .inr (.of_call (.sync s.ptpClock (originNow env s)) (fun _ h => Option.some.inj h) rfl)
  case issueFollowup env time =>
    exact .inr (.of_call (.followUp s.ptpClock (fromInternalTime time env.localTimestamp))
      (by rintro _ ⟨⟩) rfl)
  case issueDelayReq env =>
    rw [issueDelayReq_eq]
    exact .inr (.of_call (.delayReq s.ptpClock (originNow env s))
      (fun _ h => Option.some.inj h) rfl)
  case issuePDelayReq env =>
    rw [issuePDelayReq_eq]
    exact .inr (.of_call (.pdelayReq s.ptpClock (originNow env s))
      (fun _ h => Option.some.inj h) rfl)
  case issueDelayResp env time =>
    exact .inr (.of_call (.delayResp s.ptpClock s.ptpClock.msgTmpHeader
      (fromInternalTime time env.localTimestamp)) (by rintro _ ⟨⟩) rfl)
  case issuePDelayResp env time =>
    rw [issuePDelayResp_eq]
    exact .inr (.of_call (.pdelayResp s.ptpClock.msgTmpHeader
      (fromInternalTime time env.localTimestamp)) (by rintro _ ⟨⟩) rfl)
  case issuePDelayRespFollowUp env time =>
    exact .inr (.of_call (.pdelayRespFollowUp s.ptpClock.msgTmpHeader
      (fromInternalTime time env.localTimestamp)) (by rintro _ ⟨⟩) rfl)
  case storeSync h hp =>
    obtain ⟨_, _, heq⟩ := storeSync_eq (ingressTime s) s
    left
    rw [heq]
    rfl
  case syncOffset env h =>
    obtain ⟨_, _, _, _, _, _, _, _, heq⟩ := syncOffset_eq env (ingressTime s) s
    left
    rw [heq]
    rfl
  case followUpOffset env h hm =>
    obtain ⟨_, _, _, _, _, _, _, heq⟩ := followUpOffset_eq env s
    left
    rw [heq]
    rfl
  case useDelayResp h =>
    obtain ⟨_, _, _, _, _, _, _, heq⟩ := useDelayResp_eq s
    left
    rw [heq]
    rfl
  case storePDelayResp env h =>
    obtain ⟨_, _, _, _, heq⟩ := storePDelayResp_eq env (ingressTime s) s
    left
    rw [heq]
    rfl
  case usePDelayResp h =>
    obtain ⟨_, _, _, heq⟩ := usePDelayResp_eq (ingressTime s) s
    left
    rw [heq]
    rfl
  case usePDelayRespFollowUp env hm h =>
    obtain ⟨_, _, _, _, _, _, heq⟩ := usePDelayRespFollowUp_eq env s
    left
    rw [heq]
    rfl
  case decideState =>
    obtain ⟨_, _, _, _, _, _, _, _, heq⟩ := decideState_eq s
    left
    rw [heq]
    rfl
  case adjTime adj =>
    obtain ⟨_, heq⟩ := adjTime_eq adj s
    left
    rw [heq]
    rfl
  case interrupt i =>
    left
    cases i with
    | recvEvent n =>
      simp only [interrupt, netRecvEventCallback]
      split <;> rfl
    | recvGeneral n =>
      simp only [interrupt, netRecvGeneralCallback]
      split <;> rfl
    | _ => rfl
  all_goals exact .inl rfl

end Simulation

/-! ## Runs -/

section Runs

variable {rtOpts : RunTimeOpts} {s : System}

theorem Visited.numbered (hs : Visited rtOpts s) : s.tally.Numbered := by
  refine hs.of_action (Tally.numbered_preserved.of_simulates action_simulates_tally) ?_
  obtain ⟨_, heq, _⟩ := boot_eq rtOpts
  rw [heq]
  intro type id hid
  cases type
  case sync | delayReq | pdelayReq | announce =>
    obtain rfl := Option.some.inj hid
    exact ⟨rfl, rfl⟩
  all_goals cases hid

/-- In every run the Announces, Syncs, DelayReqs and PDelayReqs that have been handed to `netSend`
since boot carry the sequence ids 0, 1, 2 and so on modulo `2 ^ 16`, in this order and whether or
not their transmission fails, and the counter of the type holds the next one. -/
theorem messages_numbered (hs : Reachable rtOpts s) (type : MessageType) (id : Int16)
    (hid : s.ptpClock.counters.of type = some id) :
    Numbered type id (packetsOf type s.history) :=
  hs.visited.numbered type id hid

theorem messages_numbered_announced :
    Numbered .announce announced.ptpClock.sentAnnounceSequenceId
      (packetsOf .announce announced.history) :=
  messages_numbered announced_reachable .announce _ rfl

end Runs

end Ptpd

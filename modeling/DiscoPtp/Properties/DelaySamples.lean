import DiscoPtp.Properties.Faults
import DiscoPtp.Properties.Intervals
import DiscoPtp.Properties.PeerPairing

/-!
# Request timestamps of delay samples

Which request timestamp `updateDelay` and `updatePeerDelay` are called with. The port keeps one
timestamp for the requests of a type. A request without a valid transmit timestamp leaves it as it
is, `initClock` clears `pdelay_t1` but not `timestamp_delayReqSend`, and a response does not use it
up.

## Main definitions

* `DelaySample`, `Entry.sample?`: the calls of `updateDelay` and `updatePeerDelay`
* `RightSample`: the timestamp in use is the one of the request that is answered
* `Outstanding`: the newest request has a valid timestamp, which nothing has made obsolete
* `SampleInv`: what the port keeps of the requests

## Main results

* `Standing.uses`, `UsesRequest.standing`: the request that a sample uses
* `delay_sample_right_iff`: a sample is right exactly when the newest request is outstanding
-/

namespace Ptpd

open History

/-! ## Samples -/

/-- A delay sample: the type of its request, the sequence id and the request timestamp in use, and
whether a stored PDelayResp is completed by it. -/
structure DelaySample where
  request : MessageType
  sequenceId : Int16
  stamp : TimeInternal
  twoStep : Bool
  deriving DecidableEq

/-- The sample that an entry is about. -/
def Entry.sample? : Entry → Option DelaySample
  | .delay resp _ egress _ _ => some ⟨.delayReq, resp.sequenceId, egress, false⟩
  | .peerDelay header t1 _ t3 => some ⟨.pdelayReq, header.sequenceId, t1, t3.isSome⟩
  | _ => none

/-- The sample uses the egress time `stamp` of the request with its sequence id. The clock has not
been stepped since the request was sent, and no other sample has been made of it. -/
structure UsesRequest (latency : TimeInternal) (m : DelaySample) (packet : List UInt8)
    (stamp : HwTime) (since : List Entry) : Prop where
  sequenceId : sequenceIdOf packet = m.sequenceId
  newest : ∀ e ∈ since, ∀ packet', e.request? m.request = some packet' →
    sequenceIdOf packet' ≠ m.sequenceId
  valid : stamp.time.seconds ≠ 0
  egress : m.stamp = addTime stamp.time latency
  unstepped : ∀ e ∈ since, ∀ time, e ≠ .setTime time
  once : ∀ e ∈ since, ∀ m', e.sample? = some m' → m'.request ≠ m.request

/-- **The right request timestamp**: the sample uses the request that it answers, which has really
been sent. The response and its follow-up answer the same request. -/
def RightSample (latency : TimeInternal) (m : DelaySample) (older : List Entry) : Prop :=
  (∃ packet stamp since before,
    older = since ++ .send m.request packet (.sent stamp) :: before ∧
      UsesRequest latency m packet stamp since) ∧
  (m.twoStep → ∀ resp t2 t4 before, lastPDelayResp older = some (resp, t2, t4, before) →
    resp.sequenceId = m.sequenceId)

/-- What an entry says about the timestamp of the newest request of a type: how the request was
sent, or that the clock has been stepped or a sample been made since. -/
def Entry.standing? (type : MessageType) : Entry → Option (Option SendOutcome)
  | .send type' _ outcome => if type' = type then some (some outcome) else none
  | .setTime _ => some none
  | .delay _ _ _ _ _ => if type = .delayReq then some none else none
  | .peerDelay _ _ _ _ => if type = .pdelayReq then some none else none
  | _ => none

/-- Whether an entry clears `pdelay_t1`, or is a request that writes it. -/
def Entry.clearsT1? : Entry → Option Bool
  | .send type _ _ => if type = .pdelayReq then some false else none
  | .clockInit => some true
  | _ => none

/-- The newest request has left with the valid timestamp `stamp`, and since then the clock has not
been stepped and no sample been made. If `initClock` has cleared `pdelay_t1` since, the time was
zero. -/
structure Standing (latency : TimeInternal) (type : MessageType) (stamp : HwTime)
    (history : List Entry) : Prop where
  newest : latest (Entry.standing? type) history = some (some (.sent stamp))
  valid : stamp.time.seconds ≠ 0
  kept : type = .pdelayReq → latest Entry.clearsT1? history = some true →
    addTime stamp.time latency = ⟨0, 0⟩

/-- **The newest request is outstanding.** For a sample made of a response and its follow-up, no
request has been sent since the response was stored, or a multiple of `65536`. -/
def Outstanding (latency : TimeInternal) (type : MessageType) (twoStep : Bool)
    (older : List Entry) : Prop :=
  (∃ stamp, Standing latency type stamp older) ∧
  (twoStep → ∀ resp t2 t4 before, lastPDelayResp older = some (resp, t2, t4, before) →
    requestCount type older % 65536 = requestCount type before % 65536)

/-! ## The newest request -/

section Standing

variable {type : MessageType} {history : List Entry}

theorem standing?_eq_some_iff {e : Entry} {outcome : SendOutcome} :
    e.standing? type = some (some outcome) ↔ ∃ packet, e = .send type packet outcome := by
  cases e <;> simp [Entry.standing?]

theorem standing?_eq_none_iff {e : Entry} :
    e.standing? type = none ↔
      e.request? type = none ∧ (∀ time, e ≠ .setTime time) ∧
        ∀ m, e.sample? = some m → m.request ≠ type := by
  cases e <;> simp [Entry.standing?, Entry.request?, Entry.sample?, eq_comm]

/-- The entries after the newest request are none of the three kinds. -/
theorem latest_standing?_iff {outcome : SendOutcome} :
    latest (Entry.standing? type) history = some (some outcome) ↔
      ∃ packet since before, history = since ++ .send type packet outcome :: before ∧
        ∀ e ∈ since, e.standing? type = none := by
  rw [latest_eq_some_iff]
  constructor
  · rintro ⟨since, e, before, hh, he, hnone⟩
    obtain ⟨packet, rfl⟩ := standing?_eq_some_iff.mp he
    exact ⟨packet, since, before, hh, hnone⟩
  · rintro ⟨packet, since, before, hh, hnone⟩
    exact ⟨since, _, before, hh, standing?_eq_some_iff.mpr ⟨packet, rfl⟩, hnone⟩

end Standing

/-! ## The request timestamps -/

/-- How a request of the type was sent. -/
def Entry.outcome? (type : MessageType) : Entry → Option SendOutcome
  | .send type' _ outcome => if type' = type then some outcome else none
  | _ => none

/-- The request timestamp after a request that has left with the valid timestamp `stamp`. -/
def stampAfter (latency : TimeInternal) (type : MessageType) (stamp : HwTime)
    (history : List Entry) : TimeInternal :=
  if type = .pdelayReq ∧ latest Entry.clearsT1? history = some true then ⟨0, 0⟩
  else addTime stamp.time latency

/-- If the newest request has left with a valid timestamp, the request timestamp has `value`. -/
def Keeps (latency : TimeInternal) (type : MessageType) (value : TimeInternal)
    (history : List Entry) : Prop :=
  ∀ stamp, latest (Entry.outcome? type) history = some (.sent stamp) → stamp.time.seconds ≠ 0 →
    value = stampAfter latency type stamp history

section Keeps

variable {latency value : TimeInternal} {type : MessageType} {history : List Entry}

theorem Keeps.other (h : Keeps latency type value history) {e : Entry}
    (ho : e.outcome? type = none) (hc : type = .pdelayReq → e.clearsT1? = none) :
    Keeps latency type value (e :: history) := by
  intro stamp hlast hvalid
  rw [latest_cons_of_none ho] at hlast
  rw [h stamp hlast hvalid]
  unfold stampAfter
  by_cases htype : type = .pdelayReq
  · rw [latest_cons_of_none (hc htype)]
  · rw [if_neg fun hand => htype hand.1, if_neg fun hand => htype hand.1]

theorem Keeps.request (packet : List UInt8) (outcome : SendOutcome) (now old : TimeInternal) :
    Keeps latency type (requestStamp outcome now latency old)
      (.send type packet outcome :: history) := by
  intro stamp hlast hvalid
  have hsome : (Entry.send type packet outcome).outcome? type = some outcome := if_pos rfl
  rw [latest_cons_of_some hsome] at hlast
  obtain rfl := Option.some.inj hlast
  have hkept : ¬(type = .pdelayReq ∧
      latest Entry.clearsT1? (.send type packet (.sent stamp) :: history) = some true) := by
    rintro ⟨rfl, hcleared⟩
    have hwritten : (Entry.send .pdelayReq packet (.sent stamp)).clearsT1? = some false := rfl
    rw [latest_cons_of_some hwritten] at hcleared
    cases hcleared
  rw [stampAfter, if_neg hkept]
  exact if_pos hvalid

theorem Keeps.cleared : Keeps latency .pdelayReq ⟨0, 0⟩ (.clockInit :: history) := by
  intro stamp _ _
  exact (if_pos ⟨rfl, rfl⟩).symm

end Keeps

/-- The sequence id of an accepted response is the one of the last request. -/
theorem Counts.answers {type : MessageType} {counter id : Int16} {history : List Entry}
    (h : Counts type counter history) (hid : isLastSent counter id = true) :
    id + 1 = Int16.ofNat (requestCount type history) ∧
      ∀ packet, lastRequest type history = some packet → sequenceIdOf packet = id := by
  constructor
  · rw [h.counter] at hid
    exact ((Ptpd.isLastSent_iff _ _).mp hid).1
  · intro packet hp
    exact ((h.isLastSent_iff hp id).mp hid).1.symm

/-- A sample carries the sequence id of the last request, and its timestamp is what the port has
kept of that. -/
def AnswersLast (latency : TimeInternal) (e : Entry) (older : List Entry) : Prop :=
  ∀ m, e.sample? = some m →
    Keeps latency m.request m.stamp older ∧
      m.sequenceId + 1 = Int16.ofNat (requestCount m.request older) ∧
      ∀ packet, lastRequest m.request older = some packet → sequenceIdOf packet = m.sequenceId

/-- What the port keeps of its requests. -/
structure SampleInv (latency : TimeInternal) (l : Ledger) : Prop where
  options : l.rtOpts.outboundLatency = latency
  outbound : l.outboundLatency = latency
  delayReq : Keeps latency .delayReq l.timestampDelayReqSend l.history
  pdelayReq : Keeps latency .pdelayReq l.pdelayT1 l.history
  used : Every (AnswersLast latency) l.history

/-- Entries that say nothing about requests and samples. -/
structure Entry.NoRequest (e : Entry) : Prop where
  delayReq : e.outcome? .delayReq = none
  pdelayReq : e.outcome? .pdelayReq = none
  clearsT1 : e.clearsT1? = none
  sample : e.sample? = none

theorem Entry.IsOther.noRequest {e : Entry} (h : e.IsOther) : e.NoRequest := by
  cases e with
  | send type packet outcome => exact ⟨if_neg h.1, if_neg h.2, if_neg h.2, rfl⟩
  | _ => first | exact ⟨rfl, rfl, rfl, rfl⟩ | exact h.elim

section Invariant

variable {latency : TimeInternal} {l l' : Ledger}

theorem SampleInv.logged (hi : SampleInv latency l) {e : Entry} (hh : l'.history = e :: l.history)
    (he : e.NoRequest) (ho : l'.rtOpts = l.rtOpts) (hl : l'.outboundLatency = l.outboundLatency)
    (hd : l'.timestampDelayReqSend = l.timestampDelayReqSend) (hp : l'.pdelayT1 = l.pdelayT1) :
    SampleInv latency l' := by
  refine ⟨by rw [ho, hi.options], by rw [hl, hi.outbound], ?_, ?_, ?_⟩
  · rw [hd, hh]
    exact hi.delayReq.other he.delayReq fun _ => he.clearsT1
  · rw [hp, hh]
    exact hi.pdelayReq.other he.pdelayReq fun _ => he.clearsT1
  · rw [hh]
    refine every_cons.mpr ⟨fun m hm => ?_, hi.used⟩
    rw [he.sample] at hm
    cases hm

theorem preserves_sampleInv :
    Transition.Preserves LedgerStep fun l => MatchInv l ∧ SampleInv latency l := by
  refine preserves_matchInv.strengthen fun l l' h hm hi => ?_
  cases h
  case other e he => exact hi.logged rfl he.noRequest rfl rfl rfl rfl
  case initData => exact ⟨hi.options, hi.options, hi.delayReq, hi.pdelayReq, hi.used⟩
  case resetDelayReqInterval =>
    exact ⟨hi.options, hi.outbound, hi.delayReq, hi.pdelayReq, hi.used⟩
  case clearServo =>
    exact ⟨hi.options, hi.outbound, hi.delayReq.other rfl nofun, .cleared,
      every_cons.mpr ⟨nofun, hi.used⟩⟩
  case delayReq packet outcome now h =>
    refine ⟨hi.options, hi.outbound, ?_, hi.pdelayReq.other rfl fun _ => rfl,
      every_cons.mpr ⟨nofun, hi.used⟩⟩
    rw [hi.outbound]
    exact .request packet outcome now _
  case pdelayReq packet outcome now h =>
    refine ⟨hi.options, hi.outbound, hi.delayReq.other rfl nofun, ?_,
      every_cons.mpr ⟨nofun, hi.used⟩⟩
    rw [hi.outbound]
    exact .request packet outcome now _
  case delay resp stamp old correction h =>
    refine ⟨hi.options, hi.outbound, hi.delayReq.other rfl nofun,
      hi.pdelayReq.other rfl fun _ => rfl, every_cons.mpr ⟨?_, hi.used⟩⟩
    rintro m ⟨⟩
    exact ⟨hi.delayReq, hm.delayReq.answers h⟩
  case peerDelay header correction t3 h hw ht =>
    refine ⟨hi.options, hi.outbound, hi.delayReq.other rfl nofun,
      hi.pdelayReq.other rfl fun _ => rfl, every_cons.mpr ⟨?_, hi.used⟩⟩
    rintro m ⟨⟩
    exact ⟨hi.pdelayReq, hm.pdelayReq.answers h⟩
  all_goals exact hi.logged rfl ⟨rfl, rfl, rfl, rfl⟩ rfl rfl rfl rfl

end Invariant

/-! ## Runs -/

theorem Entry.IsStartup.noRequest {e : Entry} (h : e.IsStartup) :
    (∀ type, e.outcome? type = none) ∧ e.sample? = none := by
  cases e <;> first | exact ⟨fun _ => rfl, rfl⟩ | exact h.elim

/-- A state with nothing but start-up behind it. -/
theorem SampleInv.of_startup {latency : TimeInternal} {l : Ledger}
    (h : ∀ e ∈ l.history, e.IsStartup) (ho : l.rtOpts.outboundLatency = latency)
    (hl : l.outboundLatency = latency) : SampleInv latency l := by
  have hkeeps : ∀ type value, Keeps latency type value l.history := by
    intro type value stamp hlast
    have hnone : latest (Entry.outcome? type) l.history = none :=
      List.findSome?_eq_none_iff.mpr fun e he => (h e he).noRequest.1 type
    rw [hnone] at hlast
    cases hlast
  refine ⟨ho, hl, hkeeps _ _, hkeeps _ _, ?_⟩
  intro e older hsuffix m hm
  have hnone : e.sample? = none := (h e (hsuffix.subset List.mem_cons_self)).noRequest.2
  rw [hnone] at hm
  cases hm

theorem Visited.outboundLatency {rtOpts : RunTimeOpts} {s : System} (hs : Visited rtOpts s) :
    s.ptpClock.rtOpts.outboundLatency = rtOpts.outboundLatency := by
  have hkeep : Transition.Preserves LedgerStep fun l =>
      l.rtOpts.outboundLatency = rtOpts.outboundLatency := by
    intro l l' h hl
    rw [h.rtOpts_eq, hl]
  refine hs.of_ledger hkeep ?_
  obtain ⟨_, heq, _, hlatency, _⟩ := boot_eq rtOpts
  rw [heq]
  exact hlatency

/-- Every sample of a run answers the last request. -/
theorem Reachable.answersLast {rtOpts : RunTimeOpts} {s : System} (hs : Reachable rtOpts s) :
    Every (AnswersLast rtOpts.outboundLatency) s.history := by
  rcases hs.phases with hstartup | ⟨u, hu, hstartup, hlatency, hrun⟩
  · intro e older hsuffix m hm
    have hnone : e.sample? = none := (hstartup e (hsuffix.subset List.mem_cons_self)).noRequest.2
    rw [hnone] at hm
    cases hm
  · have hbase : MatchInv u.ledger ∧ SampleInv rtOpts.outboundLatency u.ledger :=
      ⟨hu.visited.matchInv, .of_startup hstartup hu.visited.outboundLatency hlatency⟩
    have hkeep : Transition.Preserves AnyAction fun v =>
        MatchInv v.ledger ∧ SampleInv rtOpts.outboundLatency v.ledger :=
      .of_simulates action_simulates preserves_sampleInv
    exact (hkeep.run ((daemon_runsOf_action default).run hrun) hbase).2.used

/-! ## The samples of a run -/

section Samples

variable {latency : TimeInternal} {type : MessageType} {history older : List Entry}

/-- The last request, as the entries after it show it. -/
theorem last_of_since {packet : List UInt8} {outcome : SendOutcome} {since before : List Entry}
    (hh : history = since ++ .send type packet outcome :: before)
    (hnone : ∀ e ∈ since, e.request? type = none) :
    lastRequest type history = some packet ∧
      latest (Entry.outcome? type) history = some outcome := by
  have houtcome : ∀ e ∈ since, e.outcome? type = none := by
    intro e he
    have hrequest := hnone e he
    revert hrequest
    cases e <;> simp [Entry.request?, Entry.outcome?]
  rw [hh]
  constructor
  · rw [lastRequest, latest_append_of_none hnone]
    exact latest_cons_of_some (request?_send type packet outcome) before
  · have hsome : (Entry.send type packet outcome).outcome? type = some outcome := if_pos rfl
    rw [latest_append_of_none houtcome]
    exact latest_cons_of_some hsome before

/-- The timestamp of a standing request has been kept. -/
theorem stampAfter_eq_iff {stamp : HwTime} :
    stampAfter latency type stamp history = addTime stamp.time latency ↔
      (type = .pdelayReq → latest Entry.clearsT1? history = some true →
        addTime stamp.time latency = ⟨0, 0⟩) := by
  unfold stampAfter
  by_cases h : type = .pdelayReq ∧ latest Entry.clearsT1? history = some true
  · rw [if_pos h]
    exact ⟨fun heq _ _ => heq.symm, fun hkept => (hkept h.1 h.2).symm⟩
  · rw [if_neg h]
    exact ⟨fun _ htype hcleared => absurd ⟨htype, hcleared⟩ h, fun _ => rfl⟩

variable {m : DelaySample}
  (hkeeps : Keeps latency m.request m.stamp older)
  (hlast : ∀ packet, lastRequest m.request older = some packet →
    sequenceIdOf packet = m.sequenceId)
include hkeeps hlast

/-- A standing request is the one that the sample uses. -/
theorem Standing.uses {stamp : HwTime} (h : Standing latency m.request stamp older) :
    ∃ packet since before, older = since ++ .send m.request packet (.sent stamp) :: before ∧
      UsesRequest latency m packet stamp since := by
  obtain ⟨packet, since, before, hh, hnone⟩ := latest_standing?_iff.mp h.newest
  have hquiet := fun e he => standing?_eq_none_iff.mp (hnone e he)
  obtain ⟨hrequest, houtcome⟩ := last_of_since hh fun e he => (hquiet e he).1
  refine ⟨packet, since, before, hh, hlast packet hrequest, ?_, h.valid, ?_,
    fun e he => (hquiet e he).2.1, fun e he => (hquiet e he).2.2⟩
  · intro e he packet' hp
    rw [(hquiet e he).1] at hp
    cases hp
  · rw [hkeeps stamp houtcome h.valid]
    exact stampAfter_eq_iff.mpr h.kept

/-- A request that the sample uses is standing. -/
theorem UsesRequest.standing {packet : List UInt8} {stamp : HwTime} {since before : List Entry}
    (hh : older = since ++ .send m.request packet (.sent stamp) :: before)
    (h : UsesRequest latency m packet stamp since) : Standing latency m.request stamp older := by
  -- a newer request would be the last one, and carry the id of the sample
  have hrequest : ∀ e ∈ since, e.request? m.request = none := by
    cases hnewer : latest (Entry.request? m.request) since with
    | none => exact List.findSome?_eq_none_iff.mp hnewer
    | some packet' =>
      have hid := hlast packet' (by rw [hh]; exact latest_append_of_some hnewer _)
      obtain ⟨later, e, between, rfl, he, -⟩ := latest_eq_some_iff.mp hnewer
      exact absurd hid (h.newest e (by simp) packet' he)
  have hquiet : ∀ e ∈ since, e.standing? m.request = none := fun e he =>
    standing?_eq_none_iff.mpr ⟨hrequest e he, h.unstepped e he, h.once e he⟩
  obtain ⟨-, houtcome⟩ := last_of_since hh hrequest
  refine ⟨latest_standing?_iff.mpr ⟨packet, since, before, hh, hquiet⟩, h.valid, ?_⟩
  apply stampAfter_eq_iff.mp
  rw [← hkeeps stamp houtcome h.valid, h.egress]

end Samples

/-- A sample made of two messages is one of a PDelayReq. -/
theorem request_of_twoStep {e : Entry} {m : DelaySample} (hm : e.sample? = some m)
    (h : m.twoStep) : m.request = .pdelayReq := by
  cases e <;> first | contradiction | (obtain rfl := Option.some.inj hm; first | rfl | cases h)

/-- **The right request timestamp.** In every run a delay sample uses the egress time of the request
that it answers, sent after the last step of the clock and not used before, exactly when the newest
request is outstanding. -/
theorem delay_sample_right_iff {rtOpts : RunTimeOpts} {s : System} {e : Entry} {m : DelaySample}
    {older : List Entry} (hs : Reachable rtOpts s) (h : e :: older <:+ s.history)
    (hm : e.sample? = some m) :
    RightSample rtOpts.outboundLatency m older ↔
      Outstanding rtOpts.outboundLatency m.request m.twoStep older := by
  obtain ⟨hkeeps, hcount, hlast⟩ := hs.answersLast e older h m hm
  have hsuffix : older <:+ s.history := (List.suffix_cons e older).trans h
  have honce : m.twoStep → ∀ resp t2 t4 before,
      lastPDelayResp older = some (resp, t2, t4, before) →
        (resp.sequenceId = m.sequenceId ↔
          requestCount m.request older % 65536 = requestCount m.request before % 65536) := by
    intro htwo resp t2 t4 before hstored
    have hturn := hs.visited.stored_sequenceId hsuffix hstored
    rw [← request_of_twoStep hm htwo] at hturn
    rw [← SignedWord.ofNat_int16_inj, ← hcount, ← hturn, Int16.add_left_inj, eq_comm]
  constructor
  · rintro ⟨⟨packet, stamp, since, before, hh, huses⟩, hanswer⟩
    refine ⟨⟨stamp, huses.standing hkeeps hlast hh⟩, ?_⟩
    intro htwo resp t2 t4 before' hstored
    exact (honce htwo resp t2 t4 before' hstored).mp (hanswer htwo resp t2 t4 before' hstored)
  · rintro ⟨⟨stamp, hstanding⟩, hanswer⟩
    obtain ⟨packet, since, before, hh, huses⟩ := hstanding.uses hkeeps hlast
    refine ⟨⟨packet, stamp, since, before, hh, huses⟩, ?_⟩
    intro htwo resp t2 t4 before' hstored
    exact (honce htwo resp t2 t4 before' hstored).mpr (hanswer htwo resp t2 t4 before' hstored)

/-! ## A late answer -/

/-- The transmissions succeed, with the timestamp given. -/
def sendingEnv (stamp : HwTime) : Env := { plainEnv with send := fun _ => .sent stamp }

/-- A Sync of the master and its Follow_Up, sent at `origin` by its clock, are handled; requests
leave at `stamp`. -/
def syncRound (sequenceId : Int16) (origin : UInt32) (stamp : HwTime) : List Stimulus :=
  let master := station 1 { ptpdOpts with priority1 := 100 }
  eventArrival (syncOf master sequenceId ⟨0, origin, 0⟩) stamp ++ [.doState (sendingEnv stamp)] ++
    generalArrival (followUpOf master sequenceId ⟨0, origin, 0⟩) stamp ++
    [.doState (sendingEnv stamp)]

/-- A slave sends a request at 6 s. The next Sync shows that its clock is 2 s behind and it steps
the clock; then the answer to the request comes. -/
def lateAnswer : System :=
  calibratedSlave.after
    ([.interrupt (.timerCallback .delayReqInterval)] ++ syncRound 6 6 (atSecond 6) ++
      syncRound 7 9 (atSecond 7) ++ generalArrival (firstDelayResp 0) (atSecond 10) ++
      [.doState plainEnv])

theorem lateAnswer_reachable : Reachable ptpdOpts lateAnswer :=
  calibratedSlave_reachable.after _

/-- The sample made of the late answer, with the time of the old time scale. -/
def lateSample : DelaySample := ⟨.delayReq, 0, ⟨6, 0⟩, false⟩

theorem lateAnswer_sample :
    ∃ e, e :: lateAnswer.history.tail <:+ lateAnswer.history ∧ e.sample? = some lateSample := by
  have hhead : lateAnswer.history.head?.bind Entry.sample? = some lateSample := by decide +kernel
  obtain ⟨e, he, hm⟩ := Option.bind_eq_some_iff.mp hhead
  obtain ⟨older, hh⟩ := List.head?_eq_some_iff.mp he
  refine ⟨e, ?_, hm⟩
  rw [hh]
  exact List.suffix_refl _

theorem delay_sample_right_lateAnswer :
    RightSample ptpdOpts.outboundLatency lateSample lateAnswer.history.tail ↔
      Outstanding ptpdOpts.outboundLatency .delayReq false lateAnswer.history.tail := by
  obtain ⟨e, hsuffix, hm⟩ := lateAnswer_sample
  exact delay_sample_right_iff lateAnswer_reachable hsuffix hm

/-- The clock has been stepped after the request. -/
theorem lateAnswer_stepped :
    latest (Entry.standing? .delayReq) lateAnswer.history.tail = some none := by
  decide +kernel

/-- A sample mixes the time scales before and after a step of the clock. -/
theorem not_all_samples_right :
    ¬∀ (rtOpts : RunTimeOpts) (s : System) (e : Entry) (m : DelaySample) (older : List Entry),
      Reachable rtOpts s → e :: older <:+ s.history → e.sample? = some m →
        RightSample rtOpts.outboundLatency m older := by
  intro h
  obtain ⟨e, hsuffix, hm⟩ := lateAnswer_sample
  obtain ⟨⟨packet, stamp, since, before, hh, huses⟩, -⟩ :=
    h ptpdOpts lateAnswer e lateSample _ lateAnswer_reachable hsuffix hm
  obtain ⟨hkeeps, -, hlast⟩ := lateAnswer_reachable.answersLast e _ hsuffix lateSample hm
  have hnewest := (huses.standing hkeeps hlast hh).newest
  rw [show latest (Entry.standing? lateSample.request) lateAnswer.history.tail = some none from
    lateAnswer_stepped] at hnewest
  cases hnewest

end Ptpd

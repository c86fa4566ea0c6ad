import DiscoPtp.Library.SignedWord
import DiscoPtp.Properties.Matching
import DiscoPtp.Properties.RoundTrip

/-!
# Promised follow-ups

A PDelayResp with the two-step flag promises a follow-up. The flag is one of the header that
`doInit` has packed, so every response has it; whether the follow-up is sent is decided by the flag
of the request.

## Main definitions

* `InService`: the states that an initialised port passes
* `promises`, `FollowsUp`: a response promises a follow-up, and a message is this follow-up
* `KeepsPromise`: the follow-ups a handler sends after a response

## Main results

* `Reachable.dormant_or_twoStep`: an initialised port has the flag in its header
* `handlePDelayReq_history`: the messages that answer a request
* `promise_kept_iff`: a promise is kept exactly when the request has the flag as well, and the
  response left at a positive time
-/

namespace Ptpd

open SignedWord

/-! ## The flag of the header -/

section TwoStep

variable {rtOpts : RunTimeOpts} {s t : System}

/-- A buffer has the two-step flag. -/
def TwoStep (buf : Buf) : Prop := getFlag (buf 6) flag0TwoStep = true

theorem msgPackHeader_flags (c : PtpClock) (buf : Buf) :
    msgPackHeader c buf 6 = if c.defaultDS.twoStepFlag then flag0TwoStep else buf 6 := by
  unfold msgPackHeader
  rw [store8_of_ne _ _ (by decide), storePortIdentity_of_ne _ _ (by decide),
    clear_of_lt _ _ (by decide)]
  split
  · exact store8_same _ _ _
  · rw [store8_of_ne _ _ (by decide), store8_of_ne _ _ (by decide), store8_of_ne _ _ (by decide)]

theorem twoStep_msgPackHeader {c : PtpClock} {buf : Buf}
    (h : c.defaultDS.twoStepFlag = true ∨ TwoStep buf) : TwoStep (msgPackHeader c buf) := by
  unfold TwoStep
  rw [msgPackHeader_flags]
  split
  · decide
  · rcases h with h | h
    · contradiction
    · exact h

/-- No packer takes the flag away. -/
theorem twoStep_pack (call : PackCall) {buf : Buf} : TwoStep (call.pack buf) ↔ TwoStep buf := by
  unfold TwoStep
  rw [(pack_sameHeader call buf).fixed 6 (by omega)]

theorem outbox_keeps_twoStep : Transition.Preserves OutboxStep fun o => TwoStep o.buf := by
  intro o o' h ho
  cases h with
  | header c => exact twoStep_msgPackHeader (.inr ho)
  | send call => exact (twoStep_pack call).mpr ho

/-- What a port does keeps the flag. -/
theorem actions_keep_twoStep :
    Transition.Preserves AnyAction fun s => TwoStep s.outbox.buf :=
  Transition.Preserves.of_simulates (P := fun o : Outbox => TwoStep o.buf)
    action_simulates_outbox outbox_keeps_twoStep

/-- `initData` sets the flag, and `doInit` packs it into the header. -/
theorem twoStep_doInit {env : Env} (h : env.netInit = true) (s : System) :
    TwoStep (doInit env s).2.ptpClock.msgObuf := by
  let u := (initClock (initTimer ((netInit env s).2.modify initData))).m1
  have hdo : (doInit env s).2 = (u.modify fun c =>
      { c with msgObuf := msgPackHeader c c.msgObuf }).log (.doInit true) := by
    unfold doInit
    dsimp only
    rw [netInit_fst, if_pos h]
  have hflag : u.ptpClock.defaultDS.twoStepFlag = true := by
    obtain ⟨addend, adjusted, heq, -⟩ :=
      initClock_eq (initTimer ((netInit env s).2.modify initData))
    show (initClock (initTimer ((netInit env s).2.modify initData))).ptpClock.defaultDS.twoStepFlag
      = true
    rw [heq]
    rfl
  rw [hdo]
  exact twoStep_msgPackHeader (.inl hflag)

/-- **An initialised port has the flag** in its header. -/
theorem Reachable.dormant_or_twoStep (hs : Reachable rtOpts s) :
    Dormant rtOpts s ∨ TwoStep s.ptpClock.msgObuf := by
  obtain ⟨_, rfl, hr⟩ := hs
  induction hr with
  | refl => exact .inl (boot_dormant rtOpts)
  | tail _ hstep ih =>
    rcases ih with hdormant | hflag
    · refine (hdormant.step_cases hstep).imp_right ?_
      rintro ⟨env, u, -, hnet, rfl⟩
      exact twoStep_doInit hnet u
    · exact .inr (actions_keep_twoStep.run (daemon_runsOf_action rtOpts _ _ hstep) hflag)

/-- A state that a run of an initialised port passes, between two calls of `doState` or inside of
one. -/
def InService (rtOpts : RunTimeOpts) (s : System) : Prop :=
  ∃ s₀, Reachable rtOpts s₀ ∧ .doInit true ∈ s₀.history ∧ Actions (fun _ => True) s₀ s

theorem Reachable.inService (hs : Reachable rtOpts s) (hinit : .doInit true ∈ s.history) :
    InService rtOpts s :=
  ⟨s, hs, hinit, .refl⟩

theorem InService.visited (hs : InService rtOpts s) : Visited rtOpts s := by
  obtain ⟨s₀, hs₀, -, hrun⟩ := hs
  exact hs₀.visited.run hrun

theorem InService.twoStep (hs : InService rtOpts s) : TwoStep s.ptpClock.msgObuf := by
  obtain ⟨s₀, hs₀, hinit, hrun⟩ := hs
  have hflag := hs₀.dormant_or_twoStep.resolve_left fun h => h.history hinit
  exact actions_keep_twoStep.run hrun hflag

end TwoStep

/-! ## The follow-up -/

/-- The timestamp is the time. -/
structure Timestamp.Is (stamp : Timestamp) (time : TimeInternal) : Prop where
  seconds : (stamp.secondsMsb.toNat * 2 ^ 32 + stamp.secondsLsb.toNat : ℤ) = time.seconds.toInt
  nanoseconds : (stamp.nanosecondsField.toNat : ℤ) = time.nanoseconds.toInt

/-- Whether a packet promises a follow-up. -/
def promises (packet : List UInt8) : Bool := getFlag (headerIn packet).flagField0 flag0TwoStep

/-- What a receiver of a response, or of a follow-up, unpacks. -/
def responseIn (packet : List UInt8) : MsgResponse := msgUnpackResponse (octetsOf packet)

/-- A packet is the follow-up of a response sent at `time`. -/
structure FollowsUp (response followUp : List UInt8) (time : TimeInternal) : Prop where
  sequenceId : sequenceIdOf followUp = sequenceIdOf response
  requesting :
    (responseIn followUp).requestingPortIdentity = (responseIn response).requestingPortIdentity
  timestamp : (responseIn followUp).timestamp.Is time

/-- The transmit time of a response that left at `stamp`. -/
def egressOf (s : System) (stamp : HwTime) : TimeInternal :=
  addTime stamp.time s.ptpClock.outboundLatency

/-- **A promise is kept**: from `s` to `t` a response is sent at `stamp`. If it promises a follow-up
and has a transmit timestamp, exactly one message is sent after it, which is its follow-up; if it
does not promise one, none is. -/
def KeepsPromise (stamp : HwTime) (s t : System) : Prop :=
  ∃ response newer,
    t.history = newer ++ .send .pdelayResp response (.sent stamp) :: s.history ∧
    (promises response → stamp.time.seconds ≠ 0 →
      ∃ followUp stamp', newer = [.send .pdelayRespFollowUp followUp (.sent stamp')] ∧
        FollowsUp response followUp (egressOf s stamp)) ∧
    (¬promises response → newer = [])

/-- The history tells which response was sent, and what was sent after it. -/
theorem response_unique {newer newer' older : List Entry} {response response' : List UInt8}
    {outcome : SendOutcome}
    (h : newer ++ .send .pdelayResp response outcome :: older =
      newer' ++ .send .pdelayResp response' outcome :: older) :
    newer = newer' ∧ response = response' := by
  obtain ⟨hnewer, hresponse⟩ := List.append_inj' h rfl
  refine ⟨hnewer, ?_⟩
  simpa using hresponse

/-- The port answers a PDelayReq of this length. -/
structure AnswersPDelayReq (s : System) (length : Int) : Prop where
  mechanism : s.delayMechanism = .p2p
  state : s.portState = .passive ∨ s.portState = .slave ∨ s.portState = .master
  length : pdelayReqLength ≤ length

section Answer

variable {s : System} (env : Env) (time : TimeInternal) (header : MsgHeader) (buf : Buf)
  {length : Int} {stamp : HwTime}

/-- The response to a request. -/
def responsePacket (env : Env) (time : TimeInternal) (header : MsgHeader) (s : System) :
    List UInt8 :=
  packetAfter s.ptpClock.msgObuf []
    (.pdelayResp header (fromInternalTime time env.localTimestamp))

/-- The follow-up of the response that left at `stamp`. -/
def followUpPacket (env : Env) (time : TimeInternal) (header : MsgHeader) (stamp : HwTime)
    (s : System) : List UInt8 :=
  packetAfter s.ptpClock.msgObuf
    [.pdelayResp header (fromInternalTime time env.localTimestamp)]
    (.pdelayRespFollowUp header (fromInternalTime (egressOf s stamp) env.localTimestamp))

/-- The request has the flag, and the response a transmit timestamp that stays nonzero with the
latency. -/
def SendsFollowUp (s : System) (header : MsgHeader) (stamp : HwTime) : Prop :=
  getFlag header.flagField0 flag0TwoStep = true ∧ stamp.time.seconds ≠ 0 ∧
    (egressOf s stamp).seconds ≠ 0

theorem handlePDelayReq_answer (h : AnswersPDelayReq s length) :
    handlePDelayReq env time false (s.holding header buf length) =
      answerPDelayReq env time false (s.holding header buf length) := by
  have hmechanism : (s.holding header buf length).delayMechanism = .p2p := h.mechanism
  have hstate : (s.holding header buf length).portState = s.portState := rfl
  have hshort : ¬(s.holding header buf length).ptpClock.msgIbufLength < pdelayReqLength :=
    not_lt.mpr h.length
  unfold handlePDelayReq
  simp only [hmechanism, if_neg hshort, hstate]
  rcases h.state with hs | hs | hs <;> rw [hs]

/-- The messages that answer a request. -/
theorem handlePDelayReq_history (h : AnswersPDelayReq s length)
    (hsent : env.send .pdelayResp = .sent stamp) :
    (SendsFollowUp s header stamp →
      (handlePDelayReq env time false (s.holding header buf length)).history =
        .send .pdelayRespFollowUp (followUpPacket env time header stamp s)
            (env.send .pdelayRespFollowUp) ::
          .send .pdelayResp (responsePacket env time header s) (.sent stamp) :: s.history) ∧
    (¬SendsFollowUp s header stamp →
      (handlePDelayReq env time false (s.holding header buf length)).history =
        .send .pdelayResp (responsePacket env time header s) (.sent stamp) :: s.history) := by
  have hegress : egressTime env .pdelayResp time = stamp.time := by rw [egressTime, hsent]
  have htime : (issuePDelayResp env time (s.holding header buf length)).1 =
      if stamp.time.seconds ≠ 0 then egressOf s stamp else stamp.time := by
    rw [issuePDelayResp_time, hegress]
    rfl
  have hresponse : (issuePDelayResp env time (s.holding header buf length)).2.history =
      .send .pdelayResp (responsePacket env time header s) (.sent stamp) :: s.history := by
    rw [issuePDelayResp_eq, ← hsent]
    rfl
  have hheader :
      (issuePDelayResp env time (s.holding header buf length)).2.ptpClock.msgTmpHeader =
        header := by
    rw [issuePDelayResp_eq]
    rfl
  have hbuf : (issuePDelayResp env time (s.holding header buf length)).2.ptpClock.msgObuf =
      (PackCall.pdelayResp header (fromInternalTime time env.localTimestamp)).pack
        s.ptpClock.msgObuf := by
    rw [issuePDelayResp_eq]
    rfl
  -- the handler decides by the returned time and by the flag of the request
  have hdecides : ((issuePDelayResp env time (s.holding header buf length)).1.seconds ≠ 0 ∧
      getFlag header.flagField0 flag0TwoStep = true) ↔ SendsFollowUp s header stamp := by
    rw [htime]
    unfold SendsFollowUp
    split <;> tauto
  rw [handlePDelayReq_answer env time header buf h]
  unfold answerPDelayReq
  rw [if_neg Bool.false_ne_true]
  dsimp only
  rw [hheader]
  constructor
  · intro hsends
    have hreturned : (issuePDelayResp env time (s.holding header buf length)).1 =
        egressOf s stamp := htime.trans (if_pos hsends.2.1)
    rw [if_pos (hdecides.mpr hsends), issuePDelayRespFollowUp_eq, hreturned]
    unfold sentPacket
    rw [System.log_history, System.modify_history, hresponse]
    dsimp only
    rw [hheader, hbuf]
    rfl
  · intro hsends
    rw [if_neg (mt hdecides.mp hsends)]
    exact hresponse

/-! ### The two messages -/

theorem promises_packetAfter (b : Buf) (older : List PackCall) (call : PackCall) :
    promises (packetAfter b older call) = true ↔ TwoStep b := by
  have hagree := packetOf_agreeBelow (call.pack (packed b older)) call.length
  have hheader : headerIn (packetAfter b older call) =
      msgUnpackHeader (call.pack (packed b older)) :=
    hagree.header (le_trans (by decide) (syncLength_le call))
  have hkept := (pack_sameHeader call (packed b older)).trans (packed_sameHeader b older)
  unfold promises TwoStep
  rw [hheader]
  show getFlag (call.pack (packed b older) 6) flag0TwoStep = true ↔ _
  rw [hkept.fixed 6 (by omega)]

theorem sequenceIdOf_packetAfter (b : Buf) (older : List PackCall) (call : PackCall) :
    sequenceIdOf (packetAfter b older call) = call.sequenceId := by
  have hagree := packetOf_agreeBelow (call.pack (packed b older)) call.length
  have hheader : headerIn (packetAfter b older call) =
      msgUnpackHeader (call.pack (packed b older)) :=
    hagree.header (le_trans (by decide) (syncLength_le call))
  rw [sequenceIdOf, hheader, sequenceId_pack]

theorem responseIn_packetAfter (b : Buf) (older : List PackCall) {call : PackCall}
    {header : MsgHeader} {t : Timestamp} (hlength : delayRespLength ≤ call.length)
    (hrequest : call.request = some header) (ht : call.timestamp = some t) :
    responseIn (packetAfter b older call) = ⟨t, header.sourcePortIdentity⟩ := by
  have hagree := packetOf_agreeBelow (call.pack (packed b older)) call.length
  have hresponse : responseIn (packetAfter b older call) =
      msgUnpackResponse (call.pack (packed b older)) := hagree.response hlength
  rw [hresponse, msgUnpackResponse, timestamp_pack ht, requesting_pack hrequest]

/-- A time that is not negative survives `fromInternalTime`. -/
theorem fromInternalTime_is {t : TimeInternal} (hs : 0 ≤ t.seconds) (hn : 0 ≤ t.nanoseconds)
    (old : Timestamp) : (fromInternalTime t old).Is t := by
  have hneg : ¬(t.seconds < 0 ∨ t.nanoseconds < 0) := by
    rintro (h | h)
    · exact Int32.not_lt.mpr hs h
    · exact Int32.not_lt.mpr hn h
  unfold fromInternalTime
  rw [if_neg hneg]
  constructor
  · have hseconds := toNat_toUInt32_of_nonneg (Int32.le_iff_toInt_le.mp hs)
    show ((0 : ℕ) * 2 ^ 32 + t.seconds.toUInt32.toNat : ℤ) = _
    omega
  · exact toNat_toUInt32_of_nonneg (Int32.le_iff_toInt_le.mp hn)

/-- A timestamp is never negative. -/
theorem Timestamp.Is.nonneg {stamp : Timestamp} {t : TimeInternal} (h : stamp.Is t) :
    0 ≤ t.seconds ∧ 0 ≤ t.nanoseconds := by
  have hs := h.seconds
  have hn := h.nanoseconds
  have hzero : (0 : Int32).toInt = 0 := rfl
  constructor
  · rw [Int32.le_iff_toInt_le, hzero]
    omega
  · rw [Int32.le_iff_toInt_le, hzero]
    omega

/-- The follow-up has the sequence id and the requesting port identity of the response, and its
transmit time unless that is negative. -/
theorem followsUp_iff (env : Env) (time : TimeInternal) (header : MsgHeader) (stamp : HwTime)
    (s : System) :
    FollowsUp (responsePacket env time header s) (followUpPacket env time header stamp s)
        (egressOf s stamp) ↔
      (fromInternalTime (egressOf s stamp) env.localTimestamp).Is (egressOf s stamp) := by
  have hresponse : responseIn (responsePacket env time header s) =
      ⟨fromInternalTime time env.localTimestamp, header.sourcePortIdentity⟩ :=
    responseIn_packetAfter _ _ (le_refl (54 : ℤ)) rfl rfl
  have hfollowUp : responseIn (followUpPacket env time header stamp s) =
      ⟨fromInternalTime (egressOf s stamp) env.localTimestamp, header.sourcePortIdentity⟩ :=
    responseIn_packetAfter _ _ (le_refl (54 : ℤ)) rfl rfl
  have hid : sequenceIdOf (followUpPacket env time header stamp s) =
      sequenceIdOf (responsePacket env time header s) := by
    unfold followUpPacket responsePacket
    rw [sequenceIdOf_packetAfter, sequenceIdOf_packetAfter]
    rfl
  constructor
  · intro h
    have htime := h.timestamp
    rwa [hfollowUp] at htime
  · intro h
    refine ⟨hid, ?_, ?_⟩
    · rw [hfollowUp, hresponse]
    · rw [hfollowUp]
      exact h

end Answer

/-- **When a promise is kept**: a port in service sends the follow-up that its response has promised
exactly when the request has the two-step flag too, the transmit time is positive with the latency,
and the network takes the follow-up. -/
theorem promise_kept_iff {rtOpts : RunTimeOpts} {s : System} (hs : InService rtOpts s) (env : Env)
    (time : TimeInternal) (header : MsgHeader) (buf : Buf) {length : Int}
    (h : AnswersPDelayReq s length) {stamp : HwTime} (hsent : env.send .pdelayResp = .sent stamp) :
    KeepsPromise stamp s (handlePDelayReq env time false (s.holding header buf length)) ↔
      (stamp.time.seconds ≠ 0 → getFlag header.flagField0 flag0TwoStep ∧
        0 < (egressOf s stamp).seconds ∧ 0 ≤ (egressOf s stamp).nanoseconds ∧
        ∃ stamp', env.send .pdelayRespFollowUp = .sent stamp') := by
  have hflag : promises (responsePacket env time header s) = true :=
    (promises_packetAfter _ _ _).mpr hs.twoStep
  obtain ⟨hfollowed, hnone⟩ := handlePDelayReq_history env time header buf h hsent
  constructor
  · rintro ⟨response, newer, hhistory, hkept, -⟩ hstamp
    by_cases hsends : SendsFollowUp s header stamp
    · have hsplit : [Entry.send .pdelayRespFollowUp (followUpPacket env time header stamp s)
            (env.send .pdelayRespFollowUp)] ++
          .send .pdelayResp (responsePacket env time header s) (.sent stamp) :: s.history =
          newer ++ .send .pdelayResp response (.sent stamp) :: s.history :=
        (hfollowed hsends).symm.trans hhistory
      obtain ⟨rfl, rfl⟩ := response_unique hsplit
      obtain ⟨followUp, stamp', hone, hfollows⟩ := hkept hflag hstamp
      obtain ⟨rfl, hout⟩ : followUpPacket env time header stamp s = followUp ∧
          env.send .pdelayRespFollowUp = .sent stamp' := by simpa using hone
      have hnonneg := ((followsUp_iff env time header stamp s).mp hfollows).nonneg
      have hpos := Int32.lt_of_le_of_ne hnonneg.1 hsends.2.2.symm
      exact ⟨hsends.1, hpos, hnonneg.2, stamp', hout⟩
    · have hsplit :
          [] ++ .send .pdelayResp (responsePacket env time header s) (.sent stamp) :: s.history =
          newer ++ .send .pdelayResp response (.sent stamp) :: s.history :=
        (hnone hsends).symm.trans hhistory
      obtain ⟨rfl, rfl⟩ := response_unique hsplit
      obtain ⟨followUp, stamp', hone, -⟩ := hkept hflag hstamp
      cases hone
  · intro hcondition
    by_cases hstamp : stamp.time.seconds ≠ 0
    · obtain ⟨hrequest, hpos, hns, stamp', hout⟩ := hcondition hstamp
      have hsends : SendsFollowUp s header stamp := ⟨hrequest, hstamp, (Int32.ne_of_lt hpos).symm⟩
      refine ⟨responsePacket env time header s,
        [.send .pdelayRespFollowUp (followUpPacket env time header stamp s) (.sent stamp')],
        ?_, fun _ _ => ⟨_, stamp', rfl, ?_⟩, fun h => absurd hflag h⟩
      · rw [hfollowed hsends, hout]
        rfl
      · have htime := fromInternalTime_is (Int32.le_of_lt hpos) hns env.localTimestamp
        exact (followsUp_iff env time header stamp s).mpr htime
    · have hsends : ¬SendsFollowUp s header stamp := fun h => hstamp h.2.1
      exact ⟨responsePacket env time header s, [], hnone hsends, fun _ h => absurd h hstamp,
        fun _ => rfl⟩

/-! ## A master that is asked by two kinds of peers -/

/-- The header of a PDelayReq of another station, with the flags given. -/
def requestHeader (flags : UInt8) : MsgHeader :=
  { headerIn (packetAfter (headerOf (station 2 peerOpts)) []
      (.pdelayReq (station 2 peerOpts) ⟨0, 0, 0⟩)) with flagField0 := flags }

/-- A call in which every message leaves at the third second. -/
def timestampedEnv : Env := { plainEnv with send := fun _ => .sent (atSecond 3) }

theorem peerMaster_inService : InService peerOpts peerMaster :=
  ((boot_reachable peerOpts).after _).inService (by decide +kernel)

theorem peerMaster_answers : AnswersPDelayReq peerMaster pdelayReqLength :=
  ⟨peerMaster_idle.mechanism, .inr (.inr peerMaster_idle.portState), le_refl _⟩

theorem peerMaster_outboundLatency : peerMaster.ptpClock.outboundLatency = ⟨0, 0⟩ := by
  decide +kernel

theorem promise_kept_peerMaster :
    KeepsPromise (atSecond 3) peerMaster
      (handlePDelayReq timestampedEnv ⟨2, 0⟩ false
        (peerMaster.holding (requestHeader flag0TwoStep) (fun _ => 0) pdelayReqLength)) := by
  have hegress : egressOf peerMaster (atSecond 3) = ⟨3, 0⟩ := by
    rw [egressOf, peerMaster_outboundLatency]
    decide
  refine (promise_kept_iff peerMaster_inService timestampedEnv ⟨2, 0⟩ _ _ peerMaster_answers
    rfl).mpr fun _ => ?_
  rw [hegress]
  exact ⟨by decide, by decide, by decide, atSecond 3, rfl⟩

/-- A response to a request without the flag promises a follow-up that is never sent. -/
theorem promise_broken :
    ¬∀ (rtOpts : RunTimeOpts) (s : System), InService rtOpts s →
      ∀ (env : Env) (time : TimeInternal) (header : MsgHeader) (buf : Buf) (length : Int)
        (stamp : HwTime), AnswersPDelayReq s length → env.send .pdelayResp = .sent stamp →
        KeepsPromise stamp s (handlePDelayReq env time false (s.holding header buf length)) := by
  intro h
  obtain ⟨response, newer, hhistory, hkept, -⟩ := h peerOpts peerMaster peerMaster_inService
    timestampedEnv ⟨2, 0⟩ (requestHeader 0) (fun _ => 0) _ (atSecond 3) peerMaster_answers rfl
  have hnot : ¬SendsFollowUp peerMaster (requestHeader 0) (atSecond 3) :=
    fun hsends => absurd hsends.1 (by decide)
  have hone := (handlePDelayReq_history timestampedEnv ⟨2, 0⟩ (requestHeader 0) (fun _ => 0)
    peerMaster_answers rfl).2 hnot
  have hsplit : [] ++ .send .pdelayResp
      (responsePacket timestampedEnv ⟨2, 0⟩ (requestHeader 0) peerMaster) (.sent (atSecond 3)) ::
        peerMaster.history =
      newer ++ .send .pdelayResp response (.sent (atSecond 3)) :: peerMaster.history :=
    hone.symm.trans hhistory
  obtain ⟨rfl, rfl⟩ := response_unique hsplit
  have hflag : promises
      (responsePacket timestampedEnv ⟨2, 0⟩ (requestHeader 0) peerMaster) = true :=
    (promises_packetAfter _ _ _).mpr peerMaster_inService.twoStep
  obtain ⟨followUp, stamp', hfollowUp, -⟩ := hkept hflag (by decide)
  cases hfollowUp

end Ptpd

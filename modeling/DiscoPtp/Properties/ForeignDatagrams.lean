import DiscoPtp.Properties.PathDelay

/-!
# Datagrams that are not from the parent

A datagram without a complete header of the parent moves neither the offset, nor the mean path
delay, nor the clock of a port that follows a master. It leaves the rest of the servo alone as well,
unless a length check fails: every handler makes that check before it looks at the sender, and the
check ends in `PTP_FAULTY`, which resets the servo.

## Main definitions

* `ServoView`: what the servo works with
* `FromParent`: the datagram in the input buffer has a complete header of the parent
* `Malformed`: the datagram in the input buffer fails a length check
* `ServoReset`: what the way to `PTP_FAULTY` does

## Main results

* `dispatch_foreign`: the handlers on a message that is not from the parent
* `handle_foreign`: one call of `handle` on such a datagram
-/

namespace Ptpd

/-! ## The servo -/

/-- What the servo works with: its state, its results and the clock. -/
structure ServoView where
  Tms : TimeInternal
  offsetFromMaster : TimeInternal
  meanPathDelay : TimeInternal
  observedDrift : Int32
  ofmFilt : Filter
  time : TimeInternal
  addend : UInt32
  deriving DecidableEq

/-- The servo of a system. -/
def System.servoView (s : System) : ServoView :=
  { Tms := s.ptpClock.Tms
    offsetFromMaster := s.ptpClock.currentDS.offsetFromMaster
    meanPathDelay := s.ptpClock.currentDS.meanPathDelay
    observedDrift := s.ptpClock.observedDrift
    ofmFilt := s.ptpClock.ofmFilt
    time := s.time
    addend := s.addend }

/-- The datagram in the input buffer has a complete header, and the parent sent it. -/
def FromParent (c : PtpClock) : Prop :=
  headerLength ≤ c.msgIbufLength ∧
    isSamePortIdentity c.parentDS.parentPortIdentity (msgUnpackHeader c.msgIbuf).sourcePortIdentity

instance (c : PtpClock) : Decidable (FromParent c) := inferInstanceAs (Decidable (_ ∧ _))

/-- The length that the handler of a message type requires, where it checks one. -/
def requiredLength (mechanism : DelayMechanism) : MessageType → Option Int
  | .announce => some announceLength
  | .sync => some syncLength
  | .followUp => some followUpLength
  | .delayReq => if mechanism = .e2e then some delayReqLength else none
  | .delayResp => if mechanism = .e2e then some delayRespLength else none
  | .pdelayReq => if mechanism = .p2p then some pdelayReqLength else none
  | .pdelayResp => if mechanism = .p2p then some pdelayRespLength else none
  | .pdelayRespFollowUp => if mechanism = .p2p then some pdelayRespFollowUpLength else none
  | .management | .signaling => none

/-- A message of `length` octets with this header is too short for its handler. -/
def TooShort (mechanism : DelayMechanism) (header : MsgHeader) (length : Int) : Prop :=
  ∃ type n, MessageType.ofCode header.messageType = some type ∧
    requiredLength mechanism type = some n ∧ length < n

section TooShort

variable {mechanism : DelayMechanism} {header : MsgHeader} {length : Int}

theorem tooShort_iff {type : MessageType} {n : Int}
    (htype : MessageType.ofCode header.messageType = some type)
    (hn : requiredLength mechanism type = some n) :
    TooShort mechanism header length ↔ length < n := by
  constructor
  · rintro ⟨type', n', htype', hn', hlength⟩
    obtain rfl := Option.some.inj (htype'.symm.trans htype)
    obtain rfl := Option.some.inj (hn'.symm.trans hn)
    exact hlength
  · exact fun hlength => ⟨type, n, htype, hn, hlength⟩

/-- A message that no handler takes is not too short. -/
theorem not_tooShort (hnone : ∀ type, MessageType.ofCode header.messageType = some type →
    requiredLength mechanism type = none) : ¬TooShort mechanism header length := by
  rintro ⟨type, n, htype, hn, -⟩
  cases (hnone type htype).symm.trans hn

end TooShort

/-- The datagram in the input buffer fails a length check: it has no complete header, or it has the
version and the domain of the port and is too short for its handler. -/
def Malformed (c : PtpClock) : Prop :=
  0 < c.msgIbufLength ∧
    (c.msgIbufLength < headerLength ∨
      (msgUnpackHeader c.msgIbuf).versionPTP = c.portDS.versionNumber ∧
        (msgUnpackHeader c.msgIbuf).domainNumber = c.defaultDS.domainNumber ∧
        TooShort c.portDS.delayMechanism (msgUnpackHeader c.msgIbuf) c.msgIbufLength)

/-- The way to `PTP_FAULTY`: the servo is reset, its results and the clock stay. -/
structure ServoReset (s t : System) : Prop where
  portState : t.portState = .faulty
  Tms : t.ptpClock.Tms = ⟨0, 0⟩
  observedDrift : t.ptpClock.observedDrift = 0
  samples : t.ptpClock.ofmFilt.n = 0
  offsetFromMaster : t.ptpClock.currentDS.offsetFromMaster = s.ptpClock.currentDS.offsetFromMaster
  meanPathDelay : t.ptpClock.currentDS.meanPathDelay = s.ptpClock.currentDS.meanPathDelay
  time : t.time = s.time

section Servo

variable {env : Env} {s t u : System}

theorem Receives.servoView (h : Receives s t) : t.servoView = s.servoView := by
  obtain ⟨_, _, _, _, _, heq⟩ := h.ptpClock
  unfold System.servoView
  rw [heq, h.time, h.addend]

theorem ServoReset.of_servoView (h : ServoReset s t) (hview : s.servoView = u.servoView) :
    ServoReset u t := by
  obtain ⟨hstate, hTms, hdrift, hn, hoffset, hdelay, htime⟩ := h
  refine ⟨hstate, hTms, hdrift, hn, hoffset.trans ?_, hdelay.trans ?_, htime.trans ?_⟩
  · exact congrArg ServoView.offsetFromMaster hview
  · exact congrArg ServoView.meanPathDelay hview
  · exact congrArg ServoView.time hview

/-- A port that follows a master resets its servo on the way to `PTP_FAULTY`. -/
theorem toState_faulty_reset (hf : s.portState.Following) :
    ServoReset s (toState env .faulty s) := by
  have hleave (u : System) (hu : u.servoView = s.servoView) :
      ServoReset s ((initClock u).setPortState .faulty) := by
    obtain ⟨addend, adjusted, h, -⟩ := initClock_eq u
    rw [h]
    exact ServoReset.of_servoView (s := u) ⟨rfl, rfl, rfl, rfl, rfl, rfl, rfl⟩ hu
  have hstep (u : System) (hu : u.servoView = s.servoView) :
      ServoReset s ((leaveFollower u).setPortState .faulty) := by
    unfold leaveFollower
    dsimp only
    split
    · exact hleave _ hu
    · exact hleave _ hu
    · exact hleave _ hu
  have hactive : (s.setMessageActivity true).portState = s.portState := rfl
  unfold toState enterState leaveState
  rw [hactive]
  rcases hf with hf | hf
  all_goals
    rw [hf]
    exact hstep _ rfl

end Servo

/-! ## The handlers -/

section Handlers

variable {env : Env} {time : TimeInternal} {fromSelf : Bool} {s : System}

/-- What a handler does with a message that is not from the parent, when it requires `n` octets. -/
def TreatsForeign (n : Int) (s t : System) : Prop :=
  (s.ptpClock.msgIbufLength < n → ServoReset s t) ∧
    (¬s.ptpClock.msgIbufLength < n → t.servoView = s.servoView)

theorem treatsForeign_of_check {n : Int} {t : System} (hf : s.portState.Following)
    (ht : t.servoView = s.servoView) :
    TreatsForeign n s (if s.ptpClock.msgIbufLength < n then toState env .faulty s else t) := by
  constructor
  · intro hlen
    rw [if_pos hlen]
    exact toState_faulty_reset hf
  · intro hlen
    rw [if_neg hlen]
    exact ht

theorem sentPacket_servoView (type : MessageType) (length : Int) (pack : PtpClock → Buf)
    (s : System) : (sentPacket env type length pack s).servoView = s.servoView := rfl

theorem handleAnnounce_foreign (hf : s.portState.Following)
    (hp : ¬isFromCurrentParent s.ptpClock) :
    TreatsForeign announceLength s (handleAnnounce env fromSelf s) := by
  refine treatsForeign_of_check hf ?_
  -- the Announce of another master is only stored
  have hfollow : (followAnnounce s).servoView = s.servoView := by
    have hother : ¬isFromCurrentParent (takeAnnounce s).ptpClock := hp
    unfold followAnnounce
    dsimp only
    rw [if_neg hother]
    rfl
  split
  · rfl
  · rcases hf with hf | hf
    all_goals
      rw [hf]
      exact hfollow

theorem handleSync_foreign (hf : s.portState.Following)
    (hp : ¬isFromCurrentParent s.ptpClock) :
    TreatsForeign syncLength s (handleSync env time fromSelf s) := by
  refine treatsForeign_of_check hf ?_
  have hfollow : followSync env time fromSelf s = s := by
    unfold followSync
    split
    · rfl
    · rw [if_pos (by simpa using hp)]
  rcases hf with hf | hf
  all_goals
    rw [hf]
    exact congrArg System.servoView hfollow

theorem handleFollowUp_foreign (hf : s.portState.Following)
    (hp : ¬isFromCurrentParent s.ptpClock) :
    TreatsForeign followUpLength s (handleFollowUp env fromSelf s) := by
  refine treatsForeign_of_check hf ?_
  have htake : takeFollowUp env s = s := by
    refine if_neg ?_
    unfold followUpMatches
    rw [Bool.eq_false_iff.mpr hp]
    simp
  split
  · rfl
  · rcases hf with hf | hf
    all_goals
      rw [hf]
      exact congrArg System.servoView htake

theorem handleDelayReq_foreign (hd : s.delayMechanism = .e2e) (hf : s.portState.Following) :
    TreatsForeign delayReqLength s (handleDelayReq env time s) := by
  unfold handleDelayReq
  rw [hd]
  refine treatsForeign_of_check hf ?_
  have hmaster : s.portState ≠ .master := by rcases hf with hf | hf <;> rw [hf] <;> decide
  rw [if_neg hmaster]

theorem handleDelayResp_foreign (hd : s.delayMechanism = .e2e) (hf : s.portState.Following)
    (hp : ¬isFromCurrentParent s.ptpClock) :
    TreatsForeign delayRespLength s (handleDelayResp env s) := by
  unfold handleDelayResp
  rw [hd]
  refine treatsForeign_of_check hf ?_
  have htake : takeDelayResp s = s := by
    refine if_neg ?_
    unfold delayRespMatches
    rw [Bool.eq_false_iff.mpr hp]
    simp
  rcases hf with hf | hf
  all_goals
    rw [hf]
    exact congrArg System.servoView htake

/-! The handlers of the peer delay messages do not ask for the parent, and do not touch the
servo. -/

theorem handlePDelayReq_foreign (hd : s.delayMechanism = .p2p) (hf : s.portState.Following) :
    TreatsForeign pdelayReqLength s (handlePDelayReq env time fromSelf s) := by
  unfold handlePDelayReq
  rw [hd]
  refine treatsForeign_of_check hf ?_
  have hanswer : (answerPDelayReq env time fromSelf s).servoView = s.servoView := by
    unfold answerPDelayReq
    dsimp only
    rw [issuePDelayResp_eq, issuePDelayRespFollowUp_eq]
    split
    · rfl
    · split
      · rw [sentPacket_servoView, sentPacket_servoView]
      · rw [sentPacket_servoView]
  rcases hf with hf | hf
  · rw [hf]
  · rw [hf]
    exact hanswer

theorem handlePDelayResp_foreign (hd : s.delayMechanism = .p2p) (hf : s.portState.Following) :
    TreatsForeign pdelayRespLength s (handlePDelayResp env time fromSelf s) := by
  unfold handlePDelayResp
  rw [hd]
  refine treatsForeign_of_check hf ?_
  have htake : (takePDelayResp env time fromSelf s).servoView = s.servoView := by
    unfold takePDelayResp
    split
    · rfl
    split
    · split
      · obtain ⟨_, _, _, -, h⟩ := storePDelayResp_eq env time s
        rw [h]
        rfl
      · obtain ⟨_, _, _, h⟩ := usePDelayResp_eq time s
        rw [h]
        rfl
    · rfl
  rcases hf with hf | hf
  · rw [hf]
  · rw [hf]
    exact htake

theorem handlePDelayRespFollowUp_foreign (hd : s.delayMechanism = .p2p)
    (hf : s.portState.Following) :
    TreatsForeign pdelayRespFollowUpLength s (handlePDelayRespFollowUp env s) := by
  unfold handlePDelayRespFollowUp
  rw [hd]
  refine treatsForeign_of_check hf ?_
  have htake : (takePDelayRespFollowUp env s).servoView = s.servoView := by
    unfold takePDelayRespFollowUp
    split
    · obtain ⟨_, _, _, _, _, -, h⟩ := usePDelayRespFollowUp_eq env s
      rw [h]
      rfl
    · rfl
  rcases hf with hf | hf
  · rw [hf]
  · rw [hf]
    exact htake

/-! ## The dispatch -/

/-- What becomes of a message that is not from the parent: one that is too short resets the servo,
any other leaves it alone. -/
def Spares (s t : System) : Prop :=
  (TooShort s.delayMechanism s.ptpClock.msgTmpHeader s.ptpClock.msgIbufLength → ServoReset s t) ∧
    (¬TooShort s.delayMechanism s.ptpClock.msgTmpHeader s.ptpClock.msgIbufLength →
      t.servoView = s.servoView)

/-- A handler that checks the length spares the servo. -/
theorem TreatsForeign.spares {type : MessageType} {n : Int} {t : System} (h : TreatsForeign n s t)
    (htype : MessageType.ofCode s.ptpClock.msgTmpHeader.messageType = some type)
    (hn : requiredLength s.delayMechanism type = some n) : Spares s t := by
  unfold Spares
  rw [tooShort_iff htype hn]
  exact h

/-- A message that no handler takes spares the servo. -/
theorem spares_of_untaken {t : System} (ht : t.servoView = s.servoView)
    (hnone : ∀ type, MessageType.ofCode s.ptpClock.msgTmpHeader.messageType = some type →
      requiredLength s.delayMechanism type = none) : Spares s t :=
  ⟨fun hshort => absurd hshort (not_tooShort hnone), fun _ => ht⟩

theorem Spares.of_log {e : Entry} {t : System} (h : Spares (s.log e) t) : Spares s t :=
  ⟨fun hshort => (h.1 hshort).of_servoView rfl, h.2⟩

/-- A handler of the delay mechanism `m` ignores the message under any other. -/
theorem spares_of_mechanism {m : DelayMechanism} {type : MessageType} {n : Int}
    {t : System} (htype : MessageType.ofCode s.ptpClock.msgTmpHeader.messageType = some type)
    (hn : requiredLength s.delayMechanism type =
      if s.delayMechanism = m then some n else none)
    (htaken : s.delayMechanism = m → TreatsForeign n s t)
    (hignored : s.delayMechanism ≠ m → t = s) : Spares s t := by
  by_cases hd : s.delayMechanism = m
  · rw [if_pos hd] at hn
    exact (htaken hd).spares htype hn
  · rw [if_neg hd] at hn
    refine spares_of_untaken (by rw [hignored hd]) fun type' htype' => ?_
    rw [← Option.some.inj (htype.symm.trans htype')]
    exact hn

/-- **The handlers on a message that is not from the parent** spare the servo. -/
theorem dispatch_foreign (env : Env) (time : TimeInternal) (fromSelf : Bool)
    (hf : s.portState.Following) (hp : ¬isFromCurrentParent s.ptpClock) :
    Spares s (dispatch env time fromSelf s) := by
  unfold dispatch
  -- by the message type; the event messages are logged before they are handled
  split
  next htype => exact (handleAnnounce_foreign hf hp).spares htype rfl
  next htype =>
    apply Spares.of_log (e := .eventMessage s.frameStamp time)
    refine TreatsForeign.spares ?_ htype rfl
    exact handleSync_foreign hf hp
  next htype => exact (handleFollowUp_foreign hf hp).spares htype rfl
  next htype =>
    apply Spares.of_log (e := .eventMessage s.frameStamp time)
    refine spares_of_mechanism (m := .e2e) htype rfl ?_ ?_
    · exact fun hd => handleDelayReq_foreign hd hf
    · exact fun hd => by
        unfold handleDelayReq
        split
        next hd' => exact absurd hd' hd
        · rfl
  next htype =>
    apply Spares.of_log (e := .eventMessage s.frameStamp time)
    refine spares_of_mechanism (m := .p2p) htype rfl ?_ ?_
    · exact fun hd => handlePDelayReq_foreign hd hf
    · exact fun hd => by
        unfold handlePDelayReq
        split
        next hd' => exact absurd hd' hd
        · rfl
  next htype =>
    refine spares_of_mechanism (m := .e2e) htype rfl ?_ ?_
    · exact fun hd => handleDelayResp_foreign hd hf hp
    · exact fun hd => by
        unfold handleDelayResp
        split
        next hd' => exact absurd hd' hd
        · rfl
  next htype =>
    apply Spares.of_log (e := .eventMessage s.frameStamp time)
    refine spares_of_mechanism (m := .p2p) htype rfl ?_ ?_
    · exact fun hd => handlePDelayResp_foreign hd hf
    · exact fun hd => by
        unfold handlePDelayResp
        split
        next hd' => exact absurd hd' hd
        · rfl
  next htype =>
    refine spares_of_mechanism (m := .p2p) htype rfl ?_ ?_
    · exact fun hd => handlePDelayRespFollowUp_foreign hd hf
    · exact fun hd => by
        unfold handlePDelayRespFollowUp
        split
        next hd' => exact absurd hd' hd
        · rfl
  next htype =>
    refine spares_of_untaken rfl fun type' htype' => ?_
    rw [← Option.some.inj (htype.symm.trans htype')]
    rfl
  next htype =>
    refine spares_of_untaken rfl fun type' htype' => ?_
    rw [← Option.some.inj (htype.symm.trans htype')]
    rfl
  next htype => exact spares_of_untaken rfl fun type' htype' => by cases htype.symm.trans htype'

end Handlers

/-! ## One call of `handle` -/

section Call

variable {env : Env} {time : TimeInternal} {s : System}

/-- What becomes of a datagram that is not from the parent: a malformed one resets the servo, any
other leaves it alone. -/
def Unmoved (c : PtpClock) (s t : System) : Prop :=
  (Malformed c → ServoReset s t) ∧ (¬Malformed c → t.servoView = s.servoView)

theorem process_foreign (env : Env) (time : TimeInternal) (hf : s.portState.Following)
    (hlen : 0 < s.ptpClock.msgIbufLength) (hp : ¬FromParent s.ptpClock) :
    Unmoved s.ptpClock s (process env time s) := by
  unfold process
  dsimp only
  split
  next hshort =>
    -- no complete header
    refine ⟨fun _ => ?_, fun hwell => absurd ⟨hlen, .inl hshort⟩ hwell⟩
    exact ServoReset.of_servoView (toState_faulty_reset hf) rfl
  next hheader =>
    have hother : ¬isFromCurrentParent (unpackHeader (s.setMessageActivity true)).ptpClock :=
      fun h => hp ⟨Int.not_lt.mp hheader, h⟩
    split
    next hversion =>
      refine ⟨fun hbad => ?_, fun _ => rfl⟩
      exact (hbad.2.elim hheader fun h => hversion h.1).elim
    split
    next hdomain =>
      refine ⟨fun hbad => ?_, fun _ => rfl⟩
      exact (hbad.2.elim hheader fun h => hdomain h.2.1).elim
    next hversion hdomain =>
      let c := (unpackHeader (s.setMessageActivity true)).ptpClock
      have hspares := dispatch_foreign env (inboundTime c time) (isFromSelf c)
        (s := unpackHeader (s.setMessageActivity true)) hf hother
      constructor
      · intro hbad
        have hshort := hbad.2.resolve_left hheader
        exact (hspares.1 hshort.2.2).of_servoView rfl
      · intro hwell
        refine hspares.2 fun hshort => hwell ⟨hlen, .inr ⟨?_, ?_, hshort⟩⟩
        · exact not_not.mp hversion
        · exact not_not.mp hdomain

theorem netRecv_length_nonneg (env : Env) (p : Pbuf) (time : TimeInternal) (s : System) :
    0 ≤ (netRecv env p time s).1 := by
  unfold netRecv
  split
  · exact Int.le_refl 0
  split
  · exact Int.le_refl 0
  · exact Int.natCast_nonneg _

/-- Reception never fails. -/
theorem receive_length_nonneg (env : Env) (s : System) :
    0 ≤ (receive env s).2.ptpClock.msgIbufLength := by
  have hevent : 0 ≤ (netRecvEvent env ⟨0, 0⟩ s).1 := by
    unfold netRecvEvent
    dsimp only
    split
    · exact Int.le_refl 0
    · exact netRecv_length_nonneg env _ _ _
  have hgeneral (time : TimeInternal) (s : System) : 0 ≤ (netRecvGeneral env time s).1 := by
    unfold netRecvGeneral
    dsimp only
    split
    · exact Int.le_refl 0
    · exact netRecv_length_nonneg env _ _ _
  unfold receive
  dsimp only
  split
  · exact hevent
  · exact hgeneral _ _

/-- Nothing is received from empty queues. -/
theorem receive_of_empty (env : Env) (h : netSelect s.ptpClock.netPath = 0) :
    (receive env s).2.ptpClock.msgIbufLength = 0 := by
  unfold netSelect at h
  split at h
  · cases h
  next hempty =>
  rw [Bool.or_eq_true, not_or] at hempty
  obtain ⟨hevent, hgeneral⟩ := hempty
  have hget (queue : BufQueue) (hq : ¬netQCheck queue = true) : netQGet queue = (none, queue) :=
    if_neg fun hne => hq (decide_eq_true hne)
  have hfirst : netRecvEvent env ⟨0, 0⟩ s = (0, ⟨0, 0⟩, s) := by
    unfold netRecvEvent
    rw [hget _ hevent]
    rfl
  unfold receive
  rw [hfirst]
  dsimp only
  rw [if_neg (by decide)]
  unfold netRecvGeneral
  rw [show netQGet (s.modify fun c => { c with msgIbufLength := 0 }).ptpClock.netPath.generalQ =
    (none, s.ptpClock.netPath.generalQ) from hget _ hgeneral]
  rfl

/-- **One call of `handle`** that receives no complete header of the parent. -/
theorem handle_foreign (env : Env) (hf : s.portState.Following)
    (hp : ¬FromParent (receive env s).2.ptpClock) :
    Unmoved (receive env s).2.ptpClock s (handle env s) := by
  have hreceives := receive_receives env s
  have hview : (receive env s).2.servoView = s.servoView := hreceives.servoView
  have hidle : (receive env s).2.ptpClock.msgIbufLength = 0 → ∀ {t : System},
      t.servoView = s.servoView → Unmoved (receive env s).2.ptpClock s t := by
    intro hzero t ht
    refine ⟨fun hbad => ?_, fun _ => ht⟩
    exact absurd hbad.1 (by rw [hzero]; decide)
  unfold handle
  dsimp only
  split
  next hnegative =>
    -- `netSelect` never fails
    exact absurd hnegative.2 (by unfold netSelect; split <;> decide)
  split
  next hnothing => exact hidle (receive_of_empty env hnothing.2) rfl
  split
  next hfailed => exact absurd (receive_length_nonneg env s) (Int.not_le.mpr hfailed)
  split
  next hzero => exact hidle hzero hview
  next hsome hne =>
    have hlen : 0 < (receive env s).2.ptpClock.msgIbufLength :=
      lt_of_le_of_ne (receive_length_nonneg env s) (Ne.symm hne)
    have hfollow : (receive env s).2.portState.Following := by
      rw [hreceives.portState]
      exact hf
    obtain ⟨hbad, hwell⟩ := process_foreign env (receive env s).1 hfollow hlen hp
    exact ⟨fun h => (hbad h).of_servoView hview, fun h => (hwell h).trans hview⟩

/-- A datagram without a complete header of the parent moves neither the offset, nor the mean path
delay, nor the clock of a port that follows a master; it leaves the rest of the servo alone as well,
unless it is malformed, which makes the port faulty and resets its servo. -/
theorem foreign_datagram_spares (env : Env) (s : System) (hf : s.portState.Following)
    (hp : ¬FromParent (receive env s).2.ptpClock) :
    (handle env s).ptpClock.currentDS.offsetFromMaster = s.ptpClock.currentDS.offsetFromMaster ∧
      (handle env s).ptpClock.currentDS.meanPathDelay = s.ptpClock.currentDS.meanPathDelay ∧
      (handle env s).time = s.time ∧
      (¬Malformed (receive env s).2.ptpClock → (handle env s).servoView = s.servoView) ∧
      (Malformed (receive env s).2.ptpClock →
        (handle env s).portState = .faulty ∧ (handle env s).ptpClock.Tms = ⟨0, 0⟩ ∧
          (handle env s).ptpClock.observedDrift = 0 ∧ (handle env s).ptpClock.ofmFilt.n = 0) := by
  obtain ⟨hbad, hwell⟩ := handle_foreign env hf hp
  by_cases hmalformed : Malformed (receive env s).2.ptpClock
  · obtain ⟨hstate, hTms, hdrift, hn, hoffset, hdelay, htime⟩ := hbad hmalformed
    exact ⟨hoffset, hdelay, htime, fun h => absurd hmalformed h, fun _ =>
      ⟨hstate, hTms, hdrift, hn⟩⟩
  · have hview := hwell hmalformed
    refine ⟨?_, ?_, ?_, fun _ => hview, fun h => absurd h hmalformed⟩
    · exact congrArg ServoView.offsetFromMaster hview
    · exact congrArg ServoView.meanPathDelay hview
    · exact congrArg ServoView.time hview

end Call

/-! ## A datagram of one octet -/

/-- A calibrated slave that has received one octet. -/
def octetReceived : System := calibratedSlave.after (generalArrival [0] (atSecond 7))

theorem foreign_datagram_spares_octet :
    (handle plainEnv octetReceived).time = octetReceived.time :=
  (foreign_datagram_spares plainEnv octetReceived (by decide +kernel) (by decide +kernel)).2.2.1

/-- One octet resets the filter of a calibrated slave. -/
theorem octet_resets_servo :
    Reachable ptpdOpts octetReceived ∧ octetReceived.portState = .slave ∧
      ¬FromParent (receive plainEnv octetReceived).2.ptpClock ∧
      octetReceived.ptpClock.ofmFilt.n = 1 ∧
      (handle plainEnv octetReceived).ptpClock.ofmFilt.n = 0 :=
  ⟨calibratedSlave_reachable.after _, by decide +kernel, by decide +kernel, by decide +kernel,
    by decide +kernel⟩

end Ptpd

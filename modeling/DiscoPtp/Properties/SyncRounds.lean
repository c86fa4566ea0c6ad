import DiscoPtp.Properties.DelaySamples
import DiscoPtp.Properties.Network
import DiscoPtp.Properties.Numbering
import DiscoPtp.Properties.Promises

/-!
# Rounds of a master

The Syncs and Follow_Ups that a port hands to `netSend` form rounds: a Sync, and if `netSend`
returns a time for it, its Follow_Up before anything else of the two. The Follow_Up has the number
of its Sync and tells that time: the transmit timestamp, or after a failed transmission the reading
of the clock that the Sync itself bears.

## Main definitions

* `syncSends`: the Syncs and Follow_Ups that have been handed to `netSend`
* `SyncRounds`: the rounds
* `ReadingStep`: the steps of runs whose Syncs are packed at certain readings of the clock
* `Equipped`: an initialised port, with the data that `initData` sets

## Main results

* `syncSends_of_sent`: what sends other messages leaves the rounds alone
* `ReadingStep.rounds`: the rounds of a run
-/

namespace Ptpd

open History
open Relation (ReflTransGen)

/-! ## Rounds -/

/-- A Sync or a Follow_Up is handed to `netSend`. -/
def Entry.isSyncSend : Entry → Bool
  | .send type _ _ => type = .sync || type = .followUp
  | _ => false

/-- The Syncs and Follow_Ups that have been handed to `netSend`, the newest first. -/
def syncSends (history : List Entry) : List Entry := history.filter Entry.isSyncSend

/-- The origin timestamp that a receiver unpacks from a Sync. -/
def originIn (packet : List UInt8) : Timestamp := msgUnpackSync (octetsOf packet)

/-- The origin timestamp that a receiver unpacks from a Follow_Up. -/
def preciseOriginIn (packet : List UInt8) : Timestamp := msgUnpackFollowUp (octetsOf packet)

/-- A time that is not negative. -/
def TimeInternal.Nonneg (time : TimeInternal) : Prop := 0 ≤ time.seconds ∧ 0 ≤ time.nanoseconds

instance (time : TimeInternal) : Decidable time.Nonneg :=
  inferInstanceAs (Decidable (0 ≤ time.seconds ∧ 0 ≤ time.nanoseconds))

/-- A timestamp tells a time, if it can: a negative one has no timestamp. -/
def Timestamp.Tells (stamp : Timestamp) (time : TimeInternal) : Prop :=
  0 ≤ time.seconds → 0 ≤ time.nanoseconds → stamp.Is time

/-- **The rounds**, up to the next number. A Sync is packed at a reading of the clock, which has the
property `P`, and bears this reading. It stands alone if `netSend` returns no time for it, which is
the transmit time or else the reading; or the Follow_Up comes right after it, and tells the time
with the outbound latency added. -/
inductive SyncRounds (P : TimeInternal → Prop) (latency : TimeInternal) : Int16 → List Entry → Prop
  | start : SyncRounds P latency 0 []
  | alone {id : Int16} {older : List Entry} (h : SyncRounds P latency id older)
      (sync : List UInt8) (outcome : SendOutcome) (now : TimeInternal)
      (hid : sequenceIdOf sync = id) (hnow : P now) (hread : (originIn sync).Tells now)
      (hnone : (outcome.egress now).seconds = 0) :
      SyncRounds P latency (id + 1) (.send .sync sync outcome :: older)
  | followed {id : Int16} {older : List Entry} (h : SyncRounds P latency id older)
      (sync followUp : List UInt8) (outcome outcome' : SendOutcome) (now : TimeInternal)
      (hid : sequenceIdOf sync = id) (hid' : sequenceIdOf followUp = id) (hnow : P now)
      (hread : (originIn sync).Tells now) (hsome : (outcome.egress now).seconds ≠ 0)
      (horigin : (preciseOriginIn followUp).Tells (addTime (outcome.egress now) latency)) :
      SyncRounds P latency (id + 1)
        (.send .followUp followUp outcome' :: .send .sync sync outcome :: older)

/-- **The round of a Follow_Up.** -/
theorem SyncRounds.of_followUp {P : TimeInternal → Prop} {latency : TimeInternal} {next : Int16}
    {sends : List Entry} (h : SyncRounds P latency next sends) {followUp : List UInt8}
    {outcome : SendOutcome} (hmem : .send .followUp followUp outcome ∈ sends) :
    ∃ sync outcome' now, .send .sync sync outcome' ∈ sends ∧
      sequenceIdOf sync = sequenceIdOf followUp ∧
      (preciseOriginIn followUp).Tells (addTime (outcome'.egress now) latency) := by
  induction h with
  | start => cases hmem
  | alone h sync outcome' now hid hnow hread hnone ih =>
    rcases List.mem_cons.mp hmem with heq | hmem
    · cases heq
    · obtain ⟨sync', outcome₁, now', hmem', hrest⟩ := ih hmem
      exact ⟨sync', outcome₁, now', List.mem_cons_of_mem _ hmem', hrest⟩
  | followed h sync followUp' outcome' outcome₁ now hid hid' hnow hread hsome horigin ih =>
    rcases List.mem_cons.mp hmem with heq | hmem
    · obtain ⟨-, rfl, -⟩ := Entry.send.inj heq
      exact ⟨sync, outcome', now, List.mem_cons_of_mem _ List.mem_cons_self, hid.trans hid'.symm,
        horigin⟩
    rcases List.mem_cons.mp hmem with heq | hmem
    · cases heq
    · obtain ⟨sync', outcome₂, now', hmem', hrest⟩ := ih hmem
      exact ⟨sync', outcome₂, now',
        List.mem_cons_of_mem _ (List.mem_cons_of_mem _ hmem'), hrest⟩

/-! ## What leaves the rounds alone -/

theorem sends_append (newer older : List Entry) :
    sends (newer ++ older) = sends newer ++ sends older := by
  induction newer with
  | nil => rfl
  | cons e newer ih =>
    cases e with
    | send type packet outcome => exact congrArg ((type, packet) :: ·) ih
    | _ => exact ih

/-- The Syncs are among them. -/
theorem packetsOf_sync (history : List Entry) :
    packetsOf .sync (syncSends history) = packetsOf .sync history := by
  induction history with
  | nil => rfl
  | cons e history ih =>
    cases e with
    | send type packet outcome =>
      cases type with
      | sync => exact congrArg (packet :: ·) ih
      | _ => exact ih
    | _ => exact ih

section Sent

variable {rtOpts : RunTimeOpts} {P : TimeInternal → Prop} {latency : TimeInternal} {s t : System}
  {types : List MessageType}

/-- A part that sends other messages only. -/
theorem syncSends_of_sent (hsent : Sent s t types) (hsuffix : s.history <:+ t.history)
    (hsync : .sync ∉ types) (hfollowUp : .followUp ∉ types) :
    syncSends t.history = syncSends s.history := by
  obtain ⟨newer, hnewer⟩ := hsuffix
  obtain ⟨sent, hlist, hle⟩ := hsent
  -- the entries that are new send what the part sends
  have hnone : sentTypes newer = sent.reverse := by
    unfold sentTypes at hlist ⊢
    rw [← hnewer, sends_append, List.map_append] at hlist
    exact List.append_cancel_right hlist
  have hquiet : syncSends newer = [] := by
    refine List.filter_eq_nil_iff.mpr fun e he => ?_
    cases e with
    | send type packet outcome =>
      have hmem : type ∈ sentTypes newer := List.mem_map.mpr ⟨_, mem_sends he, rfl⟩
      rw [hnone, List.mem_reverse] at hmem
      have htype := hle.subset hmem
      simp only [Entry.isSyncSend, Bool.or_eq_true, decide_eq_true_eq, not_or]
      constructor
      · rintro rfl
        exact hsync htype
      · rintro rfl
        exact hfollowUp htype
    | _ => simp [Entry.isSyncSend]
  rw [← hnewer, syncSends, List.filter_append]
  show syncSends newer ++ syncSends s.history = _
  rw [hquiet, List.nil_append]

/-- The rounds of a state. -/
def System.Rounds (s : System) (P : TimeInternal → Prop) (latency : TimeInternal) : Prop :=
  SyncRounds P latency s.ptpClock.sentSyncSequenceId (syncSends s.history)

/-- The counter depends on the Syncs only. -/
theorem System.Rounds.quiet (h : s.Rounds P latency) (hs : Visited rtOpts s)
    (ht : Visited rtOpts t) (heq : syncSends t.history = syncSends s.history) :
    t.Rounds P latency := by
  have hpackets : packetsOf .sync t.history = packetsOf .sync s.history := by
    rw [← packetsOf_sync t.history, heq, packetsOf_sync]
  have hcounter : t.ptpClock.sentSyncSequenceId = s.ptpClock.sentSyncSequenceId := by
    have hsnext := (hs.numbered .sync _ rfl).next
    have htnext := (ht.numbered .sync _ rfl).next
    change s.ptpClock.sentSyncSequenceId = Int16.ofNat (packetsOf .sync s.history).length at hsnext
    change t.ptpClock.sentSyncSequenceId = Int16.ofNat (packetsOf .sync t.history).length at htnext
    rw [htnext, hpackets, ← hsnext]
  unfold System.Rounds
  rw [hcounter, heq]
  exact h

end Sent

/-! ## Initialised ports -/

/-- An initialised port: it is a two-step clock with the latency of the options. -/
structure Equipped (rtOpts : RunTimeOpts) (s : System) : Prop where
  settled : s.engine.Settled
  twoStep : s.ptpClock.defaultDS.twoStepFlag = true
  latency : s.ptpClock.outboundLatency = rtOpts.outboundLatency

section Equipped

variable {rtOpts : RunTimeOpts} {env : Env} {s t : System}

/-- No action changes the latency of an initialised port. -/
theorem outboundLatency_kept {P : PtpState → Prop} (h : Actions P s t)
    (hopts : s.ptpClock.rtOpts.outboundLatency = rtOpts.outboundLatency)
    (hs : s.ptpClock.outboundLatency = rtOpts.outboundLatency) :
    t.ptpClock.outboundLatency = rtOpts.outboundLatency := by
  have hkeep : Transition.Preserves LedgerStep fun l : Ledger =>
      l.rtOpts.outboundLatency = rtOpts.outboundLatency ∧
        l.outboundLatency = rtOpts.outboundLatency := by
    intro l l' hstep hl
    cases hstep
    case initData => exact ⟨hl.1, hl.1⟩
    all_goals exact hl
  have hboth := (hkeep.of_simulates action_simulates).run h ⟨hopts, hs⟩
  exact hboth.2

theorem doInit_equips (h : Dormant rtOpts s) (hnet : env.netInit = true) :
    (doInit env s).2.ptpClock.defaultDS.twoStepFlag = true ∧
      (doInit env s).2.ptpClock.outboundLatency = (startupOpts rtOpts).outboundLatency := by
  obtain ⟨_, _, hclock, -⟩ := initClock_eq (initTimer ((netInit env s).2.modify initData))
  unfold doInit
  dsimp only
  rw [netInit_fst, if_pos hnet, hclock]
  refine ⟨rfl, ?_⟩
  show s.ptpClock.rtOpts.outboundLatency = _
  rw [h.options]

/-- **An initialised port** stays one, with the same latency. -/
theorem Equipped.step (hs : Visited rtOpts s) (h : Equipped rtOpts s) (hstep : Step s t) :
    Equipped rtOpts t := by
  have hactions : Actions (fun _ => True) s t := by
    cases hstep with
    | doState env => exact doState_actions env s fun _ => trivial
    | interrupt i => exact .single (.interrupt i s)
  have hlatency := outboundLatency_kept hactions hs.outboundLatency h.latency
  cases hstep with
  | interrupt i =>
    have hengine := interrupt_engine i s
    have htwo : (interrupt s i).engine.identity.1.twoStepFlag = true := by
      rw [hengine]
      exact h.twoStep
    exact ⟨hengine ▸ h.settled, htwo, hlatency⟩
  | doState env =>
    have hcall := doState_call env h.settled
    have htwo : (doState env s).engine.identity.1.twoStepFlag = true := by
      rw [h.settled.call_identity hcall]
      exact h.twoStep
    exact ⟨h.settled.call hcall, htwo, hlatency⟩

/-- The first successful `doInit` equips a port. -/
theorem Dormant.equips (hs : Visited rtOpts s) (h : Dormant rtOpts s) (hstep : Step s t) :
    Dormant rtOpts t ∨ Equipped rtOpts t := by
  refine (h.step_cases hstep).imp_right ?_
  rintro ⟨env, u, hu, hnet, rfl⟩
  have hsettled : (enterState env .listening
      ((doInit env u).2.setMessageActivity true)).engine.Settled := by
    rw [enterState_engine, setMessageActivity_engine]
    exact (hu.initialises hnet).settled
  obtain ⟨htwo, hlatency⟩ := doInit_equips hu hnet
  refine ⟨hsettled, htwo, hlatency.trans ?_⟩
  -- the options are those that the daemon was started with
  rw [← h.options]
  exact hs.outboundLatency

end Equipped

/-! ## The rounds of a run -/

/-- **The steps** of the runs in which the clock shows times with the property `P` when a call
begins the actions of the port state. A master looks at its Sync timer first, and packs the Sync
then. -/
inductive ReadingStep (P : TimeInternal → Prop) : System → System → Prop
  | doState (env : Env) (s : System) (h : P (getTime (switchCall env s))) :
    ReadingStep P s (doState env s)
  | interrupt (i : Interrupt) (s : System) : ReadingStep P s (interrupt s i)

section Runs

variable {rtOpts : RunTimeOpts} {P : TimeInternal → Prop} {env : Env} {s t : System}

theorem ReadingStep.step (h : ReadingStep P s t) : Step s t := by
  cases h with
  | doState env => exact .doState env s
  | interrupt i => exact .interrupt i s

/-- All runs are such, if nothing is asked of the readings. -/
theorem Reachable.readings (h : Reachable rtOpts s) :
    ReflTransGen (ReadingStep fun _ => True) (boot rtOpts) s := by
  obtain ⟨_, rfl, hrun⟩ := h
  refine ReflTransGen.mono (fun u v hstep => ?_) _ _ hrun
  cases hstep with
  | doState env => exact .doState env u trivial
  | interrupt i => exact .interrupt i u

/-- The first two switches, as actions. -/
theorem switchCall_actions (env : Env) (s : System) :
    Actions (fun _ => True) s (switchCall env s) := by
  refine .trans (.single (.messageActivity false s)) ?_
  refine .trans (stateDecision_actions _) ?_
  refine .trans (followRecommendation_actions env _ fun _ _ => trivial) ?_
  exact pause_actions env .actions _

/-- A Sync tells the time that it is packed with. -/
theorem origin_packet (c : PtpClock) (buf : Buf) (time : TimeInternal) (old : Timestamp) :
    (originIn (packetOf (msgPackSync c buf (fromInternalTime time old)) syncLength)).Tells
      time := by
  intro hs hn
  have hagree := packetOf_agreeBelow (msgPackSync c buf (fromInternalTime time old)) syncLength
  have hstamp : originIn (packetOf (msgPackSync c buf (fromInternalTime time old)) syncLength) =
      fromInternalTime time old := by
    unfold originIn msgUnpackSync
    rw [hagree.timestamp (by decide)]
    exact @timestamp_pack buf (.sync c (fromInternalTime time old)) _ rfl
  rw [hstamp]
  exact fromInternalTime_is hs hn old

/-- A Follow_Up tells the time that it is packed with. -/
theorem preciseOrigin_packet (c : PtpClock) (buf : Buf) (time : TimeInternal) (old : Timestamp) :
    (preciseOriginIn (packetOf (msgPackFollowUp c buf (fromInternalTime time old))
      followUpLength)).Tells time := by
  intro hs hn
  have hagree := packetOf_agreeBelow (msgPackFollowUp c buf (fromInternalTime time old))
    followUpLength
  have hstamp : preciseOriginIn (packetOf (msgPackFollowUp c buf (fromInternalTime time old))
      followUpLength) = fromInternalTime time old := by
    unfold preciseOriginIn msgUnpackFollowUp
    rw [hagree.timestamp (by decide)]
    exact @timestamp_pack buf (.followUp c (fromInternalTime time old)) _ rfl
  rw [hstamp]
  exact fromInternalTime_is hs hn old

/-- **One round**: `issueSync`. -/
theorem System.Rounds.issueSync (h : s.Rounds P rtOpts.outboundLatency)
    (hread : P (getTime s)) (htwo : s.ptpClock.defaultDS.twoStepFlag = true)
    (hlatency : s.ptpClock.outboundLatency = rtOpts.outboundLatency) :
    (issueSync env s).Rounds P rtOpts.outboundLatency := by
  have hsync : sequenceIdOf (packetOf (msgPackSync s.ptpClock s.ptpClock.msgObuf
      (originNow env s)) syncLength) = s.ptpClock.sentSyncSequenceId :=
    sequenceIdOf_pack (.sync s.ptpClock (originNow env s)) _
  have hbears : (originIn (packetOf (msgPackSync s.ptpClock s.ptpClock.msgObuf
      (originNow env s)) syncLength)).Tells (getTime s) := origin_packet _ _ _ env.localTimestamp
  rw [issueSync_eq]
  split
  next hstamp =>
    have hid : sequenceIdOf (packetOf (msgPackFollowUp (sentSync env s).ptpClock
        (sentSync env s).ptpClock.msgObuf
        (fromInternalTime (addTime (egressTime env .sync (getTime s)) s.ptpClock.outboundLatency)
          env.localTimestamp)) followUpLength) = s.ptpClock.sentSyncSequenceId := by
      refine (sequenceIdOf_pack (.followUp (sentSync env s).ptpClock _) _).trans ?_
      -- the counter has gone on meanwhile, and the Follow_Up takes the number before it
      show s.ptpClock.sentSyncSequenceId + 1 - 1 = _
      exact Int16.add_sub_cancel _ _
    have horigin := preciseOrigin_packet (sentSync env s).ptpClock
      (sentSync env s).ptpClock.msgObuf
      (addTime (egressTime env .sync (getTime s)) s.ptpClock.outboundLatency) env.localTimestamp
    rw [issueFollowup_eq]
    rw [hlatency] at hid horigin ⊢
    exact SyncRounds.followed h _ _ (env.send .sync) (env.send .followUp) (getTime s) hsync hid
      hread hbears hstamp.1 horigin
  next hstamp =>
    -- a two-step clock leaves out the Follow_Up only for want of a time
    have hnone : ((env.send .sync).egress (getTime s)).seconds = 0 := by
      by_contra hne
      exact hstamp ⟨hne, htwo⟩
    exact SyncRounds.alone h _ (env.send .sync) (getTime s) hsync hread hbears hnone

/-- **One call**: only an initialised port is a master. -/
theorem System.Rounds.doState (hs : Visited rtOpts s)
    (hmasters : (switchCall env s).portState = .master → Equipped rtOpts s)
    (hread : P (getTime (switchCall env s))) (h : s.Rounds P rtOpts.outboundLatency) :
    (doState env s).Rounds P rtOpts.outboundLatency := by
  have hswitch : Actions (fun _ => True) s (switchCall env s) :=
    switchCall_actions env s
  have hv := hs.run hswitch
  have hstart := h.quiet hs hv (syncSends_of_sent (switchCall_sent env s)
    (actions_history_suffix hswitch) List.not_mem_nil List.not_mem_nil)
  have hend : Visited rtOpts (Ptpd.doState env s) :=
    hs.run (doState_actions env s fun _ => trivial)
  rw [doState_eq] at hend ⊢
  by_cases hmaster : (switchCall env s).portState = .master
  · have hequipped := hmasters hmaster
    have hactions : portActions env (switchCall env s) = masterActions env (switchCall env s) := by
      unfold portActions
      rw [hmaster]
    rw [hactions] at hend ⊢
    -- the Sync timer comes first
    have hsync : Actions (fun _ => True) (switchCall env s)
        (syncTimerActions env (switchCall env s)) := syncTimerActions_actions env _
    have hround : (syncTimerActions env (switchCall env s)).Rounds P rtOpts.outboundLatency := by
      unfold syncTimerActions
      dsimp only
      split
      · refine System.Rounds.issueSync hstart hread ?_ ?_
        · obtain ⟨e₁, hd, hdecided, hengine⟩ := switchCall_engine env hequipped.settled
          obtain ⟨_, _, _, _, _, _, _, hfollow⟩ := Engine.follow_followed e₁
          have htwo : (switchCall env s).engine.defaultDS = s.engine.defaultDS := by
            rw [hengine, hfollow]
            cases hd <;> rfl
          exact (congrArg DefaultDS.twoStepFlag htwo).trans hequipped.twoStep
        · exact outboundLatency_kept (hswitch.tail (.timerExpired .syncInterval _))
            hs.outboundLatency hequipped.latency
      · exact hstart
    have hlater := masterActions_sent_later env hmaster
    have hsuffix : (syncTimerActions env (switchCall env s)).history <:+
        (masterActions env (switchCall env s)).history := by
      refine actions_history_suffix (P := fun _ => True) ?_
      refine .trans (pause_actions env .announceTimer _) ?_
      refine .trans (announceTimerActions_actions env _) ?_
      refine .trans (pause_actions env .handling _) ?_
      refine .trans (handle_actions env _ trivial) ?_
      exact .trans (pause_actions env .requestTimer _) (issueDelayReqTimerExpired_actions env _)
    refine hround.quiet (hv.run hsync) hend (syncSends_of_sent hlater hsuffix ?_ ?_)
    · cases (switchCall env s).delayMechanism <;> decide
    · cases (switchCall env s).delayMechanism <;> decide
  -- in the other states neither is sent
  · have hquiet : .sync ∉ repertoire (switchCall env s).portState
          (switchCall env s).delayMechanism ∧
        .followUp ∉ repertoire (switchCall env s).portState
          (switchCall env s).delayMechanism := by
      generalize (switchCall env s).portState = state at hmaster
      generalize (switchCall env s).delayMechanism = mechanism
      cases state <;> cases mechanism <;> first | decide | exact absurd rfl hmaster
    have hactions : Actions (fun _ => True) (switchCall env s)
        (portActions env (switchCall env s)) := portActions_actions env _ fun _ => trivial
    exact hstart.quiet hv hend (syncSends_of_sent (portActions_sent env _)
      (actions_history_suffix hactions) hquiet.1 hquiet.2)

/-- What happens outside of the PTP task sends nothing. -/
theorem System.Rounds.interrupt (hs : Visited rtOpts s) (h : s.Rounds P rtOpts.outboundLatency)
    (i : Interrupt) : (Ptpd.interrupt s i).Rounds P rtOpts.outboundLatency := by
  have haction : Actions (fun _ => True) s (Ptpd.interrupt s i) := .single (.interrupt i s)
  have hsent : Sent s (Ptpd.interrupt s i) [] :=
    .of_eq (congrArg (List.map Prod.fst) (sends_of_reception (interrupts_reception [i] s)))
  exact h.quiet hs (hs.run haction) (syncSends_of_sent hsent (actions_history_suffix haction)
    List.not_mem_nil List.not_mem_nil)

/-- **Every port sends in rounds**, and packs its Syncs at the readings of the run. -/
theorem ReadingStep.rounds (hrun : ReflTransGen (ReadingStep P) (boot rtOpts) s) :
    s.Rounds P rtOpts.outboundLatency := by
  have hboth : (Dormant rtOpts s ∨ Equipped rtOpts s) ∧ s.Rounds P rtOpts.outboundLatency := by
    induction hrun with
    | refl =>
      refine ⟨.inl (boot_dormant rtOpts), ?_⟩
      obtain ⟨_, hboot, -⟩ := boot_eq rtOpts
      rw [hboot]
      exact .start
    | @tail s t hrun hstep ih =>
      obtain ⟨hplace, hrounds⟩ := ih
      have hs : Visited rtOpts s :=
        Reachable.visited ⟨_, rfl, ReflTransGen.mono (fun _ _ => ReadingStep.step) _ _ hrun⟩
      constructor
      · rcases hplace with hdormant | hequipped
        · exact hdormant.equips hs hstep.step
        · exact .inr (hequipped.step hs hstep.step)
      · cases hstep with
        | interrupt i => exact hrounds.interrupt hs i
        | doState env _ hread =>
          -- before its initialisation a port is no master
          refine hrounds.doState hs (fun hmaster => hplace.resolve_left fun hdormant => ?_) hread
          rcases (hdormant.switchCall env).unready.1 with hstate | hstate
          · rw [hmaster] at hstate
            cases hstate
          · rw [hmaster] at hstate
            cases hstate
  exact hboth.2

/-- In every run whose Syncs are packed while the clock shows no negative time, the Syncs and
Follow_Ups that a port hands to `netSend` form rounds, whatever else it sends and whatever becomes
of the transmissions: the Syncs are numbered from zero on modulo `2 ^ 16`, a Sync for which
`netSend` returns a time is followed by its Follow_Up, which has its number and tells that time with
the outbound latency added, and there are no other Follow_Ups. The time is the transmit timestamp,
or without one the reading that the Sync bears. -/
theorem sync_rounds (hrun : ReflTransGen (ReadingStep TimeInternal.Nonneg) (boot rtOpts) s) :
    SyncRounds TimeInternal.Nonneg rtOpts.outboundLatency s.ptpClock.sentSyncSequenceId
      (syncSends s.history) :=
  ReadingStep.rounds hrun

end Runs

/-! ## A master with transmit timestamps -/

/-- The readings of a schedule. -/
def System.ReadsNonneg (s : System) : List Stimulus → Bool
  | [] => true
  | x :: schedule =>
    (match x with
      | .doState env => (getTime (switchCall env s)).Nonneg
      | .interrupt _ => true) && (s.respond x).ReadsNonneg schedule

theorem System.ReadsNonneg.run {s : System} {schedule : List Stimulus}
    (h : s.ReadsNonneg schedule = true) :
    ReflTransGen (ReadingStep TimeInternal.Nonneg) s (s.after schedule) := by
  induction schedule generalizing s with
  | nil => exact .refl
  | cons x schedule ih =>
    obtain ⟨hread, hrest⟩ := Bool.and_eq_true_iff.mp h
    refine .head ?_ (ih hrest)
    cases x with
    | doState env => exact .doState env s (of_decide_eq_true hread)
    | interrupt i => exact .interrupt i s

/-- A master packs three Syncs: the first is transmitted, the transmission of the second fails while
the clock shows seven seconds, and that of the third while it shows none. -/
def syncingSchedule : List Stimulus :=
  [.doState plainEnv, .interrupt (.timerCallback .announceReceipt), .doState plainEnv,
    .interrupt (.timerCallback .syncInterval),
    .doState { plainEnv with send := fun _ => .sent (atSecond 5) },
    .interrupt (.tick (atSecond 7)), .interrupt (.timerCallback .syncInterval),
    .doState { plainEnv with send := fun _ => .allocFailed },
    .interrupt (.tick (atSecond 0)), .interrupt (.timerCallback .syncInterval),
    .doState { plainEnv with send := fun _ => .allocFailed }]

/-- The second Sync has a Follow_Up as well, and the third has none. -/
def syncing : System := (boot ptpdOpts).after syncingSchedule

theorem sync_rounds_syncing :
    sentTypes (syncSends syncing.history) = [.sync, .followUp, .sync, .followUp, .sync] ∧
      SyncRounds TimeInternal.Nonneg ptpdOpts.outboundLatency syncing.ptpClock.sentSyncSequenceId
        (syncSends syncing.history) :=
  ⟨by decide +kernel, sync_rounds (System.ReadsNonneg.run (by decide +kernel))⟩

end Ptpd

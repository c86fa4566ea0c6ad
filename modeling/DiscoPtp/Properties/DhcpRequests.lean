import DiscoPtp.Model.Dhcp
import DiscoPtp.Library.Schedule

/-!
# Requests of the DHCP server

The server has one pending slot. A datagram that arrives while the slot is in use takes the place of
the one before, which is never freed; if the server is just answering that one, the reply goes to
the sender of the new one, and the new one is dropped with the slot.

## Main definitions

* `Alone`: no datagram is accepted while the slot is in use
* `Dhcps.Serves`: the invariant of runs in which datagrams arrive alone
* `Dhcps.LosesNothing`: what holds of the datagrams and the replies

## Main results

* `Serves.step`: the steps of the callback and of the thread keep the invariant
* `Serves.frees`: the thread frees the pending datagram when its option scan ends
* `requests_served`: datagrams that arrive alone are neither lost nor mixed
-/

namespace Ptpd

namespace Dhcps

/-- A datagram is accepted only when the slot is free. -/
def Alone (d : Dhcps) : DhcpEvent → Prop
  | .recv p => dhcpPayloadLength ≤ p.len → d.pendingBuf = none
  | _ => True

instance (d : Dhcps) : ∀ event, Decidable (d.Alone event)
  | .start => .isTrue trivial
  | .recv _ => inferInstanceAs (Decidable (_ → _))
  | .run _ _ => .isTrue trivial

/-- The option scan of a datagram ends with a message type. -/
def ScanEnds (r : Request) (dhcpType : UInt8) : Prop :=
  ∃ fuel, scanOptions r.options fuel 0 = some dhcpType

/-- All the arguments of a reply are those of one request. -/
structure Answers (reply : DhcpReply) (r : Request) : Prop where
  addr : reply.addr = r.addr
  xid : reply.xid = r.xid
  chaddr : reply.chaddr = r.chaddr
  msgType : ∃ dhcpType, ScanEnds r dhcpType ∧ replyType dhcpType = some reply.msgType

/-- The thread is reading the datagram. -/
def Reads (d : Dhcps) (r : Request) : Prop :=
  d.thread = .scanning r ∨ ∃ dhcpType, d.thread = .answering r dhcpType

/-- A step of the server thread. -/
def ThreadStep (d d' : Dhcps) : Prop := ∃ fuel alloc, d.run fuel alloc = some d'

/-- **Nothing is lost and nothing mixed**: an accepted datagram is freed once, or it is the one in
the slot, which is the only one held; none is freed while it is read; every reply has the address,
the transaction, the hardware address and the message type of one request; and a started thread
frees the datagram in the slot when its scan ends. -/
structure LosesNothing (d : Dhcps) : Prop where
  freedOnce : d.freed.Nodup
  kept : ∀ r ∈ d.accepted, r ∈ d.freed ∨ d.pendingBuf = some r
  held : ∀ r ∈ d.accepted, ∀ r' ∈ d.accepted, r ∉ d.freed → r' ∉ d.freed → r = r'
  reading : ∀ r, d.Reads r → r ∉ d.freed
  replies : ∀ reply ∈ d.replies, ∃ r ∈ d.accepted, Answers reply r
  served : ∀ r dhcpType, d.pendingBuf = some r → d.thread ≠ .notStarted → ScanEnds r dhcpType →
    ∃ d', Relation.ReflTransGen ThreadStep d d' ∧ r ∈ d'.freed

/-! ## The invariant -/

/-- What the place of the thread says about the slot. -/
def PhaseHolds (d : Dhcps) : DhcpPhase → Prop
  | .notStarted | .waiting => d.pendingBuf.isSome → d.sem = true
  | .taken => True
  | .tested | .freeing | .clearing => d.pendingBuf.isSome
  | .scanning msg => d.pendingBuf = some msg
  | .answering msg dhcpType => d.pendingBuf = some msg ∧ ScanEnds msg dhcpType

/-- The invariant. -/
structure Serves (d : Dhcps) : Prop where
  serial : ∀ r ∈ d.accepted, r.serial < d.accepted.length
  freed : ∀ r ∈ d.freed, r ∈ d.accepted
  freedOnce : d.freed.Nodup
  kept : ∀ r ∈ d.accepted, r ∈ d.freed ∨ d.pendingBuf = some r
  slot : ∀ r, d.pendingBuf = some r →
    r ∈ d.accepted ∧ d.pendingAddr = r.addr ∧ (r ∈ d.freed ↔ d.thread = .clearing)
  replies : ∀ reply ∈ d.replies, ∃ r ∈ d.accepted, Answers reply r
  phase : d.PhaseHolds d.thread

variable {d d' : Dhcps}

theorem Serves.init : init.Serves where
  serial := fun _ h => nomatch h
  freed := fun _ h => nomatch h
  freedOnce := List.nodup_nil
  kept := fun _ h => nomatch h
  slot := fun _ h => nomatch h
  replies := fun _ h => nomatch h
  phase := fun h => nomatch h

/-- The thread goes on, without a change to the slot or the datagrams. -/
theorem Serves.goto (h : d.Serves) (sem : Bool) {thread : DhcpPhase} (hd : d.thread ≠ .clearing)
    (ht : thread ≠ .clearing) (hphase : PhaseHolds { d with sem, thread } thread) :
    Serves { d with sem, thread } where
  serial := h.serial
  freed := h.freed
  freedOnce := h.freedOnce
  kept := h.kept
  slot := by
    intro r hr
    obtain ⟨hmem, haddr, hfreed⟩ := h.slot r hr
    exact ⟨hmem, haddr, ⟨fun hf => absurd (hfreed.mp hf) hd, fun hc => absurd hc ht⟩⟩
  replies := h.replies
  phase := hphase

/-- A new datagram in a free slot. -/
theorem Serves.recv (h : d.Serves) {p : DhcpDatagram}
    (halone : dhcpPayloadLength ≤ p.len → d.pendingBuf = none) : (d.recv p).Serves := by
  by_cases hlen : dhcpPayloadLength ≤ p.len
  · have hfree := halone hlen
    unfold Dhcps.recv
    rw [if_pos hlen]
    -- the serial number is new, so the request is none of those before
    let request : Request := { p with serial := d.accepted.length }
    have hnew : request ∉ d.freed := fun hf => Nat.lt_irrefl _ (h.serial request (h.freed _ hf))
    have hphase := h.phase
    -- the server clears the slot only while something is in it
    have hclearing : d.thread ≠ .clearing := by
      intro hc
      rw [hc, PhaseHolds, hfree] at hphase
      cases hphase
    constructor
    · intro r hr
      rcases List.mem_cons.mp hr with rfl | hr
      · exact Nat.lt_succ_self _
      · exact (h.serial r hr).trans (Nat.lt_succ_self _)
    · exact fun r hr => List.mem_cons_of_mem _ (h.freed r hr)
    · exact h.freedOnce
    · intro r hr
      rcases List.mem_cons.mp hr with rfl | hr
      · exact .inr rfl
      · -- what was accepted before is freed, as the slot was free
        rcases h.kept r hr with hf | hs
        · exact .inl hf
        · rw [hfree] at hs
          cases hs
    · intro r hr
      obtain rfl : request = r := Option.some.inj hr
      exact ⟨List.mem_cons_self, rfl,
        ⟨fun hf => absurd hf hnew, fun hc => absurd hc hclearing⟩⟩
    · intro reply hreply
      obtain ⟨r, hr, hanswers⟩ := h.replies reply hreply
      exact ⟨r, List.mem_cons_of_mem _ hr, hanswers⟩
    · revert hphase
      show d.PhaseHolds d.thread → PhaseHolds _ d.thread
      -- the server reads the slot in the later phases, which a free slot excludes
      cases d.thread with
      | notStarted => exact fun _ _ => rfl
      | waiting => exact fun _ _ => rfl
      | taken => exact fun _ => trivial
      | tested => exact fun _ => rfl
      | freeing => exact fun _ => rfl
      | clearing => exact fun _ => rfl
      | scanning msg =>
        intro hmsg
        rw [PhaseHolds, hfree] at hmsg
        cases hmsg
      | answering msg dhcpType =>
        rintro ⟨hmsg, -⟩
        rw [hfree] at hmsg
        cases hmsg
  · unfold Dhcps.recv
    rw [if_neg hlen]
    exact h

theorem reply_eq (msg : Request) (dhcpType : UInt8) (alloc : Bool) :
    ∃ replies, d.reply msg dhcpType alloc = { d with replies } ∧
      (replies = d.replies ∨ ∃ msgType, replyType dhcpType = some msgType ∧
        replies = ⟨d.pendingAddr, msg.xid, msgType, msg.chaddr⟩ :: d.replies) := by
  unfold reply
  cases htype : replyType dhcpType with
  | none => exact ⟨d.replies, rfl, .inl rfl⟩
  | some msgType =>
    cases alloc with
    | false => exact ⟨d.replies, rfl, .inl rfl⟩
    | true => exact ⟨_, rfl, .inr ⟨msgType, rfl, rfl⟩⟩

/-- The reply goes to the sender of the datagram that is answered, which is still in the slot. -/
theorem Serves.answer (h : d.Serves) {msg : Request} {dhcpType : UInt8} (alloc : Bool)
    (ht : d.thread = .answering msg dhcpType) :
    Serves { d.reply msg dhcpType alloc with thread := .freeing } := by
  have hphase := h.phase
  rw [ht] at hphase
  obtain ⟨hslot, hends⟩ := hphase
  obtain ⟨hmem, haddr, -⟩ := h.slot msg hslot
  obtain ⟨replies, heq, hreplies⟩ := reply_eq (d := d) msg dhcpType alloc
  rw [heq]
  -- the reply aside, the server only goes on to the next phase
  have hgoto : Serves { d with sem := d.sem, thread := .freeing } :=
    h.goto d.sem (by rw [ht]; simp) (by simp) (by rw [PhaseHolds]; simp [hslot])
  refine ⟨hgoto.serial, hgoto.freed, hgoto.freedOnce, hgoto.kept, hgoto.slot, ?_, hgoto.phase⟩
  intro reply hreply
  rcases hreplies with rfl | ⟨msgType, htype, rfl⟩
  · exact h.replies reply hreply
  · rcases List.mem_cons.mp hreply with rfl | hreply
    · exact ⟨msg, hmem, haddr, rfl, rfl, dhcpType, hends, htype⟩
    · exact h.replies reply hreply

/-- A step of the thread keeps the invariant. -/
theorem Serves.run (h : d.Serves) {fuel : ℕ} {alloc : Bool} (hrun : d.run fuel alloc = some d') :
    d'.Serves := by
  have hphase := h.phase
  unfold Dhcps.run at hrun
  -- the phases of the server's loop in order
  split at hrun
  case h_1 => cases hrun
  case h_2 ht =>
    split at hrun
    case isFalse => cases hrun
    case isTrue =>
      obtain rfl := Option.some.inj hrun
      exact h.goto _ (by rw [ht]; simp) (by simp) trivial
  case h_3 ht =>
    obtain rfl := Option.some.inj hrun
    refine h.goto d.sem (by rw [ht]; simp) (by split <;> simp) ?_
    cases hslot : d.pendingBuf with
    | none => exact fun hs => nomatch hs
    | some msg => rfl
  case h_4 ht =>
    obtain ⟨msg, hslot, rfl⟩ := Option.map_eq_some_iff.mp hrun
    exact h.goto d.sem (by rw [ht]; simp) (by simp) hslot
  case h_5 msg ht =>
    obtain ⟨dhcpType, hscan, rfl⟩ := Option.map_eq_some_iff.mp hrun
    rw [ht] at hphase
    exact h.goto d.sem (by rw [ht]; simp) (by simp) ⟨hphase, fuel, hscan⟩
  case h_6 msg dhcpType ht =>
    obtain rfl := Option.some.inj hrun
    exact h.answer alloc ht
  case h_7 ht =>
    obtain ⟨p, hslot, rfl⟩ := Option.map_eq_some_iff.mp hrun
    obtain ⟨hmem, haddr, hfreed⟩ := h.slot p hslot
    have hnew : p ∉ d.freed := fun hf => by
      have hc := hfreed.mp hf
      rw [ht] at hc
      cases hc
    -- the request is freed here, for the first time
    constructor
    · exact h.serial
    · intro r hr
      rcases List.mem_cons.mp hr with rfl | hr
      · exact hmem
      · exact h.freed r hr
    · exact List.nodup_cons.mpr ⟨hnew, h.freedOnce⟩
    · exact fun r hr => (h.kept r hr).imp_left (List.mem_cons_of_mem _)
    · intro r hr
      obtain rfl : p = r := Option.some.inj (hslot.symm.trans hr)
      exact ⟨hmem, haddr, ⟨fun _ => rfl, fun _ => List.mem_cons_self⟩⟩
    · exact h.replies
    · exact congrArg Option.isSome hslot
  case h_8 ht =>
    obtain rfl := Option.some.inj hrun
    -- the slot is cleared after the request has been freed, so nothing is lost
    constructor
    · exact h.serial
    · exact h.freed
    · exact h.freedOnce
    · intro r hr
      rcases h.kept r hr with hf | hslot
      · exact .inl hf
      · exact .inl ((h.slot r hslot).2.2.mpr ht)
    · exact fun r hr => nomatch hr
    · exact h.replies
    · exact fun hs => nomatch hs

/-- **Every step keeps the invariant**, if datagrams arrive alone. -/
theorem Serves.step (h : d.Serves) {event : DhcpEvent} (halone : d.Alone event)
    (hstep : d.step event = some d') : d'.Serves := by
  cases event with
  | start =>
    simp only [Dhcps.step] at hstep
    split at hstep
    · rename_i ht
      obtain rfl := Option.some.inj hstep
      have hphase := h.phase
      rw [ht] at hphase
      exact h.goto d.sem (by rw [ht]; simp) (by simp) hphase
    · cases hstep
  | recv p =>
    obtain rfl := Option.some.inj hstep
    exact h.recv halone
  | run fuel alloc => exact h.run hstep

/-! ## The thread frees the slot -/

theorem frees_of_step {r : Request} (fuel : ℕ) (d' : Dhcps) (hrun : d.run fuel true = some d')
    (h : ∃ u, Relation.ReflTransGen ThreadStep d' u ∧ r ∈ u.freed) :
    ∃ u, Relation.ReflTransGen ThreadStep d u ∧ r ∈ u.freed := by
  obtain ⟨u, hu, hfreed⟩ := h
  exact ⟨u, .head ⟨fuel, true, hrun⟩ hu, hfreed⟩

/-- **A started thread frees the pending datagram** when its option scan ends. -/
theorem Serves.frees (h : d.Serves) {r : Request} {dhcpType : UInt8} (hslot : d.pendingBuf = some r)
    (hstarted : d.thread ≠ .notStarted) (hends : ScanEnds r dhcpType) :
    ∃ u, Relation.ReflTransGen ThreadStep d u ∧ r ∈ u.freed := by
  obtain ⟨fuel, hscan⟩ := hends
  -- backwards: from every place the thread steps to a place from where the datagram is freed
  have hfreeing (u : Dhcps) (ht : u.thread = .freeing) (hu : u.pendingBuf = some r) :
      ∃ v, Relation.ReflTransGen ThreadStep u v ∧ r ∈ v.freed := by
    refine frees_of_step 0 { u with freed := r :: u.freed, thread := .clearing } ?_
      ⟨_, .refl, ?_⟩
    · unfold Dhcps.run
      simp [ht, hu]
    · exact List.mem_cons_self
  have hanswering (u : Dhcps) (t : UInt8) (ht : u.thread = .answering r t)
      (hu : u.pendingBuf = some r) : ∃ v, Relation.ReflTransGen ThreadStep u v ∧ r ∈ v.freed := by
    obtain ⟨replies, heq, -⟩ := reply_eq (d := u) r t true
    refine frees_of_step 0 { u with replies, thread := .freeing } ?_ (hfreeing _ rfl hu)
    unfold Dhcps.run
    simp only [ht]
    rw [heq]
  have hscanning (u : Dhcps) (ht : u.thread = .scanning r) (hu : u.pendingBuf = some r) :
      ∃ v, Relation.ReflTransGen ThreadStep u v ∧ r ∈ v.freed := by
    refine frees_of_step fuel { u with thread := .answering r dhcpType } ?_
      (hanswering _ dhcpType rfl hu)
    unfold Dhcps.run
    simp [ht, hscan]
  have htested (u : Dhcps) (ht : u.thread = .tested) (hu : u.pendingBuf = some r) :
      ∃ v, Relation.ReflTransGen ThreadStep u v ∧ r ∈ v.freed := by
    refine frees_of_step 0 { u with thread := .scanning r } ?_ (hscanning _ rfl hu)
    unfold Dhcps.run
    simp [ht, hu]
  have htaken (u : Dhcps) (ht : u.thread = .taken) (hu : u.pendingBuf = some r) :
      ∃ v, Relation.ReflTransGen ThreadStep u v ∧ r ∈ v.freed := by
    refine frees_of_step 0 { u with thread := .tested } ?_ (htested _ rfl hu)
    unfold Dhcps.run
    simp [ht, hu]
  have hphase := h.phase
  cases ht : d.thread with
  | notStarted => exact absurd ht hstarted
  | waiting =>
    rw [ht, PhaseHolds, hslot] at hphase
    refine frees_of_step 0 { d with sem := false, thread := .taken } ?_
      (htaken _ rfl hslot)
    unfold Dhcps.run
    simp [ht, hphase rfl]
  | taken => exact htaken d ht hslot
  | tested => exact htested d ht hslot
  | scanning msg =>
    rw [ht, PhaseHolds, hslot] at hphase
    obtain rfl := Option.some.inj hphase
    exact hscanning d ht hslot
  | answering msg t =>
    rw [ht, PhaseHolds, hslot] at hphase
    obtain rfl := Option.some.inj hphase.1
    exact hanswering d t ht hslot
  | freeing => exact hfreeing d ht hslot
  | clearing => exact ⟨d, .refl, (h.slot r hslot).2.2.mpr ht⟩

theorem Serves.losesNothing (h : d.Serves) : d.LosesNothing where
  freedOnce := h.freedOnce
  kept := h.kept
  held := by
    intro r hr r' hr' hf hf'
    -- whatever is not freed is in the one slot
    have hslot := (h.kept r hr).resolve_left hf
    have hslot' := (h.kept r' hr').resolve_left hf'
    exact Option.some.inj (hslot.symm.trans hslot')
  reading := by
    intro r hreads hf
    -- while the server reads a request, it has not been freed
    have hphase := h.phase
    rcases hreads with ht | ⟨dhcpType, ht⟩
    · rw [ht] at hphase
      have hclearing := (h.slot r hphase).2.2.mp hf
      rw [ht] at hclearing
      cases hclearing
    · rw [ht] at hphase
      have hclearing := (h.slot r hphase.1).2.2.mp hf
      rw [ht] at hclearing
      cases hclearing
  replies := h.replies
  served := fun _ _ hslot hstarted hends => h.frees hslot hstarted hends

/-- **Datagrams that arrive alone** are neither lost nor mixed. -/
theorem requests_served {d : Dhcps} (hd : (Runs Alone).Reachable d) : d.LosesNothing := by
  obtain ⟨_, rfl, hr⟩ := hd
  have hpreserves : Transition.Preserves (Runs Alone).next Serves := by
    rintro d d' ⟨event, halone, hstep⟩ h
    exact h.step halone hstep
  exact (hpreserves.run hr Serves.init).losesNothing

/-- The datagram of a client at the address given: a DHCPDISCOVER with option 53 first. -/
def discoverFrom (addr : UInt32) : DhcpDatagram :=
  { addr
    len := 244
    xid := addr
    chaddr := default
    options := fun i => [53, 1, 1, 255].getD i 0 }

/-- The server as a system of events. -/
def events : Transition.Eventful Dhcps DhcpEvent := { init := init, step := step }

/-- A datagram is answered and freed, and another one arrives. -/
def twoClients : List DhcpEvent :=
  [.start, .recv (discoverFrom 1)] ++ List.replicate 7 (.run 1 true) ++ [.recv (discoverFrom 2)]

/-- The server after these events. -/
def answeredServer : Dhcps := (events.schedule Alone init twoClients).getD init

theorem answeredServer_reachable : (Runs Alone).Reachable answeredServer := by
  have hsome : (events.schedule Alone init twoClients).isSome := by decide
  obtain ⟨d, hd⟩ := Option.isSome_iff_exists.mp hsome
  unfold answeredServer
  rw [hd]
  exact Transition.Eventful.schedule_reachable (E := events) (.init rfl) hd

theorem requests_served_answered :
    answeredServer.freed.length = 1 ∧ answeredServer.replies.length = 1 ∧
      answeredServer.pendingBuf.isSome ∧ answeredServer.LosesNothing :=
  ⟨by decide, by decide, by decide, requests_served answeredServer_reachable⟩

/-- The server after one datagram. -/
def pendingServer : Dhcps := init.recv (discoverFrom 1)

/-- A second datagram takes the place of the first, which is never freed. -/
theorem request_lost : ¬∀ d, (Runs fun _ _ => True).Reachable d → d.LosesNothing := by
  intro h
  have hreach : (Runs fun _ _ => True).Reachable (pendingServer.recv (discoverFrom 2)) :=
    ⟨init, rfl, (Relation.ReflTransGen.single ⟨.recv (discoverFrom 1), trivial, rfl⟩).tail
      ⟨.recv (discoverFrom 2), trivial, rfl⟩⟩
  have hmem : (⟨discoverFrom 1, 0⟩ : Request) ∈
      (pendingServer.recv (discoverFrom 2)).accepted :=
    List.mem_cons_of_mem _ List.mem_cons_self
  rcases (h _ hreach).kept _ hmem with hfreed | hslot
  · cases hfreed
  · have hserial := congrArg (Option.map Request.serial) hslot
    revert hserial
    decide

end Dhcps

end Ptpd

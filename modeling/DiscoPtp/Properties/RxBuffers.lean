import DiscoPtp.Model.RxPool

/-!
# The receive buffers

Every buffer is in one place, and the input thread does not sleep over a packet or a descriptor for
which there is a buffer: whoever frees the first buffer after the pool was empty finds the mark and
wakes it up. The mark is left after the pool was found empty, so this needs that no task frees a
buffer in between, which holds as the input thread has the highest priority. Of the library only its
contract is used.

## Main definitions

* `RxDriver.Does`: the steps, one by one
* `RxDriver.buffers`: the buffers, wherever they are
* `RxDriver.Prioritised`: no task frees buffers while the input thread is about to leave the mark
* `RxDriver.Quiet`: the input thread sleeps, and nothing is on the way to wake it up
* `descriptorRing`: a library with the contract

## Main results

* `RxDriver.receive_never_stalls`: a quiet driver has nothing to do, or no buffer to do it with
* `RxDriver.receive_stalls`: without the priority this fails
-/

namespace Ptpd

/-- The buffers in the hands of the input thread. -/
def InputPhase.buffers : InputPhase → List ℕ
  | .input packet | .dropping packet => packet
  | _ => []

/-- The event is one of a task that frees a buffer. -/
def RxEvent.isFreer : RxEvent → Bool
  | .mempoolFree (.task _) _ | .testStatus (.task _) | .clearStatus (.task _)
  | .semaphoreRelease (.task _) => true
  | _ => false

namespace RxDriver

variable {lib : EthLibrary} {s s' : RxDriver lib} {event : RxEvent} {freer : Freer}
  {phase : FreePhase}

/-! ## The steps -/

/-- The steps, one by one. -/
inductive Does (s : RxDriver lib) : RxEvent → RxDriver lib → Prop
  | receive (size : ℕ) (library : lib.State) (hl : lib.receive size s.library = some library) :
    s.Does (.receive size) { s with library := library, interrupt := true }
  | rxCpltCallback : s.Does .rxCpltCallback { s with interrupt := false, rxPktSemaphore := true }
  | waitEnds (ht : s.thread = .waiting) (hs : s.rxPktSemaphore) :
    s.Does .waitEnds { s with thread := .reading, rxPktSemaphore := false }
  | marked (ht : s.thread = .reading) (hm : s.rxAllocStatus) :
    s.Does .lowLevelInput { s with thread := .waiting }
  | unmarked (ht : s.thread = .reading) (hm : s.rxAllocStatus = false) :
    s.Does .lowLevelInput { s with thread := .calling, library := lib.readData s.library }
  | internal (library : lib.State) (ht : s.thread = .calling)
    (hn : lib.next s.library = .internal library) : s.Does .library { s with library := library }
  | refuse (answer : Option ℕ → lib.State) (ht : s.thread = .calling)
    (hn : lib.next s.library = .rxAllocateCallback answer) (hp : s.pool = []) :
    s.Does .library { s with thread := .refused, library := answer none }
  | grant (answer : Option ℕ → lib.State) (buffer : ℕ) (pool : List ℕ) (ht : s.thread = .calling)
    (hn : lib.next s.library = .rxAllocateCallback answer) (hp : s.pool = buffer :: pool) :
    s.Does .library { s with pool := pool, library := answer (some buffer) }
  | link (buffer : ℕ) (library : lib.State) (ht : s.thread = .calling)
    (hn : lib.next s.library = .rxLinkCallback buffer library) :
    s.Does .library { s with chain := s.chain ++ [buffer], library := library }
  | returnNone (library : lib.State) (ht : s.thread = .calling)
    (hn : lib.next s.library = .returns false library) :
    s.Does .library { s with thread := .waiting, library := library }
  | returnPacket (library : lib.State) (ht : s.thread = .calling)
    (hn : lib.next s.library = .returns true library) :
    s.Does .library { s with thread := afterInput s.chain, chain := [], library := library }
  | setStatus (ht : s.thread = .refused) :
    s.Does .setStatus { s with thread := .calling, rxAllocStatus := true }
  | accept (packet : List ℕ) (ht : s.thread = .input packet) :
    s.Does (.inputEnds true) { s with thread := .reading, held := packet ++ s.held }
  | drop (packet : List ℕ) (ht : s.thread = .input packet) :
    s.Does (.inputEnds false) { s with thread := .dropping packet }
  | freeDropped (buffer : ℕ) (packet : List ℕ) (ht : s.thread = .dropping (buffer :: packet))
    (hi : s.freeing .input = .idle) :
    s.Does (.mempoolFree .input buffer)
      ({ s with thread := .dropping packet, pool := buffer :: s.pool }.goto .input .freed)
  | freeHeld (n buffer : ℕ) (hb : buffer ∈ s.held) (hi : s.freeing (.task n) = .idle) :
    s.Does (.mempoolFree (.task n) buffer)
      ({ s with held := s.held.erase buffer, pool := buffer :: s.pool }.goto (.task n) .freed)
  | testMarked (freer : Freer) (hf : s.freeing freer = .freed) (hm : s.rxAllocStatus) :
    s.Does (.testStatus freer) (s.goto freer .tested)
  | testUnmarked (freer : Freer) (hf : s.freeing freer = .freed) (hm : s.rxAllocStatus = false) :
    s.Does (.testStatus freer) (s.goto freer .idle)
  | clearStatus (freer : Freer) (hf : s.freeing freer = .tested) :
    s.Does (.clearStatus freer) ({ s with rxAllocStatus := false }.goto freer .cleared)
  | semaphoreRelease (freer : Freer) (hf : s.freeing freer = .cleared) :
    s.Does (.semaphoreRelease freer) ({ s with rxPktSemaphore := true }.goto freer .idle)
  | pbufFreeEnds (ht : s.thread = .dropping []) :
    s.Does .pbufFreeEnds { s with thread := .reading }

/-- What a call of the library does. -/
theorem call_cases (ht : s.thread = .calling) : s.Does .library s.call := by
  unfold call
  split
  next library hn => exact .internal library ht hn
  next answer hn =>
    unfold rxAllocateCallback
    split
    next hp => exact .refuse answer ht hn hp
    next buffer pool hp => exact .grant answer buffer pool ht hn hp
  next buffer library hn => exact .link buffer library ht hn
  next library hn => exact .returnNone library ht hn
  next library hn => exact .returnPacket library ht hn

/-- **What a step does.** -/
theorem step_cases (h : s.step event = some s') : s.Does event s' := by
  cases event with
  | receive size =>
    obtain ⟨library, hl, rfl⟩ := Option.map_eq_some_iff.mp h
    exact .receive size library hl
  | rxCpltCallback =>
    simp only [step] at h
    split at h
    · obtain rfl := Option.some.inj h
      exact .rxCpltCallback
    · cases h
  | waitEnds =>
    simp only [step] at h
    split at h
    next hw =>
      obtain rfl := Option.some.inj h
      exact .waitEnds hw.1 hw.2
    · cases h
  | lowLevelInput =>
    simp only [step] at h
    split at h
    next hr =>
      obtain rfl := Option.some.inj h
      split
      next hm => exact .marked hr hm
      next hm => exact .unmarked hr (Bool.eq_false_iff.mpr hm)
    · cases h
  | library =>
    simp only [step] at h
    split at h
    next hc =>
      obtain rfl := Option.some.inj h
      exact call_cases hc
    · cases h
  | setStatus =>
    simp only [step] at h
    split at h
    next hr =>
      obtain rfl := Option.some.inj h
      exact .setStatus hr
    · cases h
  | inputEnds accepted =>
    simp only [step] at h
    split at h
    next packet hi =>
      cases accepted with
      | true =>
        obtain rfl := Option.some.inj h
        exact .accept packet hi
      | false =>
        obtain rfl := Option.some.inj h
        exact .drop packet hi
    · cases h
  | mempoolFree freer buffer =>
    cases freer with
    | input =>
      simp only [step] at h
      split at h
      next first packet hd =>
        split at h
        next hf =>
          obtain rfl := Option.some.inj h
          obtain ⟨rfl, hi⟩ := hf
          exact .freeDropped buffer packet hd hi
        · cases h
      · cases h
    | task n =>
      simp only [step] at h
      split at h
      next hf =>
        obtain rfl := Option.some.inj h
        exact .freeHeld n buffer hf.1 hf.2
      · cases h
  | testStatus freer =>
    simp only [step] at h
    split at h
    next hf =>
      obtain rfl := Option.some.inj h
      split
      next hm => exact .testMarked freer hf hm
      next hm => exact .testUnmarked freer hf (Bool.eq_false_iff.mpr hm)
    · cases h
  | clearStatus freer =>
    simp only [step] at h
    split at h
    next hf =>
      obtain rfl := Option.some.inj h
      exact .clearStatus freer hf
    · cases h
  | semaphoreRelease freer =>
    simp only [step] at h
    split at h
    next hf =>
      obtain rfl := Option.some.inj h
      exact .semaphoreRelease freer hf
    · cases h
  | pbufFreeEnds =>
    simp only [step] at h
    split at h
    next hd =>
      obtain rfl := Option.some.inj h
      exact .pbufFreeEnds hd.1
    · cases h

/-- No task frees buffers while the input thread is about to leave the mark. -/
def Prioritised (s : RxDriver lib) (event : RxEvent) : Prop :=
  event.isFreer → s.thread ≠ .refused

instance (s : RxDriver lib) (event : RxEvent) : Decidable (s.Prioritised event) :=
  inferInstanceAs (Decidable (_ → _))

/-! ## The buffers -/

/-- The buffers, wherever they are. -/
def buffers (s : RxDriver lib) : Multiset ℕ :=
  s.pool + lib.buffers s.library + s.chain + s.thread.buffers + s.held

theorem coe_cons_eq (buffer : ℕ) (l : List ℕ) :
    ((buffer :: l : List ℕ) : Multiset ℕ) = {buffer} + (l : Multiset ℕ) := by
  rw [Multiset.singleton_add, Multiset.cons_coe]

/-- What leaves alone the places of the buffers. -/
theorem buffers_congr (hpool : s'.pool = s.pool)
    (hlibrary : lib.buffers s'.library = lib.buffers s.library) (hchain : s'.chain = s.chain)
    (hthread : s'.thread.buffers = s.thread.buffers) (hheld : s'.held = s.held) :
    s'.buffers = s.buffers := by
  unfold buffers
  rw [hpool, hlibrary, hchain, hthread, hheld]

/-- **No step** loses a buffer or puts one in two places. -/
theorem buffers_step (hlib : lib.Documented) (h : s.Does event s') : s'.buffers = s.buffers := by
  -- the steps that move a buffer come first
  cases h with
  | grant answer buffer pool ht hn hp =>
    simp only [buffers, hp, coe_cons_eq, (hlib.granted buffer hn).1, ← Multiset.singleton_add]
    abel
  | link buffer library ht hn =>
    simp only [buffers, (hlib.linked hn).1, ← Multiset.singleton_add, ← Multiset.coe_add,
      Multiset.coe_singleton]
    abel
  | returnPacket library ht hn =>
    have hthread : (afterInput s.chain).buffers = s.chain := by
      cases s.chain <;> rfl
    have hcalling : s.thread.buffers = [] := by
      rw [ht]
      rfl
    simp only [buffers, hcalling, hthread, (hlib.returns hn).1.1, Multiset.coe_nil]
    abel
  | accept packet ht =>
    simp only [buffers, ht, InputPhase.buffers, ← Multiset.coe_add, Multiset.coe_nil]
    abel
  | freeDropped buffer packet ht hi =>
    simp only [buffers, goto, ht, InputPhase.buffers, coe_cons_eq]
    abel
  | freeHeld n buffer hb hi =>
    have hheld : (s.held : Multiset ℕ) = {buffer} + (s.held.erase buffer : Multiset ℕ) := by
      rw [← coe_cons_eq]
      exact Multiset.coe_eq_coe.mpr (List.perm_cons_erase hb)
    simp only [buffers, goto, hheld, coe_cons_eq]
    abel
  | receive size library hl => exact buffers_congr rfl (hlib.receive hl).1 rfl rfl rfl
  | internal library ht hn => exact buffers_congr rfl (hlib.internal hn).1 rfl rfl rfl
  | unmarked ht =>
    refine buffers_congr rfl (hlib.readData s.library).1 rfl ?_ rfl
    rw [ht]
    rfl
  | refuse answer ht hn hp =>
    refine buffers_congr rfl (hlib.refused hn).1 rfl ?_ rfl
    rw [ht]
    rfl
  | returnNone library ht hn =>
    refine buffers_congr rfl (hlib.returns hn).1.1 rfl ?_ rfl
    rw [ht]
    rfl
  | rxCpltCallback | testMarked | testUnmarked | clearStatus | semaphoreRelease =>
    exact buffers_congr rfl rfl rfl rfl rfl
  | waitEnds ht | marked ht | setStatus ht | drop _ ht | pbufFreeEnds ht =>
    refine buffers_congr rfl rfl rfl ?_ rfl
    rw [ht]
    rfl

/-- Every descriptor has a buffer or none. -/
def Described (s : RxDriver lib) : Prop :=
  (lib.buffers s.library).card + lib.missing s.library = lib.descriptors

theorem Described.of_same (h : s.Described) (hs : lib.SameDescriptors s.library s'.library) :
    s'.Described := by
  unfold Described
  rw [hs.1, hs.2]
  exact h

theorem Described.step (hlib : lib.Documented) (h : s.Described) (hstep : s.Does event s') :
    s'.Described := by
  cases hstep with
  | receive size library hl => exact h.of_same (hlib.receive hl)
  | unmarked ht hm => exact h.of_same (hlib.readData s.library)
  | internal library ht hn => exact h.of_same (hlib.internal hn)
  | refuse answer ht hn hp => exact h.of_same (hlib.refused hn)
  | grant answer buffer pool ht hn hp =>
    obtain ⟨hbuffers, hmissing⟩ := hlib.granted buffer hn
    unfold Described at h ⊢
    simp only [hbuffers, Multiset.card_cons]
    omega
  | link buffer library ht hn =>
    obtain ⟨hbuffers, hmissing⟩ := hlib.linked hn
    unfold Described at h ⊢
    simp only [hbuffers, Multiset.card_cons] at h
    simp only [hmissing]
    omega
  | returnNone library ht hn | returnPacket library ht hn => exact h.of_same (hlib.returns hn).1
  | _ => exact h

/-! ## The mark -/

theorem goto_freeing (s : RxDriver lib) (freer : Freer) (phase : FreePhase) :
    (s.goto freer phase).freeing freer = phase := Function.update_self ..

/-- A task that goes on leaves alone those that stand elsewhere. -/
theorem goto_keeps {other : Freer} {before : FreePhase} (h : s.freeing other = before)
    (hne : s.freeing freer ≠ before) : (s.goto freer phase).freeing other = before := by
  have hother : other ≠ freer := by
    rintro rfl
    exact hne h
  exact (Function.update_of_ne hother ..).trans h

/-- Where the pool is marked as empty it is empty, or a task that has freed a buffer is about to
look at the mark. -/
structure Marked (s : RxDriver lib) : Prop where
  refused : s.thread = .refused → s.pool = []
  marked : s.rxAllocStatus →
    s.pool = [] ∨ ∃ freer, s.freeing freer = .freed ∨ s.freeing freer = .tested

theorem Marked.step (h : s.Marked) (hc : s.Prioritised event) (hstep : s.Does event s') :
    s'.Marked := by
  cases hstep with
  | refuse answer ht hn hp => exact ⟨fun _ => hp, h.marked⟩
  | setStatus ht =>
    refine ⟨?_, fun _ => .inl (h.refused ht)⟩
    rintro ⟨⟩
  | grant answer buffer pool ht hn hp =>
    refine ⟨fun hr => ?_, fun hmark => .inr ?_⟩
    · cases ht.symm.trans hr
    -- the pool is not empty, so somebody is about to clear the mark
    · refine (h.marked hmark).resolve_left ?_
      rw [hp]
      rintro ⟨⟩
  | freeDropped buffer packet ht hi =>
    refine ⟨?_, fun _ => .inr ⟨.input, .inl (goto_freeing _ _ _)⟩⟩
    rintro ⟨⟩
  | freeHeld n buffer hb hi =>
    refine ⟨fun hr => ?_, fun _ => .inr ⟨.task n, .inl (goto_freeing _ _ _)⟩⟩
    -- by its priority the input thread is not about to leave the mark
    exact absurd hr (hc rfl)
  | testMarked freer hf hm => exact ⟨h.refused, fun _ => .inr ⟨freer, .inr (goto_freeing _ _ _)⟩⟩
  | testUnmarked freer hf hm =>
    refine ⟨h.refused, fun hmark => ?_⟩
    rw [show s.rxAllocStatus = true from hmark] at hm
    cases hm
  | clearStatus freer hf =>
    refine ⟨h.refused, ?_⟩
    rintro ⟨⟩
  | semaphoreRelease freer hf =>
    refine ⟨h.refused, fun hmark => (h.marked hmark).imp_right ?_⟩
    rintro ⟨other, hother | hother⟩
    · exact ⟨other, .inl (goto_keeps (s := { s with rxPktSemaphore := true }) hother
        (by rw [hf]; decide))⟩
    · exact ⟨other, .inr (goto_keeps (s := { s with rxPktSemaphore := true }) hother
        (by rw [hf]; decide))⟩
  | receive | rxCpltCallback | internal | link => exact ⟨h.refused, h.marked⟩
  | returnPacket library ht hn =>
    refine ⟨?_, h.marked⟩
    cases hc : s.chain <;> rintro ⟨⟩
  | _ =>
    refine ⟨?_, h.marked⟩
    rintro ⟨⟩

/-! ## Attention -/

/-- There is a packet to be read or a descriptor to be given a buffer. -/
def HasWork (s : RxDriver lib) : Prop := 0 < lib.unread s.library ∨ 0 < lib.missing s.library

/-- The hardware or a task has woken up the input thread. -/
def Woken (s : RxDriver lib) : Prop := s.interrupt ∨ s.rxPktSemaphore

/-- Something will make the input thread look again. -/
def Signalled (s : RxDriver lib) : Prop :=
  s.Woken ∨ s.rxAllocStatus ∨ ∃ freer, s.freeing freer = .cleared

/-- What has happened since the library was called has left its traces in the driver. -/
structure Logged (s : RxDriver lib) (log : CallLog) : Prop where
  within : lib.Within log s.library
  linked : log.linked → s.chain ≠ []
  arrived : log.arrived → s.Woken

/-- The input thread sees its work or will look again. -/
def Attended (s : RxDriver lib) : Prop :=
  match s.thread with
  | .waiting => s.HasWork → s.Signalled
  | .calling => ∃ log, s.Logged log ∧ (log.refused → s.Signalled)
  | .refused => ∃ log, s.Logged log
  | _ => True

/-- A task that is not about to release the semaphore goes on. -/
theorem Signalled.goto (h : s.Signalled) (hne : s.freeing freer ≠ .cleared) :
    (s.goto freer phase).Signalled := by
  rcases h with h | h | ⟨other, hother⟩
  · exact .inl h
  · exact .inr (.inl h)
  · exact .inr (.inr ⟨other, goto_keeps hother hne⟩)

/-- What leaves alone the library and the chain. -/
theorem Logged.congr {log : CallLog} (h : s.Logged log) (hlibrary : s'.library = s.library)
    (hchain : s'.chain = s.chain) (hwoken : s.Woken → s'.Woken) : s'.Logged log := by
  refine ⟨?_, ?_, fun ha => hwoken (h.arrived ha)⟩
  · rw [hlibrary]
    exact h.within
  · rw [hchain]
    exact h.linked

/-- What leaves alone the input thread and its work. -/
theorem Attended.congr (h : s.Attended) (hthread : s'.thread = s.thread)
    (hlibrary : s'.library = s.library) (hchain : s'.chain = s.chain)
    (hwoken : s.Woken → s'.Woken) (hsignalled : s.Signalled → s'.Signalled) : s'.Attended := by
  unfold Attended HasWork at *
  rw [hthread, hlibrary]
  split at h
  · exact fun hwork => hsignalled (h hwork)
  · obtain ⟨log, hlog, hrefused⟩ := h
    exact ⟨log, hlog.congr hlibrary hchain hwoken, fun hr => hsignalled (hrefused hr)⟩
  · obtain ⟨log, hlog⟩ := h
    exact ⟨log, hlog.congr hlibrary hchain hwoken⟩
  · trivial

theorem Attended.calling (h : s.Attended) (ht : s.thread = .calling) :
    ∃ log, s.Logged log ∧ (log.refused → s.Signalled) := by
  unfold Attended at h
  rw [ht] at h
  exact h

theorem Attended.of_calling (ht : s.thread = .calling) {log : CallLog} (hlog : s.Logged log)
    (hrefused : log.refused → s.Signalled) : s.Attended := by
  unfold Attended
  rw [ht]
  exact ⟨log, hlog, hrefused⟩

/-- A packet that comes in is noted, whatever the input thread does. -/
theorem Attended.receive (h : s.Attended) {size : ℕ} {library : lib.State}
    (hl : lib.receive size s.library = some library) :
    Attended { s with library := library, interrupt := true } := by
  have hwoken : Woken { s with library := library, interrupt := true } := .inl rfl
  unfold Attended at h ⊢
  dsimp only
  split at h
  · exact fun _ => .inl hwoken
  · obtain ⟨log, hlog, -⟩ := h
    exact ⟨_, ⟨.received size hlog.within hl, hlog.linked, fun _ => hwoken⟩, fun _ => .inl hwoken⟩
  · obtain ⟨log, hlog⟩ := h
    exact ⟨_, .received size hlog.within hl, hlog.linked, fun _ => hwoken⟩
  · trivial

/-- A call that returns leaves no work behind, or something that will make the input thread look
again. -/
theorem Attended.returns (hlib : lib.Documented) (h : s.Attended) (ht : s.thread = .calling)
    {library : lib.State} (hn : lib.next s.library = .returns false library) :
    Attended { s with thread := .waiting, library := library } := by
  obtain ⟨log, hlog, hrefused⟩ := h.calling ht
  obtain ⟨⟨-, hmissing⟩, hunread⟩ := hlib.returns hn
  rintro (hwork | hwork)
  · cases ha : log.arrived with
    | true => exact .inl (hlog.arrived ha)
    | false =>
      have hread := hlib.reads hlog.within hn ha
      exact absurd (hunread.trans hread) hwork.ne'
  · cases hr : log.refused with
    | true => exact hrefused hr
    | false =>
      have hfilled := hlib.fills hlog.within hn hr
      exact absurd (hmissing.trans hfilled) hwork.ne'

theorem Attended.step (hlib : lib.Documented) (h : s.Attended) (hstep : s.Does event s') :
    s'.Attended := by
  cases hstep with
  | receive size library hl => exact h.receive hl
  | rxCpltCallback => exact h.congr rfl rfl rfl (fun _ => .inr rfl) (fun _ => .inl (.inr rfl))
  | marked ht hm => exact fun _ => .inr (.inl hm)
  | unmarked ht hm =>
    refine ⟨{}, ⟨.readData s.library, ?_, ?_⟩, ?_⟩
    · rintro ⟨⟩
    · rintro ⟨⟩
    · rintro ⟨⟩
  | internal library ht hn =>
    obtain ⟨log, hlog, hrefused⟩ := h.calling ht
    exact .of_calling ht ⟨.internal hlog.within hn, hlog.linked, hlog.arrived⟩ hrefused
  | refuse answer ht hn hp =>
    obtain ⟨log, hlog, -⟩ := h.calling ht
    exact ⟨_, .refused hlog.within hn, hlog.linked, hlog.arrived⟩
  | grant answer buffer pool ht hn hp =>
    obtain ⟨log, hlog, hrefused⟩ := h.calling ht
    exact .of_calling ht ⟨.granted buffer hlog.within hn, hlog.linked, hlog.arrived⟩ hrefused
  | link buffer library ht hn =>
    obtain ⟨log, hlog, hrefused⟩ := h.calling ht
    have hchain (_ : true = true) : s.chain ++ [buffer] ≠ [] := List.concat_ne_nil _ _
    exact .of_calling ht ⟨.linked hlog.within hn, hchain, hlog.arrived⟩ hrefused
  | returnNone library ht hn => exact h.returns hlib ht hn
  | returnPacket library ht hn =>
    obtain ⟨log, hlog, -⟩ := h.calling ht
    have hchain : s.chain ≠ [] := hlog.linked (hlib.delivers hlog.within hn)
    obtain ⟨buffer, packet, heq⟩ := List.exists_cons_of_ne_nil hchain
    unfold Attended
    dsimp only
    rw [heq]
    trivial
  | setStatus ht =>
    unfold Attended at h
    rw [ht] at h
    obtain ⟨log, hlog⟩ := h
    exact .of_calling rfl (hlog.congr rfl rfl id) fun _ => .inr (.inl rfl)
  | freeHeld n buffer hb hi =>
    refine h.congr rfl rfl rfl id fun hs => ?_
    exact Signalled.goto (s := { s with held := _, pool := _ }) hs (by rw [hi]; decide)
  | testMarked freer hf hm =>
    exact h.congr rfl rfl rfl id fun hs => hs.goto (by rw [hf]; decide)
  | testUnmarked freer hf hm =>
    exact h.congr rfl rfl rfl id fun hs => hs.goto (by rw [hf]; decide)
  | clearStatus freer hf =>
    exact h.congr rfl rfl rfl id fun _ => .inr (.inr ⟨freer, goto_freeing _ _ _⟩)
  | semaphoreRelease freer hf =>
    exact h.congr rfl rfl rfl (fun _ => .inr rfl) (fun _ => .inl (.inr rfl))
  | _ => trivial

/-! ## Runs -/

/-- The invariant of the runs with priorities. -/
structure Sound (s : RxDriver lib) : Prop where
  buffers : s.buffers = Multiset.range ethRxBufferCnt
  described : s.Described
  marked : s.Marked
  attended : s.Attended

theorem Sound.init (hlib : lib.Documented) : (init lib).Sound := by
  obtain ⟨hbuffers, hmissing⟩ := hlib.start
  refine ⟨?_, ?_, ⟨?_, ?_⟩, ⟨{}, ⟨.start, ?_, ?_⟩, ?_⟩⟩
  · simp only [RxDriver.buffers, RxDriver.init, hbuffers, InputPhase.buffers, Multiset.coe_nil,
      add_zero]
    rfl
  · simp only [Described, RxDriver.init, hbuffers, hmissing, Multiset.card_zero, zero_add]
  all_goals rintro ⟨⟩

theorem Sound.step (hlib : lib.Documented) (h : s.Sound) (hc : s.Prioritised event)
    (hstep : s.step event = some s') : s'.Sound := by
  have hdoes := step_cases hstep
  exact ⟨(buffers_step hlib hdoes).trans h.buffers, h.described.step hlib hdoes,
    h.marked.step hc hdoes, h.attended.step hlib hdoes⟩

/-- The input thread sleeps, and nothing is on the way to wake it up. -/
structure Quiet (s : RxDriver lib) : Prop where
  waiting : s.thread = .waiting
  semaphore : s.rxPktSemaphore = false
  interrupt : s.interrupt = false
  idle : ∀ freer, s.freeing freer = .idle

/-- A quiet driver with work to do has no buffer. -/
theorem Quiet.pool (hq : s.Quiet) (h : s.Sound) (hwork : s.HasWork) : s.pool = [] := by
  have hattended := h.attended
  unfold Attended at hattended
  rw [hq.waiting] at hattended
  have hmark : s.rxAllocStatus := by
    rcases hattended hwork with (hs | hs) | hs | ⟨freer, hs⟩
    · rw [hq.interrupt] at hs
      cases hs
    · rw [hq.semaphore] at hs
      cases hs
    · exact hs
    · rw [hq.idle freer] at hs
      cases hs
  refine (h.marked.marked hmark).resolve_right ?_
  rintro ⟨freer, hs | hs⟩
  · rw [hq.idle freer] at hs
    cases hs
  · rw [hq.idle freer] at hs
    cases hs

/-- **The receive path never stalls**: over any library with the contract, in every run of the input
thread, the tasks that free buffers and the hardware, the buffers are never lost or in two places;
and if the input thread sleeps and nothing is on the way to wake it up, all packets have been read
and all descriptors have buffers, or there is no buffer left, as all but those of the descriptors
and of a packet in pieces are with the stack. -/
theorem receive_never_stalls (hlib : lib.Documented)
    (hs : ((rxDriver lib).system Prioritised).Reachable s) :
    s.buffers = Multiset.range ethRxBufferCnt ∧
      (s.Quiet → lib.unread s.library = 0 ∧ lib.missing s.library = 0 ∨
        s.pool = [] ∧ ethRxBufferCnt ≤ s.held.length + s.chain.length + lib.descriptors) := by
  have h : s.Sound :=
    Transition.Eventful.invariant (Sound.init hlib)
      (fun _ _ _ hc hstep h => h.step hlib hc hstep) hs
  refine ⟨h.buffers, fun hq => ?_⟩
  by_cases hwork : s.HasWork
  · have hpool := hq.pool h hwork
    have hcard := congrArg Multiset.card h.buffers
    have hdescribed := h.described
    unfold RxDriver.buffers at hcard
    rw [hpool, hq.waiting, Multiset.card_range] at hcard
    simp only [Multiset.card_add, Multiset.coe_card, InputPhase.buffers, List.length_nil] at hcard
    unfold Described at hdescribed
    exact .inr ⟨hpool, by omega⟩
  · unfold HasWork at hwork
    rw [not_or, not_lt, not_lt, Nat.le_zero, Nat.le_zero] at hwork
    exact .inl hwork

end RxDriver

/-! ## A ring of descriptors -/

/-- Where a call stands in the ring. -/
inductive RingPhase
  | idle
  /-- It looks for a packet. -/
  | scanning
  /-- It chains the buffers of a packet. -/
  | linking
  /-- It gives the descriptors buffers, and will return. -/
  | refilling (ready : Bool)
  /-- A request was refused. -/
  | returning (ready : Bool)

/-- A ring of descriptors. A packet has a first buffer. -/
structure RingState where
  phase : RingPhase
  armed : List ℕ
  completed : List (ℕ × List ℕ)
  /-- The buffers of the packet in hand that are not yet chained. -/
  packet : List ℕ
  missing : ℕ

namespace RingState

/-- The call takes the oldest packet, chains its buffers, asks for a buffer for every descriptor
that has none until it is refused one, and returns. -/
def next (s : RingState) : LibraryCall RingState :=
  match s.phase, s.completed, s.packet with
  | .idle, _, _ => .internal s
  | .scanning, [], _ => .internal { s with phase := .refilling false }
  | .scanning, (first, rest) :: completed, packet =>
    .internal
      { s with phase := .linking, completed := completed, packet := first :: rest ++ packet }
  | .linking, _, buffer :: packet =>
    .rxLinkCallback buffer { s with packet := packet, missing := s.missing + 1 }
  | .linking, _, [] => .internal { s with phase := .refilling true }
  | .refilling ready, _, _ =>
    if 0 < s.missing then
      .rxAllocateCallback fun
        | none => { s with phase := .returning ready }
        | some buffer => { s with armed := s.armed ++ [buffer], missing := s.missing - 1 }
    else .returns ready { s with phase := .idle }
  | .returning ready, _, _ => .returns ready { s with phase := .idle }

/-- The hardware fills the oldest of the empty buffers. -/
def receive (size : ℕ) (s : RingState) : Option RingState :=
  match size, s.armed with
  | more + 1, first :: armed =>
    some { s with armed := armed.drop more, completed := s.completed ++ [(first, armed.take more)] }
  | _, _ => none

/-- The buffers in the descriptors, and those of the packet in hand. -/
def buffers (s : RingState) : Multiset ℕ :=
  s.armed + s.completed.flatMap (fun packet => packet.1 :: packet.2) + s.packet

/-- What has happened in a call, by where it stands. -/
def Passed (s : RingState) (log : CallLog) : Prop :=
  match s.phase with
  | .idle => False
  | .scanning => True
  | .linking => s.packet = [] → log.linked = true
  | .refilling true => log.linked = true
  | .refilling false => log.arrived = false → s.completed = []
  | .returning true => log.linked = true ∧ log.refused = true
  | .returning false => (log.arrived = false → s.completed = []) ∧ log.refused = true

end RingState

/-- The ring as a library. -/
def descriptorRing (descriptors : ℕ) : EthLibrary where
  State := RingState
  descriptors := descriptors
  start := { phase := .refilling false, armed := [], completed := [], packet := []
             missing := descriptors }
  readData s := { s with phase := .scanning }
  next := RingState.next
  receive := RingState.receive
  buffers := RingState.buffers
  missing := RingState.missing
  unread s := s.completed.length

namespace RingState

variable {n : ℕ} {s t : RingState} {log : CallLog}

theorem next_internal (h : s.next = .internal t) :
    t.buffers = s.buffers ∧ t.missing = s.missing := by
  unfold next at h
  split at h
  · cases h
    exact ⟨rfl, rfl⟩
  · cases h
    exact ⟨rfl, rfl⟩
  next first rest completed _ hcompleted =>
    cases h
    refine ⟨?_, rfl⟩
    simp only [buffers, hcompleted, List.flatMap_cons, ← Multiset.coe_add]
    abel
  · cases h
  · cases h
    exact ⟨rfl, rfl⟩
  · split at h <;> cases h
  · cases h

/-- The ring with one more empty buffer. -/
def arm (s : RingState) (buffer : ℕ) : RingState :=
  { s with armed := s.armed ++ [buffer], missing := s.missing - 1 }

theorem arm_buffers (s : RingState) (buffer : ℕ) :
    (s.arm buffer).buffers = buffer ::ₘ s.buffers := by
  simp only [buffers, arm, ← Multiset.coe_add, Multiset.coe_singleton, ← Multiset.singleton_add]
  abel

/-- It asks for a buffer only where one is missing. -/
theorem next_allocate {answer : Option ℕ → RingState} (h : s.next = .rxAllocateCallback answer) :
    0 < s.missing ∧ ∃ ready, s.phase = .refilling ready ∧
      answer none = { s with phase := .returning ready } ∧
        ∀ buffer, answer (some buffer) = s.arm buffer := by
  unfold next at h
  split at h
  case h_6 _ _ ready hphase =>
    split at h
    next hmissing =>
      cases h
      exact ⟨hmissing, ready, hphase, rfl, fun _ => rfl⟩
    · cases h
  all_goals cases h

theorem next_link {buffer : ℕ} (h : s.next = .rxLinkCallback buffer t) :
    s.phase = .linking ∧ t.phase = .linking ∧ s.buffers = buffer ::ₘ t.buffers ∧
      t.missing = s.missing + 1 := by
  unfold next at h
  split at h
  case h_4 buffer packet hphase hpacket =>
    cases h
    refine ⟨hphase, hphase, ?_, rfl⟩
    simp only [buffers, hpacket, RxDriver.coe_cons_eq, ← Multiset.singleton_add]
    abel
  case h_6 => split at h <;> cases h
  all_goals cases h

/-- It returns when no buffer is missing or one was refused. -/
theorem next_returns {ready : Bool} (h : s.next = .returns ready t) :
    t = { s with phase := .idle } ∧
      (s.phase = .refilling ready ∧ s.missing = 0 ∨ s.phase = .returning ready) := by
  unfold next at h
  split at h
  case h_6 hphase =>
    split at h
    · cases h
    next hmissing =>
      cases h
      exact ⟨rfl, .inl ⟨hphase, Nat.eq_zero_of_not_pos hmissing⟩⟩
  case h_7 hphase =>
    cases h
    exact ⟨rfl, .inr hphase⟩
  all_goals cases h

theorem Passed.internal (h : s.Passed log) (hn : s.next = .internal t) : t.Passed log := by
  unfold next at hn
  split at hn
  next hphase =>
    unfold Passed at h
    rw [hphase] at h
    exact h.elim
  next _ hcompleted =>
    cases hn
    exact fun _ => hcompleted
  · cases hn
    rintro ⟨⟩
  · cases hn
  next hphase hpacket =>
    cases hn
    unfold Passed at h
    rw [hphase] at h
    exact h hpacket
  · split at hn <;> cases hn
  · cases hn

theorem Passed.receive {size : ℕ} (h : s.Passed log) (ht : s.receive size = some t) :
    t.Passed { log with arrived := true } := by
  unfold RingState.receive at ht
  split at ht
  · cases ht
    unfold Passed at h ⊢
    dsimp only at h ⊢
    split at h
    · exact h
    · trivial
    · exact h
    · exact h
    · rintro ⟨⟩
    · exact h
    · refine ⟨?_, h.2⟩
      rintro ⟨⟩
  · cases ht

theorem receive_buffers {size : ℕ} (ht : s.receive size = some t) :
    t.buffers = s.buffers ∧ t.missing = s.missing := by
  unfold receive at ht
  split at ht
  next more first armed harmed =>
    cases ht
    have hsplit : (armed : Multiset ℕ) = armed.take more + armed.drop more := by
      rw [Multiset.coe_add, List.take_append_drop]
    refine ⟨?_, rfl⟩
    simp only [buffers, harmed, RxDriver.coe_cons_eq, hsplit, List.flatMap_append,
      List.flatMap_cons, List.flatMap_nil, ← Multiset.coe_add, List.append_nil]
    abel
  · cases ht

/-- What a call has done, wherever it stands. -/
theorem passed_of_within {s : (descriptorRing n).State} (h : (descriptorRing n).Within log s) :
    Passed s log := by
  induction h with
  | start => exact fun _ => rfl
  | readData s => trivial
  | internal _ hn ih => exact ih.internal hn
  | granted buffer _ hn ih =>
    obtain ⟨-, -, -, -, hsome⟩ := next_allocate hn
    rw [hsome]
    unfold Passed arm at *
    exact ih
  | refused _ hn ih =>
    obtain ⟨-, ready, hphase, hnone, -⟩ := next_allocate hn
    rw [hnone]
    unfold Passed at ih
    rw [hphase] at ih
    cases ready with
    | true => exact ⟨ih, rfl⟩
    | false => exact ⟨ih, rfl⟩
  | linked _ hn ih =>
    obtain ⟨-, hphase, -⟩ := next_link hn
    unfold Passed
    rw [hphase]
    exact fun _ => rfl
  | received size _ ht ih => exact ih.receive ht

end RingState

/-- **The ring keeps the contract.** -/
theorem descriptorRing_documented (n : ℕ) : (descriptorRing n).Documented where
  start := ⟨rfl, rfl⟩
  readData _ := ⟨rfl, rfl⟩
  internal := RingState.next_internal
  refused hn := by
    obtain ⟨-, ready, -, hnone, -⟩ := RingState.next_allocate hn
    rw [hnone]
    exact ⟨rfl, rfl⟩
  granted {s answer} buffer hn := by
    obtain ⟨hmissing, -, -, -, hsome⟩ := RingState.next_allocate hn
    rw [hsome]
    exact ⟨RingState.arm_buffers s buffer, Nat.sub_add_cancel hmissing⟩
  linked hn := (RingState.next_link hn).2.2
  returns hn := by
    obtain ⟨rfl, -⟩ := RingState.next_returns hn
    exact ⟨⟨rfl, rfl⟩, rfl⟩
  receive := RingState.receive_buffers
  reads {log s t} h hn hlog := by
    have hpassed := RingState.passed_of_within h
    unfold RingState.Passed at hpassed
    rcases RingState.next_returns hn with ⟨-, ⟨hphase, -⟩ | hphase⟩
    · rw [hphase] at hpassed
      exact List.length_eq_zero_iff.mpr (hpassed hlog)
    · rw [hphase] at hpassed
      exact List.length_eq_zero_iff.mpr (hpassed.1 hlog)
  delivers {log s t} h hn := by
    have hpassed := RingState.passed_of_within h
    unfold RingState.Passed at hpassed
    rcases RingState.next_returns hn with ⟨-, ⟨hphase, -⟩ | hphase⟩
    · rw [hphase] at hpassed
      exact hpassed
    · rw [hphase] at hpassed
      exact hpassed.1
  fills {log s t ready} h hn hlog := by
    rcases RingState.next_returns hn with ⟨-, ⟨-, hmissing⟩ | hphase⟩
    · exact hmissing
    -- it only stops before that when it was refused a buffer
    · have hpassed := RingState.passed_of_within h
      unfold RingState.Passed at hpassed
      rw [hphase] at hpassed
      cases ready with
      | true => exact absurd (hlog.symm.trans hpassed.2) Bool.false_ne_true
      | false => exact absurd (hlog.symm.trans hpassed.2) Bool.false_ne_true

namespace RxDriver

/-! ## Six packets with the stack -/

/-- The ring gives its four descriptors buffers. -/
def startUp : List RxEvent := List.replicate 5 .library

/-- A packet is received and read. -/
def arrival : List RxEvent :=
  [.receive 1, .rxCpltCallback, .waitEnds, .lowLevelInput] ++ List.replicate 4 .library

/-- A packet is received and handed to the stack. -/
def delivery : List RxEvent :=
  arrival ++ [.library, .inputEnds true, .lowLevelInput, .library, .library]

/-- A packet is read when the pool is empty; meanwhile the events. -/
def shortage (meanwhile : List RxEvent) : List RxEvent :=
  arrival ++ meanwhile ++ [.setStatus, .library, .inputEnds true, .lowLevelInput]

/-- Seven packets, of which the stack frees none. -/
def exhaustion : List RxEvent :=
  startUp ++ (List.replicate 6 delivery).flatten ++ shortage []

/-- Seven packets; a buffer of the first one is freed just before the mark is left. -/
def lateMark : List RxEvent :=
  startUp ++ (List.replicate 6 delivery).flatten ++
    shortage [.mempoolFree (.task 0) 0, .testStatus (.task 0)]

/-- The stack has all the buffers but those of the descriptors, and one descriptor has none. -/
def exhausted : RxDriver (descriptorRing 4) :=
  ((rxDriver (descriptorRing 4)).schedule Prioritised (init _) exhaustion).getD (init _)

theorem exhausted_reachable :
    ((rxDriver (descriptorRing 4)).system Prioritised).Reachable exhausted := by
  have hsome : ((rxDriver (descriptorRing 4)).schedule Prioritised (init _) exhaustion).isSome := by
    decide +kernel
  obtain ⟨s, hs⟩ := Option.isSome_iff_exists.mp hsome
  unfold exhausted
  rw [hs]
  exact Transition.Eventful.schedule_reachable (.init rfl) hs

theorem exhausted_quiet : exhausted.Quiet :=
  ⟨by decide +kernel, by decide +kernel, by decide +kernel, fun _ => rfl⟩

theorem receive_never_stalls_exhausted :
    exhausted.pool = [] ∧ ethRxBufferCnt ≤ exhausted.held.length + exhausted.chain.length + 4 :=
  ((receive_never_stalls (descriptorRing_documented 4) exhausted_reachable).2
    exhausted_quiet).resolve_left fun h => absurd h.2 (by decide +kernel)

/-- The mark has been left too late. -/
def stalled : RxDriver (descriptorRing 4) :=
  ((rxDriver (descriptorRing 4)).schedule (fun _ _ => True) (init _) lateMark).getD (init _)

theorem stalled_quiet : stalled.Quiet := by
  have hfreeing : stalled.freeing =
      Function.update (Function.update (fun _ => .idle) (.task 0) .freed) (.task 0) .idle := rfl
  refine ⟨by decide +kernel, by decide +kernel, by decide +kernel, fun freer => ?_⟩
  rw [hfreeing, Function.update_idem, Function.update_eq_self]

/-- **Without the priority** a buffer lies in the pool while a descriptor has none. -/
theorem receive_stalls : ¬∀ (lib : EthLibrary) (s : RxDriver lib), lib.Documented →
    ((rxDriver lib).system fun _ _ => True).Reachable s → s.Quiet →
      lib.missing s.library = 0 ∨ s.pool = [] := by
  intro h
  have hsome : ((rxDriver (descriptorRing 4)).schedule (fun _ _ => True) (init _)
      lateMark).isSome := by
    decide +kernel
  obtain ⟨s, hs⟩ := Option.isSome_iff_exists.mp hsome
  have hreach : ((rxDriver (descriptorRing 4)).system fun _ _ => True).Reachable stalled := by
    unfold stalled
    rw [hs]
    exact Transition.Eventful.schedule_reachable (.init rfl) hs
  have hstalled : ¬((descriptorRing 4).missing stalled.library = 0 ∨ stalled.pool = []) := by
    decide +kernel
  exact hstalled (h _ stalled (descriptorRing_documented 4) hreach stalled_quiet)

end RxDriver

end Ptpd

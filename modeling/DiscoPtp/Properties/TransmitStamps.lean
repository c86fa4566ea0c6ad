import DiscoPtp.Model.Run
import DiscoPtp.Model.Transmit

/-!
# Transmit timestamps

The transmit semaphore is given for every completed frame and taken by event messages only, so a
wait may end before the own frame is completed, and another task may release later frames before the
timestamp is read.

## Main definitions

* `OwnStamps`: the times returned are those of the frames sent
* `Timely`: a release finds the own frame completed last

## Main results

* `own_stamps`: timely releases give the times of the own frames
-/

namespace Ptpd

namespace Driver

/-- The times returned are the transmit timestamps of the frames sent. -/
def OwnStamps (d : Driver) : Prop :=
  ∀ message ∈ d.returned, ∃ stamp, d.stamps[message.1]? = some stamp ∧ message.2 = stamp.time

/-- The frame whose timestamp is to be read after a release by the task. -/
def awaited (d : Driver) (task : Task) : Option ℕ :=
  match d.phase .ptp with
  | .woken frame => if task = .ptp then some frame else none
  | .released frame => some frame
  | .readLow frame _ => some frame
  | _ => none

/-- A release, between the end of the wait of an event message and the reading of the timestamp,
finds the frame of this message completed, and no later one. -/
def Timely (d : Driver) : DriverEvent → Prop
  | .release task => ∀ frame ∈ d.awaited task, d.stamps.length = frame + 1
  | _ => True

instance (d : Driver) (event : DriverEvent) : Decidable (Timely d event) :=
  match event with
  | .release task => inferInstanceAs (Decidable (∀ frame ∈ d.awaited task, _))
  | .netSend _ _ | .transmit _ | .transmitBusy _ | .transmitFails _ | .waitEnds _ | .read _
  | .complete _ => .isTrue trivial

/-- What a task knows about the timestamp of its frame. -/
def Knows (d : Driver) : Phase → Prop
  | .released frame => d.stamps[frame]? = some d.txTimestamp
  | .readLow frame nanoseconds =>
    d.stamps[frame]? = some d.txTimestamp ∧ nanoseconds = d.txTimestamp.time.nanoseconds
  | _ => True

/-- A task that sends no event messages. -/
def Ordinary : Phase → Prop
  | .idle | .output false | .busy false | .retry false => True
  | _ => False

/-- The invariant of timely runs. -/
structure Stamped (d : Driver) : Prop where
  own : d.OwnStamps
  knows : d.Knows (d.phase .ptp)
  ordinary : ∀ n, Ordinary (d.phase (.other n))

variable {d d' : Driver} {task : Task}

theorem Stamped.init : init.Stamped := by
  constructor
  · intro message hm
    cases hm
  · trivial
  · exact fun _ => trivial

/-- Only the PTP task sends event messages. -/
theorem Stamped.eq_ptp (h : d.Stamped) (hp : ¬Ordinary (d.phase task)) : task = .ptp := by
  cases task with
  | ptp => rfl
  | other n => exact absurd (h.ordinary n) hp

theorem Stamped.event_eq_false (h : d.Stamped) (hne : task ≠ .ptp) {event : Bool}
    (hp : d.phase task = .output event ∨ d.phase task = .busy event ∨ d.phase task = .retry event) :
    event = false := by
  cases event with
  | false => rfl
  | true =>
    refine absurd (h.eq_ptp fun ho => ?_) hne
    rcases hp with hp | hp | hp
    all_goals
      rw [hp] at ho
      exact ho

theorem Stamped.goto (h : d.Stamped) {phase : Phase} (hptp : task = .ptp → d.Knows phase)
    (hother : task ≠ .ptp → Ordinary phase) : (d.goto task phase).Stamped := by
  constructor
  · exact h.own
  · by_cases ht : task = .ptp
    · show d.Knows (Function.update d.phase task phase .ptp)
      rw [ht, Function.update_self]
      exact hptp ht
    · show d.Knows (Function.update d.phase task phase .ptp)
      rw [Function.update_of_ne (Ne.symm ht)]
      exact h.knows
  · intro n
    show Ordinary (Function.update d.phase task phase (.other n))
    by_cases ht : .other n = task
    · rw [ht, Function.update_self]
      exact hother (by rw [← ht]; rintro ⟨⟩)
    · rw [Function.update_of_ne ht]
      exact h.ordinary n

theorem Stamped.semaphoreWait (h : d.Stamped) : d.semaphoreWait.Stamped :=
  ⟨h.own, h.knows, h.ordinary⟩

/-- A completion keeps the timestamps of the frames completed before. -/
theorem getElem?_snoc {stamps : List HwTime} {frame : ℕ} {stamp : HwTime}
    (h : stamps[frame]? = some stamp) (last : HwTime) :
    (stamps ++ [last])[frame]? = some stamp := by
  obtain ⟨hlt, _⟩ := List.getElem?_eq_some_iff.mp h
  rw [List.getElem?_append_left hlt, h]

theorem Stamped.complete (h : d.Stamped) (last : HwTime) :
    Stamped { d.txCpltCallback with stamps := d.stamps ++ [last] } := by
  constructor
  · intro message hm
    obtain ⟨stamp, hs, ht⟩ := h.own message hm
    exact ⟨stamp, getElem?_snoc hs last, ht⟩
  · have hknows := h.knows
    revert hknows
    show d.Knows (d.phase .ptp) → Knows _ (d.phase .ptp)
    cases d.phase .ptp with
    | released frame => exact fun hs => getElem?_snoc hs last
    | readLow frame nanoseconds => exact fun hs => ⟨getElem?_snoc hs.1 last, hs.2⟩
    | _ => exact id
  · exact h.ordinary

/-- The frame completed last is the one whose timestamp a release leaves. -/
theorem releaseTxPacket_stamp {frame : ℕ} (h : d.stamps.length = frame + 1) :
    d.stamps[frame]? = some d.releaseTxPacket.txTimestamp := by
  have hlt : frame < d.stamps.length := by omega
  have hlast : d.stamps.getLast? = some d.stamps[frame] := by
    rw [List.getLast?_eq_getElem?, h, Nat.add_sub_cancel, List.getElem?_eq_getElem hlt]
  rw [List.getElem?_eq_getElem hlt, releaseTxPacket, hlast, Option.getD_some]

theorem Stamped.release (h : d.Stamped) (ht : d.Timely (.release task)) :
    d.releaseTxPacket.Stamped := by
  refine ⟨h.own, ?_, h.ordinary⟩
  have hknows := h.knows
  show d.releaseTxPacket.Knows (d.phase .ptp)
  cases hphase : d.phase .ptp with
  | released frame =>
    have hlength : d.stamps.length = frame + 1 := ht frame (by rw [awaited, hphase]; rfl)
    exact releaseTxPacket_stamp hlength
  | readLow frame nanoseconds =>
    have hlength : d.stamps.length = frame + 1 := ht frame (by rw [awaited, hphase]; rfl)
    have hstamp := releaseTxPacket_stamp hlength
    rw [hphase] at hknows
    -- the other release leaves the same timestamp again
    have hsame : d.releaseTxPacket.txTimestamp = d.txTimestamp :=
      Option.some.inj (hstamp.symm.trans hknows.1)
    exact ⟨hstamp, by rw [hsame]; exact hknows.2⟩
  | _ => trivial

/-- A timely step keeps the invariant. -/
theorem Stamped.step (h : d.Stamped) {event : DriverEvent} (ht : d.Timely event)
    (hstep : d.step event = some d') : d'.Stamped := by
  cases event with
  | netSend task event =>
    simp only [Driver.step] at hstep
    split at hstep
    · rename_i hidle
      obtain rfl := Option.some.inj hstep
      refine h.goto (fun _ => trivial) fun hne => ?_
      cases event with
      | true => exact absurd (hidle.2 rfl) hne
      | false => trivial
    · cases hstep
  | transmit task =>
    simp only [Driver.step] at hstep
    split at hstep
    · rename_i hphase
      obtain rfl := Option.some.inj hstep
      have hptp : task = .ptp := h.eq_ptp (by rw [hphase]; exact id)
      have hgoto : (d.goto task (.sent d.sent)).Stamped :=
        h.goto (fun _ => trivial) fun hne => absurd hptp hne
      exact ⟨hgoto.own, hgoto.knows, hgoto.ordinary⟩
    · obtain rfl := Option.some.inj hstep
      have hgoto : (d.goto task .idle).Stamped := h.goto (fun _ => trivial) fun _ => trivial
      exact ⟨hgoto.own, hgoto.knows, hgoto.ordinary⟩
    · cases hstep
  | transmitBusy task =>
    simp only [Driver.step] at hstep
    split at hstep
    · rename_i event hphase
      obtain rfl := Option.some.inj hstep
      refine h.goto (fun _ => trivial) fun hne => ?_
      rw [h.event_eq_false hne (.inl hphase)]
      trivial
    · cases hstep
  | transmitFails task =>
    simp only [Driver.step] at hstep
    split at hstep
    · obtain rfl := Option.some.inj hstep
      exact h.goto (fun _ => trivial) fun _ => trivial
    · cases hstep
  | waitEnds task =>
    simp only [Driver.step] at hstep
    split at hstep
    · rename_i event hphase
      obtain rfl := Option.some.inj hstep
      refine h.semaphoreWait.goto (fun _ => trivial) fun hne => ?_
      rw [h.event_eq_false hne (.inr (.inl hphase))]
      trivial
    · rename_i frame hphase
      obtain rfl := Option.some.inj hstep
      have hptp : task = .ptp := h.eq_ptp (by rw [hphase]; exact id)
      exact h.semaphoreWait.goto (fun _ => trivial) fun hne => absurd hptp hne
    · cases hstep
  | release task =>
    simp only [Driver.step] at hstep
    split at hstep
    · rename_i event hphase
      obtain rfl := Option.some.inj hstep
      refine (h.release ht).goto (fun _ => trivial) fun hne => ?_
      rw [h.event_eq_false hne (.inr (.inr hphase))]
      trivial
    · rename_i frame hphase
      obtain rfl := Option.some.inj hstep
      obtain rfl : task = .ptp := h.eq_ptp (by rw [hphase]; exact id)
      have hlength : d.stamps.length = frame + 1 := ht frame (by simp [awaited, hphase])
      exact (h.release ht).goto (fun _ => releaseTxPacket_stamp hlength) fun hne => absurd rfl hne
    · cases hstep
  | read task =>
    simp only [Driver.step] at hstep
    split at hstep
    · rename_i frame hphase
      obtain rfl := Option.some.inj hstep
      obtain rfl : task = .ptp := h.eq_ptp (by rw [hphase]; exact id)
      have hknows := h.knows
      rw [hphase] at hknows
      exact h.goto (fun _ => ⟨hknows, rfl⟩) fun hne => absurd rfl hne
    · rename_i frame nanoseconds hphase
      obtain rfl := Option.some.inj hstep
      obtain rfl : task = .ptp := h.eq_ptp (by rw [hphase]; exact id)
      have hknows := h.knows
      rw [hphase] at hknows
      have hgoto : (d.goto .ptp .idle).Stamped := h.goto (fun _ => trivial) fun _ => trivial
      refine ⟨fun message hm => ?_, hgoto.knows, hgoto.ordinary⟩
      rcases List.mem_cons.mp hm with rfl | hm
      · exact ⟨d.txTimestamp, hknows.1, by rw [hknows.2]⟩
      · exact h.own message hm
    · cases hstep
  | complete stamp =>
    simp only [Driver.step] at hstep
    split at hstep
    · obtain rfl := Option.some.inj hstep
      exact h.complete stamp
    · cases hstep

/-- **Timely releases give the times of the own frames**: in every run of the PTP task, the other
tasks and the interrupts. -/
theorem own_stamps (hd : (Runs Timely).Reachable d) : d.OwnStamps := by
  obtain ⟨_, rfl, hr⟩ := hd
  have hpreserved : Transition.Preserves (Next Timely) Stamped := by
    rintro d d' ⟨event, ht, hstep⟩ h
    exact h.step ht hstep
  exact (hpreserved.run hr Stamped.init).own

/-! ## An event message alone, and after a general message -/

/-- The PTP task sends an event message, and the frame is completed before the wait ends. -/
def completedSend (stamp : HwTime) : List DriverEvent :=
  [.netSend .ptp true, .transmit .ptp, .complete stamp, .waitEnds .ptp, .release .ptp, .read .ptp,
    .read .ptp]

/-- The PTP task sends a general message and then an event message. The wait ends by the semaphore
of the general message, before the frame of the event message is completed. -/
def earlySend (general event : HwTime) : List DriverEvent :=
  [.netSend .ptp false, .transmit .ptp, .complete general, .netSend .ptp true, .transmit .ptp,
    .waitEnds .ptp, .release .ptp, .read .ptp, .read .ptp, .complete event]

example : (init.run Timely (completedSend (atSecond 5))).map returned = some [(0, ⟨5, 0⟩)] := by
  decide +kernel

example : init.run Timely (earlySend (atSecond 5) (atSecond 6)) = none := by decide +kernel

theorem own_stamps_completedSend :
    ((init.run Timely (completedSend (atSecond 5))).getD init).OwnStamps := by
  have hsome : (init.run Timely (completedSend (atSecond 5))).isSome := by decide +kernel
  obtain ⟨d, hd⟩ := Option.isSome_iff_exists.mp hsome
  rw [hd]
  exact own_stamps (run_reachable (.init rfl) hd)

/-- After a general message an event message gets the transmit timestamp of that message. -/
theorem not_all_own_stamps :
    ¬∀ d, (Runs fun _ _ => True).Reachable d → d.OwnStamps := by
  intro h
  have hsome : ((init.run (fun _ _ => True) (earlySend (atSecond 5) (atSecond 6))).map
      fun d => (d.returned, d.stamps)) = some ([(1, ⟨5, 0⟩)], [atSecond 5, atSecond 6]) := by
    decide +kernel
  obtain ⟨d, hd, hview⟩ := Option.map_eq_some_iff.mp hsome
  obtain ⟨hreturned, hstamps⟩ := Prod.mk.inj hview
  obtain ⟨stamp, hs, ht⟩ := h d (run_reachable (.init rfl) hd) (1, ⟨5, 0⟩) (by simp [hreturned])
  rw [hstamps] at hs
  obtain rfl : atSecond 6 = stamp := Option.some.inj hs
  revert ht
  decide

end Driver

end Ptpd

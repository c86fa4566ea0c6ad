import DiscoPtp.Model.Usart

/-!
# Reception over the UART

The octets that `UART_Read` hands out are octets that have arrived, in their order and none of them
twice, whichever tasks read and write at the same time. They are all of them as long as the handler
reads each octet before the next one arrives and finds room in the queue; the first octet that it
does not is lost. Errors on the line lose no octets.

## Main definitions

* `Usart.received`: the octets that have arrived and are not lost
* `Usart.Keeps`: events by which no octet is lost
* `Usart.Served`: each task has the octets it has asked for

## Main results

* `Usart.step_octets`: what one step does to the octets
* `Usart.octets_in_order`: the octets received are among those that have arrived, in their order
* `Usart.octets_complete`: they are all of them exactly as long as no event loses one
-/

namespace Ptpd

/-- How many octets a call of `UART_Read` is still to store. -/
def ReadPhase.left : ReadPhase → ℕ
  | .idle => 0
  | .polling left => left
  | .getting left => left + 1

namespace Usart

variable {u u' : Usart} {event : UsartEvent} {C : Usart → UsartEvent → Prop}

/-- The octets that have arrived and are not lost: handed out, in the queue or in the register. -/
def received (u : Usart) : List UInt8 := u.delivered.map Prod.snd ++ u.rxQueue ++ u.rdr.toList

/-- No octet is lost: there is none in the register when the next one arrives, and room in the queue
when the handler reads it. -/
def Keeps (u : Usart) : UsartEvent → Prop
  | .arrive _ _ => u.rdr = none
  | .interrupt _ =>
    u.errorflags = false → u.rdr ≠ none → u.rxQueue.length < uartQueueSize
  | _ => True

instance (u : Usart) (event : UsartEvent) : Decidable (u.Keeps event) := by
  cases event <;> unfold Keeps <;> infer_instance

/-! ## The steps -/

theorem transmit_received (txe : Bool) (u : Usart) :
    (u.transmit txe).received = u.received ∧ (u.transmit txe).arrived = u.arrived := by
  cases txe with
  | true => exact ⟨rfl, rfl⟩
  | false => exact ⟨rfl, rfl⟩

/-- How the octets go on: those that arrive are received, or one is lost. -/
inductive Octets (u u' : Usart) : Prop → Prop
  | kept {keeps : Prop} (hkeeps : keeps) (new : List UInt8)
    (hreceived : u'.received = u.received ++ new) (harrived : u'.arrived = u.arrived ++ new) :
    Octets u u' keeps
  | overrun {keeps : Prop} (hkeeps : ¬keeps) (octet : UInt8) (hreceived : u'.received = u.received)
    (harrived : u'.arrived = u.arrived ++ [octet]) : Octets u u' keeps
  | refused {keeps : Prop} (hkeeps : ¬keeps) (octet : UInt8)
    (hreceived : u.received = u'.received ++ [octet]) (harrived : u'.arrived = u.arrived) :
    Octets u u' keeps

/-- A step that neither brings nor loses an octet. -/
theorem Octets.same {keeps : Prop} (hkeeps : keeps) (hreceived : u'.received = u.received)
    (harrived : u'.arrived = u.arrived) : Octets u u' keeps :=
  .kept hkeeps [] (by rw [hreceived, List.append_nil]) (by rw [harrived, List.append_nil])

theorem arrive_octets (octet : UInt8) (fault : Bool) :
    Octets u (u.arrive octet fault) (u.Keeps (.arrive octet fault)) := by
  unfold arrive
  cases hrdr : u.rdr with
  | none =>
    refine .kept hrdr [octet] ?_ rfl
    simp [received, hrdr]
  | some old =>
    have hkeeps : ¬u.Keeps (.arrive octet fault) := by
      intro h
      rw [show u.rdr = none from h] at hrdr
      cases hrdr
    refine .overrun hkeeps octet ?_ rfl
    simp [received, hrdr]

/-- The handler puts the octet from the register into the queue, or loses it. -/
theorem usartHandler_octets (txe : Bool) :
    Octets u (u.usartHandler txe) (u.Keeps (.interrupt txe)) := by
  unfold usartHandler
  split
  next herror =>
    -- with an error flag set the octet stays in the register
    refine .same (fun hnone => ?_) rfl rfl
    rw [herror] at hnone
    cases hnone
  next herror =>
    have hnone : u.errorflags = false := Bool.eq_false_iff.mpr herror
    split
    next hrdr =>
      obtain ⟨hreceived, harrived⟩ := transmit_received txe u
      exact .same (fun _ h => absurd hrdr h) hreceived harrived
    next octet hrdr =>
      split
      next hroom =>
        obtain ⟨hreceived, harrived⟩ := transmit_received txe
          { u with rdr := none, rxQueue := u.rxQueue ++ [octet] }
        refine .same (fun _ _ => hroom) (hreceived.trans ?_) harrived
        simp [received, hrdr]
      next hfull =>
        have hkeeps : ¬u.Keeps (.interrupt txe) := by
          intro h
          refine hfull (h hnone ?_)
          rw [hrdr]
          exact Option.some_ne_none octet
        refine .refused hkeeps octet ?_ rfl
        simp [received, hrdr]

/-- **What one step does to the octets**, and when it loses one. -/
theorem step_octets (h : u.step event = some u') : Octets u u' (u.Keeps event) := by
  cases event with
  | arrive octet fault =>
    obtain rfl := Option.some.inj h
    exact arrive_octets octet fault
  | interrupt txe =>
    obtain rfl := Option.some.inj h
    exact usartHandler_octets txe
  | read task len =>
    simp only [step] at h
    split at h
    · obtain rfl := Option.some.inj h
      exact .same trivial rfl rfl
    · cases h
  | available task =>
    simp only [step] at h
    split at h
    · obtain rfl := Option.some.inj h
      exact .same trivial rfl rfl
    · cases h
  | get task =>
    simp only [step] at h
    split at h
    next left octet rxQueue hreading hqueue =>
      obtain rfl := Option.some.inj h
      -- the octet moves from the queue to the task
      refine .same trivial ?_ rfl
      simp [received, hqueue, goto]
    · cases h
  | finish task =>
    simp only [step] at h
    split at h
    · obtain rfl := Option.some.inj h
      exact .same trivial rfl rfl
    · cases h
  | write event hwrite =>
    obtain ⟨tx, -, rfl⟩ := Option.map_eq_some_iff.mp h
    exact .same trivial rfl rfl

/-- **The transmit half** takes a step of its own or none. -/
theorem step_tx (h : u.step event = some u') :
    u'.tx = u.tx ∨ (Uart.Runs fun _ _ => True).next u.tx u'.tx := by
  have htransmit (txe : Bool) (v : Usart) :
      (v.transmit txe).tx = v.tx ∨ (Uart.Runs fun _ _ => True).next v.tx (v.transmit txe).tx := by
    cases txe with
    | false => exact .inl rfl
    | true => exact .inr ⟨.interrupt, trivial, rfl⟩
  cases event with
  | arrive octet fault =>
    obtain rfl := Option.some.inj h
    left
    unfold arrive
    split <;> rfl
  | interrupt txe =>
    obtain rfl := Option.some.inj h
    unfold usartHandler
    split
    · exact .inl rfl
    split
    · exact htransmit txe u
    split
    · exact htransmit txe _
    · exact .inl rfl
  | write event hwrite =>
    obtain ⟨tx, htx, rfl⟩ := Option.map_eq_some_iff.mp h
    exact .inr ⟨event, trivial, htx⟩
  | _ =>
    simp only [step] at h
    split at h
    · obtain rfl := Option.some.inj h
      exact .inl rfl
    · cases h

/-! ## The readers -/

/-- **Each task has what it has asked for**, up to what its call is still to store. -/
def Served (u : Usart) : Prop :=
  ∀ task, (u.delivered.filter (·.1 = task)).length + (u.reading task).left = u.requested task

/-- A task that goes on without an octet. -/
theorem Served.goto (h : u.Served) {task : ℕ} {phase : ReadPhase}
    (hleft : phase.left = (u.reading task).left) : (u.goto task phase).Served := by
  intro other
  show _ + (Function.update u.reading task phase other).left = _
  by_cases hother : other = task
  · subst hother
    rw [Function.update_self, hleft]
    exact h other
  · rw [Function.update_of_ne hother]
    exact h other

theorem transmit_served (txe : Bool) (h : u.Served) : (u.transmit txe).Served := by
  cases txe with
  | true => exact h
  | false => exact h

theorem Served.step (h : u.Served) (hstep : u.step event = some u') : u'.Served := by
  cases event with
  | arrive octet fault =>
    obtain rfl := Option.some.inj hstep
    unfold arrive
    split
    · exact h
    · exact h
  | interrupt txe =>
    obtain rfl := Option.some.inj hstep
    unfold usartHandler
    split
    · exact h
    split
    · exact transmit_served txe h
    split
    · exact transmit_served txe h
    · exact h
  | read task len =>
    simp only [Usart.step] at hstep
    split at hstep
    next hreading =>
      obtain rfl := Option.some.inj hstep
      intro other
      show _ + (Function.update u.reading task (.polling len) other).left =
        Function.update u.requested task (u.requested task + len) other
      by_cases hother : other = task
      · subst hother
        rw [Function.update_self, Function.update_self, ← h other, hreading]
        rfl
      · rw [Function.update_of_ne hother, Function.update_of_ne hother]
        exact h other
    · cases hstep
  | available task =>
    simp only [Usart.step] at hstep
    split at hstep
    next left _ _ hreading _ =>
      obtain rfl := Option.some.inj hstep
      refine h.goto ?_
      rw [hreading]
      rfl
    · cases hstep
  | get task =>
    simp only [Usart.step] at hstep
    split at hstep
    next left octet rxQueue hreading _ =>
      obtain rfl := Option.some.inj hstep
      intro other
      show ((u.delivered ++ [(task, octet)]).filter (·.1 = other)).length +
        (Function.update u.reading task (.polling left) other).left = u.requested other
      rw [List.filter_append, List.length_append, ← h other]
      by_cases hother : other = task
      · subst hother
        rw [Function.update_self, hreading]
        simp [ReadPhase.left]
        omega
      · rw [Function.update_of_ne hother]
        simp [Ne.symm hother]
    · cases hstep
  | finish task =>
    simp only [Usart.step] at hstep
    split at hstep
    next hreading =>
      obtain rfl := Option.some.inj hstep
      refine h.goto ?_
      rw [hreading]
      rfl
    · cases hstep
  | write event hwrite =>
    obtain ⟨tx, -, rfl⟩ := Option.map_eq_some_iff.mp hstep
    exact h

/-! ## Runs -/

/-- **The octets received** are among those that have arrived, in their order, and none of them
twice: in every run of the readers, the writers, the handler and the hardware. Each call of
`UART_Read` stores as many as it was asked for. The transmit half runs as it does alone. -/
theorem octets_in_order (hu : (usart.system C).Reachable u) :
    u.received.Sublist u.arrived ∧ u.Served ∧ (Uart.Runs fun _ _ => True).Reachable u.tx := by
  refine Transition.Eventful.invariant (E := usart) (C := C) (I := fun u =>
    u.received.Sublist u.arrived ∧ u.Served ∧ (Uart.Runs fun _ _ => True).Reachable u.tx)
    ⟨List.Sublist.refl _, fun _ => rfl, .init rfl⟩ ?_ hu
  rintro u event u' - hstep ⟨horder, hserved, htx⟩
  refine ⟨?_, hserved.step hstep, ?_⟩
  · cases step_octets hstep with
    | kept _ new hreceived harrived =>
      rw [hreceived, harrived]
      exact horder.append (List.Sublist.refl new)
    | overrun _ octet hreceived harrived =>
      rw [hreceived, harrived]
      exact horder.trans (List.sublist_append_left u.arrived [octet])
    | refused _ octet hreceived harrived =>
      rw [hreceived] at horder
      rw [harrived]
      exact (List.sublist_append_left u'.received [octet]).trans horder
  · rcases step_tx hstep with heq | hnext
    · rw [heq]
      exact htx
    · exact htx.next hnext

/-- An octet that is lost is missed. -/
theorem Octets.complete_iff {keeps : Prop} (h : Octets u u' keeps) (hu : u.received = u.arrived) :
    u'.received = u'.arrived ↔ keeps := by
  cases h with
  | kept hkeeps new hreceived harrived =>
    rw [hreceived, harrived, hu]
    exact ⟨fun _ => hkeeps, fun _ => rfl⟩
  | overrun hkeeps octet hreceived harrived =>
    refine ⟨fun heq => ?_, fun h => absurd h hkeeps⟩
    have hlength := congrArg List.length heq
    rw [hreceived, harrived, hu, List.length_append, List.length_singleton] at hlength
    omega
  | refused hkeeps octet hreceived harrived =>
    refine ⟨fun heq => ?_, fun h => absurd h hkeeps⟩
    have hlength := congrArg List.length hreceived
    rw [heq, harrived, hu, List.length_append, List.length_singleton] at hlength
    omega

/-- **No octet is lost** as long as the handler reads each one before the next one arrives and finds
room for it, and the first one for which this fails is lost. -/
theorem octets_complete (hu : (usart.system Keeps).Reachable u) :
    u.received = u.arrived ∧ ∀ event u', u.step event = some u' →
      (u'.received = u'.arrived ↔ u.Keeps event) := by
  have hcomplete : u.received = u.arrived := by
    refine Transition.Eventful.invariant (E := usart) (C := Keeps)
      (I := fun u => u.received = u.arrived) rfl ?_ hu
    intro u event u' hkeeps hstep h
    exact ((step_octets hstep).complete_iff h).mpr hkeeps
  exact ⟨hcomplete, fun event u' hstep => (step_octets hstep).complete_iff hcomplete⟩

/-! ## Two octets -/

/-- Two octets arrive, the first one with an error; a task reads it, and another task waits. -/
def twoOctets : List UsartEvent :=
  [.arrive 65 true, .interrupt true, .interrupt true, .arrive 66 false, .read 0 1, .read 1 1,
    .available 0, .available 1, .get 0, .finish 0]

/-- The second octet is still in the register. -/
def oneDelivered : Usart := (usart.schedule Keeps init twoOctets).getD init

theorem oneDelivered_reachable : (usart.system Keeps).Reachable oneDelivered := by
  have hsome : (usart.schedule Keeps init twoOctets).isSome := by decide +kernel
  obtain ⟨u, hu⟩ := Option.isSome_iff_exists.mp hsome
  unfold oneDelivered
  rw [hu]
  exact Transition.Eventful.schedule_reachable (.init rfl) hu

theorem octets_in_order_oneDelivered :
    oneDelivered.received.Sublist oneDelivered.arrived ∧ oneDelivered.Served :=
  have h := octets_in_order oneDelivered_reachable
  ⟨h.1, h.2.1⟩

/-- The next octet would be lost. -/
theorem octets_complete_oneDelivered :
    oneDelivered.received = [65, 66] ∧
      (oneDelivered.arrive 67 false).received ≠ (oneDelivered.arrive 67 false).arrived := by
  obtain ⟨hcomplete, hnext⟩ := octets_complete oneDelivered_reachable
  refine ⟨hcomplete.trans (by decide +kernel), fun heq => ?_⟩
  exact absurd ((hnext (.arrive 67 false) _ rfl).mp heq) (by decide +kernel)

end Usart

end Ptpd

import DiscoPtp.Model.Uart

/-!
# Transmission over the UART

The handler stores a value into the data register also when the queue is empty, so every burst is
followed by an octet that nobody has written. `UART_Write` enables the interrupt after its loop and
not when it gives up, so a queue that has filled up with the interrupt disabled stays full.

## Main definitions

* `TransmitsExactly`, `FindsData`: the octets transmitted are those queued, and interrupts that
  find one
* `NoneStranded`, `Drains`: the queue is emptied, and timeouts that leave somebody to empty it

## Main results

* `transmits_exactly`: the octets transmitted are those queued as long as interrupts find data
* `none_stranded`: the queue is emptied as long as timeouts leave somebody to empty it
-/

namespace Ptpd

namespace Uart

variable {u u' : Uart} {task : ℕ}

/-- What one step can do: the task of the event goes on, an octet is queued, or the handler runs. -/
theorem step_cases {event : UartEvent} (h : u.step event = some u') :
    (∃ task data, event = .write task data ∧ u.phase task = .idle ∧
      u' = u.goto task (.writing data)) ∨
    (∃ task v data, event = .put task ∧ u.phase task = .writing (v :: data) ∧
      u' = { u.goto task (.writing data) with
        txQueue := u.txQueue ++ [v], queued := u.queued ++ [v] }) ∨
    (∃ task v data, event = .timeout task ∧ u.phase task = .writing (v :: data) ∧
      uartQueueSize ≤ u.txQueue.length ∧ u' = u.goto task .idle) ∨
    (∃ task, event = .finish task ∧ u.phase task = .writing [] ∧
      u' = { u.goto task .idle with txeie := true }) ∨
    (event = .interrupt ∧ u' = u.usartHandler) := by
  cases event with
  | write task data =>
    simp only [step] at h
    split at h
    · exact .inl ⟨task, data, rfl, ‹_›, (Option.some.inj h).symm⟩
    · cases h
  | put task =>
    simp only [step] at h
    split at h
    · split at h
      · exact .inr (.inl ⟨task, _, _, rfl, ‹_›, (Option.some.inj h).symm⟩)
      · cases h
    · cases h
  | timeout task =>
    simp only [step] at h
    split at h
    · split at h
      · cases h
      · exact .inr (.inr (.inl ⟨task, _, _, rfl, ‹_›, by omega, (Option.some.inj h).symm⟩))
    · cases h
  | finish task =>
    simp only [step] at h
    split at h
    · exact .inr (.inr (.inr (.inl ⟨task, rfl, ‹_›, (Option.some.inj h).symm⟩)))
    · cases h
  | interrupt => exact .inr (.inr (.inr (.inr ⟨rfl, (Option.some.inj h).symm⟩)))

/-! ## The octets transmitted -/

/-- **The octets transmitted** are those queued, in order, up to the ones that still wait. -/
def TransmitsExactly (u : Uart) : Prop := u.queued = u.transmitted ++ u.txQueue

/-- An interrupt that is enabled finds an octet in the queue. -/
def FindsData (u : Uart) : UartEvent → Prop
  | .interrupt => u.txeie = true → u.txQueue ≠ []
  | _ => True

/-- The handler transmits exactly, if it finds an octet or is disabled. -/
theorem TransmitsExactly.usartHandler (h : u.TransmitsExactly) :
    u.usartHandler.TransmitsExactly ↔ u.FindsData .interrupt := by
  unfold TransmitsExactly at h
  unfold TransmitsExactly Uart.usartHandler FindsData
  by_cases hon : u.txeie = true
  · rw [if_pos hon]
    cases hqueue : u.txQueue with
    | nil =>
      rw [hqueue, List.append_nil] at h
      -- the value stored without a message has not been queued
      simp [h, hon]
    | cons v txQueue =>
      rw [hqueue] at h
      simp [h]
  · rw [if_neg hon]
    exact ⟨fun _ hon' => absurd hon' hon, fun _ => h⟩

/-- A step transmits exactly, if an interrupt finds an octet or is disabled. -/
theorem TransmitsExactly.step (h : u.TransmitsExactly) {event : UartEvent}
    (hstep : u.step event = some u') : u'.TransmitsExactly ↔ u.FindsData event := by
  obtain ⟨task, data, rfl, -, rfl⟩ | ⟨task, v, data, rfl, -, rfl⟩ |
    ⟨task, v, data, rfl, -, -, rfl⟩ | ⟨task, rfl, -, rfl⟩ | ⟨rfl, rfl⟩ := step_cases hstep
  · exact ⟨fun _ => trivial, fun _ => h⟩
  · refine ⟨fun _ => trivial, fun _ => ?_⟩
    show u.queued ++ [v] = u.transmitted ++ (u.txQueue ++ [v])
    rw [show u.queued = _ from h, List.append_assoc]
  · exact ⟨fun _ => trivial, fun _ => h⟩
  · exact ⟨fun _ => trivial, fun _ => h⟩
  · exact h.usartHandler

/-- **The UART transmits what was written** as long as no interrupt finds the queue empty, and the
first one that does transmits an octet that nobody has written. -/
theorem transmits_exactly {u : Uart} (hu : (Runs FindsData).Reachable u) :
    u.TransmitsExactly ∧ ∀ event u', u.step event = some u' →
      (u'.TransmitsExactly ↔ u.FindsData event) := by
  have hpreserves : Transition.Preserves (Runs FindsData).next TransmitsExactly := by
    rintro u u' ⟨event, hdata, hstep⟩ h
    exact (h.step hstep).mpr hdata
  obtain ⟨_, rfl, hr⟩ := hu
  have h : u.TransmitsExactly := hpreserves.run hr rfl
  exact ⟨h, fun event u' hstep => h.step hstep⟩

/-- One octet has been written, and transmitted. -/
def oneOctet : Uart :=
  { init with
    txeie := true
    phase := Function.update (Function.update (Function.update init.phase 0 (.writing [65])) 0
      (.writing [])) 0 .idle
    queued := [65]
    transmitted := [65] }

theorem oneOctet_run {C : Uart → UartEvent → Prop} (hwrite : C init (.write 0 [65]))
    (hput : ∀ u, C u (.put 0)) (hfinish : ∀ u, C u (.finish 0))
    (hinterrupt : ∀ u, u.txQueue = [65] → C u .interrupt) : (Runs C).Reachable oneOctet := by
  let written := init.goto 0 (.writing [65])
  let put : Uart := { written.goto 0 (.writing []) with txQueue := [65], queued := [65] }
  let finished : Uart := { put.goto 0 .idle with txeie := true }
  have h₁ : (Runs C).next init written := ⟨.write 0 [65], hwrite, rfl⟩
  have h₂ : (Runs C).next written put := ⟨.put 0, hput _, rfl⟩
  have h₃ : (Runs C).next put finished := ⟨.finish 0, hfinish _, rfl⟩
  have h₄ : (Runs C).next finished oneOctet := ⟨.interrupt, hinterrupt _ rfl, rfl⟩
  exact (((Transition.TransitionSystem.Reachable.init rfl).next h₁).next h₂ |>.next h₃).next h₄

theorem transmits_exactly_oneOctet :
    oneOctet.TransmitsExactly ∧ ∀ event u', oneOctet.step event = some u' →
      (u'.TransmitsExactly ↔ oneOctet.FindsData event) :=
  transmits_exactly (oneOctet_run trivial (fun _ => trivial) (fun _ => trivial)
    fun u hu _ => by rw [hu]; simp)

/-- The interrupt after the last octet transmits one more. -/
theorem octet_invented : ¬∀ u, (Runs fun _ _ => True).Reachable u → u.TransmitsExactly := by
  intro h
  have hreach : (Runs fun _ _ => True).Reachable oneOctet :=
    oneOctet_run trivial (fun _ => trivial) (fun _ => trivial) fun _ _ => trivial
  have hexact := h oneOctet.usartHandler (hreach.next ⟨.interrupt, trivial, rfl⟩)
  revert hexact
  unfold TransmitsExactly
  decide

/-! ## The queue is emptied -/

/-- **No octet is stranded**: when no `UART_Write` is in progress, the interrupt is enabled unless
the queue is empty. -/
def NoneStranded (u : Uart) : Prop :=
  u.txQueue ≠ [] → (∀ task, u.phase task = .idle) → u.txeie = true

/-- A timeout leaves the interrupt enabled, or another `UART_Write` in progress. -/
def Drains (u : Uart) : UartEvent → Prop
  | .timeout task => u.txeie = true ∨ ∃ other ≠ task, u.phase other ≠ .idle
  | _ => True

/-- A task that writes on. -/
theorem noneStranded_goto (u : Uart) (task : ℕ) (data : List UInt8) {txQueue queued : List UInt8} :
    NoneStranded { u.goto task (.writing data) with txQueue, queued } := by
  intro _ hidle
  have hwriting : Function.update u.phase task (.writing data) task = .idle := hidle task
  rw [Function.update_self] at hwriting
  cases hwriting

theorem NoneStranded.usartHandler (h : u.NoneStranded) : u.usartHandler.NoneStranded := by
  unfold Uart.usartHandler
  by_cases hon : u.txeie = true
  · rw [if_pos hon]
    cases u.txQueue with
    | nil => exact fun hqueue => absurd rfl hqueue
    | cons v txQueue => exact fun _ _ => hon
  · rw [if_neg hon]
    exact h

/-- A timeout strands the queue, which is full, unless somebody is left to empty it. -/
theorem noneStranded_timeout (hfull : uartQueueSize ≤ u.txQueue.length) :
    (u.goto task .idle).NoneStranded ↔ u.Drains (.timeout task) := by
  have hqueue : u.txQueue ≠ [] := by
    intro hnil
    rw [hnil] at hfull
    exact absurd hfull (by decide)
  constructor
  · intro h
    by_contra hnot
    simp only [Drains, not_or, not_exists, not_and, not_not] at hnot
    obtain ⟨hoff, hothers⟩ := hnot
    refine hoff (h hqueue fun other => ?_)
    by_cases hother : other = task
    · rw [hother]
      exact Function.update_self _ _ _
    · exact (Function.update_of_ne hother _ _).trans (hothers other hother)
  · rintro (hon | ⟨other, hother, hwriting⟩) _ hidle
    · exact hon
    · have hkept : Function.update u.phase task .idle other = .idle := hidle other
      rw [Function.update_of_ne hother] at hkept
      exact absurd hkept hwriting

/-- A step strands no octet, if a timeout leaves somebody to empty the queue. -/
theorem NoneStranded.step (h : u.NoneStranded) {event : UartEvent}
    (hstep : u.step event = some u') : u'.NoneStranded ↔ u.Drains event := by
  obtain ⟨task, data, rfl, -, rfl⟩ | ⟨task, v, data, rfl, -, rfl⟩ |
    ⟨task, v, data, rfl, -, hfull, rfl⟩ | ⟨task, rfl, -, rfl⟩ | ⟨rfl, rfl⟩ := step_cases hstep
  · exact ⟨fun _ => trivial, fun _ => noneStranded_goto u task data⟩
  · exact ⟨fun _ => trivial, fun _ => noneStranded_goto u task data⟩
  · exact noneStranded_timeout hfull
  · exact ⟨fun _ => trivial, fun _ _ _ => rfl⟩
  · exact ⟨fun _ => trivial, fun _ => h.usartHandler⟩

/-- **No octet is stranded** as long as every timeout finds the interrupt enabled or another
`UART_Write` in progress, and the first one that does not strands a full queue. -/
theorem none_stranded {u : Uart} (hu : (Runs Drains).Reachable u) :
    u.NoneStranded ∧ ∀ event u', u.step event = some u' →
      (u'.NoneStranded ↔ u.Drains event) := by
  have hpreserves : Transition.Preserves (Runs Drains).next NoneStranded := by
    rintro u u' ⟨event, hdrains, hstep⟩ h
    exact (h.step hstep).mpr hdrains
  obtain ⟨_, rfl, hr⟩ := hu
  have h : u.NoneStranded := hpreserves.run hr fun hqueue => absurd rfl hqueue
  exact ⟨h, fun event u' hstep => h.step hstep⟩

/-- A task has queued `n` of `n + m` octets, with the interrupt as before. -/
theorem fill {C : Uart → UartEvent → Prop} (hwrite : ∀ u data, C u (.write 0 data))
    (hput : ∀ u, C u (.put 0)) {u₀ : Uart} (hreach : (Runs C).Reachable u₀)
    (hempty : u₀.txQueue = []) (hidle : u₀.phase 0 = .idle) (m : ℕ) : ∀ n ≤ uartQueueSize,
    ∃ u, (Runs C).Reachable u ∧ u.txQueue.length = n ∧ u.txeie = u₀.txeie ∧
      u.phase = Function.update u₀.phase 0
        (.writing (List.replicate (uartQueueSize - n + m) 65)) := by
  intro n
  induction n with
  | zero =>
    intro _
    let data : List UInt8 := List.replicate (uartQueueSize + m) 65
    have hstep : u₀.step (.write 0 data) = some (u₀.goto 0 (.writing data)) := by
      simp only [step, hidle]
    refine ⟨_, hreach.next ⟨.write 0 data, hwrite u₀ data, hstep⟩, ?_, rfl, rfl⟩
    simp [goto, hempty]
  | succ n ih =>
    intro hn
    obtain ⟨u, hreach, hlen, hoff, hphase⟩ := ih (by omega)
    have hleft : uartQueueSize - n + m = uartQueueSize - (n + 1) + m + 1 := by omega
    have hwriting : u.phase 0 =
        .writing (65 :: List.replicate (uartQueueSize - (n + 1) + m) 65) := by
      rw [hphase, Function.update_self, hleft, List.replicate_succ]
    refine ⟨{ u.goto 0 (.writing (List.replicate (uartQueueSize - (n + 1) + m) 65)) with
      txQueue := u.txQueue ++ [65], queued := u.queued ++ [65] }, ?_, ?_, hoff, ?_⟩
    · refine hreach.next ⟨.put 0, hput u, ?_⟩
      simp only [step, hwriting]
      rw [if_pos (by omega)]
    · simp [hlen]
    · show Function.update u.phase 0 _ = _
      rw [hphase, Function.update_idem]

/-- A write of one octet more than the queue takes, up to the timeout. -/
theorem overfill {C : Uart → UartEvent → Prop} (hwrite : ∀ u data, C u (.write 0 data))
    (hput : ∀ u, C u (.put 0)) {u₀ : Uart} (hreach : (Runs C).Reachable u₀)
    (hempty : u₀.txQueue = []) (hidle : u₀.phase 0 = .idle) :
    ∃ u, (Runs C).Reachable u ∧ u.txQueue.length = uartQueueSize ∧ u.txeie = u₀.txeie ∧
      (∀ other ≠ 0, u.phase other = u₀.phase other) ∧
        u.step (.timeout 0) = some (u.goto 0 .idle) := by
  obtain ⟨u, hu, hlen, hoff, hphase⟩ := fill hwrite hput hreach hempty hidle 1 _ (le_refl _)
  refine ⟨u, hu, hlen, hoff, fun other hother => ?_, ?_⟩
  · rw [hphase, Function.update_of_ne hother]
  · have hwriting : u.phase 0 = .writing [65] := by
      rw [hphase, Function.update_self, Nat.sub_self]
      rfl
    simp only [step, hwriting]
    rw [if_neg (by omega)]

/-- A write times out with the interrupt enabled, by the octet written before. -/
theorem none_stranded_timedOut : ∃ u, (Runs Drains).Reachable u ∧
    u.txQueue.length = uartQueueSize ∧ (u.goto 0 .idle).NoneStranded := by
  have hone : (Runs Drains).Reachable oneOctet :=
    oneOctet_run trivial (fun _ => trivial) (fun _ => trivial) fun _ _ => trivial
  obtain ⟨u, hu, hlen, hon, -, hstep⟩ :=
    overfill (fun _ _ => trivial) (fun _ => trivial) hone rfl rfl
  exact ⟨u, hu, hlen, (none_stranded (hu.next ⟨.timeout 0, .inl hon, hstep⟩)).1⟩

/-- A write of more octets than the queue takes leaves it full and the interrupt disabled. -/
theorem octets_stranded : ¬∀ u, (Runs fun _ _ => True).Reachable u → u.NoneStranded := by
  intro h
  obtain ⟨u, hreach, hlen, hoff, hothers, hstep⟩ :=
    overfill (C := fun _ _ => True) (fun _ _ => trivial) (fun _ => trivial) (.init rfl) rfl rfl
  rcases (noneStranded_timeout hlen.ge).mp (h _ (hreach.next ⟨.timeout 0, trivial, hstep⟩)) with
    hon | ⟨other, hother, hbusy⟩
  · rw [hoff] at hon
    cases hon
  · exact hbusy (hothers other hother)

end Uart

end Ptpd

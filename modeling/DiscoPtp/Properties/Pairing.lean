import DiscoPtp.Properties.Ledger
import DiscoPtp.Properties.Identity
import DiscoPtp.Library.History

/-!
# Pairing of Sync and Follow_Up

Which Sync a Follow_Up completes. The port keeps the receive time, the sequence id and the
correction of the last two-step Sync of its parent, but not who sent it.

## Main definitions

* `currentParent`, `lastSync`: the parent in force and the stored Sync, by the history
* `PairedWithSync`: a Follow_Up completes a Sync of its own sender
* `PairingInv`: the invariant of the stored Sync

## Main results

* `followUp_paired_iff`: a Follow_Up completes a Sync of its own sender exactly when the parent has
  not changed since the Sync
-/

namespace Ptpd

open History

/-- The parent written by an entry. -/
def Entry.parent? : Entry → Option PortIdentity
  | .parentIs p => some p
  | _ => none

/-- The parent in force. -/
def currentParent (history : List Entry) : PortIdentity :=
  (latest Entry.parent? history).getD default

/-- The Sync stored last, its receive time, and the history before it. -/
def lastSync : List Entry → Option (MsgHeader × TimeInternal × List Entry)
  | [] => none
  | .syncStored sync time :: older => some (sync, time, older)
  | _ :: older => lastSync older

/-- The data a Follow_Up is used with come from a two-step Sync with the same sender and the same
sequence id. -/
def PairedWithSync (followUp : MsgHeader) (ingress correction : TimeInternal)
    (older : List Entry) : Prop :=
  ∃ sync before, lastSync older = some (sync, ingress, before) ∧ isTwoStepSync sync ∧
    correction = addTime (scaledNanosecondsToInternalTime followUp.correctionfield)
      (scaledNanosecondsToInternalTime sync.correctionfield) ∧
    sync.sequenceId = followUp.sequenceId ∧
    sync.sourcePortIdentity = followUp.sourcePortIdentity

/-- The parent in force is the one in force when the last Sync was stored. -/
def ParentKeptSinceSync (older : List Entry) : Prop :=
  ∃ sync time before, lastSync older = some (sync, time, before) ∧
    currentParent older = currentParent before

/-- The stored data are those of a two-step Sync of the parent of that time. -/
structure StoredSync (history : List Entry) (sync : MsgHeader) (ingress correction : TimeInternal)
    (before : List Entry) : Prop where
  last : lastSync history = some (sync, ingress, before)
  twoStep : isTwoStepSync sync
  correction_eq : correction = scaledNanosecondsToInternalTime sync.correctionfield
  parent : currentParent before = sync.sourcePortIdentity

/-- A Follow_Up is used with a stored Sync of its sequence id and comes from the parent. -/
def UsesStoredSync : Entry → List Entry → Prop
  | .offset header _ ingress _ correction, older =>
    MessageType.ofCode header.messageType = some .followUp →
      ∃ sync saved before, StoredSync older sync ingress saved before ∧
        correction = addTime (scaledNanosecondsToInternalTime header.correctionfield) saved ∧
        sync.sequenceId = header.sequenceId ∧
        currentParent older = header.sourcePortIdentity
  | _, _ => True

/-- The invariant of the stored Sync. -/
structure PairingInv (l : Ledger) : Prop where
  parent : l.parentPortIdentity = currentParent l.history
  stored : l.waitingForFollowUp → ∃ sync before,
    StoredSync l.history sync l.timestampSyncRecieve l.correctionFieldSync before ∧
      sync.sequenceId = l.recvSyncSequenceId
  used : Every UsesStoredSync l.history

/-! ## The invariant -/

theorem currentParent_cons {e : Entry} (h : e.parent? = none) (history : List Entry) :
    currentParent (e :: history) = currentParent history := by
  rw [currentParent, latest_cons_of_none h, currentParent]

/-- Entries that say nothing about the parent, the stored Sync or an offset. -/
structure Entry.NoSync (e : Entry) : Prop where
  parent : e.parent? = none
  last : ∀ history, lastSync (e :: history) = lastSync history
  used : ∀ history, UsesStoredSync e history

theorem Entry.IsOther.noSync {e : Entry} (h : e.IsOther) : e.NoSync := by
  cases e <;> first | exact ⟨rfl, fun _ => rfl, fun _ => trivial⟩ | exact h.elim

theorem StoredSync.cons {e : Entry} {history : List Entry} {sync : MsgHeader}
    {ingress correction : TimeInternal} {before : List Entry}
    (h : StoredSync history sync ingress correction before)
    (he : lastSync (e :: history) = lastSync history) :
    StoredSync (e :: history) sync ingress correction before :=
  { h with last := he.trans h.last }

/-- An event that logs an entry of none of the kinds and does not start to wait. -/
theorem PairingInv.logged {l l' : Ledger} (hi : PairingInv l) {e : Entry}
    (hh : l'.history = e :: l.history) (he : e.NoSync)
    (hp : l'.parentPortIdentity = l.parentPortIdentity)
    (hw : l'.waitingForFollowUp → l.waitingForFollowUp)
    (hs : l'.recvSyncSequenceId = l.recvSyncSequenceId)
    (ht : l'.timestampSyncRecieve = l.timestampSyncRecieve)
    (hc : l'.correctionFieldSync = l.correctionFieldSync) : PairingInv l' := by
  refine ⟨?_, ?_, ?_⟩
  · rw [hp, hh, currentParent_cons he.parent, hi.parent]
  · intro hw'
    obtain ⟨sync, before, hsync, hseq⟩ := hi.stored (hw hw')
    rw [hh, ht, hc, hs]
    exact ⟨sync, before, hsync.cons (he.last l.history), hseq⟩
  · rw [hh]
    exact every_cons.mpr ⟨he.used l.history, hi.used⟩

theorem PairingInv.parentIs {l : Ledger} (hi : PairingInv l) (p : PortIdentity) :
    PairingInv { l with parentPortIdentity := p, history := .parentIs p :: l.history } := by
  refine ⟨rfl, ?_, every_cons.mpr ⟨trivial, hi.used⟩⟩
  intro hw
  obtain ⟨sync, before, hsync, hseq⟩ := hi.stored hw
  exact ⟨sync, before, hsync.cons rfl, hseq⟩

theorem preserves_pairingInv : Transition.Preserves LedgerStep PairingInv := by
  intro l l' h hi
  cases h
  case other e he => exact hi.logged rfl he.noSync rfl id rfl rfl rfl
  case parentIs p => exact hi.parentIs p
  case syncStored sync time h hp =>
    have hparent := isSamePortIdentity_iff.mp hp
    refine ⟨hi.parent, fun _ => ⟨sync, l.history, ?_, rfl⟩,
      every_cons.mpr ⟨trivial, hi.used⟩⟩
    exact ⟨rfl, h, rfl, by rw [← hi.parent, hparent]⟩
  case syncOffset sync stamp time old correction h =>
    refine ⟨hi.parent, fun hw => by simp at hw, every_cons.mpr ⟨?_, hi.used⟩⟩
    intro hf
    rw [h] at hf
    simp at hf
  case followUpOffset followUp stamp old h hw hp hs =>
    refine ⟨hi.parent, fun hw => by simp at hw, every_cons.mpr ⟨?_, hi.used⟩⟩
    intro _
    obtain ⟨sync, before, hsync, hseq⟩ := hi.stored hw
    refine ⟨sync, _, before, hsync, rfl, hseq.trans hs, ?_⟩
    rw [← hi.parent, isSamePortIdentity_iff.mp hp]
  case clearServo =>
    exact hi.logged rfl ⟨rfl, fun _ => rfl, fun _ => trivial⟩ rfl (by simp) rfl rfl rfl
  case initData => exact ⟨hi.parent, hi.stored, hi.used⟩
  case resetDelayReqInterval => exact ⟨hi.parent, hi.stored, hi.used⟩
  all_goals exact hi.logged rfl ⟨rfl, fun _ => rfl, fun _ => trivial⟩ rfl id rfl rfl rfl

theorem boot_pairingInv (rtOpts : RunTimeOpts) : PairingInv (boot rtOpts).ledger := by
  obtain ⟨opts, hboot, _⟩ := boot_eq rtOpts
  rw [hboot]
  exact ⟨rfl, fun hw => absurd hw Bool.false_ne_true, every_nil _⟩

/-- **Pairing**: in every run a Follow_Up that is used completes a two-step Sync of its own sender
and sequence id exactly when the parent has not changed since that Sync was stored. -/
theorem followUp_paired_iff {rtOpts : RunTimeOpts} {s : System} {followUp : MsgHeader}
    {stamp : Timestamp} {ingress origin correction : TimeInternal} {older : List Entry}
    (hs : Reachable rtOpts s)
    (h : .offset followUp stamp ingress origin correction :: older <:+ s.history)
    (htype : MessageType.ofCode followUp.messageType = some .followUp) :
    PairedWithSync followUp ingress correction older ↔ ParentKeptSinceSync older := by
  have hi : PairingInv s.ledger :=
    hs.visited.of_ledger preserves_pairingInv (boot_pairingInv rtOpts)
  obtain ⟨sync, saved, before, hsync, hcorr, hseq, hparent⟩ := hi.used _ _ h htype
  constructor
  · rintro ⟨sync', before', hlast, _, _, _, hsource⟩
    obtain ⟨rfl, -, rfl⟩ : sync = sync' ∧ ingress = ingress ∧ before = before' := by
      simpa [hsync.last] using hlast
    exact ⟨sync, ingress, before, hsync.last, by rw [hparent, hsync.parent, hsource]⟩
  · rintro ⟨sync', time, before', hlast, hkept⟩
    obtain ⟨rfl, -, rfl⟩ : sync = sync' ∧ ingress = time ∧ before = before' := by
      simpa [hsync.last] using hlast
    refine ⟨sync, before, hsync.last, hsync.twoStep, ?_, hseq, ?_⟩
    · rw [hcorr, hsync.correction_eq]
    · rw [← hsync.parent, ← hkept, hparent]

/-! ## A parent that takes over -/

/-- The Follow_Up of a master that took over after the Sync of its predecessor. -/
def successorFollowUp : List UInt8 :=
  followUpOf (station 2 { ptpdOpts with priority1 := 110 }) 5 ⟨0, 5, 0⟩

/-- The Sync comes from the first master; the second one announces itself, becomes the parent and
sends a Follow_Up with the same sequence id. -/
def parentTakeover : System :=
  let first := station 1 { ptpdOpts with priority1 := 100 }
  let second := station 2 { ptpdOpts with priority1 := 110 }
  (boot ptpdOpts).after
    ([.doState plainEnv] ++
      generalArrival (announceOf first) (atSecond 1) ++ [.doState plainEnv, .doState plainEnv] ++
      eventArrival (syncOf first 5 ⟨0, 5, 0⟩) (atSecond 5) ++ [.doState plainEnv] ++
      generalArrival (announceOf second) (atSecond 6) ++ [.doState plainEnv, .doState plainEnv] ++
      generalArrival successorFollowUp (atSecond 7) ++ [.doState plainEnv])

theorem parentTakeover_history :
    parentTakeover.history =
      .adjFreq adjFreqBaseAddend ::
        .offset (headerIn successorFollowUp) ⟨0, 5, 0⟩ (atSecond 5).time ⟨5, 0⟩ ⟨0, 0⟩ ::
          parentTakeover.history.tail.tail := by
  decide +kernel

theorem parentTakeover_reachable : Reachable ptpdOpts parentTakeover :=
  (boot_reachable ptpdOpts).after _

theorem followUp_paired_parentTakeover :
    PairedWithSync (headerIn successorFollowUp) (atSecond 5).time ⟨0, 0⟩
      parentTakeover.history.tail.tail ↔
        ParentKeptSinceSync parentTakeover.history.tail.tail :=
  followUp_paired_iff parentTakeover_reachable
    ⟨[.adjFreq adjFreqBaseAddend], parentTakeover_history.symm⟩ (by decide +kernel)

/-- The stored Sync is the one of the first master. -/
theorem parentTakeover_lastSync :
    (lastSync parentTakeover.history.tail.tail).map (·.1.sourcePortIdentity) ≠
      some (headerIn successorFollowUp).sourcePortIdentity := by
  decide +kernel

/-- A Follow_Up completes the Sync of another master. -/
theorem not_all_paired :
    ¬ ∀ (rtOpts : RunTimeOpts) (s : System) (followUp : MsgHeader) (stamp : Timestamp)
      (ingress origin correction : TimeInternal) (older : List Entry), Reachable rtOpts s →
      .offset followUp stamp ingress origin correction :: older <:+ s.history →
      MessageType.ofCode followUp.messageType = some .followUp →
      PairedWithSync followUp ingress correction older := by
  intro h
  obtain ⟨sync, before, hlast, -, -, -, hsource⟩ :=
    h ptpdOpts parentTakeover (headerIn successorFollowUp) ⟨0, 5, 0⟩ (atSecond 5).time ⟨5, 0⟩
      ⟨0, 0⟩ _
      parentTakeover_reachable ⟨[.adjFreq adjFreqBaseAddend], parentTakeover_history.symm⟩
      (by decide +kernel)
  apply parentTakeover_lastSync
  rw [hlast]
  exact congrArg some hsource

end Ptpd

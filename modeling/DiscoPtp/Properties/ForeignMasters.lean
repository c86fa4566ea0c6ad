import DiscoPtp.Properties.Initialised

/-!
# The foreign master store

The store is a ring: a new foreign master goes to the index `i`, which runs round, and a known one
is found by a search that begins at `best`. It is searched and evaluated in three functions of the
program, which rely on each other for the indices.

## Main definitions

* `ForeignMasterDS.Wf`: the store is well formed
* `ForeignMasterDS.Stores`: what one Announce does to the store
* `bmcCall`, `addForeignCall`: the states in which `doState` calls `bmc` and `addForeign`
* `Engine.Keeps`: the invariant of the store along the calls

## Main results

* `findForeign_spec`: the search finds the record of a master, wherever it begins
* `ForeignMasterDS.Wf.stores`, `ForeignMasterDS.Wf.add`: `addForeign` stores the Announce and keeps
  the store well formed
* `foreignMasters_wf`: the store along runs
-/

namespace Ptpd

open Relation (ReflTransGen)

/-! ## One Announce -/

/-- The master a record is about. -/
abbrev ForeignMasterDS.master (ds : ForeignMasterDS) (j : ℕ) : PortIdentity :=
  (ds.records j).foreignMasterPortIdentity

/-- **The store is well formed**: its active records are about different masters, and it is filled
from the index `0` on. -/
structure ForeignMasterDS.Wf (ds : ForeignMasterDS) : Prop where
  count_le : ds.count ≤ ds.capacity
  index_eq : ds.count < ds.capacity → ds.i = ds.count
  distinct : ∀ j < ds.count, ∀ k < ds.count, ds.master j = ds.master k → j = k

/-- The search of `addForeign` can begin at `best`. -/
def ForeignMasterDS.Searchable (ds : ForeignMasterDS) : Prop :=
  ds.best < ds.count ∨ ds.count = 0

/-- The store `ds'` is the store `ds` with the Announce of one master stored: exactly one active
record, with index `j`, is about the master, and it holds the Announce; all the others were active
before and are unchanged. The record with index `j` was about another master before only if the
store was full. -/
structure ForeignMasterDS.StoresAt (ds ds' : ForeignMasterDS) (header : MsgHeader)
    (announce : MsgAnnounce) (j : ℕ) : Prop where
  active : j < ds'.count
  header_eq : (ds'.records j).header = header
  announce_eq : (ds'.records j).announce = announce
  master_iff : ∀ k < ds'.count, ds'.master k = header.sourcePortIdentity ↔ k = j
  others : ∀ k < ds'.count, k ≠ j → k < ds.count ∧ ds'.records k = ds.records k
  kept : ∀ k < ds.count, k < ds'.count
  replaced : j < ds.count → ds.master j = header.sourcePortIdentity ∨ ds.count = ds.capacity

/-- One Announce is stored. -/
def ForeignMasterDS.Stores (ds ds' : ForeignMasterDS) (header : MsgHeader)
    (announce : MsgAnnounce) : Prop :=
  ∃ j, ds.StoresAt ds' header announce j

section Store

variable {ds : ForeignMasterDS} {source : PortIdentity}

/-- The search returns a record of the master among those it looks at, or there is none. -/
theorem findForeign_round (n : ℕ) {j : ℕ} (hj : j < ds.count) :
    (∃ k < ds.count, findForeign ds source n j = some k ∧ ds.master k = source) ∨
      findForeign ds source n j = none ∧ ∀ m < n, ds.master ((j + m) % ds.count) ≠ source := by
  induction n generalizing j with
  | zero => exact .inr ⟨rfl, by simp⟩
  | succ n ih =>
    unfold findForeign
    by_cases hsame : isSamePortIdentity source (ds.records j).foreignMasterPortIdentity = true
    · rw [if_pos hsame]
      exact .inl ⟨j, hj, rfl, (isSamePortIdentity_iff.mp hsame).symm⟩
    rw [if_neg hsame]
    have hnext : (j + 1) % ds.count < ds.count := Nat.mod_lt _ (by omega)
    rcases ih hnext with hfound | ⟨hnone, hother⟩
    · exact .inl hfound
    · refine .inr ⟨hnone, fun m hm => ?_⟩
      cases m with
      | zero =>
        rw [Nat.add_zero, Nat.mod_eq_of_lt hj]
        exact fun heq => hsame (isSamePortIdentity_iff.mpr heq.symm)
      | succ m =>
        have hround : (j + (m + 1)) % ds.count = ((j + 1) % ds.count + m) % ds.count := by
          rw [Nat.mod_add_mod]
          congr 1
          omega
        rw [hround]
        exact hother m (by omega)

/-- **The search** finds the record of a master, or there is none among the active records. -/
theorem findForeign_spec (source : PortIdentity) (hb : ds.Searchable) :
    (∃ k < ds.count, findForeign ds source ds.count ds.best = some k ∧ ds.master k = source) ∨
      findForeign ds source ds.count ds.best = none ∧ ∀ k < ds.count, ds.master k ≠ source := by
  rcases hb with hb | hb
  swap
  · rw [hb]
    exact .inr ⟨rfl, by simp⟩
  rcases findForeign_round ds.count hb with hfound | ⟨hnone, hother⟩
  · exact .inl hfound
  · refine .inr ⟨hnone, fun k hk => ?_⟩
    -- the search passes every index, beginning at `best`
    by_cases hle : ds.best ≤ k
    · have hpass := hother (k - ds.best) (by omega)
      rwa [Nat.add_sub_cancel' hle, Nat.mod_eq_of_lt hk] at hpass
    · have hpass := hother (k + ds.count - ds.best) (by omega)
      rwa [Nat.add_sub_cancel' (by omega), Nat.add_mod_right, Nat.mod_eq_of_lt hk] at hpass

variable {header : MsgHeader} {announce : MsgAnnounce}

/-- The store with the Announce of a known master. -/
theorem add_of_found {j : ℕ}
    (h : findForeign ds header.sourcePortIdentity ds.count ds.best = some j) :
    ds.add header announce = ds.set j
      { ds.records j with
        foreignMasterAnnounceMessages := (ds.records j).foreignMasterAnnounceMessages + 1
        header, announce } := by
  unfold ForeignMasterDS.add
  rw [h]

/-- The store with the Announce of a new master. -/
theorem add_of_new (h : findForeign ds header.sourcePortIdentity ds.count ds.best = none) :
    ds.add header announce =
      { records := Function.update ds.records ds.i
          { foreignMasterPortIdentity := header.sourcePortIdentity
            foreignMasterAnnounceMessages := 0, header, announce }
        count := if ds.count < ds.capacity then ds.count + 1 else ds.count
        capacity := ds.capacity
        i := (ds.i + 1) % ds.capacity
        best := ds.best } := by
  unfold ForeignMasterDS.add
  rw [h]
  dsimp only
  split <;> rfl

/-- The index a new master goes to, and the number of records there are then. -/
theorem ForeignMasterDS.Wf.index (h : ds.Wf) (hi : ds.i < ds.capacity) :
    ds.i < (if ds.count < ds.capacity then ds.count + 1 else ds.count) ∧
      (ds.i < ds.count → ds.count = ds.capacity) ∧
      ∀ k, k < (if ds.count < ds.capacity then ds.count + 1 else ds.count) → k ≠ ds.i →
        k < ds.count := by
  have hle := h.count_le
  by_cases hfull : ds.count < ds.capacity
  · have hindex := h.index_eq hfull
    rw [if_pos hfull]
    exact ⟨by omega, fun hlt => by omega, fun k hk hne => by omega⟩
  · rw [if_neg hfull]
    exact ⟨by omega, fun _ => by omega, fun k hk _ => hk⟩

/-- **`addForeign` stores the Announce.** -/
theorem ForeignMasterDS.Wf.stores (h : ds.Wf) (hi : ds.i < ds.capacity) (hb : ds.Searchable) :
    ds.Stores (ds.add header announce) header announce := by
  rcases findForeign_spec header.sourcePortIdentity hb with
    ⟨j, hj, hfound, hmaster⟩ | ⟨hnone, hother⟩
  · rw [add_of_found hfound]
    refine ⟨j, ?_⟩
    constructor
    case active => exact hj
    case header_eq => simp [ForeignMasterDS.set]
    case announce_eq => simp [ForeignMasterDS.set]
    case master_iff =>
      intro k hk
      by_cases heq : k = j
      · simp [ForeignMasterDS.set, ForeignMasterDS.master, heq, hmaster]
      · have hne : ds.master k ≠ header.sourcePortIdentity := fun hk' =>
          heq (h.distinct k hk j hj (hk'.trans hmaster.symm))
        simpa [ForeignMasterDS.set, ForeignMasterDS.master, heq] using hne
    case others =>
      intro k hk hne
      exact ⟨hk, by simp [ForeignMasterDS.set, hne]⟩
    case kept => exact fun k hk => hk
    case replaced => exact fun _ => .inl hmaster
  · obtain ⟨hlt, hfull, hbefore⟩ := h.index hi
    rw [add_of_new hnone]
    refine ⟨ds.i, ?_⟩
    constructor
    case active => exact hlt
    case header_eq => simp
    case announce_eq => simp
    case master_iff =>
      intro k hk
      by_cases heq : k = ds.i
      · simp [ForeignMasterDS.master, heq]
      · have hne := hother k (hbefore k hk heq)
        simpa [ForeignMasterDS.master, heq] using hne
    case others =>
      intro k hk hne
      exact ⟨hbefore k hk hne, by simp [hne]⟩
    case kept =>
      intro k hk
      dsimp only
      split <;> omega
    case replaced => exact fun hact => .inr (hfull hact)

/-- `addForeign` keeps the store well formed, with at least one record. -/
theorem ForeignMasterDS.Wf.add (h : ds.Wf) (hi : ds.i < ds.capacity) (hb : ds.Searchable) :
    (ds.add header announce).Wf ∧
      (ds.add header announce).i < (ds.add header announce).capacity ∧
      0 < (ds.add header announce).count ∧
      (ds.add header announce).capacity = ds.capacity := by
  obtain ⟨j, hstores⟩ : ds.Stores (ds.add header announce) header announce := h.stores hi hb
  -- two active records about one master are both the one of the sender, or both as before
  have hdistinct : ∀ k < (ds.add header announce).count, ∀ l < (ds.add header announce).count,
      (ds.add header announce).master k = (ds.add header announce).master l → k = l := by
    intro k hk l hl heq
    by_cases hkj : k = j
    · have hsender := (hstores.master_iff k hk).mpr hkj
      rw [hkj, (hstores.master_iff l hl).mp (heq.symm.trans hsender)]
    by_cases hlj : l = j
    · have hsender := (hstores.master_iff l hl).mpr hlj
      exact absurd ((hstores.master_iff k hk).mp (heq.trans hsender)) hkj
    obtain ⟨hk', hkeq⟩ := hstores.others k hk hkj
    obtain ⟨hl', hleq⟩ := hstores.others l hl hlj
    refine h.distinct k hk' l hl' ?_
    rwa [ForeignMasterDS.master, ForeignMasterDS.master, hkeq, hleq] at heq
  have hle := h.count_le
  have hindex := h.index_eq
  have hmod : (ds.i + 1) % ds.capacity < ds.capacity := Nat.mod_lt _ (by omega)
  rcases findForeign_spec header.sourcePortIdentity hb with
    ⟨j', hj', hfound, -⟩ | ⟨hnone, -⟩
  · rw [add_of_found hfound] at hdistinct ⊢
    exact ⟨⟨hle, hindex, hdistinct⟩, hi, by exact Nat.zero_lt_of_lt hj', rfl⟩
  · rw [add_of_new hnone] at hdistinct ⊢
    refine ⟨⟨?_, ?_, hdistinct⟩, hmod, ?_, rfl⟩
    · dsimp only
      split <;> omega
    · dsimp only
      intro hroom
      split at hroom
      next hlt =>
        rw [if_pos hlt, hindex hlt, Nat.mod_eq_of_lt hroom]
      next hlt => exact absurd hroom hlt
    · dsimp only
      split <;> omega

end Store

/-! ## The store along calls -/

namespace Engine

variable {e e' : Engine}

/-- **The invariant of the store**: it is well formed, there is a record to evaluate when a state
decision is pending and when a master is followed, and `best` is up to date otherwise. -/
structure Keeps (e : Engine) : Prop where
  wf : e.foreignMasterDS.Wf
  index_lt : e.foreignMasterDS.i < e.foreignMasterDS.capacity
  searchable : e.events.stateDecisionEvent = false → e.foreignMasterDS.Searchable
  pending : e.events.stateDecisionEvent → 0 < e.foreignMasterDS.count
  following : e.recommendedState = .slave → 0 < e.foreignMasterDS.count

theorem Keeps.congr (h : e.Keeps) (hds : e'.foreignMasterDS = e.foreignMasterDS)
    (hevent : e'.events.stateDecisionEvent = e.events.stateDecisionEvent)
    (hrec : e'.recommendedState = .slave → e.recommendedState = .slave) : e'.Keeps := by
  constructor
  · rw [hds]
    exact h.wf
  · rw [hds]
    exact h.index_lt
  · rw [hds, hevent]
    exact h.searchable
  · rw [hds, hevent]
    exact h.pending
  · rw [hds]
    exact fun hr => h.following (hrec hr)

/-- A transition that recommends what was recommended, or does not recommend to follow. -/
theorem Keeps.toState (h : e.Keeps) (state : PtpState) : (e.toState state).Keeps := by
  obtain ⟨_, _, _, _, _, heq⟩ := toState_eq state e
  rw [heq]
  refine h.congr rfl rfl fun hr => ?_
  dsimp only at hr
  unfold recommendedOn at hr
  split at hr
  next hs =>
    rw [hr] at hs
    simp at hs
  · exact hr

/-- The state decision: there is a record to evaluate, and `best` becomes its index. -/
theorem Keeps.decides (h : e.Keeps) (hd : Decides e e') : e'.Keeps := by
  have hevaluated (best : ℕ) (he : e.Evaluates)
      (hb : 0 < e.foreignMasterDS.count → best < e.foreignMasterDS.count) {e₁ : Engine}
      (hds : e₁.foreignMasterDS = { e.foreignMasterDS with best }) : e₁.Keeps := by
    have hcount := h.pending he.2
    constructor
    · rw [hds]
      exact ⟨h.wf.count_le, h.wf.index_eq, h.wf.distinct⟩
    · rw [hds]
      exact h.index_lt
    · rw [hds]
      exact fun _ => .inl (hb hcount)
    · rw [hds]
      exact fun _ => hcount
    · rw [hds]
      exact fun _ => hcount
  cases hd with
  | idle hidle => exact h
  | listening best he hb hl =>
    have hcount := h.pending he.2
    omega
  | master best he hb => exact hevaluated best he hb rfl
  | passive best he hb hclass => exact hevaluated best he hb rfl
  | slave best he hb hclass => exact hevaluated best he hb rfl

theorem Keeps.follow (h : e.Keeps) (hd : e.Decided) : e.follow.Keeps := by
  have htaken := hd.follow.taken
  obtain ⟨_, _, _, _, _, _, _, heq⟩ := follow_followed e
  rw [heq] at htaken ⊢
  exact h.congr rfl (htaken.trans hd.taken.symm) id

/-- The announce receipt timeout empties the store. -/
theorem announceTimeout_foreignMasterDS (e : Engine) :
    e.announceTimeout.foreignMasterDS = { e.foreignMasterDS with count := 0, i := 0 } := by
  unfold announceTimeout
  split
  · obtain ⟨_, _, _, _, _, heq⟩ := toState_eq .master
      { e.clearForeign.m1 with recommendedState := .master }
    rw [heq]
    rfl
  split
  · obtain ⟨_, _, _, _, _, heq⟩ := toState_eq .listening e.clearForeign
    rw [heq]
    rfl
  · rfl

theorem Keeps.announceTimeout (h : e.Keeps) (hr : e.Ready) : e.announceTimeout.Keeps := by
  have hclear (e₁ : Engine)
      (hds : e₁.foreignMasterDS = { e.foreignMasterDS with count := 0, i := 0 })
      (hevent : e₁.events.stateDecisionEvent = e.events.stateDecisionEvent)
      (hrec : e₁.recommendedState ≠ .slave) : e₁.Keeps := by
    have hcapacity := h.index_lt
    constructor
    · rw [hds]
      exact ⟨Nat.zero_le _, fun _ => rfl, by simp⟩
    · rw [hds]
      exact Nat.zero_lt_of_lt hcapacity
    · rw [hds]
      exact fun _ => .inr rfl
    · rw [hevent, hr.taken]
      rintro ⟨⟩
    · exact fun hs => absurd hs hrec
  unfold Engine.announceTimeout
  split
  · exact Keeps.toState (hclear { e.clearForeign.m1 with recommendedState := .master }
      rfl rfl (by rintro ⟨⟩)) _
  split
  · have hrec : (e.clearForeign.toState .listening).recommendedState ≠ .slave := by
      rw [toState_recommendedState]
      simp [recommendedOn]
    obtain ⟨_, _, _, _, _, heq⟩ := toState_eq .listening e.clearForeign
    rw [heq] at hrec ⊢
    exact hclear _ rfl rfl hrec
  next hl =>
    -- a port that listens is not recommended to follow
    have hagrees := hr.agrees
    unfold Agrees at hagrees
    rw [not_not.mp hl] at hagrees
    refine hclear _ rfl rfl ?_
    change e.recommendedState ≠ .slave
    intro hs
    rw [hs] at hagrees
    exact absurd hagrees (by decide)

theorem Keeps.store (h : e.Keeps) (hr : e.Ready) (header : MsgHeader) (announce : MsgAnnounce) :
    (e.store header announce).Keeps := by
  obtain ⟨hwf, hindex, hcount, -⟩ :
      (e.foreignMasterDS.add header announce).Wf ∧ _ ∧ _ ∧ _ :=
    h.wf.add h.index_lt (h.searchable hr.taken)
  exact ⟨hwf, hindex, by rintro ⟨⟩, fun _ => hcount, fun _ => hcount⟩

theorem Keeps.outcome (h : e.Keeps) (hr : e.Ready) (ho : Outcome e e') : e'.Keeps := by
  cases ho with
  | ignored => exact h
  | short => exact h.toState _
  | store header announce hs => exact h.store hr header announce
  | storePassive header announce hs =>
    exact Keeps.store (e := e.start .announceReceipt) (h.congr rfl rfl id)
      ⟨hr.agrees, hr.taken, hr.selected, hr.fault⟩ header announce
  | followParent header announce hs hp =>
    -- the parent is followed, so there is a record
    have hcount := h.following (hr.agrees.recommends_slave hs)
    refine ⟨h.wf, h.index_lt, ?_, fun _ => hcount, h.following⟩
    intro hevent
    have hraised : ((({ e with events := { e.events with stateDecisionEvent := true } } :
        Engine).s1 header announce).start .announceReceipt).events.stateDecisionEvent = true := by
      unfold Engine.s1 Engine.start
      dsimp only
      split <;> rfl
    rw [hraised] at hevent
    cases hevent
  | storeSync hs => exact h.congr rfl rfl id
  | measure header e₁ _ hs hp hm hreq =>
    have hevent := hm.stateDecisionEvent
    obtain ⟨_, _, _, _, _, _, rfl⟩ := hm.eq
    obtain ⟨_, rfl⟩ := hreq.eq
    exact h.congr rfl hevent id
  | requests _ hs hreq =>
    obtain ⟨_, rfl⟩ := hreq.eq
    exact h.congr rfl rfl id
  | serve packet hs => exact h.congr rfl rfl id

theorem Keeps.sends (h : e.Keeps) (hs : ReflTransGen Sends e e') : e'.Keeps := by
  obtain ⟨messages, sequenceId, rfl⟩ := sends_eq hs
  exact h.congr rfl rfl id

theorem Keeps.acts (h : e.Keeps) (hr : e.Ready) (ha : Acts e e') : e'.Keeps := by
  cases ha with
  | timeout hs => exact h.announceTimeout hr
  | await _ hs ho => exact h.outcome hr ho
  | master e₁ e₂ _ hs hsends ho hreq =>
    obtain ⟨_, rfl⟩ := hreq.eq
    exact ((h.sends hsends).outcome (hr.sends hsends) ho).congr rfl rfl id

/-- **One call** keeps the store. -/
theorem Keeps.call (h : e.Keeps) (hs : e.Settled) (hc : Call e e') : e'.Keeps := by
  obtain ⟨e₁, hd, ha⟩ := hc
  have hdecided := hs.decides hd
  exact ((h.decides hd).follow hdecided).acts hdecided.follow ha

theorem Fresh.keeps {opts : RunTimeOpts} (h : e.Fresh opts) (hcap : 0 < opts.maxForeignRecords) :
    e.Keeps := by
  constructor
  · refine ⟨?_, ?_, ?_⟩
    · rw [h.foreignCount]
      exact Nat.zero_le _
    · rw [h.foreignCount, h.foreignIndex]
      exact fun _ => rfl
    · rw [h.foreignCount]
      simp
  · rw [h.foreignIndex, h.foreignCapacity]
    exact hcap
  · exact fun _ => .inr h.foreignCount
  · rw [h.events]
    rintro ⟨⟩
  · rw [h.recommendedState]
    rintro ⟨⟩

end Engine

/-! ## The calls of `bmc` and `addForeign` -/

/-- The state in which a call of `doState` calls `bmc`, if it does. -/
def bmcCall (s : System) : Option System :=
  match s.portState with
  | .listening | .uncalibrated | .slave | .preMaster | .master | .passive =>
    if s.ptpClock.events.stateDecisionEvent then some (taken (s.setMessageActivity false)) else none
  | _ => none

/-- What `doState` does with the result of `bmc`, called in the state `u`. -/
def takeDecision (r : PtpState × PtpClock) (u : System) : System :=
  let s := (u.modify fun _ => r.2).log (.parentIs r.2.parentDS.parentPortIdentity)
  if (r.1 = .master ∨ r.1 = .passive) ∧ isSlaveOnly s.ptpClock then
    s.setRecommendedState .listening
  else s.setRecommendedState r.1

/-- The state in which `handleAnnounce` calls `addForeign`, if it does. -/
def handleAnnounceStores (fromSelf : Bool) (s : System) : Option System :=
  if s.ptpClock.msgIbufLength < announceLength then none
  else if fromSelf then none
  else
    match s.portState with
    | .initializing | .faulty | .disabled => none
    | .uncalibrated | .slave =>
      if isFromCurrentParent (takeAnnounce s).ptpClock then none else some (takeAnnounce s)
    | state =>
      some (takeAnnounce
        (if state = .passive then
          timerStart .announceReceipt (announceReceiptInterval s.ptpClock) s
        else s))

/-- The state in which `handle`, from the reception of a message on, calls `addForeign`. -/
def processStores (s : System) : Option System :=
  let s := s.setMessageActivity true
  if s.ptpClock.msgIbufLength < headerLength then none
  else
    let s := s.modify fun c => { c with msgTmpHeader := msgUnpackHeader c.msgIbuf }
    let c := s.ptpClock
    if c.msgTmpHeader.versionPTP ≠ c.portDS.versionNumber then none
    else if c.msgTmpHeader.domainNumber ≠ c.defaultDS.domainNumber then none
    else if MessageType.ofCode c.msgTmpHeader.messageType = some .announce then
      handleAnnounceStores (isFromSelf c) s
    else none

/-- The state in which `handle` calls `addForeign`, if it does. -/
def handleStores (env : Env) (s : System) : Option System :=
  let ret := netSelect s.ptpClock.netPath
  if s.ptpClock.messageActivity = false ∧ ret < 0 then none
  else if s.ptpClock.messageActivity = false ∧ ret = 0 then none
  else
    let r := receive env s
    if r.2.ptpClock.msgIbufLength < 0 then none
    else if r.2.ptpClock.msgIbufLength = 0 then none
    else processStores r.2

/-- The state in which a call of `doState` calls `addForeign`, if it does. -/
def addForeignCall (env : Env) (s : System) : Option System :=
  (handleCall env (switchCall env s)).bind (handleStores env)

section Calls

variable (env : Env) (time : TimeInternal) (fromSelf : Bool) (s : System)

theorem stateDecision_of_bmcCall :
    stateDecision (s.setMessageActivity false) =
      match bmcCall s with
      | some u => takeDecision (bmc u.ptpClock) u
      | none => s.setMessageActivity false := by
  have hevent : (if s.ptpClock.events.stateDecisionEvent then decideState
      (s.setMessageActivity false) else s.setMessageActivity false) =
      match (if s.ptpClock.events.stateDecisionEvent then
        some (taken (s.setMessageActivity false)) else none) with
      | some u => takeDecision (bmc u.ptpClock) u
      | none => s.setMessageActivity false := by
    split <;> rfl
  unfold stateDecision bmcCall
  rw [show (s.setMessageActivity false).portState = s.portState from rfl]
  cases s.portState with
  | initializing => rfl
  | faulty => rfl
  | disabled => rfl
  | _ => exact hevent

/-- The store after a part of a call: the Announce at hand is added, or the store is as before. -/
def StoredBy (call : Option System) (s t : System) : Prop :=
  match call with
  | some u =>
    u.ptpClock.foreignMasterDS = s.ptpClock.foreignMasterDS ∧
      t = u.modify fun c => addForeign c c.msgTmpHeader c.msgTmpAnnounce
  | none => t.ptpClock.foreignMasterDS = s.ptpClock.foreignMasterDS

theorem foreignMasterDS_of_engine {t : System} {e : Engine} (h : t.engine = e) :
    t.ptpClock.foreignMasterDS = e.foreignMasterDS :=
  congrArg Engine.foreignMasterDS h

theorem toState_foreignMasterDS (state : PtpState) :
    (toState env state s).ptpClock.foreignMasterDS = s.ptpClock.foreignMasterDS := by
  have h := toState_engine env state s
  obtain ⟨_, _, _, _, _, heq⟩ := Engine.toState_eq state s.engine
  exact foreignMasterDS_of_engine (h.trans heq)

theorem issueDelayReqTimerExpired_foreignMasterDS :
    (issueDelayReqTimerExpired env s).ptpClock.foreignMasterDS = s.ptpClock.foreignMasterDS := by
  unfold issueDelayReqTimerExpired
  split
  · split
    · rfl
    dsimp only
    split
    · exact foreignMasterDS_of_engine (issueDelayReq_engine env _)
    · rfl
  · dsimp only
    split
    · exact foreignMasterDS_of_engine (issuePDelayReq_engine env _)
    · rfl
  · rfl

theorem handleAnnounce_stored :
    StoredBy (handleAnnounceStores fromSelf s) s (handleAnnounce env fromSelf s) := by
  have hfollow : StoredBy (if isFromCurrentParent (takeAnnounce s).ptpClock then none
      else some (takeAnnounce s)) s (followAnnounce s) := by
    unfold followAnnounce
    dsimp only
    split
    · rfl
    · exact ⟨rfl, rfl⟩
  unfold handleAnnounceStores handleAnnounce
  split
  · exact toState_foreignMasterDS env s .faulty
  split
  · rfl
  cases s.portState with
  | initializing => rfl
  | faulty => rfl
  | disabled => rfl
  | uncalibrated => exact hfollow
  | slave => exact hfollow
  | _ => exact ⟨rfl, rfl⟩

theorem handleSync_foreignMasterDS :
    (handleSync env time fromSelf s).ptpClock.foreignMasterDS = s.ptpClock.foreignMasterDS := by
  have huse : (useSync env time s).ptpClock.foreignMasterDS = s.ptpClock.foreignMasterDS := by
    obtain ⟨_, _, _, _, _, _, heq⟩ := (useSync_measures env time s).eq
    exact foreignMasterDS_of_engine heq
  have hfollow : (followSync env time fromSelf s).ptpClock.foreignMasterDS =
      s.ptpClock.foreignMasterDS := by
    unfold followSync
    split
    · rfl
    split
    · rfl
    split
    · exact foreignMasterDS_of_engine (storeSync_engine time s)
    · exact (issueDelayReqTimerExpired_foreignMasterDS env _).trans huse
  unfold handleSync
  split
  · exact toState_foreignMasterDS env s .faulty
  split
  · exact hfollow
  · exact hfollow
  · exact issueDelayReqTimerExpired_foreignMasterDS env s
  · rfl

theorem handleFollowUp_foreignMasterDS :
    (handleFollowUp env fromSelf s).ptpClock.foreignMasterDS = s.ptpClock.foreignMasterDS := by
  have huse : (useFollowUp env s).ptpClock.foreignMasterDS = s.ptpClock.foreignMasterDS := by
    obtain ⟨_, _, _, _, _, _, heq⟩ := (useFollowUp_measures env s).eq
    exact foreignMasterDS_of_engine heq
  have htake : (takeFollowUp env s).ptpClock.foreignMasterDS = s.ptpClock.foreignMasterDS := by
    unfold takeFollowUp
    split
    · exact (issueDelayReqTimerExpired_foreignMasterDS env _).trans huse
    · rfl
  unfold handleFollowUp
  split
  · exact toState_foreignMasterDS env s .faulty
  split
  · rfl
  split
  · exact htake
  · exact htake
  · exact issueDelayReqTimerExpired_foreignMasterDS env s
  · rfl

theorem handleDelayReq_foreignMasterDS :
    (handleDelayReq env time s).ptpClock.foreignMasterDS = s.ptpClock.foreignMasterDS := by
  unfold handleDelayReq
  split
  · split
    · exact toState_foreignMasterDS env s .faulty
    split
    · obtain ⟨_, heq⟩ := issueDelayResp_engine env time s
      exact foreignMasterDS_of_engine heq
    · rfl
  · rfl

theorem handleDelayResp_foreignMasterDS :
    (handleDelayResp env s).ptpClock.foreignMasterDS = s.ptpClock.foreignMasterDS := by
  have htake : (takeDelayResp s).ptpClock.foreignMasterDS = s.ptpClock.foreignMasterDS := by
    unfold takeDelayResp
    split
    · exact foreignMasterDS_of_engine (useDelayResp_engine s)
    · rfl
  unfold handleDelayResp
  split
  · split
    · exact toState_foreignMasterDS env s .faulty
    split
    · exact htake
    · exact htake
    · rfl
  · rfl

theorem handlePDelayReq_foreignMasterDS :
    (handlePDelayReq env time fromSelf s).ptpClock.foreignMasterDS =
      s.ptpClock.foreignMasterDS := by
  have hanswer := foreignMasterDS_of_engine (answerPDelayReq_engine env time fromSelf s)
  unfold handlePDelayReq
  split
  · split
    · exact toState_foreignMasterDS env s .faulty
    split
    · exact hanswer
    · exact hanswer
    · exact hanswer
    · rfl
  · rfl

theorem handlePDelayResp_foreignMasterDS :
    (handlePDelayResp env time fromSelf s).ptpClock.foreignMasterDS =
      s.ptpClock.foreignMasterDS := by
  have htake : (takePDelayResp env time fromSelf s).ptpClock.foreignMasterDS =
      s.ptpClock.foreignMasterDS := by
    unfold takePDelayResp
    split
    · rfl
    split
    · split
      · exact foreignMasterDS_of_engine (storePDelayResp_engine env time s)
      · exact foreignMasterDS_of_engine (usePDelayResp_engine time s)
    · rfl
  unfold handlePDelayResp
  split
  · split
    · exact toState_foreignMasterDS env s .faulty
    split
    · exact htake
    · exact htake
    · rfl
  · rfl

theorem handlePDelayRespFollowUp_foreignMasterDS :
    (handlePDelayRespFollowUp env s).ptpClock.foreignMasterDS = s.ptpClock.foreignMasterDS := by
  have htake : (takePDelayRespFollowUp env s).ptpClock.foreignMasterDS =
      s.ptpClock.foreignMasterDS := by
    unfold takePDelayRespFollowUp
    split
    · exact foreignMasterDS_of_engine (usePDelayRespFollowUp_engine env s)
    · rfl
  unfold handlePDelayRespFollowUp
  split
  · split
    · exact toState_foreignMasterDS env s .faulty
    split
    · exact htake
    · exact htake
    · rfl
  · rfl

/-- The messages that are no Announces leave the store as it is. -/
theorem dispatch_foreignMasterDS
    (h : MessageType.ofCode s.ptpClock.msgTmpHeader.messageType ≠ some .announce) :
    (dispatch env time fromSelf s).ptpClock.foreignMasterDS = s.ptpClock.foreignMasterDS := by
  unfold dispatch
  split
  next hann => exact absurd hann h
  · exact handleSync_foreignMasterDS env time fromSelf _
  · exact handleFollowUp_foreignMasterDS env fromSelf s
  · exact handleDelayReq_foreignMasterDS env time _
  · exact handlePDelayReq_foreignMasterDS env time fromSelf _
  · exact handleDelayResp_foreignMasterDS env s
  · exact handlePDelayResp_foreignMasterDS env time fromSelf _
  · exact handlePDelayRespFollowUp_foreignMasterDS env s
  · rfl
  · rfl
  · rfl

theorem process_stored : StoredBy (processStores s) s (process env time s) := by
  unfold processStores process
  dsimp only
  split
  · exact toState_foreignMasterDS env _ .faulty
  split
  · rfl
  split
  · rfl
  split
  next hann =>
    unfold dispatch
    rw [hann]
    exact handleAnnounce_stored env _ _
  next hother => exact dispatch_foreignMasterDS env _ _ _ hother

/-- **`addForeign` is called** where `handleStores` says, and the store is left as it is
otherwise. -/
theorem handle_stored : StoredBy (handleStores env s) s (handle env s) := by
  have hreceive : (receive env s).2.ptpClock.foreignMasterDS = s.ptpClock.foreignMasterDS := by
    obtain ⟨_, _, _, _, _, heq⟩ := (receive_receives env s).ptpClock
    rw [heq]
  unfold handleStores handle
  dsimp only
  split
  · exact toState_foreignMasterDS env s .faulty
  split
  · rfl
  split
  · exact (toState_foreignMasterDS env _ .faulty).trans hreceive
  split
  · exact hreceive
  · have h := process_stored env (receive env s).1 (receive env s).2
    cases hcall : processStores (receive env s).2 with
    | none =>
      rw [hcall] at h
      exact Eq.trans h hreceive
    | some u =>
      rw [hcall] at h
      exact ⟨h.1.trans hreceive, h.2⟩

end Calls

/-! ## The store along runs -/

section Runs

variable {rtOpts : RunTimeOpts} {env : Env} {s u : System}

/-- The store when the third switch calls `handle`. -/
theorem handleCall_foreignMasterDS (h : handleCall env s = some u) :
    u.ptpClock.foreignMasterDS = s.ptpClock.foreignMasterDS := by
  unfold handleCall at h
  split at h
  · rw [← Option.some.inj h]
  case h_6 hs =>
    obtain ⟨_, _, hsends⟩ := Engine.sends_eq (masterHandleCall_sends env hs)
    rw [← Option.some.inj h]
    exact foreignMasterDS_of_engine hsends
  case h_7 => cases h
  all_goals
    dsimp only at h
    split at h
    · cases h
    · rw [← Option.some.inj h]
      exact foreignMasterDS_of_engine (pause_engine env .handling _)

/-- The store after the third switch. -/
theorem portActions_foreignMasterDS (h : handleCall env s = some u) :
    (portActions env s).ptpClock.foreignMasterDS = (handle env u).ptpClock.foreignMasterDS := by
  unfold handleCall at h
  split at h
  case h_1 hs =>
    unfold portActions
    rw [hs, ← Option.some.inj h]
  case h_6 hs =>
    rw [(portActions_of_master env hs).2, ← Option.some.inj h,
      issueDelayReqTimerExpired_foreignMasterDS]
    exact foreignMasterDS_of_engine (pause_engine env .requestTimer _)
  case h_7 => cases h
  all_goals
    next hs =>
      have hawait : s.portState.Awaiting := by
        rw [hs]
        decide
      have hcall : handleCall env s = some u := by
        unfold handleCall
        rw [hs]
        exact h
      rw [(portActions_of_handleCall hawait hcall).2]

/-- **The call of `addForeign`** in a call of `doState`: the store that it finds is the one of the
third switch, and the store that it leaves is the one of the next call. -/
theorem addForeignCall_spec (h : addForeignCall env s = some u) :
    u.ptpClock.foreignMasterDS = (switchCall env s).ptpClock.foreignMasterDS ∧
      (doState env s).ptpClock.foreignMasterDS =
        u.ptpClock.foreignMasterDS.add u.ptpClock.msgTmpHeader u.ptpClock.msgTmpAnnounce := by
  obtain ⟨v, hv, hu⟩ := Option.bind_eq_some_iff.mp h
  have hstored := handle_stored env v
  rw [hu] at hstored
  obtain ⟨hds, heq⟩ := hstored
  refine ⟨hds.trans (handleCall_foreignMasterDS hv), ?_⟩
  rw [doState_eq, portActions_foreignMasterDS hv, heq]
  rfl

theorem bmcCall_spec (h : bmcCall s = some u) :
    s.engine.Evaluates ∧ u.ptpClock.foreignMasterDS = s.ptpClock.foreignMasterDS := by
  have htaken (hevent : (if s.ptpClock.events.stateDecisionEvent then
      some (taken (s.setMessageActivity false)) else none) = some u)
      (hstate : s.portState ∈ [.listening, .uncalibrated, .slave, .preMaster, .master, .passive]) :
      s.engine.Evaluates ∧ u.ptpClock.foreignMasterDS = s.ptpClock.foreignMasterDS := by
    split at hevent
    next hpending =>
      obtain rfl := Option.some.inj hevent
      exact ⟨⟨hstate, hpending⟩, rfl⟩
    · cases hevent
  unfold bmcCall at h
  split at h
  case h_7 => cases h
  all_goals
    next hs => exact htaken h (by simp [hs])

/-- Before the initialisation the store is empty, and neither called nor evaluated. -/
theorem Dormant.foreignMasterDS (h : Dormant rtOpts s) :
    s.ptpClock.foreignMasterDS.Wf ∧ (∀ env, addForeignCall env s = none) ∧ bmcCall s = none := by
  obtain ⟨state, hstate, heq⟩ := h.engine
  obtain ⟨opts, hboot, -⟩ := boot_eq rtOpts
  rw [hboot] at heq
  have hds := foreignMasterDS_of_engine heq
  have hs : s.portState = state := congrArg Engine.portState heq
  refine ⟨?_, fun env => ?_, ?_⟩
  · rw [hds]
    refine ⟨Nat.zero_le _, fun _ => rfl, fun j hj => ?_⟩
    exact absurd hj (Nat.not_lt_zero j)
  · have hunready := (h.switchCall env).unready.1
    unfold addForeignCall handleCall
    rcases hunready with hu | hu <;> rw [hu] <;> rfl
  · unfold bmcCall
    rw [hs]
    rcases hstate with rfl | rfl <;> rfl

/-- The store at the third switch. -/
theorem switchCall_foreignMasterDS (env : Env) (h : s.engine.Settled) :
    (switchCall env s).ptpClock.foreignMasterDS.records = s.ptpClock.foreignMasterDS.records ∧
      (switchCall env s).ptpClock.foreignMasterDS.count = s.ptpClock.foreignMasterDS.count := by
  obtain ⟨e₁, hd, hdecided, hswitch⟩ := switchCall_engine env h
  obtain ⟨_, _, _, _, _, _, _, heq⟩ := Engine.follow_followed e₁
  have hds : (switchCall env s).ptpClock.foreignMasterDS = e₁.foreignMasterDS := by
    rw [foreignMasterDS_of_engine hswitch, heq]
  rw [hds]
  cases hd <;> exact ⟨rfl, rfl⟩

/-- **A call that calls `addForeign`** stores the Announce at hand. -/
theorem addForeignCall_stores (h : s.engine.Settled) (hkeeps : s.engine.Keeps)
    (hu : addForeignCall env s = some u) :
    u.ptpClock.foreignMasterDS.Searchable ∧
      u.ptpClock.foreignMasterDS.Stores (doState env s).ptpClock.foreignMasterDS
        u.ptpClock.msgTmpHeader u.ptpClock.msgTmpAnnounce := by
  obtain ⟨hfound, hstored⟩ := addForeignCall_spec hu
  obtain ⟨e₁, hd, hdecided, hswitch⟩ := switchCall_engine env h
  have hfollow := (hkeeps.decides hd).follow hdecided
  rw [foreignMasterDS_of_engine hswitch] at hfound
  rw [hstored, hfound]
  have hsearch := hfollow.searchable hdecided.follow.taken
  exact ⟨hsearch, hfollow.wf.stores hfollow.index_lt hsearch⟩

/-- **A call that does not call `addForeign`** leaves the records as they are. -/
theorem doState_of_addForeignCall_none (h : s.engine.Settled)
    (hn : addForeignCall env s = none) :
    (doState env s).ptpClock.foreignMasterDS.records = s.ptpClock.foreignMasterDS.records ∧
      (doState env s).ptpClock.foreignMasterDS.count ≤ s.ptpClock.foreignMasterDS.count := by
  obtain ⟨hrecords, hcount⟩ := switchCall_foreignMasterDS env h
  obtain ⟨e₁, -, hdecided, hswitch⟩ := switchCall_engine env h
  have hready := hdecided.follow
  rw [← hswitch] at hready
  rw [doState_eq, ← hrecords, ← hcount]
  generalize hv : switchCall env s = v at *
  cases hcall : handleCall env v with
  | some w =>
    rw [portActions_foreignMasterDS hcall, ← handleCall_foreignMasterDS hcall]
    have hstores : handleStores env w = none := by
      unfold addForeignCall at hn
      rw [hv, hcall] at hn
      exact hn
    have hstored := handle_stored env w
    rw [hstores] at hstored
    have hds : (handle env w).ptpClock.foreignMasterDS = w.ptpClock.foreignMasterDS := hstored
    rw [hds]
    exact ⟨rfl, le_refl _⟩
  | none =>
    -- only the announce receipt timeout keeps a port at work from handling a message
    have hawait : v.portState.Awaiting := by
      have hop := hready.agrees.operating
      have hmaster : v.portState ≠ .master := fun hm => by
        rw [(portActions_of_master env hm).1] at hcall
        cases hcall
      change v.portState.Operating at hop
      unfold PtpState.Operating at hop
      unfold PtpState.Awaiting
      simp only [List.mem_cons, List.not_mem_nil, or_false] at hop ⊢
      tauto
    have hengine := announceTimeout_engine env (timerExpired .announceReceipt v).2
    rw [portActions_of_timeout hawait hcall, foreignMasterDS_of_engine hengine,
      Engine.announceTimeout_foreignMasterDS]
    exact ⟨rfl, Nat.zero_le _⟩

/-- **The foreign master store** in every reachable state, whatever Announces, timeouts, faults and
state decisions there were: it is well formed; `addForeign` finds it searchable and stores the
Announce; `bmc` finds a record to evaluate. -/
theorem foreignMasters_wf (hs : Reachable rtOpts s) (hcapacity : 0 < rtOpts.maxForeignRecords) :
    s.ptpClock.foreignMasterDS.Wf ∧
      (.doInit true ∈ s.history →
        s.ptpClock.foreignMasterDS.i < s.ptpClock.foreignMasterDS.capacity) ∧
      (∀ env u, addForeignCall env s = some u →
        u.ptpClock.foreignMasterDS.Searchable ∧
          u.ptpClock.foreignMasterDS.Stores (doState env s).ptpClock.foreignMasterDS
            u.ptpClock.msgTmpHeader u.ptpClock.msgTmpAnnounce) ∧
      ∀ u, bmcCall s = some u → 0 < u.ptpClock.foreignMasterDS.count := by
  have hopts : 0 < (startupOpts rtOpts).maxForeignRecords := by
    rw [startupOpts_maxForeignRecords]
    exact hcapacity
  rcases hs.dormant_or (I := fun e => e.Settled ∧ e.Keeps)
    (fun _ h => ⟨h.settled, h.keeps hopts⟩)
    (fun _ _ h hi hc => ⟨h.call hc, hi.2.call h hc⟩) with h | ⟨hsettled, hkeeps⟩
  · obtain ⟨hwf, hadd, hbmc⟩ := h.foreignMasterDS
    refine ⟨hwf, fun hinit => absurd hinit h.history, fun env u hu => ?_, fun u hu => ?_⟩
    · rw [hadd env] at hu
      cases hu
    · rw [hbmc] at hu
      cases hu
  refine ⟨hkeeps.wf, fun _ => hkeeps.index_lt, fun env u hu => ?_, fun u hu => ?_⟩
  · exact addForeignCall_stores hsettled hkeeps hu
  · obtain ⟨hevaluates, hds⟩ := bmcCall_spec hu
    rw [hds]
    exact hkeeps.pending hevaluates.2

end Runs

/-! ## A port that has heard a master -/

/-- A port that has stored the Announce of a master. -/
def heard : System :=
  (boot ptpdOpts).after
    ([.doState plainEnv] ++ generalArrival (announceOf (station 1 ptpdOpts)) (atSecond 1) ++
      [.doState plainEnv])

theorem heard_reachable : Reachable ptpdOpts heard := (boot_reachable ptpdOpts).after _

theorem foreignMasters_wf_heard :
    heard.ptpClock.foreignMasterDS.Wf ∧
      (.doInit true ∈ heard.history →
        heard.ptpClock.foreignMasterDS.i < heard.ptpClock.foreignMasterDS.capacity) ∧
      (∀ env u, addForeignCall env heard = some u →
        u.ptpClock.foreignMasterDS.Searchable ∧
          u.ptpClock.foreignMasterDS.Stores (doState env heard).ptpClock.foreignMasterDS
            u.ptpClock.msgTmpHeader u.ptpClock.msgTmpAnnounce) ∧
      ∀ u, bmcCall heard = some u → 0 < u.ptpClock.foreignMasterDS.count :=
  foreignMasters_wf heard_reachable (by decide)

/-- Before the initialisation the store has no capacity. -/
theorem not_always_index_lt :
    ¬ ∀ (rtOpts : RunTimeOpts) (s : System), Reachable rtOpts s → 0 < rtOpts.maxForeignRecords →
      s.ptpClock.foreignMasterDS.i < s.ptpClock.foreignMasterDS.capacity := by
  intro h
  have hboot := h ptpdOpts (boot ptpdOpts) (boot_reachable ptpdOpts) (by decide)
  exact absurd hboot (by decide +kernel)

end Ptpd

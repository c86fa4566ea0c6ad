import DiscoPtp.Properties.Comparison
import DiscoPtp.Properties.Effects

/-!
# The selection of the best master

The loop of `bmc` takes over a record when its comparison with the present one is negative, which
is when it is worse. It ends with a worst record.

## Main definitions

* `dataSetAt`, `activeSets`: the data sets of the active records
* `SelectsBest`: the selected record is active and no active record is better

## Main results

* `selectBest_worst`: the loop ends at a record that no active record is worse than
* `bmc_selectsBest_iff`: the selection is right if and only if all active records tie
-/

namespace Ptpd

open Ranking

/-- The data set of a record. -/
def dataSetAt (c : PtpClock) (k : ℕ) : MsgHeader × MsgAnnounce :=
  ((c.foreignMasterDS.records k).header, (c.foreignMasterDS.records k).announce)

/-- The data sets of the active records. -/
def activeSets (c : PtpClock) : Set (MsgHeader × MsgAnnounce) :=
  {a | ∃ k < c.foreignMasterDS.count, dataSetAt c k = a}

/-- The record at the index `best` is active, and no active record is better. -/
def SelectsBest (c : PtpClock) : Prop :=
  c.foreignMasterDS.best < c.foreignMasterDS.count ∧
    ∀ k < c.foreignMasterDS.count, compareRecords c k c.foreignMasterDS.best ≠ 1

instance (c : PtpClock) : Decidable (SelectsBest c) := by
  unfold SelectsBest
  exact inferInstance

theorem dataSetAt_mem {c : PtpClock} {k : ℕ} (h : k < c.foreignMasterDS.count) :
    dataSetAt c k ∈ activeSets c :=
  ⟨k, h, rfl⟩

theorem compareRecords_eq (c : PtpClock) (j k : ℕ) :
    compareRecords c j k = compareSets c (dataSetAt c j) (dataSetAt c k) := rfl

/-- The rank of a record. -/
def rankAt (c : PtpClock) (k : ℕ) := (DataSet.decoded (dataSetAt c k).1 (dataSetAt c k).2).rank

theorem selectBest_eq (c : PtpClock) :
    selectBest c = running (fun i best => compareRecords c i best < 0) 0
      (List.range' 1 (c.foreignMasterDS.count - 1)) := by
  unfold selectBest running
  simp only [decide_eq_true_eq]

/-- The indices the loop visits are those of the active records. -/
theorem mem_visited {n k : ℕ} (hn : 1 ≤ n) : k ∈ 0 :: List.range' 1 (n - 1) ↔ k < n := by
  rw [List.mem_cons, List.mem_range'_1]
  omega

section Selection

variable {c : PtpClock}

/-- A worse record replaces the present one, so that none is worse than the last. -/
theorem selectBest_worst (hcount : 1 ≤ c.foreignMasterDS.count)
    (h : Consistent c.portDS.portIdentity.clockIdentity (activeSets c)) :
    ∀ k < c.foreignMasterDS.count, rankAt c k ≤ rankAt c (selectBest c) := by
  rw [selectBest_eq]
  intro k hk
  -- the loop looks for the smallest rank of the order turned round
  let rank : ℕ → _ := fun i => OrderDual.toDual (rankAt c i)
  suffices h' : rank (running (fun i best => decide (compareRecords c i best < 0)) 0 _) ≤ rank k
    from h'
  refine rank_running_le ?_ k ((mem_visited hcount).mpr hk)
  intro i hi j hj
  rw [mem_visited hcount] at hi hj
  rw [decide_eq_true_iff, OrderDual.toDual_lt_toDual]
  exact (h.compares _ (dataSetAt_mem hi) _ (dataSetAt_mem hj)).2

theorem selectBest_mem (hcount : 1 ≤ c.foreignMasterDS.count) :
    selectBest c < c.foreignMasterDS.count := by
  rw [selectBest_eq]
  exact (mem_visited hcount).mp (running_mem _ _ _)

/-- `bmc` keeps the records. -/
theorem compareRecords_bmc (j k : ℕ) : compareRecords (bmc c).2 j k = compareRecords c j k := by
  obtain ⟨_, _, _, _, _, _, _, heq⟩ := bmc_eq c
  rw [heq]
  rfl

theorem bmc_best : (bmc c).2.foreignMasterDS.best = selectBest c := by
  unfold bmc bmcStateDecision
  dsimp only
  split_ifs <;> rfl

theorem bmc_count : (bmc c).2.foreignMasterDS.count = c.foreignMasterDS.count := by
  obtain ⟨_, _, _, _, _, _, _, heq⟩ := bmc_eq c
  rw [heq]

theorem selectsBest_bmc_iff (hcount : 1 ≤ c.foreignMasterDS.count) :
    SelectsBest (bmc c).2 ↔
      ∀ k < c.foreignMasterDS.count, compareRecords c k (selectBest c) ≠ 1 := by
  unfold SelectsBest
  simp only [bmc_best, bmc_count, compareRecords_bmc]
  exact and_iff_right (selectBest_mem hcount)

end Selection

/-- Among other clocks that agree on each grandmaster, `bmc` selects a best record if and only if
all active records tell of one grandmaster, at one distance and from one clock. -/
theorem bmc_selectsBest_iff (c : PtpClock) (hcount : 1 ≤ c.foreignMasterDS.count)
    (h : Consistent c.portDS.portIdentity.clockIdentity (activeSets c)) :
    SelectsBest (bmc c).2 ↔
      ∀ j < c.foreignMasterDS.count, ∀ k < c.foreignMasterDS.count,
        (dataSetAt c j).2.grandmasterIdentity = (dataSetAt c k).2.grandmasterIdentity ∧
        (dataSetAt c j).2.stepsRemoved = (dataSetAt c k).2.stepsRemoved ∧
        (dataSetAt c j).1.sourcePortIdentity.clockIdentity =
          (dataSetAt c k).1.sourcePortIdentity.clockIdentity := by
  have hone : ∀ j k, compareRecords c j k = 1 ↔ 0 < compareRecords c j k := by
    intro j k
    rw [compareRecords_eq]
    rcases compareSets_values c (dataSetAt c j) (dataSetAt c k) with h | h | h <;> rw [h] <;> decide
  have hbest := selectBest_mem hcount
  have hworst := selectBest_worst hcount h
  have hbetter : ∀ k < c.foreignMasterDS.count,
      compareRecords c k (selectBest c) = 1 ↔ rankAt c k < rankAt c (selectBest c) := by
    intro k hk
    rw [hone]
    exact (h.compares _ (dataSetAt_mem hk) _ (dataSetAt_mem hbest)).1
  rw [selectsBest_bmc_iff hcount]
  constructor
  · intro hnone j hj k hk
    -- the worst record is a best one: all ranks are equal
    have heq : ∀ i < c.foreignMasterDS.count, rankAt c i = rankAt c (selectBest c) := by
      intro i hi
      apply (hworst i hi).eq_of_not_lt
      exact mt (hbetter i hi).mpr (hnone i hi)
    exact (h.rank_eq_iff (dataSetAt_mem hj) (dataSetAt_mem hk)).mp
      ((heq j hj).trans (heq k hk).symm)
  · intro hsame k hk hbad
    have heq : rankAt c k = rankAt c (selectBest c) :=
      (h.rank_eq_iff (dataSetAt_mem hk) (dataSetAt_mem hbest)).mpr (hsame k hk _ hbest)
    exact absurd ((hbetter k hk).mp hbad) heq.not_lt

/-- A station that has heard of the given data sets. -/
def hearing (sets : List (MsgHeader × MsgAnnounce)) : PtpClock :=
  { station 4 ptpdOpts with
    foreignMasterDS :=
      { records := fun k =>
          { (default : ForeignMasterRecord) with
            foreignMasterPortIdentity := (sets.getD k default).1.sourcePortIdentity
            header := (sets.getD k default).1
            announce := (sets.getD k default).2 }
        count := sets.length
        capacity := 5
        i := 0
        best := 0 } }

theorem consistent_of_records {c : PtpClock}
    (hagree : ∀ j < c.foreignMasterDS.count, ∀ k < c.foreignMasterDS.count,
      (dataSetAt c j).2.grandmasterIdentity = (dataSetAt c k).2.grandmasterIdentity →
        (dataSetAt c j).2.grandmasterPriority1 = (dataSetAt c k).2.grandmasterPriority1 ∧
        (dataSetAt c j).2.grandmasterClockQuality = (dataSetAt c k).2.grandmasterClockQuality ∧
        (dataSetAt c j).2.grandmasterPriority2 = (dataSetAt c k).2.grandmasterPriority2)
    (hother : ∀ j < c.foreignMasterDS.count,
      (dataSetAt c j).1.sourcePortIdentity.clockIdentity ≠ c.portDS.portIdentity.clockIdentity) :
    Consistent c.portDS.portIdentity.clockIdentity (activeSets c) := by
  constructor
  · rintro _ ⟨j, hj, rfl⟩ _ ⟨k, hk, rfl⟩
    exact hagree j hj k hk
  · rintro _ ⟨j, hj, rfl⟩
    exact hother j hj

/-- Of the three rivals the last one is selected, though the first one is better. -/
theorem bmc_selects_worst :
    1 ≤ (hearing rivals).foreignMasterDS.count ∧
    (hearing rivals).foreignMasterDS.count ≤ (hearing rivals).foreignMasterDS.capacity ∧
    Consistent (hearing rivals).portDS.portIdentity.clockIdentity (activeSets (hearing rivals)) ∧
    (bmc (hearing rivals)).2.foreignMasterDS.best = 2 ∧
    compareRecords (bmc (hearing rivals)).2 0 2 = 1 ∧
    ¬SelectsBest (bmc (hearing rivals)).2 := by
  have hS := consistent_of_records (c := hearing rivals) (by decide +kernel) (by decide +kernel)
  exact ⟨by decide, by decide, hS, by decide +kernel⟩

/-- The data set of station 1, as the ports of a boundary clock there would advertise it. -/
def stationPorts : List (MsgHeader × MsgAnnounce) :=
  [1, 2, 3].map fun n =>
    let a := advertised 1 ptpdOpts
    ({ a.1 with sourcePortIdentity := { a.1.sourcePortIdentity with portNumber := n } }, a.2)

/-- The ports of one clock tie, and the selection is right. -/
theorem bmc_selectsBest_stationPorts :
    (hearing stationPorts).foreignMasterDS.count = 3 ∧
      SelectsBest (bmc (hearing stationPorts)).2 := by
  have hS := consistent_of_records (c := hearing stationPorts) (by decide +kernel)
    (by decide +kernel)
  exact ⟨by decide, (bmc_selectsBest_iff _ (by decide) hS).mpr (by decide +kernel)⟩

end Ptpd
